/-
**The parameters of a running call, read off its record.**

Advice writes a parameter at once, and a run of the body writes those passed by reference when it is
over. `Parameter.valueAfter` reads the present value of a parameter off the record by these two
rules, without looking at the slots.

* `getElem?_after` — **the last write counts**: after a record each slot holds that value.
* `tracks_run` — **the record tells all**: whatever handlers and bodies do, and at every moment of a
  call, what a handler sees and what the body is given are the parameters of the record so far.
-/

import AspectWeaver.Proofs.Record

namespace AspectWeaver

variable {S : Interface} {α β : Type}

/-! ### Values -/

/-- The value of a parameter after one more moment. -/
def Parameter.valueThen (parameter : Parameter) (position : Nat) (value : Value) : Moment → Value
  | .writes name written => if name = parameter.name then written else value
  | .bodyEnds _ left => if parameter.byReference then left[position]?.getD value else value
  | _ => value

/-- The value of a parameter after a record: what was written last, by advice or, if it is passed by
reference, by a run of the body that is over; the value at the start if nothing was. -/
def Parameter.valueAfter (parameter : Parameter) (position : Nat) (start : Value)
    (record : List Moment) : Value :=
  record.foldl (parameter.valueThen position) start

/-- What a moment does to the parameters. -/
def Moment.effect (params : Parameters) : Moment → Parameters
  | .writes name value => params.set name value
  | .bodyEnds _ left => params.absorb left
  | _ => params

namespace Parameters

/-- The parameters after a record. -/
def after (params : Parameters) (record : List Moment) : Parameters :=
  record.foldl Moment.effect params

theorem after_append (params : Parameters) (first second : List Moment) :
    params.after (first ++ second) = (params.after first).after second :=
  List.foldl_append

@[simp] theorem names_effect (params : Parameters) (moment : Moment) :
    names (moment.effect params) = names params := by
  cases moment <;> simp [Moment.effect]

/-- No moment changes a name. -/
@[simp] theorem names_after (params : Parameters) (record : List Moment) :
    names (params.after record) = names params := by
  induction record generalizing params with
  | nil => rfl
  | cons moment later ih => exact (ih _).trans (names_effect params moment)

theorem byReference_effect (params : Parameters) (moment : Moment) :
    (moment.effect params).map Slot.byReference = params.map Slot.byReference := by
  cases moment with
  | writes name value =>
      exact Named.map_update Slot.name Slot.byReference (Slot.write value) (fun _ => rfl) name
        params
  | bodyEnds outcome left =>
      refine List.ext_getElem? fun position => ?_
      rw [List.getElem?_map, List.getElem?_map, Moment.effect, getElem?_absorb, Option.map_map]
      refine congrArg (Option.map · _) (funext fun slot => ?_)
      show Slot.byReference (if _ then _ else _) = _
      split <;> rfl
  | _ => rfl

/-- No moment changes how a parameter is passed. -/
theorem byReference_after (params : Parameters) (record : List Moment) :
    (params.after record).map Slot.byReference = params.map Slot.byReference := by
  induction record generalizing params with
  | nil => rfl
  | cons moment later ih => exact (ih _).trans (byReference_effect params moment)

/-- **The last write counts**: after a record a slot holds the value of its parameter. -/
theorem getElem?_after {params : Parameters} (distinct : (names params).Nodup) {position : Nat}
    {parameter : Parameter} {value : Value}
    (here : params[position]? = some ⟨parameter.name, parameter.byReference, value⟩)
    (record : List Moment) :
    (params.after record)[position]? =
      some ⟨parameter.name, parameter.byReference,
        parameter.valueAfter position value record⟩ := by
  induction record generalizing params value with
  | nil => exact here
  | cons moment later ih =>
      have kept : (names (moment.effect params)).Nodup := by
        rw [names_effect]
        exact distinct
      refine ih kept ?_
      cases moment with
      | writes name written =>
          rw [Moment.effect, getElem?_set distinct, here, Option.map_some, Parameter.valueThen]
          by_cases named : name = parameter.name
          · subst named
            simp [Slot.write]
          · simp [named, Ne.symm named]
      | bodyEnds outcome left =>
          rw [Moment.effect, getElem?_absorb, here, Option.map_some, Parameter.valueThen]
          cases passed : parameter.byReference <;> rfl
      | _ => exact here

end Parameters

/-! ### What a record says at every moment -/

/-- The moment agrees with the parameters: a handler sees them as they are, and the body gets what
the caller passed, with their values at the positions passed by reference. -/
def Moment.Fits (passed : List Value) (params : Parameters) : Moment → Prop
  | .reads seen => seen = params
  | .bodyBegins _ arguments => arguments = params.overlay passed
  | _ => True

/-- Every moment of a record agrees with the parameters after the moments before it. -/
def Faithful (passed : List Value) : Parameters → List Moment → Prop
  | _, [] => True
  | params, moment :: later =>
      moment.Fits passed params ∧ Faithful passed (moment.effect params) later

theorem faithful_append_iff {passed : List Value} {params : Parameters}
    {first second : List Moment} :
    Faithful passed params (first ++ second) ↔
      Faithful passed params first ∧ Faithful passed (params.after first) second := by
  induction first generalizing params with
  | nil => simp [Faithful, Parameters.after]
  | cons moment later ih =>
      rw [List.cons_append, Faithful, Faithful, ih, and_assoc]
      rfl

theorem Faithful.fits {passed : List Value} {params : Parameters} {earlier later : List Moment}
    {moment : Moment} (faithful : Faithful passed params (earlier ++ moment :: later)) :
    moment.Fits passed (params.after earlier) :=
  (faithful_append_iff.mp faithful).2.1

/-- The record of a program tells how the parameters stand, at its end and on the way. -/
structure Tracks (passed : List Value) (params : Parameters)
    (program : Program (Hosted (Recording S)) (α × Parameters)) : Prop where
  faithful {record : List Moment} (shows : program.Shows record) : Faithful passed params record
  ended {record : List Moment} {result : α × Parameters}
    (records : program.Records record result) : result.2 = params.after record

section Tracks

variable {passed : List Value} {params : Parameters}

theorem tracks_done (result : α) :
    Tracks (S := S) passed params (.done (result, params)) where
  faithful shows := by
    rw [Program.shows_done_iff.mp shows]
    exact trivial
  ended records := by
    obtain ⟨rfl, rfl⟩ := Program.records_done_iff.mp records
    rfl

theorem tracks_bind {program : Program (Hosted (Recording S)) (α × Parameters)}
    {next : α × Parameters → Program (Hosted (Recording S)) (β × Parameters)}
    (first : Tracks passed params program)
    (second : ∀ ended, Tracks passed ended.2 (next ended)) :
    Tracks passed params (program.bind next) where
  faithful shows := by
    rcases Program.shows_bind_iff.mp shows with shown | ⟨earlier, later, middle, rfl, ended, rest⟩
    · exact first.faithful shown
    · refine faithful_append_iff.mpr ⟨first.faithful ended.shows, ?_⟩
      rw [← first.ended ended]
      exact (second middle).faithful rest
  ended records := by
    obtain ⟨earlier, later, middle, rfl, ended, rest⟩ := Program.records_bind_iff.mp records
    rw [Parameters.after_append, ← first.ended ended]
    exact (second middle).ended rest

theorem tracks_noting {moment : Moment}
    {program : Program (Hosted (Recording S)) (α × Parameters)}
    (fits : moment.Fits passed params) (rest : Tracks passed (moment.effect params) program) :
    Tracks passed params (.noting moment program) where
  faithful shows := by
    rcases Program.shows_noting_iff.mp shows with rfl | ⟨later, rfl, shown⟩
    · exact trivial
    · exact ⟨fits, rest.faithful shown⟩
  ended records := by
    obtain ⟨later, rfl, recorded⟩ := Program.records_noting_iff.mp records
    exact rest.ended recorded

/-- What notes nothing can stand in front. -/
theorem tracks_after_silence {program : Program (Hosted (Recording S)) β}
    {next : β → Program (Hosted (Recording S)) (α × Parameters)}
    (silent : ∀ {record}, program.Shows record → record = [])
    (rest : ∀ reply, Tracks passed params (next reply)) :
    Tracks passed params (program.bind next) where
  faithful shows := by
    rcases Program.shows_bind_iff.mp shows with shown | ⟨earlier, later, reply, rfl, asked, shown⟩
    · rw [silent shown]
      exact trivial
    · rw [silent asked.shows]
      exact (rest reply).faithful shown
  ended records := by
    obtain ⟨earlier, later, reply, rfl, asked, recorded⟩ := Program.records_bind_iff.mp records
    rw [silent asked.shows]
    exact (rest reply).ended recorded

end Tracks

/-! ### The layers of a call -/

section Layers

variable {passed : List Value}

theorem tracks_advice (program : Program (Advising S) α) (params : Parameters) :
    Tracks passed params (program.recordedAdvice.withParameters params) := by
  induction program generalizing params with
  | done result => exact tracks_done result
  | ask request resume ih =>
      match request with
      | .host request =>
          rw [Program.recordedAdvice_host]
          exact tracks_after_silence (Program.shows_request request) fun reply => ih reply params
      | .read =>
          rw [Program.recordedAdvice_read]
          exact tracks_noting rfl (ih params params)
      | .write name value =>
          rw [Program.recordedAdvice_write]
          exact tracks_noting trivial (ih _ _)

theorem tracks_around {inner : Layer (Recording S) Outcome}
    (within : ∀ params, Tracks passed params (inner params)) (position : Nat)
    (program : Program (Surrounding S) α) (params : Parameters) :
    Tracks passed params ((program.recordedAround position).withProceed inner params) := by
  induction program generalizing params with
  | done result => exact tracks_done result
  | ask request resume ih =>
      match request with
      | .advice (.host request) =>
          rw [Program.recordedAround_host]
          exact tracks_after_silence (Program.shows_request request) fun reply => ih reply params
      | .advice .read =>
          rw [Program.recordedAround_read]
          exact tracks_noting rfl (ih params params)
      | .advice (.write name value) =>
          rw [Program.recordedAround_write]
          exact tracks_noting trivial (ih _ _)
      | .proceed =>
          rw [Program.recordedAround_proceed]
          exact tracks_noting trivial
            (tracks_bind (within params) fun ended => ih ended.1 ended.2)

namespace WovenMethod

theorem tracks_runBefore (joinPoint : JoinPoint)
    (invocations : List (Invocation (BeforeHandler S))) (position : Nat) (params : Parameters) :
    Tracks passed params
      (runBefore joinPoint (recordFrom recordBefore position invocations) params) := by
  induction invocations generalizing position params with
  | nil => exact tracks_done _
  | cons invocation rest ih =>
      rw [recordFrom, runBefore_cons, recordBefore_withParameters]
      refine tracks_bind (tracks_noting trivial (tracks_bind (tracks_advice _ params)
        fun ended => tracks_noting trivial (tracks_done ended.1))) fun ended => ?_
      obtain ⟨ended, params⟩ := ended
      cases ended with
      | error failure => exact tracks_done _
      | ok _ => exact ih (position + 1) params

/-- The body begins with its arguments laid over, and what it leaves is absorbed. -/
theorem tracks_callOriginal (original : Body S) (receiver : Receiver) (params : Parameters) :
    Tracks passed params (callOriginal (recordBody original) receiver passed params) := by
  rw [callOriginal_eq, recordBody_eq]
  refine tracks_noting rfl ?_
  show Tracks passed params (Program.bind (Program.bind _ _) _)
  rw [Program.bind_assoc]
  exact tracks_after_silence Program.shows_unrecorded fun ended =>
    tracks_noting trivial (tracks_done ended.1)

theorem tracks_surround (joinPoint : JoinPoint) (invocations : List (Invocation (AroundHandler S)))
    (position : Nat) {inner : Layer (Recording S) Outcome}
    (within : ∀ params, Tracks passed params (inner params)) (params : Parameters) :
    Tracks passed params
      (surround joinPoint (recordFrom recordAround position invocations) inner params) := by
  induction invocations generalizing position inner with
  | nil => exact within params
  | cons invocation rest ih =>
      refine ih (position + 1) fun params => ?_
      rw [wrap, recordAround_withProceed]
      exact tracks_noting trivial (tracks_bind (tracks_around within position _ params)
        fun ended => tracks_noting trivial (tracks_done ended.1))

theorem tracks_runAfter (joinPoint : JoinPoint) (invocations : List (Invocation (AfterHandler S)))
    (position : Nat) (given : Value) (params : Parameters) :
    Tracks passed params
      (runAfter joinPoint (recordFrom recordAfter position invocations) given params) := by
  induction invocations generalizing position given params with
  | nil => exact tracks_done _
  | cons invocation rest ih =>
      rw [recordFrom, runAfter_cons, recordAfter_withParameters]
      refine tracks_bind (tracks_noting trivial (tracks_bind (tracks_advice _ params)
        fun ended => tracks_noting trivial (tracks_done ended.1))) fun ended => ?_
      obtain ⟨outcome, params⟩ := ended
      cases outcome with
      | error failure => exact tracks_done _
      | ok next => exact ih (position + 1) next params

/-- **The record tells all** there is to know of the parameters of a call. -/
theorem tracks_run (chain : Chain S) (original : Body S) (joinPoint : JoinPoint)
    (params : Parameters) :
    Tracks passed params
      (run chain.recorded (recordBody original) joinPoint passed params) := by
  rw [run_eq]
  refine tracks_bind (tracks_runBefore joinPoint chain.before 0 params) fun begun => ?_
  obtain ⟨begun, params⟩ := begun
  cases begun with
  | error failure => exact tracks_done _
  | ok _ =>
      refine tracks_bind (tracks_surround joinPoint chain.around 0
        (fun params => tracks_callOriginal original joinPoint.receiver params) params)
        fun ended => ?_
      obtain ⟨outcome, params⟩ := ended
      cases outcome with
      | error failure => exact tracks_done _
      | ok result => exact tracks_runAfter joinPoint chain.after 0 result params

end WovenMethod

end Layers

end AspectWeaver
