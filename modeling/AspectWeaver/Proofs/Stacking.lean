/-
**Around handlers can be woven at once or one after the other.**

A woven body can be woven again. The outer weaving has slots of its own: each time it proceeds, what
is in them goes to the inner body as arguments, and from there to fresh slots; what the inner body
leaves comes back. Only what is passed by reference is carried both ways, and so nothing is lost as
long as no around handler writes a parameter that is passed by value.

* `Program.SameBut` — **programs that do the same**, but for lines that the second writes to the log
  besides: a simulation in both directions, request by request.
* `Parameters.Retains` — slots that differ from those at the start only in what is passed by
  reference. `ofCall_overlay`, `overlay_overlay`, `absorb_overlay`: **copying them back and forth
  loses nothing**.
* `sameOn_surround` — around handlers around layers that do the same do the same.
* `sameOn_surrounded` — **a woven body in the place of the handlers woven into it**.
* **`body_stacked`** — **weaving twice does what weaving once with both lists does**.
-/

import AspectWeaver.Proofs.Record
import Mathlib.Data.List.Forall2

namespace AspectWeaver

variable {S : Interface} {α β γ δ : Type}

/-! ### Programs that do the same -/

/-- The second program makes the same requests as the first, and besides it may write some of these
lines to the log; if the replies are the same, their results are related. -/
inductive Program.SameBut (lines : Event → Prop) (related : α → β → Prop) :
    Program (Hosted S) α → Program (Hosted S) β → Prop where
  | done {result : α} {other : β} (same : related result other) :
      SameBut lines related (.done result) (.done other)
  | ask {request : HostRequest S} {resume : request.Reply → Program (Hosted S) α}
      {next : request.Reply → Program (Hosted S) β}
      (each : ∀ reply, SameBut lines related (resume reply) (next reply)) :
      SameBut lines related (.ask request resume) (.ask request next)
  | line {event : Event} {program : Program (Hosted S) α} {next : Unit → Program (Hosted S) β}
      (extra : lines event) (rest : SameBut lines related program (next ())) :
      SameBut lines related program (.ask (.log event) next)

namespace Program.SameBut

variable {lines : Event → Prop}

theorem refl {related : α → α → Prop} (program : Program (Hosted S) α)
    (same : ∀ history result, program.Ends history result → related result result) :
    SameBut lines related program program := by
  induction program with
  | done result => exact .done (same [] result (.done result))
  | ask request resume ih =>
      exact .ask fun reply => ih reply fun _ result ends => same _ result (.ask reply ends)

theorem bind {related : α → β → Prop} {linked : γ → δ → Prop} {first : Program (Hosted S) α}
    {second : Program (Hosted S) β} {next : α → Program (Hosted S) γ}
    {other : β → Program (Hosted S) δ} (same : SameBut lines related first second)
    (rest : ∀ result ended, related result ended →
      SameBut lines linked (next result) (other ended)) :
    SameBut lines linked (first.bind next) (second.bind other) := by
  induction same with
  | done same => exact rest _ _ same
  | ask _ ih => exact .ask ih
  | line extra _ ih => exact .line extra ih

/-- **Programs that do the same leave the same records.** -/
theorem records_iff {first second : Program (Hosted (Recording S)) α}
    (same : SameBut lines Eq first second) {record : List Moment} {result : α} :
    first.Records record result ↔ second.Records record result := by
  induction same generalizing record with
  | done same => rw [same]
  | ask _ ih =>
      rw [records_ask_iff, records_ask_iff]
      exact exists_congr fun reply => exists_congr fun later => and_congr_right fun _ => ih reply
  | line _ _ ih =>
      rw [ih]
      exact records_writeLog_iff.symm

end Program.SameBut

/-! ### Slots that are copied back and forth -/

/-- The slot may have another value only if it is passed by reference. -/
structure Slot.Retains (start slot : Slot) : Prop where
  name : slot.name = start.name
  byReference : slot.byReference = start.byReference
  value : start.byReference = false → slot.value = start.value

/-- Slots that differ from one slot only by their values differ only if it is passed by
reference. -/
theorem Slot.Retains.eq {start slot other : Slot} (first : start.Retains slot)
    (second : start.Retains other)
    (value : start.byReference = true → slot.value = other.value) : slot = other := by
  have values : slot.value = other.value := by
    cases mode : start.byReference with
    | true => exact value mode
    | false => rw [first.value mode, second.value mode]
  obtain ⟨name, byReference, value⟩ := slot
  cases first.name
  cases first.byReference
  cases values
  obtain ⟨_, _, _⟩ := other
  cases second.name
  cases second.byReference
  rfl

namespace Parameters

/-- The slots differ from these at the start only in what is passed by reference. -/
abbrev Retains (start params : Parameters) : Prop := List.Forall₂ Slot.Retains start params

theorem Retains.refl (start : Parameters) : Retains start start :=
  List.forall₂_same.mpr fun _ _ => ⟨rfl, rfl, fun _ => rfl⟩

namespace Retains

variable {start params other : Parameters}

/-- What stands for a name is the same slot, with another value at most. -/
theorem find? (retains : Retains start params) (name : String) :
    Option.Rel Slot.Retains (start.find? name) (params.find? name) := by
  induction retains with
  | nil => exact .none
  | @cons first slot rest slots same _ ih =>
      rw [Parameters.find?, Parameters.find?, Named.find?, Named.find?, same.name]
      by_cases named : first.name = name
      · rw [if_pos named, if_pos named]
        exact .some same
      · rw [if_neg named, if_neg named]
        exact ih

/-- The same parameters are known. -/
theorem contains (retains : Retains start params) (name : String) :
    params.contains name = start.contains name := by
  have same := retains.find? name
  rw [Parameters.contains, Parameters.contains]
  generalize start.find? name = first at same ⊢
  generalize params.find? name = last at same ⊢
  cases same <;> rfl

/-- What is passed by reference can be written. -/
theorem set (retains : Retains start params) {name : String}
    (shared : start.contains name = true → start.isByReference name = true) (value : Value) :
    Retains start (params.set name value) := by
  induction retains with
  | nil => exact .nil
  | @cons first slot rest slots same others ih =>
      rw [Parameters.contains, Parameters.isByReference, Parameters.find?, Named.find?] at shared
      rw [Parameters.set, Named.update, same.name]
      by_cases named : first.name = name
      · rw [if_pos named] at shared ⊢
        have mode : first.byReference = true := shared rfl
        refine .cons ⟨same.name, same.byReference, fun isolated => ?_⟩ others
        rw [mode] at isolated
        cases isolated
      · rw [if_neg named] at shared ⊢
        exact .cons same (ih shared)

/-- What a body leaves is written only to what is passed by reference. -/
theorem absorb (retains : Retains start params) (left : List Value) :
    Retains start (params.absorb left) := by
  induction retains generalizing left with
  | nil => exact .nil
  | @cons first slot rest slots same others ih =>
      cases left with
      | nil => exact .cons same others
      | cons argument left =>
          refine .cons ⟨?_, ?_, fun isolated => ?_⟩ (ih left)
          · rw [← same.name]
            split <;> rfl
          · rw [← same.byReference]
            split <;> rfl
          · rw [same.byReference, isolated]
            exact same.value isolated

/-- Of two overlays the second counts. -/
theorem overlay_overlay (first : Retains start params) (second : Retains start other)
    (passed : List Value) : other.overlay (params.overlay passed) = other.overlay passed := by
  induction first generalizing other passed with
  | nil =>
      cases second
      rfl
  | @cons initial slot rest slots same _ ih =>
      cases second with
      | @cons _ last _ others kept tail =>
          cases passed with
          | nil => rfl
          | cons argument passed =>
              rw [overlay, overlay, overlay, ih tail, same.byReference, kept.byReference]
              cases initial.byReference <;> rfl

end Retains

section Call

variable {declared : List Parameter} {passed : List Value} {params other : Parameters}

/-- The slots of a call that gets these arguments are these slots. -/
theorem ofCall_overlay (retains : Retains (ofCall declared passed) params) :
    ofCall declared (params.overlay passed) = params := by
  induction declared generalizing passed params with
  | nil =>
      cases retains
      rfl
  | cons parameter declared ih =>
      cases passed with
      | nil =>
          cases retains
          rfl
      | cons argument passed =>
          cases retains with
          | @cons _ slot _ slots same rest =>
              have fresh : Slot.Retains ⟨parameter.name, parameter.byReference, argument⟩
                  ⟨parameter.name, parameter.byReference,
                    if slot.byReference then slot.value else argument⟩ := by
                refine ⟨rfl, rfl, fun isolated => if_neg ?_⟩
                rw [same.byReference, isolated]
                exact Bool.false_ne_true
              rw [overlay, ofCall, ih rest]
              exact congrArg (· :: slots)
                (fresh.eq same fun shared => if_pos (same.byReference.trans shared))

/-- The slots that a body has left are back. -/
theorem absorb_overlay (first : Retains (ofCall declared passed) params)
    (second : Retains (ofCall declared passed) other) :
    params.absorb (other.overlay (params.overlay passed)) = other := by
  rw [first.overlay_overlay second]
  induction declared generalizing passed params other with
  | nil =>
      cases first
      cases second
      rfl
  | cons parameter declared ih =>
      cases passed with
      | nil =>
          cases first
          cases second
          rfl
      | cons argument passed =>
          cases first with
          | @cons _ slot _ slots same rest =>
              cases second with
              | @cons _ last _ others kept tail =>
                  rw [overlay, absorb, ih rest tail, same.byReference, kept.byReference]
                  refine congrArg (· :: others) ?_
                  cases mode : parameter.byReference with
                  | true =>
                      rw [mode] at same kept
                      refine Slot.Retains.eq ⟨same.name, same.byReference, fun isolated => ?_⟩ kept
                        fun _ => rfl
                      exact absurd isolated.symm Bool.false_ne_true
                  | false =>
                      rw [mode] at same kept
                      exact same.eq kept fun shared => absurd shared Bool.false_ne_true

end Call

end Parameters

/-! ### Handlers that spare what is passed by value -/

/-- The handler never writes a parameter that is passed by value, where these are the slots at the
start of the call and nobody else has written such a parameter either. -/
inductive Program.SparesByValue (start : Parameters) : Program (Surrounding S) α → Prop where
  | done (result : α) : SparesByValue start (.done result)
  | host {request : HostRequest S} {resume : request.Reply → Program (Surrounding S) α}
      (rest : ∀ reply, SparesByValue start (resume reply)) :
      SparesByValue start (.ask (.advice (.host request)) resume)
  | read {resume : Parameters → Program (Surrounding S) α}
      (rest : ∀ params, start.Retains params → SparesByValue start (resume params)) :
      SparesByValue start (.ask (.advice .read) resume)
  | write {name : String} {value : Value} {resume : Bool → Program (Surrounding S) α}
      (shared : start.contains name = true → start.isByReference name = true)
      (rest : SparesByValue start (resume (start.contains name))) :
      SparesByValue start (.ask (.advice (.write name value)) resume)
  | proceed {resume : Outcome → Program (Surrounding S) α}
      (rest : ∀ outcome, SparesByValue start (resume outcome)) :
      SparesByValue start (.ask .proceed resume)

namespace Program.SparesByValue

variable {start : Parameters}

theorem bind {program : Program (Surrounding S) α} {next : α → Program (Surrounding S) β}
    (first : program.SparesByValue start) (rest : ∀ result, (next result).SparesByValue start) :
    (program.bind next).SparesByValue start := by
  induction first with
  | done result => exact rest result
  | host _ ih => exact .host ih
  | read _ ih => exact .read ih
  | write shared _ ih => exact .write shared ih
  | proceed _ ih => exact .proceed ih

/-- A request without a record writes nothing. -/
theorem unrecorded (request : HostRequest S) :
    (request.unrecorded Surrounding.host).SparesByValue start := by
  cases request <;> exact .host .done

/-- To keep a record writes nothing. -/
theorem recordedAround {program : Program (Surrounding S) α}
    (spares : program.SparesByValue start) (position : Nat) :
    (program.recordedAround position).SparesByValue start := by
  induction spares with
  | done result => exact .done result
  | host _ ih => exact .bind (.unrecorded _) ih
  | read _ ih => exact .read fun params retains => .host fun _ => ih params retains
  | write shared _ ih => exact .write shared (.host fun _ => ih)
  | proceed _ ih => exact .host fun _ => .proceed ih

end Program.SparesByValue

/-- All these handlers, at this join point, spare what is passed by value. -/
def SparingByValue (joinPoint : JoinPoint) (start : Parameters)
    (arounds : List (Invocation (AroundHandler S))) : Prop :=
  ∀ invocation ∈ arounds, (invocation.handler joinPoint invocation.options).SparesByValue start

theorem SparingByValue.recorded {joinPoint : JoinPoint} {start : Parameters}
    {arounds : List (Invocation (AroundHandler S))}
    (sparing : SparingByValue joinPoint start arounds) (position : Nat) :
    SparingByValue joinPoint start (recordFrom recordAround position arounds) := by
  induction arounds generalizing position with
  | nil => exact List.forall_mem_nil _
  | cons invocation rest ih =>
      obtain ⟨here, there⟩ := List.forall_mem_cons.mp sparing
      refine List.forall_mem_cons.mpr ⟨.host fun _ => ?_, ih there (position + 1)⟩
      show Program.SparesByValue start (Program.bind (Program.recordedAround position _) _)
      exact (here.recordedAround position).bind fun outcome => .host fun _ => .done outcome

/-! ### Layers that do the same -/

/-- The layers do the same on slots that differ from these only in what is passed by reference, and
such slots they leave. -/
def Layer.SameOn (lines : Event → Prop) (start : Parameters) (first second : Layer S α) : Prop :=
  ∀ params, start.Retains params →
    Program.SameBut lines (fun ended other => ended = other ∧ start.Retains ended.2)
      (first params) (second params)

section Layers

variable {lines : Event → Prop} {joinPoint : JoinPoint} {start : Parameters}
  {inner other : Layer S Outcome}

/-- A handler that spares what is passed by value does the same around layers that do the same. -/
theorem sameOn_withProceed {program : Program (Surrounding S) α}
    (spares : program.SparesByValue start) (same : inner.SameOn lines start other) :
    Layer.SameOn lines start (program.withProceed inner) (program.withProceed other) := by
  intro params retains
  induction spares generalizing params with
  | done result => exact .done ⟨rfl, retains⟩
  | host _ ih => exact .ask fun reply => ih reply params retains
  | read _ ih => exact ih params retains params retains
  | @write name value resume shared _ ih =>
      show Program.SameBut lines _
        ((resume (params.contains name)).withProceed inner (params.set name value))
        ((resume (params.contains name)).withProceed other (params.set name value))
      rw [retains.contains name]
      exact ih _ (retains.set shared value)
  | proceed _ ih =>
      refine (same params retains).bind fun ended again related => ?_
      obtain ⟨rfl, kept⟩ := related
      exact ih ended.1 ended.2 kept

namespace WovenMethod

/-- **Around handlers do the same around layers that do the same.** -/
theorem sameOn_surround {arounds : List (Invocation (AroundHandler S))}
    (sparing : SparingByValue joinPoint start arounds) (same : inner.SameOn lines start other) :
    Layer.SameOn lines start (surround joinPoint arounds inner)
      (surround joinPoint arounds other) := by
  induction arounds generalizing inner other with
  | nil => exact same
  | cons invocation rest ih =>
      obtain ⟨here, there⟩ := List.forall_mem_cons.mp sparing
      exact ih there (sameOn_withProceed here same)

/-- The body gets the same arguments whether they come from the caller or through the slots of a
call. -/
theorem sameOn_callOriginal (original : Body S) (receiver : Receiver) (passed : List Value)
    {params : Parameters} (retains : start.Retains params) :
    Layer.SameOn lines start (callOriginal original receiver passed)
      (callOriginal original receiver (params.overlay passed)) := by
  intro slots kept
  rw [callOriginal_eq, callOriginal_eq, retains.overlay_overlay kept]
  exact (Program.SameBut.refl _ fun _ _ _ => rfl).bind fun ended again same => by
    cases same
    exact .done ⟨rfl, kept.absorb _⟩

/-- A method with around handlers and no other advice. -/
def surrounded (className : String) (method : Method)
    (arounds : List (Invocation (AroundHandler S))) (original : Body S) : WovenMethod S where
  className := className
  method := method
  chain := { around := arounds }
  original := original

/-- The lines that each weaving of a method adds to the log of a call. -/
def IsFrameLine (target : MethodId) (event : Event) : Prop :=
  event = .callBegins target ∨ event = .callEnds target

variable {className : String} {method : Method}
  {inside outside : List (Invocation (AroundHandler S))} {receiver : Receiver}
  {passed : List Value} (original : Body S)

/-- Without before and after handlers a call is its around handlers, on slots of its own. -/
theorem body_surrounded (arounds : List (Invocation (AroundHandler S))) :
    (surrounded className method arounds original).body receiver passed =
      (writeLog (.callBegins ⟨className, method.name⟩)).bind fun _ =>
        (surround ⟨⟨className, method.name⟩, receiver⟩ arounds
          (callOriginal original receiver passed)
          (Parameters.ofCall method.parameters passed)).bind fun ended =>
            (writeLog (.callEnds ⟨className, method.name⟩)).bind fun _ =>
              .done (ended.1, ended.2.overlay passed) := by
  have nothing : finish (S := S) ⟨⟨className, method.name⟩, receiver⟩ [] = .done := by
    funext ended
    obtain ⟨outcome, params⟩ := ended
    cases outcome <;> rfl
  rw [body_eq, run_eq]
  refine congrArg _ (funext fun _ => ?_)
  show ((surround _ arounds _ _).bind (finish ⟨⟨className, method.name⟩, receiver⟩ [])).bind _ = _
  rw [nothing, Program.bind_done]
  rfl

/-- **A woven body in the place of the handlers woven into it.** With its own slots it does what the
handlers do on the slots around it. -/
theorem sameOn_surrounded
    (sparing : SparingByValue ⟨⟨className, method.name⟩, receiver⟩
      (Parameters.ofCall method.parameters passed) inside) :
    Layer.SameOn (IsFrameLine ⟨className, method.name⟩)
      (Parameters.ofCall method.parameters passed)
      (surround ⟨⟨className, method.name⟩, receiver⟩ inside (callOriginal original receiver passed))
      (callOriginal (surrounded className method inside original).body receiver passed) := by
  intro params retains
  have layers : Layer.SameOn (IsFrameLine ⟨className, method.name⟩) _ _ _ :=
    sameOn_surround sparing (sameOn_callOriginal original receiver passed retains)
  rw [callOriginal_eq, body_surrounded, Parameters.ofCall_overlay retains]
  refine .line (.inl rfl) ?_
  rw [← Program.bind_done (surround _ inside _ params)]
  show Program.SameBut _ _ _ ((Program.bind (surround _ inside _ params) _).bind _)
  rw [Program.bind_assoc]
  refine (layers params retains).bind fun ended again related => ?_
  obtain ⟨rfl, kept⟩ := related
  refine .line (.inr rfl) (.done ⟨?_, kept⟩)
  exact congrArg (Prod.mk ended.1) (Parameters.absorb_overlay retains kept).symm

/-- Weaving twice does what weaving once with both lists does, but for the lines of a call that the
inner weaving adds. -/
theorem sameBut_stacked (sparing : SparingByValue ⟨⟨className, method.name⟩, receiver⟩
      (Parameters.ofCall method.parameters passed) (inside ++ outside)) :
    Program.SameBut (IsFrameLine ⟨className, method.name⟩) Eq
      ((surrounded className method (inside ++ outside) original).body receiver passed)
      ((surrounded className method outside
        (surrounded className method inside original).body).body receiver passed) := by
  obtain ⟨inner, outer⟩ := List.forall_mem_append.mp sparing
  have layers := sameOn_surround outer (sameOn_surrounded original inner) _
    (Parameters.Retains.refl (Parameters.ofCall method.parameters passed))
  rw [body_surrounded, body_surrounded, surround_append]
  refine .ask fun _ => layers.bind fun ended again related => ?_
  obtain ⟨rfl, _⟩ := related
  exact .ask fun _ => .done rfl

end WovenMethod

end Layers

namespace WovenMethod

/-! ### Weaving twice -/

/-- A method that is woven with the inner around handlers first, and then again with the outer
ones. -/
def stacked (className : String) (method : Method)
    (inside outside : List (Invocation (AroundHandler S))) (original : Body S) : WovenMethod S :=
  surrounded className method outside (surrounded className method inside original).body

/-- Such a method whose calls are recorded. The numbers of the outer handlers go on after those of
the inner ones; that the inner body is woven is not noted. -/
def stackedRecorded (className : String) (method : Method)
    (inside outside : List (Invocation (AroundHandler S))) (original : Body S) :
    WovenMethod (Recording S) :=
  surrounded className method (recordFrom recordAround inside.length outside)
    (surrounded className method inside original).recorded.body

/-- Its record disturbs nothing either. -/
theorem forget_stackedRecorded (className : String) (method : Method)
    (inside outside : List (Invocation (AroundHandler S))) (original : Body S)
    (receiver : Receiver) (passed : List Value) :
    ((stackedRecorded className method inside outside original).body receiver passed).forget =
      (stacked className method inside outside original).body receiver passed := by
  rw [stackedRecorded, stacked, body_surrounded, body_surrounded, Program.forget_bind]
  refine congrArg _ (funext fun _ => ?_)
  rw [Program.forget_bind]
  refine congrArg (Program.bind · _) (forget_surround (fun params => ?_) _ outside _ _)
  exact forget_callOriginal (forget_body (surrounded className method inside original)) receiver
    passed params

/-- **Around handlers can be woven at once or one after the other.** Where no around handler writes
a parameter that is passed by value, a method that is woven with two lists one after the other does
what it does when it is woven with both at once: it makes the same requests, but for the lines of
the inner call in the log, and comes to the same outcome and leaves the same arguments. The records
are the same as well: the handlers and the body run in the same order and see and write the same. -/
theorem body_stacked (className : String) (method : Method)
    (inside outside : List (Invocation (AroundHandler S))) (original : Body S)
    (receiver : Receiver) (passed : List Value)
    (sparing : SparingByValue ⟨⟨className, method.name⟩, receiver⟩
      (Parameters.ofCall method.parameters passed) (inside ++ outside)) :
    Program.SameBut (IsFrameLine ⟨className, method.name⟩) Eq
      ((surrounded className method (inside ++ outside) original).body receiver passed)
      ((stacked className method inside outside original).body receiver passed) ∧
    ((surrounded className method (inside ++ outside) original).recorded.body receiver
        passed).forget =
      (surrounded className method (inside ++ outside) original).body receiver passed ∧
    ((stackedRecorded className method inside outside original).body receiver passed).forget =
      (stacked className method inside outside original).body receiver passed ∧
    ∀ record result,
      ((surrounded className method (inside ++ outside) original).recorded.body receiver
          passed).Records record result ↔
        ((stackedRecorded className method inside outside original).body receiver
          passed).Records record result := by
  refine ⟨sameBut_stacked original sparing, forget_body _ receiver passed,
    forget_stackedRecorded className method inside outside original receiver passed,
    fun record result => ?_⟩
  have recorded := sparing.recorded 0
  rw [recordFrom_append, Nat.zero_add] at recorded
  have same := sameBut_stacked (recordBody original) recorded
  rw [← Nat.zero_add inside.length, ← recordFrom_append, Nat.zero_add] at same
  exact same.records_iff

/-! ### Two handlers -/

/-- A method that is passed an amount by value and a total by reference. -/
def deposit : Method where
  name := "deposit"
  isStatic := true
  parameters := [{ name := "amount" }, { name := "total", byReference := true }]

/-- Adds the amount to the total, and clears the amount. -/
def depositAmount : Body Interface.idle := fun _ arguments =>
  match arguments with
  | [.int amount, .int total] => .done (.ok .null, [.int 0, .int (total + amount)])
  | arguments => .done (.ok .null, arguments)

/-- Sets the total to 100 and proceeds. -/
def resetting : Invocation (AroundHandler Interface.idle) where
  directive := "around"
  handler := fun _ _ =>
    (Surrounding.advice (.write "total" (.int 100))).bind fun _ => Surrounding.proceed
  options := []

/-- Looks at the parameters and proceeds twice. -/
def repeating : Invocation (AroundHandler Interface.idle) where
  directive := "around"
  handler := fun _ _ =>
    (Surrounding.advice .read).bind fun _ =>
      Surrounding.proceed.bind fun _ => Surrounding.proceed
  options := []

/-- The outer handler resets the total, and then two amounts are added to it, whether the handlers
are woven at once or one after the other. -/
theorem body_stacked_deposit :
    SparingByValue ⟨⟨"Account", deposit.name⟩, .static⟩
      (Parameters.ofCall deposit.parameters [.int 3, .int 5]) ([repeating] ++ [resetting]) ∧
    ∃ record,
      ((surrounded "Account" deposit ([repeating] ++ [resetting]) depositAmount).recorded.body
        .static [.int 3, .int 5]).Records record (.ok .null, [.int 3, .int 106]) ∧
      ((stackedRecorded "Account" deposit [repeating] [resetting] depositAmount).body .static
        [.int 3, .int 5]).Records record (.ok .null, [.int 3, .int 106]) := by
  have sparing : SparingByValue ⟨⟨"Account", deposit.name⟩, .static⟩
      (Parameters.ofCall deposit.parameters [.int 3, .int 5]) ([repeating] ++ [resetting]) := by
    refine List.forall_mem_cons.mpr ⟨?_, List.forall_mem_singleton.mpr ?_⟩
    · exact .read fun _ _ => .proceed fun _ => .proceed .done
    · exact .write (fun _ => by decide +kernel) (.proceed .done)
  let call :=
    (surrounded "Account" deposit ([repeating] ++ [resetting]) depositAmount).recorded.body .static
      [.int 3, .int 5]
  have records : call.Records call.replay.1 (.ok .null, [.int 3, .int 106]) := call.records_replay
  have same := (body_stacked "Account" deposit [repeating] [resetting] depositAmount .static
    [.int 3, .int 5] sparing).2.2.2
  exact ⟨sparing, _, records, (same _ _).mp records⟩

end WovenMethod

end AspectWeaver
