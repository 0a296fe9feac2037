/-
**What stands in the record of a call.**

The handlers of a call note what they do, and each run of the original body notes its beginning and
its end. Whatever handlers and bodies do besides, nothing else comes into the record.

* `Program.Notes` — the programs that note no more than that, for the handlers of one join point.
* `notes_run` — **a recorded call is one of them**, for the one join point of the call.
* `Program.Notes.joinPoint_eq` — **every handler gets this join point**, at every moment of a call.
* `Program.Notes.paired` — between the beginning and the end of a run of the body nothing is noted.
-/

import AspectWeaver.Proofs.Record

namespace AspectWeaver

variable {S : Interface} {α β : Type}

/-- Whether a run of the body begins or ends in this moment. -/
def Moment.ofBody : Moment → Bool
  | .bodyBegins _ _ | .bodyEnds _ _ => true
  | _ => false

/-- The join point that a handler gets in this moment, if one begins. -/
def Moment.joinPoint? : Moment → Option JoinPoint
  | .beforeBegins _ joinPoint _ | .aroundBegins _ joinPoint _ | .afterBegins _ joinPoint _ _ =>
      some joinPoint
  | _ => none

/-- The program notes what handlers of this join point do, and runs of a body. -/
inductive Program.Notes (joinPoint : JoinPoint) :
    Program (Hosted (Recording S)) α → Prop where
  | done (result : α) : Notes joinPoint (.done result)
  | silent {β : Type} {program : Program (Hosted S) β}
      {next : β → Program (Hosted (Recording S)) α}
      (rest : ∀ result, Notes joinPoint (next result)) :
      Notes joinPoint (program.unrecorded.bind next)
  | handler {moment : Moment} {program : Program (Hosted (Recording S)) α}
      (other : moment.ofBody = false)
      (given : ∀ found, moment.joinPoint? = some found → found = joinPoint)
      (rest : Notes joinPoint program) : Notes joinPoint (.noting moment program)
  | body {receiver : Receiver} {arguments : List Value}
      {program : Program (Hosted S) (Outcome × List Value)}
      {next : Outcome × List Value → Program (Hosted (Recording S)) α}
      (rest : ∀ ended, Notes joinPoint (next ended)) :
      Notes joinPoint (.noting (.bodyBegins receiver arguments)
        (program.unrecorded.bind fun ended => .noting (.bodyEnds ended.1 ended.2) (next ended)))

namespace Program

variable {joinPoint : JoinPoint}

/-- A single request needs no note. -/
theorem unrecorded_perform (request : HostRequest S) :
    (askHost request).unrecorded = request.unrecorded askHost := bind_done _

namespace Notes

theorem bind {program : Program (Hosted (Recording S)) α}
    {next : α → Program (Hosted (Recording S)) β} (first : program.Notes joinPoint)
    (second : ∀ result, (next result).Notes joinPoint) : (program.bind next).Notes joinPoint := by
  induction first with
  | done result => exact second result
  | silent _ ih =>
      rw [bind_assoc]
      exact .silent ih
  | handler other given _ ih => exact .handler other given ih
  | @body receiver arguments program _ _ ih =>
      show Notes joinPoint (noting _ ((program.unrecorded.bind _).bind next))
      rw [bind_assoc]
      exact .body ih

theorem request {request : HostRequest S}
    {next : request.Reply → Program (Hosted (Recording S)) α}
    (rest : ∀ reply, (next reply).Notes joinPoint) :
    ((request.unrecorded askHost).bind next).Notes joinPoint := by
  rw [← unrecorded_perform]
  exact .silent rest

/-- A moment at which no handler begins may be noted. -/
theorem step {moment : Moment} {program : Program (Hosted (Recording S)) α}
    (other : moment.ofBody = false) (free : moment.joinPoint? = none)
    (rest : program.Notes joinPoint) : Notes joinPoint (.noting moment program) := by
  refine .handler other (fun found given => ?_) rest
  rw [free] at given
  cases given

/-- The beginning of a handler may be noted if the handler gets the join point. -/
theorem begins {moment : Moment} {program : Program (Hosted (Recording S)) α}
    (other : moment.ofBody = false) (gets : moment.joinPoint? = some joinPoint)
    (rest : program.Notes joinPoint) : Notes joinPoint (.noting moment program) := by
  refine .handler other (fun found given => ?_) rest
  rw [gets] at given
  exact (Option.some.inj given).symm

/-! ### Records -/

/-- **Every handler gets the join point**, at every moment. -/
theorem joinPoint_eq {program : Program (Hosted (Recording S)) α}
    (notes : program.Notes joinPoint) {record : List Moment} (shows : program.Shows record) :
    ∀ moment ∈ record, ∀ found, moment.joinPoint? = some found → found = joinPoint := by
  induction notes generalizing record with
  | done result =>
      rw [shows_done_iff.mp shows]
      exact List.forall_mem_nil _
  | silent _ ih =>
      rcases shows_bind_iff.mp shows with shown | ⟨first, second, result, rfl, ran, rest⟩
      · rw [shows_unrecorded shown]
        exact List.forall_mem_nil _
      · rw [records_unrecorded ran]
        exact ih result rest
  | handler _ given _ ih =>
      rcases shows_noting_iff.mp shows with rfl | ⟨later, rfl, rest⟩
      · exact List.forall_mem_nil _
      · exact List.forall_mem_cons.mpr ⟨given, ih rest⟩
  | body _ ih =>
      rcases shows_noting_iff.mp shows with rfl | ⟨begun, rfl, within⟩
      · exact List.forall_mem_nil _
      refine List.forall_mem_cons.mpr ⟨nofun, ?_⟩
      rcases shows_bind_iff.mp within with shown | ⟨first, second, ended, rfl, ran, closes⟩
      · rw [shows_unrecorded shown]
        exact List.forall_mem_nil _
      · rw [records_unrecorded ran]
        rcases shows_noting_iff.mp closes with rfl | ⟨later, rfl, rest⟩
        · exact List.forall_mem_nil _
        · exact List.forall_mem_cons.mpr ⟨nofun, ih ended rest⟩

/-- **A run of the body that is over has begun just before.** -/
theorem paired {program : Program (Hosted (Recording S)) α} (notes : program.Notes joinPoint)
    {record : List Moment} {result : α} (records : program.Records record result)
    {earlier later : List Moment} {outcome : Outcome} {left : List Value}
    (split : record = earlier ++ .bodyEnds outcome left :: later) :
    ∃ before receiver arguments, earlier = before ++ [.bodyBegins receiver arguments] := by
  induction notes generalizing record earlier with
  | done value =>
      rw [(records_done_iff.mp records).1] at split
      simp at split
  | silent _ ih =>
      obtain ⟨first, second, middle, rfl, ran, rest⟩ := records_bind_iff.mp records
      rw [records_unrecorded ran] at split
      exact ih middle rest split
  | handler other _ _ ih =>
      obtain ⟨behind, rfl, rest⟩ := records_noting_iff.mp records
      cases earlier with
      | nil =>
          cases split
          cases other
      | cons moment earlier =>
          cases split
          obtain ⟨before, receiver, arguments, rfl⟩ := ih rest rfl
          exact ⟨_ :: before, receiver, arguments, rfl⟩
  | @body receiver arguments _ _ _ ih =>
      obtain ⟨behind, rfl, within⟩ := records_noting_iff.mp records
      obtain ⟨first, second, ended, rfl, ran, closes⟩ := records_bind_iff.mp within
      obtain ⟨last, rfl, rest⟩ := records_noting_iff.mp closes
      rw [records_unrecorded ran] at split
      cases earlier with
      | nil => cases split
      | cons moment earlier =>
          cases earlier with
          | nil =>
              cases split
              exact ⟨[], receiver, arguments, rfl⟩
          | cons next earlier =>
              cases split
              obtain ⟨before, entered, passed, rfl⟩ := ih _ rest rfl
              exact ⟨_ :: _ :: before, entered, passed, rfl⟩

end Notes

end Program

/-! ### The layers of a call -/

section Layers

variable {joinPoint : JoinPoint}

theorem notes_advice (program : Program (Advising S) α) (params : Parameters) :
    (program.recordedAdvice.withParameters params).Notes joinPoint := by
  induction program generalizing params with
  | done result => exact .done _
  | ask request resume ih =>
      match request with
      | .host request =>
          rw [Program.recordedAdvice_host]
          exact .request fun reply => ih reply params
      | .read =>
          rw [Program.recordedAdvice_read]
          exact .step rfl rfl (ih params params)
      | .write name value =>
          rw [Program.recordedAdvice_write]
          exact .step rfl rfl (ih _ _)

theorem notes_around {inner : Layer (Recording S) Outcome}
    (within : ∀ params, (inner params).Notes joinPoint) (position : Nat)
    (program : Program (Surrounding S) α) (params : Parameters) :
    ((program.recordedAround position).withProceed inner params).Notes joinPoint := by
  induction program generalizing params with
  | done result => exact .done _
  | ask request resume ih =>
      match request with
      | .advice (.host request) =>
          rw [Program.recordedAround_host]
          exact .request fun reply => ih reply params
      | .advice .read =>
          rw [Program.recordedAround_read]
          exact .step rfl rfl (ih params params)
      | .advice (.write name value) =>
          rw [Program.recordedAround_write]
          exact .step rfl rfl (ih _ _)
      | .proceed =>
          rw [Program.recordedAround_proceed]
          exact .step rfl rfl ((within params).bind fun ended => ih ended.1 ended.2)

namespace WovenMethod

theorem notes_runBefore (invocations : List (Invocation (BeforeHandler S))) (position : Nat)
    (params : Parameters) :
    (runBefore joinPoint (recordFrom recordBefore position invocations) params).Notes
      joinPoint := by
  induction invocations generalizing position params with
  | nil => exact .done _
  | cons invocation rest ih =>
      rw [recordFrom, runBefore_cons, recordBefore_withParameters]
      refine .bind (.begins rfl rfl
        (.bind (notes_advice _ params) fun ended => .step rfl rfl (.done ended)))
        fun ended => ?_
      obtain ⟨ended, params⟩ := ended
      cases ended with
      | error failure => exact .done _
      | ok _ => exact ih (position + 1) params

theorem notes_callOriginal (original : Body S) (receiver : Receiver) (passed : List Value)
    (params : Parameters) :
    (callOriginal (recordBody original) receiver passed params).Notes joinPoint := by
  rw [callOriginal_eq, recordBody_eq]
  exact .bind (.body fun ended => .done ended) fun ended => .done _

theorem notes_surround (invocations : List (Invocation (AroundHandler S))) (position : Nat)
    {inner : Layer (Recording S) Outcome} (within : ∀ params, (inner params).Notes joinPoint)
    (params : Parameters) :
    (surround joinPoint (recordFrom recordAround position invocations) inner params).Notes
      joinPoint := by
  induction invocations generalizing position inner with
  | nil => exact within params
  | cons invocation rest ih =>
      refine ih (position + 1) fun params => ?_
      rw [wrap, recordAround_withProceed]
      exact .begins rfl rfl
        (.bind (notes_around within position _ params) fun ended =>
          .step rfl rfl (.done ended))

theorem notes_runAfter (invocations : List (Invocation (AfterHandler S))) (position : Nat)
    (given : Value) (params : Parameters) :
    (runAfter joinPoint (recordFrom recordAfter position invocations) given params).Notes
      joinPoint := by
  induction invocations generalizing position given params with
  | nil => exact .done _
  | cons invocation rest ih =>
      rw [recordFrom, runAfter_cons, recordAfter_withParameters]
      refine .bind (.begins rfl rfl
        (.bind (notes_advice _ params) fun ended => .step rfl rfl (.done ended)))
        fun ended => ?_
      obtain ⟨outcome, params⟩ := ended
      cases outcome with
      | error failure => exact .done _
      | ok next => exact ih (position + 1) next params

/-- **All that is noted of a call** is what its handlers do, each with the join point of the call,
and the runs of the original body. -/
theorem notes_run (chain : Chain S) (original : Body S) (joinPoint : JoinPoint)
    (passed : List Value) (params : Parameters) :
    (run chain.recorded (recordBody original) joinPoint passed params).Notes joinPoint := by
  rw [run_eq]
  refine .bind (notes_runBefore chain.before 0 params) fun begun => ?_
  obtain ⟨begun, params⟩ := begun
  cases begun with
  | error failure => exact .done _
  | ok _ =>
      refine .bind (notes_surround chain.around 0
        (notes_callOriginal original joinPoint.receiver passed) params) fun ended => ?_
      obtain ⟨outcome, params⟩ := ended
      cases outcome with
      | error failure => exact .done _
      | ok result => exact notes_runAfter chain.after 0 result params

end WovenMethod

end Layers

end AspectWeaver
