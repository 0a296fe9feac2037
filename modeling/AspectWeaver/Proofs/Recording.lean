/-
**Recording a woven call.**

A surrounding program that keeps a record accepts notes besides its services. In a recorded call
every handler and the original body note that they begin and how they end, and handlers note what
they read and write of the parameters and when they proceed. Nothing else is different: the call is
put together by the same `WovenMethod.body`, and what is recorded has no way to see the notes.

* `forget_body` — **a record disturbs nothing**: without its notes the recorded call is the call.
* `Records`, `Shows` — the notes of a call that has ended, and of a call that may still be running.
-/

import AspectWeaver.Proofs.History
import AspectWeaver.Woven

namespace AspectWeaver

/-- What is noted of a woven call. Handlers are numbered in their list, from 0. -/
inductive Moment where
  | beforeBegins (position : Nat) (joinPoint : JoinPoint) (options : List String)
  | beforeEnds (position : Nat) (ended : Except Failure Unit)
  | aroundBegins (position : Nat) (joinPoint : JoinPoint) (options : List String)
  | proceeds (position : Nat)
  | aroundEnds (position : Nat) (outcome : Outcome)
  | afterBegins (position : Nat) (joinPoint : JoinPoint) (options : List String) (given : Value)
  | afterEnds (position : Nat) (outcome : Outcome)
  | bodyBegins (receiver : Receiver) (arguments : List Value)
  | bodyEnds (outcome : Outcome) (left : List Value)
  /-- A handler looks at the parameters, and this is what it sees. -/
  | reads (params : Parameters)
  /-- A handler writes a parameter. -/
  | writes (name : String) (value : Value)

/-- A request to a surrounding program that keeps a record. -/
inductive RecordingRequest (S : Interface) where
  | note (moment : Moment)
  | service (request : S.Request)

/-- The reply to a request to a surrounding program that keeps a record. -/
@[reducible] def RecordingRequest.Reply {S : Interface} : RecordingRequest S → Type
  | .note _ => Unit
  | .service request => S.Reply request

/-- The services of a surrounding program that keeps a record. -/
abbrev Recording (S : Interface) : Interface := ⟨RecordingRequest S, RecordingRequest.Reply⟩

variable {S : Interface} {α β H H' : Type}

/-! ### Recorded programs -/

/-- Makes a request for which no record is needed, where `ask` makes requests to the host. -/
def HostRequest.unrecorded {I : Interface}
    (ask : (request : HostRequest (Recording S)) → Program I request.Reply) :
    (request : HostRequest S) → Program I request.Reply
  | .log event => ask (.log event)
  | .clock => ask .clock
  | .service request => ask (.service (.service request))

/-- Notes a moment, where `ask` makes requests to the host. -/
def note {I : Interface} (ask : (request : HostRequest (Recording S)) → Program I request.Reply)
    (moment : Moment) : Program I Unit :=
  ask (.service (.note moment))

/-- Makes a request to the host, as a body does. -/
abbrev askHost (request : HostRequest S) : Program (Hosted S) request.Reply :=
  Program.perform (I := Hosted S) request

namespace Program

/-- A program that notes nothing. -/
def unrecorded : Program (Hosted S) α → Program (Hosted (Recording S)) α
  | .done result => .done result
  | .ask request resume =>
      (request.unrecorded askHost).bind fun reply => (resume reply).unrecorded

/-- A before or after handler that notes what it reads and writes. -/
def recordedAdvice : Program (Advising S) α → Program (Advising (Recording S)) α
  | .done result => .done result
  | .ask (.host request) resume =>
      (request.unrecorded Advising.host).bind fun reply => (resume reply).recordedAdvice
  | .ask .read resume =>
      Advising.parameters.bind fun params =>
        (note Advising.host (.reads params)).bind fun _ => (resume params).recordedAdvice
  | .ask (.write name value) resume =>
      (Advising.write name value).bind fun known =>
        (note Advising.host (.writes name value)).bind fun _ => (resume known).recordedAdvice

/-- An around handler that notes what it reads and writes and when it proceeds. -/
def recordedAround (position : Nat) :
    Program (Surrounding S) α → Program (Surrounding (Recording S)) α
  | .done result => .done result
  | .ask (.advice (.host request)) resume =>
      (request.unrecorded Surrounding.host).bind fun reply => (resume reply).recordedAround position
  | .ask (.advice .read) resume =>
      (Surrounding.advice .read).bind fun params =>
        (note Surrounding.host (.reads params)).bind fun _ =>
          (resume params).recordedAround position
  | .ask (.advice (.write name value)) resume =>
      (Surrounding.advice (.write name value)).bind fun known =>
        (note Surrounding.host (.writes name value)).bind fun _ =>
          (resume known).recordedAround position
  | .ask .proceed resume =>
      (note Surrounding.host (.proceeds position)).bind fun _ =>
        Surrounding.proceed.bind fun outcome => (resume outcome).recordedAround position

/-- What is left of a program when its notes are taken away. -/
def forget : Program (Hosted (Recording S)) α → Program (Hosted S) α
  | .done result => .done result
  | .ask (.log event) resume => .ask (.log event) fun reply => (resume reply).forget
  | .ask .clock resume => .ask .clock fun reply => (resume reply).forget
  | .ask (.service (.service request)) resume =>
      .ask (.service request) fun reply => (resume reply).forget
  | .ask (.service (.note _)) resume => (resume ()).forget

end Program

/-! ### Recorded calls -/

/-- A before handler that notes its beginning and its end. -/
def recordBefore (position : Nat) (handle : BeforeHandler S) : BeforeHandler (Recording S) :=
  fun joinPoint options => do
    note Advising.host (.beforeBegins position joinPoint options)
    let ended ← (handle joinPoint options).recordedAdvice
    note Advising.host (.beforeEnds position ended)
    pure ended

/-- An around handler that notes its beginning and its end. -/
def recordAround (position : Nat) (handle : AroundHandler S) : AroundHandler (Recording S) :=
  fun joinPoint options => do
    note Surrounding.host (.aroundBegins position joinPoint options)
    let outcome ← (handle joinPoint options).recordedAround position
    note Surrounding.host (.aroundEnds position outcome)
    pure outcome

/-- An after handler that notes its beginning and its end. -/
def recordAfter (position : Nat) (handle : AfterHandler S) : AfterHandler (Recording S) :=
  fun joinPoint options given => do
    note Advising.host (.afterBegins position joinPoint options given)
    let outcome ← (handle joinPoint options given).recordedAdvice
    note Advising.host (.afterEnds position outcome)
    pure outcome

/-- A body that notes its beginning and its end. -/
def recordBody (body : Body S) : Body (Recording S) := fun receiver arguments => do
  note askHost (.bodyBegins receiver arguments)
  let (outcome, left) ← (body receiver arguments).unrecorded
  note askHost (.bodyEnds outcome left)
  pure (outcome, left)

/-- Invocations with recorded handlers, the first of which has the given number. -/
def recordFrom (record : Nat → H → H') : Nat → List (Invocation H) → List (Invocation H')
  | _, [] => []
  | position, invocation :: rest =>
      { invocation with handler := record position invocation.handler } ::
        recordFrom record (position + 1) rest

/-- In two lists of invocations the numbers of the second go on after those of the first. -/
theorem recordFrom_append (record : Nat → H → H') (position : Nat)
    (first second : List (Invocation H)) :
    recordFrom record position (first ++ second) =
      recordFrom record position first ++ recordFrom record (position + first.length) second := by
  induction first generalizing position with
  | nil => rfl
  | cons invocation rest ih =>
      have shift : position + (rest.length + 1) = position + 1 + rest.length := by omega
      rw [List.cons_append, recordFrom, recordFrom, ih, List.length_cons, shift, List.cons_append]

/-- A chain with recorded handlers. -/
def Chain.recorded (chain : Chain S) : Chain (Recording S) where
  before := recordFrom recordBefore 0 chain.before
  around := recordFrom recordAround 0 chain.around
  after := recordFrom recordAfter 0 chain.after
  infoRuns := chain.infoRuns

/-- A woven method whose calls are recorded. -/
def WovenMethod.recorded (woven : WovenMethod S) : WovenMethod (Recording S) where
  className := woven.className
  method := woven.method
  chain := woven.chain.recorded
  original := recordBody woven.original

/-! ### Recorded handlers in a call -/

namespace Program

/-- Notes a moment and goes on. -/
def noting (moment : Moment) (program : Program (Hosted (Recording S)) α) :
    Program (Hosted (Recording S)) α :=
  .ask (.service (.note moment)) fun _ => program

theorem recordedAdvice_host (request : HostRequest S)
    (resume : request.Reply → Program (Advising S) α) (params : Parameters) :
    (recordedAdvice (.ask (.host request) resume)).withParameters params =
      (request.unrecorded askHost).bind fun reply =>
        (resume reply).recordedAdvice.withParameters params := by
  cases request <;> rfl

theorem recordedAdvice_read (resume : Parameters → Program (Advising S) α) (params : Parameters) :
    (recordedAdvice (.ask .read resume)).withParameters params =
      .noting (.reads params) ((resume params).recordedAdvice.withParameters params) := rfl

theorem recordedAdvice_write (name : String) (value : Value)
    (resume : Bool → Program (Advising S) α) (params : Parameters) :
    (recordedAdvice (.ask (.write name value) resume)).withParameters params =
      .noting (.writes name value)
        ((resume (params.contains name)).recordedAdvice.withParameters
          (params.set name value)) := rfl

section Around

variable (position : Nat) (inner : Layer (Recording S) Outcome) (params : Parameters)

theorem recordedAround_host (request : HostRequest S)
    (resume : request.Reply → Program (Surrounding S) α) :
    (recordedAround position (.ask (.advice (.host request)) resume)).withProceed inner params =
      (request.unrecorded askHost).bind fun reply =>
        ((resume reply).recordedAround position).withProceed inner params := by
  cases request <;> rfl

theorem recordedAround_read (resume : Parameters → Program (Surrounding S) α) :
    (recordedAround position (.ask (.advice .read) resume)).withProceed inner params =
      .noting (.reads params)
        (((resume params).recordedAround position).withProceed inner params) := rfl

theorem recordedAround_write (name : String) (value : Value)
    (resume : Bool → Program (Surrounding S) α) :
    (recordedAround position (.ask (.advice (.write name value)) resume)).withProceed inner params =
      .noting (.writes name value)
        (((resume (params.contains name)).recordedAround position).withProceed inner
          (params.set name value)) := rfl

theorem recordedAround_proceed (resume : Outcome → Program (Surrounding S) α) :
    (recordedAround position (.ask .proceed resume)).withProceed inner params =
      .noting (.proceeds position) ((inner params).bind fun ended =>
        ((resume ended.1).recordedAround position).withProceed inner ended.2) := rfl

end Around

end Program

theorem recordBefore_withParameters (position : Nat) (handle : BeforeHandler S)
    (joinPoint : JoinPoint) (options : List String) (params : Parameters) :
    (recordBefore position handle joinPoint options).withParameters params =
      .noting (.beforeBegins position joinPoint options)
        (((handle joinPoint options).recordedAdvice.withParameters params).bind fun ended =>
          .noting (.beforeEnds position ended.1) (.done ended)) := by
  show Program.noting _ ((Program.bind _ _).withParameters params) = _
  rw [Program.withParameters_bind]
  rfl

theorem recordAround_withProceed (inner : Layer (Recording S) Outcome) (position : Nat)
    (handle : AroundHandler S) (joinPoint : JoinPoint) (options : List String)
    (params : Parameters) :
    (recordAround position handle joinPoint options).withProceed inner params =
      .noting (.aroundBegins position joinPoint options)
        ((((handle joinPoint options).recordedAround position).withProceed inner params).bind
          fun ended => .noting (.aroundEnds position ended.1) (.done ended)) := by
  show Program.noting _ ((Program.bind _ _).withProceed inner params) = _
  rw [Program.withProceed_bind]
  rfl

theorem recordAfter_withParameters (position : Nat) (handle : AfterHandler S)
    (joinPoint : JoinPoint) (options : List String) (given : Value) (params : Parameters) :
    (recordAfter position handle joinPoint options given).withParameters params =
      .noting (.afterBegins position joinPoint options given)
        (((handle joinPoint options given).recordedAdvice.withParameters params).bind fun ended =>
          .noting (.afterEnds position ended.1) (.done ended)) := by
  show Program.noting _ ((Program.bind _ _).withParameters params) = _
  rw [Program.withParameters_bind]
  rfl

theorem recordBody_eq (body : Body S) (receiver : Receiver) (arguments : List Value) :
    recordBody body receiver arguments =
      .noting (.bodyBegins receiver arguments)
        ((body receiver arguments).unrecorded.bind fun ended =>
          .noting (.bodyEnds ended.1 ended.2) (.done ended)) := rfl

/-! ### A record disturbs nothing -/

namespace Program

@[simp] theorem forget_noting (moment : Moment) (program : Program (Hosted (Recording S)) α) :
    (noting moment program).forget = program.forget := rfl

theorem forget_bind (program : Program (Hosted (Recording S)) α)
    (next : α → Program (Hosted (Recording S)) β) :
    (program.bind next).forget = program.forget.bind fun result => (next result).forget := by
  induction program with
  | done result => rfl
  | ask request resume ih =>
      match request with
      | .log event => exact congrArg (ask _) (funext fun reply => ih reply)
      | .clock => exact congrArg (ask _) (funext fun reply => ih reply)
      | .service (.service request) => exact congrArg (ask _) (funext fun reply => ih reply)
      | .service (.note moment) => exact ih ()

/-- A request without a record is the request. -/
theorem forget_request (request : HostRequest S)
    (next : request.Reply → Program (Hosted (Recording S)) α) :
    ((request.unrecorded askHost).bind next).forget =
      ask request fun reply => (next reply).forget := by
  cases request <;> rfl

/-- A program that notes nothing is as it was. -/
theorem forget_unrecorded (program : Program (Hosted S) α) :
    program.unrecorded.forget = program := by
  induction program with
  | done result => rfl
  | ask request resume ih =>
      rw [unrecorded, forget_request]
      exact congrArg (ask request) (funext ih)

/-- A recorded before or after handler does to the parameters what the handler does. -/
theorem forget_recordedAdvice (program : Program (Advising S) α) (params : Parameters) :
    (program.recordedAdvice.withParameters params).forget = program.withParameters params := by
  induction program generalizing params with
  | done result => rfl
  | ask request resume ih =>
      match request with
      | .host (.log event) => exact congrArg (ask _) (funext fun reply => ih reply params)
      | .host .clock => exact congrArg (ask _) (funext fun reply => ih reply params)
      | .host (.service request) => exact congrArg (ask _) (funext fun reply => ih reply params)
      | .read => exact ih params params
      | .write name value => exact ih _ _

/-- A recorded around handler, around a recorded layer, is the handler around the layer. -/
theorem forget_recordedAround {recorded : Layer (Recording S) Outcome} {inner : Layer S Outcome}
    (same : ∀ params, (recorded params).forget = inner params) (position : Nat)
    (program : Program (Surrounding S) α) (params : Parameters) :
    ((program.recordedAround position).withProceed recorded params).forget =
      program.withProceed inner params := by
  induction program generalizing params with
  | done result => rfl
  | ask request resume ih =>
      match request with
      | .advice (.host (.log event)) =>
          exact congrArg (ask _) (funext fun reply => ih reply params)
      | .advice (.host .clock) => exact congrArg (ask _) (funext fun reply => ih reply params)
      | .advice (.host (.service request)) =>
          exact congrArg (ask _) (funext fun reply => ih reply params)
      | .advice .read => exact ih params params
      | .advice (.write name value) => exact ih _ _
      | .proceed =>
          show ((recorded params).bind _).forget = (inner params).bind _
          rw [forget_bind, same]
          exact congrArg _ (funext fun ended => ih ended.1 ended.2)

end Program

/-- A recorded body is the body. -/
theorem forget_recordBody (body : Body S) (receiver : Receiver) (arguments : List Value) :
    (recordBody body receiver arguments).forget = body receiver arguments := by
  rw [recordBody_eq, Program.forget_noting, Program.forget_bind, Program.forget_unrecorded]
  exact Program.bind_done _

namespace WovenMethod

theorem forget_runBefore (joinPoint : JoinPoint) (invocations : List (Invocation (BeforeHandler S)))
    (position : Nat) (params : Parameters) :
    (runBefore joinPoint (recordFrom recordBefore position invocations) params).forget =
      runBefore joinPoint invocations params := by
  induction invocations generalizing position params with
  | nil => rfl
  | cons invocation rest ih =>
      rw [recordFrom, runBefore_cons, runBefore_cons, Program.forget_bind,
        recordBefore_withParameters, Program.forget_noting, Program.forget_bind,
        Program.forget_recordedAdvice]
      refine congr (congrArg _ (Program.bind_done _)) (funext fun ended => ?_)
      obtain ⟨ended, params⟩ := ended
      cases ended with
      | error failure => rfl
      | ok _ => exact ih (position + 1) params

theorem forget_callOriginal {recorded : Body (Recording S)} {original : Body S}
    (same : ∀ receiver arguments, (recorded receiver arguments).forget =
      original receiver arguments) (receiver : Receiver) (passed : List Value)
    (params : Parameters) :
    (callOriginal recorded receiver passed params).forget =
      callOriginal original receiver passed params := by
  rw [callOriginal_eq, callOriginal_eq, Program.forget_bind, same]
  rfl

theorem forget_surround {recorded : Layer (Recording S) Outcome} {inner : Layer S Outcome}
    (same : ∀ params, (recorded params).forget = inner params) (joinPoint : JoinPoint)
    (invocations : List (Invocation (AroundHandler S))) (position : Nat) (params : Parameters) :
    (surround joinPoint (recordFrom recordAround position invocations) recorded params).forget =
      surround joinPoint invocations inner params := by
  induction invocations generalizing recorded inner position with
  | nil => exact same params
  | cons invocation rest ih =>
      refine ih (fun params => ?_) (position + 1)
      rw [wrap, recordAround_withProceed, Program.forget_noting, Program.forget_bind,
        Program.forget_recordedAround same]
      exact Program.bind_done _

theorem forget_runAfter (joinPoint : JoinPoint) (invocations : List (Invocation (AfterHandler S)))
    (position : Nat) (given : Value) (params : Parameters) :
    (runAfter joinPoint (recordFrom recordAfter position invocations) given params).forget =
      runAfter joinPoint invocations given params := by
  induction invocations generalizing position given params with
  | nil => rfl
  | cons invocation rest ih =>
      rw [recordFrom, runAfter_cons, runAfter_cons, Program.forget_bind,
        recordAfter_withParameters, Program.forget_noting, Program.forget_bind,
        Program.forget_recordedAdvice]
      refine congr (congrArg _ (Program.bind_done _)) (funext fun ended => ?_)
      obtain ⟨ended, params⟩ := ended
      cases ended with
      | error failure => rfl
      | ok next => exact ih (position + 1) next params

theorem forget_run (chain : Chain S) (original : Body S) (joinPoint : JoinPoint)
    (passed : List Value) (params : Parameters) :
    (run chain.recorded (recordBody original) joinPoint passed params).forget =
      run chain original joinPoint passed params := by
  rw [run_eq, run_eq, Program.forget_bind, Chain.recorded, forget_runBefore]
  refine congrArg _ (funext fun begun => ?_)
  obtain ⟨begun, params⟩ := begun
  cases begun with
  | error failure => rfl
  | ok _ =>
      simp only [Program.forget_bind]
      rw [forget_surround
        (forget_callOriginal (forget_recordBody original) joinPoint.receiver passed)]
      refine congrArg _ (funext fun ended => ?_)
      obtain ⟨outcome, params⟩ := ended
      cases outcome with
      | error failure => rfl
      | ok result => exact forget_runAfter joinPoint chain.after 0 result params

/-- **A record disturbs nothing**: without its notes a recorded call is the call. -/
theorem forget_body (woven : WovenMethod S) (receiver : Receiver) (passed : List Value) :
    (woven.recorded.body receiver passed).forget = woven.body receiver passed := by
  rw [body_eq, body_eq, Program.forget_bind]
  refine congrArg _ (funext fun _ => ?_)
  rw [Program.forget_bind]
  exact congrArg (Program.bind · _) (forget_run woven.chain woven.original _ passed _)

end WovenMethod

end AspectWeaver
