/-
**Advice: what handlers are and how they run.**

A handler is a program. All handlers and bodies may write to the log, read the clock and use the
services of the surrounding program. The handlers of a call may also read and write the parameters
of the call, and an around handler may proceed: run what it is wrapped around, any number of times.

A call is put together from layers. A layer takes the current parameters, and ends with an outcome
and the parameters as they are then. `Program.withParameters` and `Program.withProceed` turn the
program of a handler into a layer by answering its requests on the parameters and its `proceed`.

* `withParameters_bind`, `withProceed_bind` — **layers compose**: a handler made of two parts runs
  the parts one after the other on the same parameters.
-/

import AspectWeaver.Event
import AspectWeaver.Failure
import AspectWeaver.Parameters
import AspectWeaver.Program
import AspectWeaver.Receiver

namespace AspectWeaver

/-! ### What handlers and bodies may ask for -/

/-- A request of a handler or body to its host, where `S` are the services of the host. -/
inductive HostRequest (S : Interface) where
  /-- Writes a line to the log. -/
  | log (event : Event)
  /-- Reads the clock, in milliseconds. -/
  | clock
  /-- Uses a service. -/
  | service (request : S.Request)

/-- The reply to a request to the host. -/
@[reducible] def HostRequest.Reply {S : Interface} : HostRequest S → Type
  | .log _ => Unit
  | .clock => Nat
  | .service request => S.Reply request

/-- The requests that every handler and body may make. -/
abbrev Hosted (S : Interface) : Interface := ⟨HostRequest S, HostRequest.Reply⟩

/-- A request of a handler that runs in a call. -/
inductive AdviceRequest (S : Interface) where
  | host (request : HostRequest S)
  /-- Reads all parameters. -/
  | read
  /-- Writes a parameter; the reply tells whether there is one of this name. -/
  | write (name : String) (value : Value)

/-- The reply to a request of a handler that runs in a call. -/
@[reducible] def AdviceRequest.Reply {S : Interface} : AdviceRequest S → Type
  | .host request => request.Reply
  | .read => Parameters
  | .write _ _ => Bool

/-- The requests of before and after handlers. -/
abbrev Advising (S : Interface) : Interface := ⟨AdviceRequest S, AdviceRequest.Reply⟩

/-- A request of an around handler. -/
inductive AroundRequest (S : Interface) where
  | advice (request : AdviceRequest S)
  /-- Runs what the handler is wrapped around. -/
  | proceed

/-- The reply to a request of an around handler. -/
@[reducible] def AroundRequest.Reply {S : Interface} : AroundRequest S → Type
  | .advice request => request.Reply
  | .proceed => Outcome

/-- The requests of around handlers. -/
abbrev Surrounding (S : Interface) : Interface := ⟨AroundRequest S, AroundRequest.Reply⟩

/-! ### Handlers and bodies -/

/-- A method body: given the receiver and the arguments it ends with an outcome and leaves the
arguments, some of them changed. -/
abbrev Body (S : Interface) :=
  Receiver → List Value → Program (Hosted S) (Outcome × List Value)

/-- Runs while a class is woven. -/
abbrev InfoHandler (S : Interface) :=
  MethodId → List String → Program (Hosted S) (Except Failure Unit)

/-- Runs before a call. -/
abbrev BeforeHandler (S : Interface) :=
  JoinPoint → List String → Program (Advising S) (Except Failure Unit)

/-- Runs after a call; it gets the result so far and gives the result to go on with. -/
abbrev AfterHandler (S : Interface) :=
  JoinPoint → List String → Value → Program (Advising S) Outcome

/-- Runs instead of what it is wrapped around. -/
abbrev AroundHandler (S : Interface) :=
  JoinPoint → List String → Program (Surrounding S) Outcome

/-- A handler of one of the four kinds. -/
inductive Handler (S : Interface) where
  | info (handle : InfoHandler S)
  | before (handle : BeforeHandler S)
  | after (handle : AfterHandler S)
  | around (handle : AroundHandler S)

/-- The kind of a handler. -/
def Handler.kind {S : Interface} : Handler S → Kind
  | .info _ => .info
  | .before _ => .before
  | .after _ => .after
  | .around _ => .around

/-! ### Layers of a call -/

/-- A part of a running call: it works on the current parameters and ends with a result. -/
abbrev Layer (S : Interface) (α : Type) := Parameters → Program (Hosted S) (α × Parameters)

namespace Program

variable {S : Interface} {α β : Type}

/-- Runs a before or after handler on the parameters of a call. -/
def withParameters : Program (Advising S) α → Layer S α
  | .done result, params => .done (result, params)
  | .ask (.host request) resume, params =>
      .ask request fun reply => (resume reply).withParameters params
  | .ask .read resume, params => (resume params).withParameters params
  | .ask (.write name value) resume, params =>
      (resume (params.contains name)).withParameters (params.set name value)

/-- Runs an around handler on the parameters of a call, where `inner` is what it is wrapped
around. -/
def withProceed (inner : Layer S Outcome) : Program (Surrounding S) α → Layer S α
  | .done result, params => .done (result, params)
  | .ask (.advice (.host request)) resume, params =>
      .ask request fun reply => (resume reply).withProceed inner params
  | .ask (.advice .read) resume, params => (resume params).withProceed inner params
  | .ask (.advice (.write name value)) resume, params =>
      (resume (params.contains name)).withProceed inner (params.set name value)
  | .ask .proceed resume, params =>
      (inner params).bind fun ended => (resume ended.1).withProceed inner ended.2

/-- A handler made of two parts runs the first and then the second. -/
theorem withParameters_bind (program : Program (Advising S) α)
    (next : α → Program (Advising S) β) (params : Parameters) :
    (program.bind next).withParameters params =
      (program.withParameters params).bind fun ended =>
        (next ended.1).withParameters ended.2 := by
  induction program generalizing params with
  | done result => rfl
  | ask request resume ih =>
      match request with
      | .host request =>
          show Program.ask _ _ = Program.ask _ _
          congr 1
          funext reply
          exact ih reply params
      | .read => exact ih params params
      | .write name value => exact ih _ _

/-- An around handler made of two parts runs the first and then the second. -/
theorem withProceed_bind (inner : Layer S Outcome) (program : Program (Surrounding S) α)
    (next : α → Program (Surrounding S) β) (params : Parameters) :
    (program.bind next).withProceed inner params =
      (program.withProceed inner params).bind fun ended =>
        (next ended.1).withProceed inner ended.2 := by
  induction program generalizing params with
  | done result => rfl
  | ask request resume ih =>
      match request with
      | .advice (.host request) =>
          show Program.ask _ _ = Program.ask _ _
          congr 1
          funext reply
          exact ih reply params
      | .advice .read => exact ih params params
      | .advice (.write name value) => exact ih _ _
      | .proceed =>
          show (inner params).bind _ = ((inner params).bind _).bind _
          rw [bind_assoc]
          congr 1
          funext ended
          exact ih _ _

end Program

/-! ### Requests by name -/

/-- A line for the log. -/
def writeLog {S : Interface} (event : Event) : Program (Hosted S) Unit :=
  Program.perform (I := Hosted S) (.log event)

/-- Changes a parameter by a program that gets its present value; the program may read and write
parameters itself, but what it writes to this one is lost. Tells whether there is such a
parameter; if not, the program does not run. -/
def Program.updateParameter {I : Interface} (read : Program I Parameters)
    (write : String → Value → Program I Bool) (name : String)
    (change : Value → Program I Value) : Program I Bool := do
  let params ← read
  match params.get name with
  | none => pure false
  | some value => do
      let changed ← change value
      write name changed

namespace Advising

variable {S : Interface} {α : Type}

/-- Makes a request to the host. -/
def host (request : HostRequest S) : Program (Advising S) request.Reply :=
  Program.perform (I := Advising S) (.host request)

/-- All parameters. -/
def parameters : Program (Advising S) Parameters := Program.perform (I := Advising S) .read

/-- Writes a parameter. -/
def write (name : String) (value : Value) : Program (Advising S) Bool :=
  Program.perform (I := Advising S) (.write name value)

end Advising

namespace Surrounding

variable {S : Interface} {α : Type}

/-- Makes a request that before and after handlers may make too. -/
def advice (request : AdviceRequest S) : Program (Surrounding S) request.Reply :=
  Program.perform (I := Surrounding S) (.advice request)

/-- Makes a request to the host. -/
def host (request : HostRequest S) : Program (Surrounding S) request.Reply :=
  advice (.host request)

/-- Runs what the handler is wrapped around. -/
def proceed : Program (Surrounding S) Outcome := Program.perform (I := Surrounding S) .proceed

end Surrounding

end AspectWeaver
