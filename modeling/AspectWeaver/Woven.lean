/-
**Woven bodies: a chain of advice around the body that a method had.**

A woven call runs in this order: all before handlers; then the outermost around handler, and inside
it the next one and so on, and innermost the original body; then all after handlers, each on the
result of the one before. The first failure that nobody catches ends the call. However the call
ends, the parameters passed by reference go back to the caller.

The original body gets the arguments that the caller passed, with the current values at the
positions passed by reference.

* `surround_append` — **around chains nest**: a list of around handlers in two parts is the second
  part around the first.
-/

import AspectWeaver.Chain

namespace AspectWeaver

variable {S : Interface}

/-- A method with advice woven around its body. -/
structure WovenMethod (S : Interface) where
  className : String
  method : Method
  chain : Chain S
  original : Body S

namespace WovenMethod

/-- The method by name. -/
def target (woven : WovenMethod S) : MethodId := ⟨woven.className, woven.method.name⟩

/-- Runs the before handlers in order. -/
def runBefore (joinPoint : JoinPoint) :
    List (Invocation (BeforeHandler S)) → Layer S (Except Failure Unit)
  | [], params => .done (.ok (), params)
  | invocation :: rest, params => do
      let (ended, params) ←
        (invocation.handler joinPoint invocation.options).withParameters params
      match ended with
      | .error failure => pure (.error failure, params)
      | .ok () => runBefore joinPoint rest params

/-- Runs the original body on the arguments passed by the caller. -/
def callOriginal (original : Body S) (receiver : Receiver) (passed : List Value) :
    Layer S Outcome := fun params => do
  let (outcome, left) ← original receiver (params.overlay passed)
  pure (outcome, params.absorb left)

/-- One around handler around a layer. -/
def wrap (joinPoint : JoinPoint) (inner : Layer S Outcome)
    (invocation : Invocation (AroundHandler S)) : Layer S Outcome :=
  (invocation.handler joinPoint invocation.options).withProceed inner

/-- The around handlers around a layer; the last one is the outermost. -/
def surround (joinPoint : JoinPoint) (arounds : List (Invocation (AroundHandler S)))
    (inner : Layer S Outcome) : Layer S Outcome :=
  arounds.foldl (wrap joinPoint) inner

/-- Runs the after handlers in order, each on the result of the one before. -/
def runAfter (joinPoint : JoinPoint) :
    List (Invocation (AfterHandler S)) → Value → Layer S Outcome
  | [], result, params => .done (.ok result, params)
  | invocation :: rest, result, params => do
      let (outcome, params) ←
        (invocation.handler joinPoint invocation.options result).withParameters params
      match outcome with
      | .error failure => pure (.error failure, params)
      | .ok next => runAfter joinPoint rest next params

/-- Runs all layers of a woven call. -/
def run (chain : Chain S) (original : Body S) (joinPoint : JoinPoint) (passed : List Value) :
    Layer S Outcome := fun params => do
  let (begun, params) ← runBefore joinPoint chain.before params
  match begun with
  | .error failure => pure (.error failure, params)
  | .ok () =>
      let (outcome, params) ← surround joinPoint chain.around
        (callOriginal original joinPoint.receiver passed) params
      match outcome with
      | .error failure => pure (.error failure, params)
      | .ok result => runAfter joinPoint chain.after result params

/-- The body that takes the place of the original one. -/
def body (woven : WovenMethod S) : Body S := fun receiver passed => do
  writeLog (.callBegins woven.target)
  let (outcome, params) ← run woven.chain woven.original ⟨woven.target, receiver⟩ passed
    (Parameters.ofCall woven.method.parameters passed)
  writeLog (.callEnds woven.target)
  pure (outcome, params.overlay passed)

/-- The line that reports the making of a woven body. -/
def report (woven : WovenMethod S) : Event :=
  .synthesized woven.target woven.chain.before.length woven.chain.around.length
    woven.chain.after.length

/-! ### Equations -/

theorem runBefore_cons (joinPoint : JoinPoint) (invocation : Invocation (BeforeHandler S))
    (rest : List (Invocation (BeforeHandler S))) (params : Parameters) :
    runBefore joinPoint (invocation :: rest) params =
      ((invocation.handler joinPoint invocation.options).withParameters params).bind fun ended =>
        match ended.1 with
        | .error failure => .done (.error failure, ended.2)
        | .ok () => runBefore joinPoint rest ended.2 := rfl

theorem callOriginal_eq (original : Body S) (receiver : Receiver) (passed : List Value)
    (params : Parameters) :
    callOriginal original receiver passed params =
      (original receiver (params.overlay passed)).bind fun ended =>
        .done (ended.1, params.absorb ended.2) := rfl

theorem runAfter_cons (joinPoint : JoinPoint) (invocation : Invocation (AfterHandler S))
    (rest : List (Invocation (AfterHandler S))) (given : Value) (params : Parameters) :
    runAfter joinPoint (invocation :: rest) given params =
      ((invocation.handler joinPoint invocation.options given).withParameters params).bind
        fun ended =>
          match ended.1 with
          | .error failure => .done (.error failure, ended.2)
          | .ok next => runAfter joinPoint rest next ended.2 := rfl

/-- Runs the after handlers of a call if it has come to a result. -/
def finish (joinPoint : JoinPoint) (afters : List (Invocation (AfterHandler S)))
    (ended : Outcome × Parameters) : Program (Hosted S) (Outcome × Parameters) :=
  match ended.1 with
  | .error failure => .done (.error failure, ended.2)
  | .ok result => runAfter joinPoint afters result ended.2

theorem run_eq (chain : Chain S) (original : Body S) (joinPoint : JoinPoint)
    (passed : List Value) (params : Parameters) :
    run chain original joinPoint passed params =
      (runBefore joinPoint chain.before params).bind fun begun =>
        match begun.1 with
        | .error failure => .done (.error failure, begun.2)
        | .ok () =>
            (surround joinPoint chain.around
              (callOriginal original joinPoint.receiver passed) begun.2).bind
                (finish joinPoint chain.after) := rfl

theorem body_eq (woven : WovenMethod S) (receiver : Receiver) (passed : List Value) :
    woven.body receiver passed =
      (writeLog (.callBegins woven.target)).bind fun _ =>
        (run woven.chain woven.original ⟨woven.target, receiver⟩ passed
          (Parameters.ofCall woven.method.parameters passed)).bind fun ended =>
            (writeLog (.callEnds woven.target)).bind fun _ =>
              .done (ended.1, ended.2.overlay passed) := rfl

/-- A list of around handlers in two parts is the second part around the first. -/
theorem surround_append (joinPoint : JoinPoint)
    (inside outside : List (Invocation (AroundHandler S))) (inner : Layer S Outcome) :
    surround joinPoint (inside ++ outside) inner =
      surround joinPoint outside (surround joinPoint inside inner) :=
  List.foldl_append

end WovenMethod

end AspectWeaver
