/-
**Chains of advice: what the directives of one method ask for.**

A built-in directive names an advice function with its first option; an annotation is bound to its
handler, and all its options are for the handler. Directives are taken in order. A directive of the
kind `info` runs its handler at once and leaves nothing in the chain; any other adds its handler to
the list of its kind. The first directive that fails ends the building.

* `extend_refused` — **the first failure ends it**: what does not resolve stops the building, and
  nothing after it runs.
-/

import AspectWeaver.Directive
import AspectWeaver.Registry

namespace AspectWeaver

variable {S : Interface}

/-- A handler with the options of the directive that asks for it. -/
structure Invocation (H : Type) where
  directive : String
  handler : H
  options : List String

/-- The advice of one method, each list in the order of the directives. -/
structure Chain (S : Interface) where
  before : List (Invocation (BeforeHandler S)) := []
  /-- The last of these is the outermost. -/
  around : List (Invocation (AroundHandler S)) := []
  after : List (Invocation (AfterHandler S)) := []
  /-- How many `info` handlers ran while the chain was built. -/
  infoRuns : Nat := 0

namespace Chain

/-- How many handlers take part in a call. -/
def size (chain : Chain S) : Nat :=
  chain.before.length + chain.after.length + chain.around.length

/-- Whether no handler takes part in a call. -/
def isEmpty (chain : Chain S) : Bool :=
  chain.before.isEmpty && chain.after.isEmpty && chain.around.isEmpty

/-- The handler that a directive asks for, and the options that are left for it. -/
def resolve (registry : Registry S) (target : MethodId) (directive : Directive) :
    Except Refusal (Handler S × List String) :=
  let site : DirectiveSite := ⟨target, directive.name, directive.line⟩
  match kindNamed? directive.name with
  | none =>
      match registry.find? directive.name with
      | none => .error (.unknownHandler site directive.name)
      | some binding => .ok (binding.handler, directive.options)
  | some kind =>
      match directive.options with
      | [] => .error (.missingHandler site)
      | name :: options =>
          match registry.function? name with
          | none => .error (.unknownHandler site name)
          | some handler =>
              if handler.kind = kind then .ok (handler, options)
              else .error (.handlerKindMismatch site name kind handler.kind)

/-- Builds the rest of a chain from the directives that are left. -/
def extend (registry : Registry S) (target : MethodId) :
    List Directive → Chain S → Program (Hosted S) (Except Refusal (Chain S))
  | [], chain => .done (.ok chain)
  | directive :: rest, chain =>
      match resolve registry target directive with
      | .error cause => .done (.error cause)
      | .ok (.info handle, options) => do
          writeLog (.runningInfo directive.name target)
          match ← handle target options with
          | .error failure =>
              pure (.error (.infoHandlerFailed target directive.name failure.fullMessage))
          | .ok () => extend registry target rest { chain with infoRuns := chain.infoRuns + 1 }
      | .ok (.before handle, options) =>
          extend registry target rest
            { chain with before := chain.before ++ [⟨directive.name, handle, options⟩] }
      | .ok (.after handle, options) =>
          extend registry target rest
            { chain with after := chain.after ++ [⟨directive.name, handle, options⟩] }
      | .ok (.around handle, options) =>
          extend registry target rest
            { chain with around := chain.around ++ [⟨directive.name, handle, options⟩] }

/-- Builds the chain of a method from its directives. -/
def build (registry : Registry S) (target : MethodId) (directives : List Directive) :
    Program (Hosted S) (Except Refusal (Chain S)) :=
  extend registry target directives {}

/-- A directive that does not resolve ends the building. -/
theorem extend_refused {registry : Registry S} {target : MethodId} {directive : Directive}
    {cause : Refusal} (refused : resolve registry target directive = .error cause)
    (rest : List Directive) (chain : Chain S) :
    extend registry target (directive :: rest) chain = .done (.error cause) := by
  simp [extend, refused]

end Chain

end AspectWeaver
