/-
**Scripts: handlers, bodies and steps as data.**

A scenario is a list of steps: operations on a registry, on a table of classes and on woven
methods. Handlers and bodies are given as lists of acts, and an act may perform a step itself, so
that handlers can call and weave while they run.
-/

import AspectWeaver.Advice.Standard
import AspectWeaver.Directive

namespace AspectWeaver.Scenario

/-- What a step is performed on. -/
inductive Target where
  /-- The receiver of the call that the step is part of. -/
  | self
  | given (receiver : Receiver)

/-- The arguments of a step. -/
inductive Arguments where
  /-- The arguments of the call that the step is part of, as they are now. -/
  | current
  | given (values : List Value)

/-- A list of acts with a label, by which its runs are recorded. -/
structure Script (Act : Type) where
  label : String
  acts : List Act
  deriving Inhabited

/-- A handler as data. -/
inductive HandlerScript (Act : Type) where
  | info (script : Script Act)
  | before (script : Script Act)
  | after (script : Script Act)
  | around (script : Script Act)
  | loggingBefore (advice : LoggingAdvice)
  | loggingAfter (advice : LoggingAdvice)
  | timing (threshold : Nat)
  deriving Inhabited

/-- A method with its body as data. -/
structure MethodScript (Act : Type) where
  method : Method
  body : Script Act
  deriving Inhabited

/-- A step. -/
inductive Step (Act : Type) where
  -- the registry
  | register (name : String) (handler : HandlerScript Act) (code : Int)
  | function (name : String) (handler : HandlerScript Act)
  | standardFunctions
  | autoLoad
  | registry
  | lookup (name : String)
  | parse (text : String)
  | chain (target : MethodId) (directives : List Directive)
  | synthesize (className : String) (method : MethodScript Act) (directives : List Directive)
      (receiver : Target) (arguments : Arguments)
  -- the table of classes
  | define (className : String) (methods : List (MethodScript Act))
  | rename (target : MethodId) (name : String)
  | install (className : String) (method : MethodScript Act)
  | replace (target : MethodId) (body : Script Act)
  | mark (target : MethodId)
  | alias (target source : MethodId)
  | methods (className : String)
  | method (target : MethodId)
  | flags (className : String)
  | invoke (target : MethodId) (receiver : Target) (site : CallSite) (arguments : Arguments)
  | call (target : MethodId) (receiver : Target) (arguments : Arguments)
  | callBody (target : MethodId) (receiver : Target) (arguments : Arguments)
  | object (id : String)
  -- weaving
  | weave (className : String) (policy document : Option String) (shared : Bool)
  deriving Inhabited

/-- An act of a handler or body. -/
inductive Act where
  | note (text : String)
  | finish (value : Value)
  /-- Ends the script with the result as it is. -/
  | stop
  | fail (message : String) (context : Option String)
  | sleep (duration : Nat)
  | ifOption (index : Nat) (expected : String) (acts : List Act)
  | step (step : Step Act) (raises keeps : Bool)
  | suffix (text : String)
  | add (amount : Int)
  | wrap
  -- parameters
  | set (name : String) (value : Value)
  | update (name : String) (inner : Option (String × Value)) (times : Option String) (amount : Int)
  | copy (source target : String)
  | get (name : String)
  | survey (asked : Option String)
  -- around handlers
  | proceed (catches : Bool)
  -- arguments
  | argument (index : Nat)
  | setArgument (index : Nat) (value : Value)
  | addArgument (index : Nat) (amount : Int)
  | ifArgument (index : Nat) (expected : Value) (acts : List Act)
  -- the receiver
  | addField (name : String) (amount : Int)
  | readField (name : String)
  deriving Inhabited

/-- A step whose receiver and arguments are those of the running call, made definite. -/
def Step.within (receiver : Receiver) (arguments : List Value) (step : Step Act) : Step Act :=
  let onReceiver : Target → Target
    | .self => .given receiver
    | target => target
  let withArguments : Arguments → Arguments
    | .current => .given arguments
    | given => given
  match step with
  | .synthesize owner script asked target given =>
      .synthesize owner script asked (onReceiver target) (withArguments given)
  | .invoke called target site given =>
      .invoke called (onReceiver target) site (withArguments given)
  | .call called target given => .call called (onReceiver target) (withArguments given)
  | .callBody called target given => .callBody called (onReceiver target) (withArguments given)
  | other => other

/-! ### What acts ask of the scenario -/

/-- The fields of an object. -/
abbrev Fields := List (String × Value)

/-- What came of a step: its result, and the arguments as they are afterwards if it had any. -/
structure Answer where
  outcome : Outcome
  arguments : Option (List Value) := none

/-- A request of a running script to its scenario. -/
inductive Query where
  | record (entry : Value)
  | sleep (duration : Nat)
  | readObject (id : String)
  | writeObject (id : String) (fields : Fields)
  | perform (step : Step Act)

/-- The reply to a request of a running script. -/
@[reducible] def Query.Reply : Query → Type
  | .record _ => Unit
  | .sleep _ => Unit
  | .readObject _ => Fields
  | .writeObject _ _ => Unit
  | .perform _ => Answer

/-- The services of a scenario. -/
abbrev Services : Interface := ⟨Query, Query.Reply⟩

end AspectWeaver.Scenario
