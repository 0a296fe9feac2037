/-
**Refusals: why an operation of the library is not carried out.**

Each cause is a constructor that carries what the message mentions; the wording stands in `message`
alone. Failures of handlers and of method bodies are no refusals: they are passed on as they are
(`Failure`).
-/

import AspectWeaver.Kind
import AspectWeaver.Method

namespace AspectWeaver

/-- The place of a directive: its name, the method it is written on, and its line there. -/
structure DirectiveSite where
  target : MethodId
  directive : String
  line : Nat
  deriving DecidableEq

/-- The place of a directive, in words. -/
def DirectiveSite.describe (site : DirectiveSite) : String :=
  "@" ++ site.directive ++ " on " ++ site.target.signature ++ " (line " ++ toString site.line ++ ")"

/-- Why an operation is refused. -/
inductive Refusal where
  -- registration
  | invalidName (name : String)
  | reservedName (name : String)
  | duplicateName (name : String)
  | notInvocable (name : String) (expected : Kind)
  | invalidKind (code : Int)
  -- weaving
  | classNotFound (className : String)
  | alreadyWoven (target : MethodId)
  | missingHandler (site : DirectiveSite)
  | unknownHandler (site : DirectiveSite) (function : String)
  | handlerKindMismatch (site : DirectiveSite) (function : String) (expected actual : Kind)
  | infoHandlerFailed (target : MethodId) (directive reason : String)
  -- the table of classes
  | methodNotFound (target : MethodId)
  | methodExists (target : MethodId)
  | malformedSignature (target : MethodId) (fault : SignatureFault)
  -- calls
  | missingArgument (target : MethodId) (parameter : String)
  | tooManyArguments (target : MethodId) (expected given : Nat)
  | missingReceiver (target : MethodId)
  | notAccessible (target : MethodId) (visibility : Visibility) (site : CallSite)
  deriving DecidableEq

namespace Refusal

/-- The wording of a refusal. -/
def message : Refusal → String
  | .invalidName name => "Invalid annotation name '" ++ name ++ "'"
  | .reservedName name => "Annotation \"" ++ name ++ "\" is reserved"
  | .duplicateName name => "Annotation \"" ++ name ++ "\" already registered"
  | .notInvocable name expected =>
      "Handler for '" ++ name ++ "' cannot be invoked as " ++ expected.name ++ " advice"
  | .invalidKind code => "Invalid annotation type " ++ toString code
  | .classNotFound className => "Class " ++ className ++ " does not exist"
  | .alreadyWoven target => "Method " ++ target.signature ++ " is already woven"
  | .missingHandler site => site.describe ++ " names no handler function"
  | .unknownHandler site function =>
      site.describe ++ " names unknown function '" ++ function ++ "'"
  | .handlerKindMismatch site function expected actual =>
      site.describe ++ " names '" ++ function ++ "', a " ++ actual.name ++ " handler, not " ++
        expected.name
  | .infoHandlerFailed target directive reason =>
      "@" ++ directive ++ " on " ++ target.signature ++ " failed: " ++ reason
  | .methodNotFound target => "Method " ++ target.signature ++ " does not exist"
  | .methodExists target => "Method " ++ target.signature ++ " already exists"
  | .malformedSignature target fault =>
      "Malformed signature for " ++ target.signature ++ ": " ++ fault.message
  | .missingArgument target parameter =>
      "Missing argument $" ++ parameter ++ " for " ++ target.signature
  | .tooManyArguments target expected given =>
      target.signature ++ " expects at most " ++ toString expected ++ " argument(s), " ++
        toString given ++ " given"
  | .missingReceiver target =>
      "Non-static method " ++ target.signature ++ " called without an instance"
  | .notAccessible target visibility site =>
      "Call to " ++ visibility.name ++ " method " ++ target.signature ++ " from " ++ site.name ++
        " scope"

/-- The word for the kind of a refusal. -/
def label : Refusal → String
  | .invalidName _ => "InvalidName"
  | .reservedName _ => "ReservedName"
  | .duplicateName _ => "DuplicateName"
  | .notInvocable _ _ => "NotInvocable"
  | .invalidKind _ => "InvalidType"
  | .classNotFound _ => "ClassNotFound"
  | .alreadyWoven _ => "AlreadyWoven"
  | .missingHandler _ => "MissingHandler"
  | .unknownHandler _ _ => "UnknownHandler"
  | .handlerKindMismatch _ _ _ _ => "HandlerKindMismatch"
  | .infoHandlerFailed _ _ _ => "InfoHandlerFailed"
  | .methodNotFound _ => "MethodNotFound"
  | .methodExists _ => "MethodExists"
  | .malformedSignature _ _ => "MalformedSignature"
  | .missingArgument _ _ => "MissingArgument"
  | .tooManyArguments _ _ _ => "TooManyArguments"
  | .missingReceiver _ => "MissingReceiver"
  | .notAccessible _ _ _ => "NotAccessible"

end Refusal

end AspectWeaver
