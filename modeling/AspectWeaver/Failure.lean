/-
**Failures of handlers and method bodies.**

A failure is a refusal of the library, an error of the settings, or what a handler or body raised by
itself, with a context around it if it gave one. A failure is passed on unchanged; it has a short
message, which is the outermost context, and a full one.
-/

import AspectWeaver.Refusal
import AspectWeaver.Settings.Error
import AspectWeaver.Value

namespace AspectWeaver

/-- Why a handler or a body ended without a result. -/
inductive Failure where
  | refused (cause : Refusal)
  | settings (cause : SettingsError)
  | raised (message : String) (context : Option String)
  deriving DecidableEq

namespace Failure

/-- The short message: the context, if there is one. -/
def message : Failure → String
  | .refused cause => cause.message
  | .settings cause => cause.message
  | .raised message context => context.getD message

/-- What a failure stems from, in words: what it has a context around, or what an error of the
settings stems from. -/
def source? : Failure → Option String
  | .refused _ => none
  | .settings cause => cause.source?
  | .raised message context => context.map fun _ => message

/-- The full message: the short one, and after it what the failure stems from. -/
def fullMessage (failure : Failure) : String :=
  match failure.source? with
  | some source => failure.message ++ ": " ++ source
  | none => failure.message

/-- The word for the kind of a failure. -/
def label : Failure → String
  | .refused cause => cause.label
  | .settings cause => cause.label
  | .raised _ _ => "Error"

end Failure

/-- How a handler or a body ended. -/
abbrev Outcome := Except Failure Value

end AspectWeaver
