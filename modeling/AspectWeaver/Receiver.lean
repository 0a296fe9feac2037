/-
**Receivers of calls and join points.**

A join point is one call of a woven method: the method by name, and the receiver of the call.
-/

import AspectWeaver.Method

namespace AspectWeaver

/-- What a method can be called on. -/
inductive Instance where
  /-- An object of the surrounding program, by its name there. -/
  | object (id : String)
  | number (value : UInt32)
  | text (content : String)
  /-- An instance of which nothing is known. -/
  | foreign
  deriving DecidableEq, Inhabited

/-- The receiver of a call. -/
inductive Receiver where
  /-- A static call: there is no instance. -/
  | static
  | on (target : Instance)
  deriving DecidableEq, Inhabited

namespace Receiver

/-- Whether there is no instance. -/
def isStatic : Receiver → Bool
  | .static => true
  | .on _ => false

/-- The instance, if it is a number. -/
def number? : Receiver → Option UInt32
  | .on (.number value) => some value
  | _ => none

/-- The instance, if it is a text. -/
def text? : Receiver → Option String
  | .on (.text content) => some content
  | _ => none

/-- The receiver in a debugging text, which tells nothing about the instance. -/
def sketch : Receiver → String
  | .static => "Static"
  | .on _ => "Instance(..)"

end Receiver

/-- One call of a woven method. -/
structure JoinPoint where
  target : MethodId
  receiver : Receiver
  deriving DecidableEq

/-- The method that is called, as a signature. -/
def JoinPoint.signature (joinPoint : JoinPoint) : String := joinPoint.target.signature

end AspectWeaver
