/-
**Standard advice: logging and timing.**

Logging writes a line when a call begins and a line when it ends; timing writes how long a call
took, and warns when that was longer than a threshold. Neither changes a parameter or a result.
-/

import AspectWeaver.Advice

namespace AspectWeaver

variable {S : Interface}

/-! ### Logging -/

/-- What the logging advice writes besides the method. -/
structure LoggingAdvice where
  showArguments : Bool := true
  showResult : Bool := true
  deriving DecidableEq

namespace LoggingAdvice

/-- Writes a line when a call begins. -/
def before (advice : LoggingAdvice) : BeforeHandler S := fun joinPoint options => do
  let params ← Advising.parameters
  let shown := if advice.showArguments then some (Parameters.snapshot params) else none
  Advising.host (.log (.entering joinPoint.target shown options))
  pure (.ok ())

/-- Writes a line when a call ends, and passes the result on. -/
def after (advice : LoggingAdvice) : AfterHandler S := fun joinPoint options result => do
  let shown := if advice.showResult then some result else none
  Advising.host (.log (.exiting joinPoint.target shown options))
  pure (.ok result)

end LoggingAdvice

/-! ### Timing -/

/-- The number that a text of decimal digits stands for, with or without a plus sign in front, if it
fits into 128 bits. -/
def wholeNumber? (text : String) : Option Nat :=
  let digits := match text.toList with
    | '+' :: rest => rest
    | letters => letters
  if digits.isEmpty || !digits.all Char.isDigit then none
  else
    let number := digits.foldl (fun value digit => 10 * value + (digit.toNat - '0'.toNat)) 0
    if number < 0x100000000000000000000000000000000 then some number else none

/-- The threshold of a call: the first option if it is a number, else the given one. -/
def thresholdOf (given : Nat) (options : List String) : Nat :=
  ((options.head?).bind wholeNumber?).getD given

/-- Writes how long the call took, however it ended, and passes the outcome on. -/
def timing (threshold : Nat) : AroundHandler S := fun joinPoint options => do
  let begun ← Surrounding.host .clock
  let outcome ← Surrounding.proceed
  let ended ← Surrounding.host .clock
  let limit := thresholdOf threshold options
  if ended - begun > limit then Surrounding.host (.log (.slow joinPoint.target limit))
  else Surrounding.host (.log (.timed joinPoint.target))
  pure outcome

/-! ### The standard functions -/

/-- The advice functions that come with the library: their names and handlers. -/
def standardFunctions : List (String × Handler S) :=
  [("log_entry", .before (LoggingAdvice.before {})),
   ("log_exit", .after (LoggingAdvice.after {})),
   ("time_call", .around (timing 500))]

end AspectWeaver
