/-
**Levels of log lines.**

* `parse_name` — the name of a level reads back as the level.
-/

import AspectWeaver.Text.LetterCase

namespace AspectWeaver

/-- How grave a log line is. -/
inductive Level where
  | trace
  | debug
  | info
  | warn
  | error
  deriving DecidableEq, Inhabited

namespace Level

/-- The name of a level. -/
def name : Level → String
  | .trace => "trace"
  | .debug => "debug"
  | .info => "info"
  | .warn => "warn"
  | .error => "error"

/-- The mark of a level in a log. -/
def mark : Level → String
  | .trace => "TRACE"
  | .debug => "DEBUG"
  | .info => "INFO"
  | .warn => "WARN"
  | .error => "ERROR"

/-- The level that a text names, without regard to letter case. -/
def parse (text : String) : Except String Level :=
  let letters := text.toList
  if Text.isWord "trace" letters then .ok .trace
  else if Text.isWord "debug" letters then .ok .debug
  else if Text.isWord "info" letters then .ok .info
  else if Text.isWord "warn" letters || Text.isWord "warning" letters then .ok .warn
  else if Text.isWord "error" letters then .ok .error
  else .error ("Invalid log level: " ++ text)

/-- The name of a level reads back as the level. -/
theorem parse_name (level : Level) : parse level.name = .ok level := by
  cases level <;> rfl

end Level

end AspectWeaver
