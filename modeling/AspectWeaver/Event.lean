/-
**Events: what the library writes to the log.**

Each constructor is one line of the log. A line has a level and a message; the lines of the standard
logging advice have the options of the directive as tags too. A duration is written `<t>`, so that
the lines of two runs compare.
-/

import AspectWeaver.Level
import AspectWeaver.Refusal
import AspectWeaver.Text.Quoted
import AspectWeaver.Value.Compact

namespace AspectWeaver

/-- A line of the log. -/
inductive Event where
  -- registration
  | registering (name : String) (kind : Kind)
  | definingFunction (name : String) (kind : Kind)
  | loadingFunction (name : String)
  | loadingBinding (name : String) (kind : Kind)
  | loaded (count : Nat)
  | standardSkipped (name : String) (cause : Refusal)
  -- the table of classes
  | definingClass (className : String) (methods : Nat)
  | classReplaced (className : String)
  | renamed (target : MethodId) (name : String)
  | installed (target : MethodId)
  -- weaving
  | weaving (className : String) (methods : Nat)
  | skipping (target : MethodId)
  | runningInfo (directive : String) (target : MethodId)
  | nothingToWrap (target : MethodId)
  | wrapping (target : MethodId) (advice : Nat)
  | synthesized (target : MethodId) (before around after : Nat)
  | woven (className : String) (wrapped skipped infoRuns : Nat)
  -- calls
  | callBegins (target : MethodId)
  | callEnds (target : MethodId)
  -- standard advice
  | entering (target : MethodId) (arguments : Option Value) (tags : List String)
  | exiting (target : MethodId) (result : Option Value) (tags : List String)
  | slow (target : MethodId) (threshold : Nat)
  | timed (target : MethodId)

namespace Event

/-- The level of a line. -/
def level : Event → Level
  | .loaded _ | .woven _ _ _ _ | .entering _ _ _ | .exiting _ _ _ => .info
  | .standardSkipped _ _ | .classReplaced _ | .skipping _ | .slow _ _ => .warn
  | .callBegins _ | .callEnds _ => .trace
  | _ => .debug

/-- The message of a line. -/
def message : Event → String
  | .registering name kind => "Registering annotation @" ++ name ++ " (" ++ kind.name ++ ")"
  | .definingFunction name kind =>
      "Defining advice function '" ++ name ++ "' (" ++ kind.name ++ ")"
  | .loadingFunction name => "  ├─ Loading advice function: " ++ name
  | .loadingBinding name kind =>
      "  ├─ Loading annotation: @" ++ name ++ " (" ++ kind.name ++ ")"
  | .loaded count =>
      "Auto-loaded " ++ toString count ++ " annotation(s) and advice function(s)"
  | .standardSkipped name cause =>
      "Skipping standard advice function '" ++ name ++ "': " ++ cause.message
  | .definingClass className methods =>
      "Defining class '" ++ className ++ "' with " ++ toString methods ++ " method(s)"
  | .classReplaced className =>
      "Class '" ++ className ++ "' was already defined, definition replaced"
  | .renamed target name => "Renamed " ++ target.signature ++ " to " ++ name
  | .installed target => "Installed " ++ target.signature
  | .weaving className methods =>
      "🔷 Weaving class " ++ className ++ " (" ++ toString methods ++ " method(s))"
  | .skipping target => "⚠️ " ++ target.signature ++ " was already processed, skipping"
  | .runningInfo directive target => "Running @" ++ directive ++ " for " ++ target.signature
  | .nothingToWrap target => target.signature ++ " has no runtime advice"
  | .wrapping target advice =>
      "  ├─ " ++ target.signature ++ " (" ++ toString advice ++ " advice)"
  | .synthesized target before around after =>
      "Synthesized " ++ target.signature ++ " (" ++ toString before ++ " before, " ++
        toString around ++ " around, " ++ toString after ++ " after)"
  | .woven className wrapped skipped infoRuns =>
      "Woven " ++ className ++ ": " ++ toString wrapped ++ " wrapped, " ++ toString skipped ++
        " skipped, " ++ toString infoRuns ++ " info handler(s) run"
  | .callBegins target => "Woven call: " ++ target.signature
  | .callEnds target => "Woven call finished: " ++ target.signature ++ " (<t>)"
  | .entering target none _ => "→ Entering: " ++ target.signature
  | .entering target (some arguments) _ =>
      "→ Entering: " ++ target.signature ++ " " ++ arguments.compact
  | .exiting target none _ => "← Exiting: " ++ target.signature ++ " (took <t>)"
  | .exiting target (some result) _ =>
      "← Exiting: " ++ target.signature ++ " = " ++ result.compact ++ " (took <t>)"
  | .slow target threshold =>
      "⚠️ Slow method detected: " ++ target.signature ++ " took <t>ms (threshold: " ++
        toString threshold ++ "ms)"
  | .timed target => target.signature ++ " took <t>ms"

/-- The tags of a line, if lines of its sort have any. -/
def tags? : Event → Option (List String)
  | .entering _ _ tags | .exiting _ _ tags => some tags
  | _ => none

end Event

end AspectWeaver
