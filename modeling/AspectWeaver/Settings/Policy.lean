/-
**What to do with a method that is processed already when its class is woven again.**

* `parse_name` — the name of a policy reads back as the policy.
-/

import AspectWeaver.Settings.Error
import AspectWeaver.Text.Blank
import AspectWeaver.Text.LetterCase

namespace AspectWeaver

/-- What to do with a method that is processed already. -/
inductive ReweavePolicy where
  /-- Leaves it alone. -/
  | skip
  /-- Ends the weaving. -/
  | error
  deriving DecidableEq, Inhabited

namespace ReweavePolicy

/-- The name of a policy. -/
def name : ReweavePolicy → String
  | .skip => "skip"
  | .error => "error"

/-- The policy that a text names, without regard to letter case and blanks around it. -/
def parse (text : String) : Except SettingsError ReweavePolicy :=
  let word := Text.trim text.toList
  if Text.isWord "skip" word then .ok .skip
  else if Text.isWord "error" word then .ok .error
  else .error (.invalidValue "weaving.reweave" text)

/-- The name of a policy reads back as the policy. -/
theorem parse_name (policy : ReweavePolicy) : parse policy.name = .ok policy := by
  cases policy <;> rfl

end ReweavePolicy

end AspectWeaver
