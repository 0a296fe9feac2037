/-
**Signed words of 64 bits, as integers.**
-/

namespace AspectWeaver

/-- Whether an integer is a signed word of 64 bits. -/
def Fits64 (number : Int) : Prop :=
  -0x8000000000000000 ≤ number ∧ number < 0x8000000000000000

instance (number : Int) : Decidable (Fits64 number) := inferInstanceAs (Decidable (_ ∧ _))

/-- The signed word that agrees with an integer in its last 64 bits. -/
def wrap64 (number : Int) : Int := number.bmod 0x10000000000000000

end AspectWeaver
