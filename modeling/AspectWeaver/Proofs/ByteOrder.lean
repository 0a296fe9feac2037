/-
**The order of texts is the order of their bytes.**

Texts are compared character by character, and characters by their scalar values. Compared byte by
byte in UTF-8 they come in the same order: the first byte of a character tells how many there are,
the more the greater it is, and the other bytes hold six bits each, the highest first.

* `sixBits_lt`, `twelveBits_lt`, `eighteenBits_lt` — the bytes behind the first one: the last, the
  last two and the last three.
* `utf8EncodeChar_append_lt` — **the bytes of a lesser character are less**, whatever comes after.
* **`bytes_lt`** — **the bytes of a lesser text are less.**
-/

import Mathlib.Data.String.Basic

namespace AspectWeaver.Text

/-- The bytes of a text, as UTF-8 gives them. -/
def bytes (text : String) : List UInt8 := text.toUTF8.data.toList

/-- The bytes of a text are those of its characters, one after the other. -/
theorem bytes_eq_flatMap (text : String) :
    bytes text = text.toList.flatMap String.utf8EncodeChar := by
  rw [bytes, String.toUTF8, ← String.utf8Encode_toList, List.utf8Encode,
    List.toList_data_toByteArray]

/-! ### Bytes -/

section Bytes

variable {m n : Nat} {first second : List UInt8}

/-- A lesser byte decides. -/
theorem byte_lt (less : m < n) (small : n < 256) :
    UInt8.ofNat m :: first < UInt8.ofNat n :: second := by
  rw [List.cons_lt_cons_iff, UInt8.lt_iff_toNat_lt, UInt8.toNat_ofNat', UInt8.toNat_ofNat']
  omega

/-- An equal byte leaves it to the bytes after it. -/
theorem byte_eq (same : m = n) (less : first < second) :
    UInt8.ofNat m :: first < UInt8.ofNat n :: second := by
  rw [List.cons_lt_cons_iff, same]
  exact .inr ⟨rfl, less⟩

/-- The last six bits decide if the bits before them are the same. -/
theorem sixBits_lt (less : m < n) (same : m / 64 = n / 64) :
    UInt8.ofNat (m % 64 + 128) :: first < UInt8.ofNat (n % 64 + 128) :: second :=
  byte_lt (by omega) (by omega)

/-- The last twelve bits decide if the bits before them are the same. -/
theorem twelveBits_lt (less : m < n) (same : m / 4096 = n / 4096) :
    UInt8.ofNat (m / 64 % 64 + 128) :: UInt8.ofNat (m % 64 + 128) :: first <
      UInt8.ofNat (n / 64 % 64 + 128) :: UInt8.ofNat (n % 64 + 128) :: second := by
  rcases Nat.lt_or_eq_of_le (Nat.div_le_div_right (c := 64) less.le) with higher | equal
  · exact sixBits_lt higher (by omega)
  · exact byte_eq (by rw [equal]) (sixBits_lt less equal)

/-- The last eighteen bits decide if the bits before them are the same. -/
theorem eighteenBits_lt (less : m < n) (same : m / 262144 = n / 262144) :
    UInt8.ofNat (m / 4096 % 64 + 128) :: UInt8.ofNat (m / 64 % 64 + 128) ::
        UInt8.ofNat (m % 64 + 128) :: first <
      UInt8.ofNat (n / 4096 % 64 + 128) :: UInt8.ofNat (n / 64 % 64 + 128) ::
        UInt8.ofNat (n % 64 + 128) :: second := by
  rcases Nat.lt_or_eq_of_le (Nat.div_le_div_right (c := 4096) less.le) with higher | equal
  · exact sixBits_lt higher (by omega)
  · exact byte_eq (by rw [equal]) (twelveBits_lt less equal)

end Bytes

/-! ### Characters -/

/-- The bytes of a lesser character are less, whatever comes after. -/
theorem utf8EncodeChar_append_lt {c d : Char} (less : c < d) (first second : List UInt8) :
    String.utf8EncodeChar c ++ first < String.utf8EncodeChar d ++ second := by
  have scalar : d.val.toNat < 0x110000 := by
    rcases d.valid with low | high
    · have low : d.val.toNat < 0xD800 := low
      omega
    · exact high.2
  rw [Char.lt_def, UInt32.lt_iff_toNat_lt] at less
  unfold String.utf8EncodeChar
  generalize c.val.toNat = m at less
  generalize d.val.toNat = n at less scalar
  dsimp only
  split_ifs
  -- characters of different lengths, and those of one byte, differ in the first byte
  all_goals first
    | exact byte_lt (by omega) (by omega)
    | omega
    | skip
  · rcases Nat.lt_or_eq_of_le (Nat.div_le_div_right (c := 64) less.le) with higher | equal
    · exact byte_lt (by omega) (by omega)
    · exact byte_eq (by rw [equal]) (sixBits_lt less equal)
  · rcases Nat.lt_or_eq_of_le (Nat.div_le_div_right (c := 4096) less.le) with higher | equal
    · exact byte_lt (by omega) (by omega)
    · exact byte_eq (by rw [equal]) (twelveBits_lt less equal)
  · rcases Nat.lt_or_eq_of_le (Nat.div_le_div_right (c := 262144) less.le) with higher | equal
    · exact byte_lt (by omega) (by omega)
    · exact byte_eq (by rw [equal]) (eighteenBits_lt less equal)

/-! ### Texts -/

/-- The bytes of lesser characters are less. -/
theorem flatMap_utf8EncodeChar_lt {first second : List Char} (less : first < second) :
    first.flatMap String.utf8EncodeChar < second.flatMap String.utf8EncodeChar := by
  induction less with
  | @nil c rest =>
      obtain ⟨byte, others, encoded⟩ := List.exists_cons_of_ne_nil
        (String.utf8EncodeChar_ne_nil (c := c))
      rw [List.flatMap_cons, encoded]
      exact List.nil_lt_cons byte _
  | cons _ ih => exact List.append_left_lt ih
  | rel less => exact utf8EncodeChar_append_lt less _ _

/-- **The bytes of a lesser text are less.** -/
theorem bytes_lt {first second : String} (less : first < second) : bytes first < bytes second := by
  rw [bytes_eq_flatMap, bytes_eq_flatMap]
  exact flatMap_utf8EncodeChar_lt (String.lt_iff_toList_lt.mp less)

end AspectWeaver.Text
