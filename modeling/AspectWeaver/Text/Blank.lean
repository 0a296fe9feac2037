/-
**Blank characters, trimming and words.**

A character is blank when Unicode gives it the property `White_Space`. A word is a maximal run of
characters that are not blank.

* `mem_words` — **words are words**: every word of a text is non-empty and holds no blank.
* `words_append_blank` — a blank at the end changes no word.
-/

namespace AspectWeaver.Text

/-- A character of the Unicode property `White_Space`. -/
def isBlank (c : Char) : Bool :=
  (9 ≤ c.toNat && c.toNat ≤ 13) || c.toNat = 0x20 || c.toNat = 0x85 || c.toNat = 0xA0 ||
  c.toNat = 0x1680 || (0x2000 ≤ c.toNat && c.toNat ≤ 0x200A) || c.toNat = 0x2028 ||
  c.toNat = 0x2029 || c.toNat = 0x202F || c.toNat = 0x205F || c.toNat = 0x3000

/-- A space or a tab. -/
def isGap (c : Char) : Bool := c = ' ' || c = '\t'

/-- The text without the blanks at its end. -/
def trimEnd (text : List Char) : List Char := (text.reverse.dropWhile isBlank).reverse

/-- The text without the blanks at both ends. -/
def trim (text : List Char) : List Char := trimEnd (text.dropWhile isBlank)

/-- Whether the text begins with a character that is not blank. -/
def startsWord : List Char → Bool
  | [] => false
  | c :: _ => !isBlank c

/-- Puts a character in front of the first word. -/
def extendFirst (c : Char) : List (List Char) → List (List Char)
  | [] => [[c]]
  | word :: rest => (c :: word) :: rest

/-- The words of a text, in order. -/
def words : List Char → List (List Char)
  | [] => []
  | c :: rest =>
      if isBlank c then words rest
      else if startsWord rest then extendFirst c (words rest)
      else [c] :: words rest

/-- Every word is non-empty and holds no blank. -/
theorem mem_words {text word : List Char} (member : word ∈ words text) :
    word ≠ [] ∧ ∀ c ∈ word, isBlank c = false := by
  induction text generalizing word with
  | nil => simp [words] at member
  | cons c rest ih =>
      unfold words at member
      split at member
      · exact ih member
      · rename_i visible
        have visible : isBlank c = false := by simpa using visible
        split at member
        · cases split : words rest with
          | nil => simp [split, extendFirst] at member; simp [member, visible]
          | cons first others =>
              rw [split] at member ih
              simp only [extendFirst, List.mem_cons] at member
              rcases member with rfl | other
              · simp only [ne_eq, reduceCtorEq, not_false_eq_true, List.mem_cons,
                  forall_eq_or_imp, visible, true_and]
                exact (ih (List.mem_cons_self ..)).2
              · exact ih (List.mem_cons_of_mem _ other)
        · rcases List.mem_cons.mp member with rfl | other
          · simp [visible]
          · exact ih other

/-- A blank at the end changes no word. -/
theorem words_append_blank (text : List Char) (c : Char) (blank : isBlank c = true) :
    words (text ++ [c]) = words text := by
  induction text with
  | nil => simp [words, blank]
  | cons first rest ih =>
      have start : startsWord (rest ++ [c]) = startsWord rest := by
        cases rest <;> simp [startsWord, blank]
      simp [words, ih, start]

end AspectWeaver.Text
