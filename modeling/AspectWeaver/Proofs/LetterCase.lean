/-
**Which texts name a level, a format or a policy.**

A text is taken to lower case by the rules of Unicode and compared with words of small ASCII
letters. Of the characters beyond ASCII only the Kelvin sign becomes such a letter alone. So up to
the case of ASCII letters a text has to be one of the words, except that a Kelvin sign may stand for
a `k`.

* `SameLetters` — how texts compare up to the case of ASCII letters, said without Unicode.
* `lower_eq_or` — what a character can become in lower case.
* `lowercase_eq_iff_sameLetters` — **the lower case of a text is a word** exactly if the text has
  the letters of the word, with a `k` for each Kelvin sign.
* `trim_eq_iff` — the blanks around a text without blanks are what trimming takes away.
* `lookup_lowercase_iff` — which texts are found in a list of words.
* `isWord_eq_ok_iff` — comparing a text with one word after the other is looking it up. So levels,
  formats and policies are looked up in the lists of words that documents use.
* **`names_exact`** — **exactly the words are taken** as names of policies, levels and formats.
-/

import AspectWeaver.Proofs.Layout
import AspectWeaver.Settings
import Mathlib

namespace AspectWeaver

namespace Text

/-- A character with `k` for the Kelvin sign. -/
def plain (c : Char) : Char := if c = kelvinSign then 'k' else c

/-- The texts differ in the case of ASCII letters only. -/
def SameLetters (text word : List Char) : Prop :=
  text.map Char.toLower = word.map Char.toLower

instance (text word : List Char) : Decidable (SameLetters text word) :=
  inferInstanceAs (Decidable (text.map Char.toLower = word.map Char.toLower))

/-! ### Characters beyond ASCII -/

/-- Where the ASCII letters stand. -/
theorem isAlpha_iff {c : Char} : c.isAlpha = true ↔
    (0x41 ≤ c.toNat ∧ c.toNat ≤ 0x5A) ∨ (0x61 ≤ c.toNat ∧ c.toNat ≤ 0x7A) := by
  simp [Char.isAlpha, Char.isUpper, Char.isLower, UInt32.le_iff_toNat_le]

/-- A character beyond ASCII is no ASCII letter. -/
theorem isAlpha_of_beyond {c : Char} (beyond : 0x80 ≤ c.toNat) : c.isAlpha = false := by
  refine Bool.eq_false_iff.mpr fun letter => ?_
  have place := isAlpha_iff.mp letter
  omega

/-- The small letters of the runs are beyond ASCII, but for that of the Kelvin sign. -/
theorem mem_capitalRuns : ∀ run ∈ capitalRuns,
    0x80 ≤ run.small ∨ run.first = kelvinSign.toNat ∧ run.last = kelvinSign.toNat := by
  decide +kernel

/-- A run holds nothing outside its ends. -/
theorem CapitalRun.between {run : CapitalRun} {c : Char} (inside : run.holds c = true) :
    run.first ≤ c.toNat ∧ c.toNat ≤ run.last := by
  rw [CapitalRun.holds, Bool.and_eq_true, Bool.and_eq_true, decide_eq_true_iff,
    decide_eq_true_iff] at inside
  exact inside.1

/-- A small letter beyond ASCII is no ASCII letter. -/
theorem isAlpha_smallLetter {run : CapitalRun} (beyond : 0x80 ≤ run.small) (c : Char) :
    (run.smallLetter c).isAlpha = false := by
  rw [CapitalRun.smallLetter]
  by_cases valid : (run.small + (c.toNat - run.first)).isValidChar
  · refine isAlpha_of_beyond ?_
    rw [Char.toNat_ofNat, if_pos valid]
    omega
  · rw [Char.ofNat, dif_neg valid]
    rfl

/-- The Kelvin sign becomes `k`. -/
theorem lower_kelvinSign : lower kelvinSign = ['k'] := by
  decide +kernel

/-- Any other character beyond ASCII becomes something that holds a character beyond ASCII. -/
theorem exists_of_beyond {c : Char} (beyond : 0x80 ≤ c.toNat) (other : c ≠ kelvinSign) :
    ∃ x ∈ lower c, x.isAlpha = false := by
  rw [lower, if_neg (Nat.not_lt.mpr beyond)]
  by_cases dotted : c = '\u0130'
  · rw [if_pos dotted]
    exact ⟨'\u0307', List.mem_cons_of_mem _ List.mem_cons_self, rfl⟩
  rw [if_neg dotted]
  cases found : capitalRuns.find? (·.holds c) with
  | none => exact ⟨c, List.mem_cons_self, isAlpha_of_beyond beyond⟩
  | some run =>
      refine ⟨run.smallLetter c, List.mem_cons_self, ?_⟩
      rcases mem_capitalRuns run (List.mem_of_find?_eq_some found) with small | ⟨first, last⟩
      · exact isAlpha_smallLetter small c
      · -- such a run holds the Kelvin sign and nothing else
        have holds := List.find?_some found
        have between := CapitalRun.between holds
        have same : c.toNat = kelvinSign.toNat := by omega
        exact absurd (Char.toNat_inj.mp same) other

/-- A character becomes the small letter that it is in ASCII, with `k` for the Kelvin sign, or it is
no ASCII letter and becomes something that does not consist of ASCII letters. -/
theorem lower_eq_or (c : Char) :
    lower c = [(plain c).toLower] ∨
      (plain c).toLower.isAlpha = false ∧ ∃ x ∈ lower c, x.isAlpha = false := by
  by_cases kelvin : c = kelvinSign
  · subst kelvin
    exact .inl lower_kelvinSign
  rw [plain, if_neg kelvin, Char.isAlpha_toLower_eq_isAlpha]
  by_cases ascii : c.toNat < 0x80
  · exact .inl (by rw [lower, if_pos ascii])
  · have beyond := Nat.not_lt.mp ascii
    exact .inr ⟨isAlpha_of_beyond beyond, exists_of_beyond beyond kelvin⟩

/-! ### Texts up to letter case -/

/-- The lower case of a text is a word of ASCII letters exactly if its letters are, with a `k` for
each Kelvin sign. -/
theorem lowercase_eq_iff {text word : List Char} (letters : ∀ x ∈ word, x.isAlpha = true) :
    lowercase text = word ↔ text.map (fun c => (plain c).toLower) = word := by
  induction text generalizing word with
  | nil => rfl
  | cons c rest ih =>
      rw [lowercase, List.flatMap_cons, ← lowercase, List.map_cons]
      rcases lower_eq_or c with single | ⟨foreign, x, inside, other⟩
      · rw [single, List.singleton_append]
        cases word with
        | nil => exact iff_of_false nofun nofun
        | cons first others =>
            rw [List.cons.injEq, List.cons.injEq, ih (List.forall_mem_cons.mp letters).2]
      · constructor
        · rintro rfl
          have letter := letters x (List.mem_append_left _ inside)
          rw [other] at letter
          cases letter
        · rintro rfl
          have letter := letters _ List.mem_cons_self
          rw [foreign] at letter
          cases letter

/-- The small letters of a word are its letters. -/
theorem map_toLower {word : List Char} (small : ∀ x ∈ word, x.isLower = true) :
    word.map Char.toLower = word := by
  refine (List.map_congr_left fun x member => ?_).trans (List.map_id word)
  exact Char.toLower_eq_of_not_isUpper (Char.not_isUpper_of_isLower (small x member))

/-- A text is a word up to letter case exactly if it has the same letters, with a `k` for each
Kelvin sign. -/
theorem lowercase_eq_iff_sameLetters {text word : List Char}
    (small : ∀ x ∈ word, x.isLower = true) :
    lowercase text = word ↔ SameLetters (text.map plain) word := by
  have letters : ∀ x ∈ word, x.isAlpha = true := fun x member => by
    rw [Char.isAlpha, small x member, Bool.or_true]
  rw [lowercase_eq_iff letters, SameLetters, map_toLower small, List.map_map]
  rfl

/-- In a word without `k` no Kelvin sign can stand. -/
theorem sameLetters_map_plain_iff {text word : List Char}
    (small : ∀ x ∈ word, x.isLower = true) (other : 'k' ∉ word) :
    SameLetters (text.map plain) word ↔ SameLetters text word := by
  rw [SameLetters, SameLetters, map_toLower small]
  by_cases sign : kelvinSign ∈ text
  · refine iff_of_false (fun same => other ?_) (fun same => ?_)
    · rw [← same]
      exact List.mem_map_of_mem (List.mem_map_of_mem sign)
    · have inside : kelvinSign.toLower ∈ word := by
        rw [← same]
        exact List.mem_map_of_mem sign
      cases small _ inside
  · have kept : text.map plain = text :=
      (List.map_congr_left fun c member =>
        if_neg fun (same : c = kelvinSign) => sign (same ▸ member)).trans (List.map_id text)
    rw [kept]

/-! ### Blanks around a text -/

/-- What stands around a text that is trimmed is blank. -/
theorem exists_trim (text : List Char) :
    ∃ before after, text = before ++ trim text ++ after ∧
      (∀ c ∈ before, isBlank c = true) ∧ ∀ c ∈ after, isBlank c = true := by
  have front : text.takeWhile isBlank ++ text.dropWhile isBlank = text :=
    List.takeWhile_append_dropWhile
  have back : trim text ++ (text.dropWhile isBlank).rtakeWhile isBlank = text.dropWhile isBlank :=
    List.rdropWhile_append_rtakeWhile
  refine ⟨text.takeWhile isBlank, (text.dropWhile isBlank).rtakeWhile isBlank, ?_,
    fun c => List.mem_takeWhile_imp, fun c => List.mem_rtakeWhile_imp⟩
  rw [List.append_assoc, back, front]

/-- Without blanks a text stays as it is. -/
theorem trimEnd_solid {word : List Char} (solid : ∀ c ∈ word, isBlank c = false) :
    trimEnd word = word := by
  refine List.rdropWhile_eq_self_iff.mpr fun present blank => ?_
  rw [solid _ (List.getLast_mem present)] at blank
  cases blank

/-- An ASCII letter is not blank. -/
theorem isBlank_of_isAlpha {c : Char} (letter : c.isAlpha = true) : isBlank c = false := by
  have place := isAlpha_iff.mp letter
  simp only [isBlank, Bool.or_eq_false_iff, Bool.and_eq_false_iff, decide_eq_false_iff_not]
  omega

/-- A text is without blanks if it is a word up to letter case. -/
theorem solid_of_sameLetters {text word : List Char} (small : ∀ x ∈ word, x.isLower = true)
    (same : SameLetters (text.map plain) word) : ∀ c ∈ text, isBlank c = false := by
  intro c member
  rw [SameLetters, map_toLower small, List.map_map] at same
  have inside : (plain c).toLower ∈ word := by
    rw [← same]
    exact List.mem_map_of_mem member
  have letter : (plain c).isAlpha = true := by
    rw [← Char.isLower_toLower_eq_isAlpha]
    exact small _ inside
  by_cases kelvin : c = kelvinSign
  · subst kelvin
    rfl
  · rw [plain, if_neg kelvin] at letter
    exact isBlank_of_isAlpha letter

/-- The blanks around a text without blanks are what trimming takes away. -/
theorem trim_eq_iff {text word : List Char} (solid : ∀ c ∈ word, isBlank c = false) :
    trim text = word ↔ ∃ before after, text = before ++ word ++ after ∧
      (∀ c ∈ before, isBlank c = true) ∧ ∀ c ∈ after, isBlank c = true := by
  constructor
  · rintro rfl
    exact exists_trim text
  · rintro ⟨before, after, rfl, front, back⟩
    rw [trim, List.append_assoc, List.dropWhile_append_of_pos front]
    cases word with
    | nil =>
        rw [List.nil_append, List.dropWhile_eq_nil_iff.mpr back]
        rfl
    | cons c rest =>
        have here := solid c List.mem_cons_self
        rw [List.cons_append, List.dropWhile_cons_of_neg (Bool.eq_false_iff.mp here),
          ← List.cons_append, trimEnd_append back, trimEnd_solid solid]

end Text

/-! ### Lists of words -/

/-- With different words, what is looked up is what stands in the list. -/
theorem lookup_eq_some_iff_mem {α : Type} {words : List (String × α)}
    (distinct : (words.map Prod.fst).Nodup) {word : String} {value : α} :
    words.lookup word = some value ↔ (word, value) ∈ words := by
  rw [List.lookup_eq_some_iff]
  constructor
  · rintro ⟨before, after, rfl, -⟩
    exact List.mem_append_right _ List.mem_cons_self
  · intro member
    obtain ⟨before, after, rfl⟩ := List.append_of_mem member
    refine ⟨before, after, rfl, fun other inside => bne_iff_ne.mpr fun same => ?_⟩
    rw [List.map_append, List.nodup_append] at distinct
    exact distinct.2.2 other.1 (List.mem_map_of_mem inside) word List.mem_cons_self same.symm

/-- A text is looked up in a list of different words without regard to letter case. -/
theorem lookup_lowercase_iff {α : Type} {words : List (String × α)}
    (distinct : (words.map Prod.fst).Nodup)
    (small : ∀ word ∈ words.map Prod.fst, ∀ x ∈ word.toList, x.isLower = true)
    {text : List Char} {value : α} :
    words.lookup (String.ofList (Text.lowercase text)) = some value ↔
      ∃ word, (word, value) ∈ words ∧ Text.SameLetters (text.map Text.plain) word.toList := by
  rw [lookup_eq_some_iff_mem distinct]
  constructor
  · intro member
    refine ⟨_, member, (Text.lowercase_eq_iff_sameLetters ?_).mp String.toList_ofList.symm⟩
    exact small _ (List.mem_map_of_mem member)
  · rintro ⟨word, member, same⟩
    have lowered := (Text.lowercase_eq_iff_sameLetters
      (small word (List.mem_map_of_mem member))).mpr same
    rw [lowered, String.ofList_toList]
    exact member

/-- If no word has a `k`, the letters have to be those of a word. -/
theorem lookup_lowercase_iff_of_ascii {α : Type} {words : List (String × α)}
    (distinct : (words.map Prod.fst).Nodup)
    (small : ∀ word ∈ words.map Prod.fst, ∀ x ∈ word.toList, x.isLower = true)
    (other : ∀ word ∈ words.map Prod.fst, 'k' ∉ word.toList) {text : List Char} {value : α} :
    words.lookup (String.ofList (Text.lowercase text)) = some value ↔
      ∃ word, (word, value) ∈ words ∧ Text.SameLetters text word.toList := by
  rw [lookup_lowercase_iff distinct small]
  refine exists_congr fun word => and_congr_right fun member => ?_
  have inside := List.mem_map_of_mem (f := Prod.fst) member
  exact Text.sameLetters_map_plain_iff (small word inside) (other word inside)

/-- The word that a text is in lower case. -/
theorem isWord_eq (word : String) (text : List Char) :
    Text.isWord word text = (String.ofList (Text.lowercase text) == word) := by
  rw [Text.isWord, Bool.eq_iff_iff, beq_iff_eq, beq_iff_eq, ← String.toList_inj,
    String.toList_ofList]

/-- To compare a text with one word more is to look it up in a list that begins with the word. -/
theorem isWord_eq_ok_iff {ε α : Type} {words : List (String × α)} {text : List Char}
    {word : String} {first value : α} {otherwise : Except ε α}
    (rest : otherwise = .ok value ↔
      words.lookup (String.ofList (Text.lowercase text)) = some value) :
    (if Text.isWord word text then .ok first else otherwise) = .ok value ↔
      ((word, first) :: words).lookup (String.ofList (Text.lowercase text)) = some value := by
  rw [isWord_eq, List.lookup_cons]
  cases String.ofList (Text.lowercase text) == word with
  | true => simp
  | false => simpa using rest

/-- A level is looked up. -/
theorem Level.parse_eq_ok_iff {text : String} {level : Level} :
    Level.parse text = .ok level ↔
      levelWords.lookup (String.ofList (Text.lowercase text.toList)) = some level := by
  simp only [Level.parse, Bool.or_eq_true, ite_or]
  exact isWord_eq_ok_iff (isWord_eq_ok_iff (isWord_eq_ok_iff (isWord_eq_ok_iff
    (isWord_eq_ok_iff (isWord_eq_ok_iff (by simp))))))

/-- A format is looked up. -/
theorem LogFormat.parse_eq_ok_iff {text : String} {format : LogFormat} :
    LogFormat.parse text = .ok format ↔
      formatWords.lookup (String.ofList (Text.lowercase text.toList)) = some format :=
  isWord_eq_ok_iff (isWord_eq_ok_iff (isWord_eq_ok_iff (isWord_eq_ok_iff (by simp))))

/-- A policy is looked up without the blanks around it. -/
theorem ReweavePolicy.parse_eq_ok_iff {text : String} {policy : ReweavePolicy} :
    ReweavePolicy.parse text = .ok policy ↔
      policyWords.lookup (String.ofList (Text.lowercase (Text.trim text.toList))) =
        some policy :=
  isWord_eq_ok_iff (isWord_eq_ok_iff (by simp))

/-! ### Names -/

/-- Which texts are taken for a name, and what they name. -/
structure Recognised (text : String) : Prop where
  /-- A policy is named by a word of the list, up to the case of ASCII letters, with a Kelvin sign
  for any `k` and with blanks around it. -/
  policy {policy : ReweavePolicy} : ReweavePolicy.parse text = .ok policy ↔
    ∃ name before word after, (name, policy) ∈ policyWords ∧
      text.toList = before ++ word ++ after ∧
      (∀ c ∈ before, Text.isBlank c = true) ∧ (∀ c ∈ after, Text.isBlank c = true) ∧
      Text.SameLetters (word.map Text.plain) name.toList
  /-- A level is named by a word of the list up to the case of ASCII letters. -/
  level {level : Level} : Level.parse text = .ok level ↔
    ∃ name, (name, level) ∈ levelWords ∧ Text.SameLetters text.toList name.toList
  /-- A format is named by a word of the list up to the case of ASCII letters. -/
  format {format : LogFormat} : LogFormat.parse text = .ok format ↔
    ∃ name, (name, format) ∈ formatWords ∧ Text.SameLetters text.toList name.toList

/-- **Exactly the words are taken** as names, up to letter case. -/
theorem names_exact (text : String) : Recognised text := by
  constructor
  case policy =>
    intro policy
    have small : ∀ word ∈ policyWords.map Prod.fst, ∀ x ∈ word.toList, x.isLower = true := by
      simp [policyWords]
    rw [ReweavePolicy.parse_eq_ok_iff, lookup_lowercase_iff (by decide) small]
    constructor
    · rintro ⟨name, member, same⟩
      obtain ⟨before, after, whole, front, back⟩ := Text.exists_trim text.toList
      exact ⟨name, before, _, after, member, whole, front, back, same⟩
    · rintro ⟨name, before, word, after, member, whole, front, back, same⟩
      have solid := Text.solid_of_sameLetters (small name (List.mem_map_of_mem member)) same
      refine ⟨name, member, ?_⟩
      rw [(Text.trim_eq_iff solid).mpr ⟨before, after, whole, front, back⟩]
      exact same
  case level =>
    intro level
    rw [Level.parse_eq_ok_iff]
    exact lookup_lowercase_iff_of_ascii (by decide) (by simp [levelWords]) (by decide)
  case format =>
    intro format
    rw [LogFormat.parse_eq_ok_iff]
    exact lookup_lowercase_iff_of_ascii (by decide) (by simp [formatWords]) (by decide)

/-- A Kelvin sign stands for a `k`, so that a text names a policy without having the letters of any
word. -/
theorem parse_kelvinSign :
    ReweavePolicy.parse "s\u212Aip" = .ok .skip ∧
      ∀ entry ∈ policyWords,
        ¬ Text.SameLetters (Text.trim "s\u212Aip".toList) entry.1.toList := by
  decide

end AspectWeaver
