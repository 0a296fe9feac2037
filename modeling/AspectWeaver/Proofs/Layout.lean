/-
**Directives that are written down are read back.**

Whoever documents a method writes each directive on a line of its own, in a layout of its own: a
margin, perhaps the beginning of a comment, the name, the options spread over the line, and perhaps
the end of the comment. Lines without an at sign stand between the directives, and any line may end
with a carriage return in front of its line feed.

* `Spread`, `IsClose`, `Writes`, `Page` — how options, the end of a line, a line and a text are
  written. They say nothing about how a text is read.
* `lines_append`, `words_append` — a text is read line by line, and a line word by word.
* `optionsOf_closed`, `optionsOf_of_unclosed` — which options are in a tail, with the end of a
  comment and without.
* `Writes.gives` — a line that is written for a directive gives this directive.
* **`parse_page`** — **the directives of a text are those that were written**, each on its line.
-/

import AspectWeaver.Proofs.Grammar

namespace AspectWeaver

namespace Text

/-! ### Line by line -/

/-- A text without a line feed is one line. -/
theorem lines_of_not_mem {line : List Char} (single : '\n' ∉ line) : lines line = [line] := by
  rw [lines_eq_splitOn, List.splitOn_eq_singleton single]

/-- What stands before the first line feed is the first line, and the other lines stand behind. -/
theorem lines_append {line : List Char} (single : '\n' ∉ line) (rest : List Char) :
    lines (line ++ '\n' :: rest) = line :: lines rest := by
  rw [lines_eq_splitOn, lines_eq_splitOn, List.splitOn_append_cons_self_of_not_mem single]

/-! ### Word by word -/

/-- Spaces and tabs are blank. -/
theorem isBlank_of_isGap {c : Char} (gap : isGap c = true) : isBlank c = true := by
  have either : c = ' ' ∨ c = '\t' := by simpa [isGap] using gap
  rcases either with rfl | rfl <;> rfl

/-- Blanks in front change no word. -/
theorem words_blanks_append {blanks : List Char} (blank : ∀ c ∈ blanks, isBlank c = true)
    (text : List Char) : words (blanks ++ text) = words text := by
  induction blanks with
  | nil => rfl
  | cons c others ih =>
      obtain ⟨here, beyond⟩ := List.forall_mem_cons.mp blank
      rw [List.cons_append, words, if_pos here, ih beyond]

/-- Blanks behind change no word. -/
theorem words_append_blanks {blanks : List Char} (blank : ∀ c ∈ blanks, isBlank c = true)
    (text : List Char) : words (text ++ blanks) = words text := by
  induction blanks generalizing text with
  | nil => rw [List.append_nil]
  | cons c others ih =>
      obtain ⟨here, beyond⟩ := List.forall_mem_cons.mp blank
      rw [List.append_cons, ih beyond, words_append_blank text c here]

/-- Without the blanks at its end a text has the same words. -/
theorem words_trimEnd (text : List Char) : words (trimEnd text) = words text := by
  have whole : trimEnd text ++ text.rtakeWhile isBlank = text := List.rdropWhile_append_rtakeWhile
  have blank : ∀ c ∈ text.rtakeWhile isBlank, isBlank c = true :=
    fun c => List.mem_rtakeWhile_imp
  rw [← words_append_blanks blank (trimEnd text), whole]

/-- Blanks behind a text are part of its end. -/
theorem trimEnd_append {blanks : List Char} (blank : ∀ c ∈ blanks, isBlank c = true)
    (text : List Char) : trimEnd (text ++ blanks) = trimEnd text := by
  have turned : ∀ c ∈ blanks.reverse, isBlank c = true := by simpa using blank
  rw [trimEnd, List.reverse_append, List.dropWhile_append_of_pos turned, trimEnd]

/-- A word in front of a text that does not begin with one is the first word. -/
theorem words_append {word text : List Char} (present : word ≠ [])
    (visible : ∀ c ∈ word, isBlank c = false) (apart : startsWord text = false) :
    words (word ++ text) = word :: words text := by
  induction word with
  | nil => exact absurd rfl present
  | cons c others ih =>
      obtain ⟨here, beyond⟩ := List.forall_mem_cons.mp visible
      rw [List.cons_append, words, if_neg (by simp [here])]
      cases others with
      | nil => rw [List.nil_append, apart, if_neg Bool.false_ne_true]
      | cons d more =>
          have goesOn : startsWord (d :: more ++ text) = true := by
            simp [startsWord, beyond d List.mem_cons_self]
          rw [if_pos goesOn, ih (List.cons_ne_nil d more) beyond]
          rfl

end Text

namespace Directive

/-! ### How a directive is written -/

/-- Options one after the other, each behind some spaces and tabs. -/
inductive Spread : List String → List Char → Prop where
  | nothing : Spread [] []
  | option {gap text : List Char} {option : String} {others : List String} (apart : gap ≠ [])
      (gaps : ∀ c ∈ gap, Text.isGap c = true) (present : option ≠ "")
      (visible : ∀ c ∈ option.toList, Text.isBlank c = false) (spread : Spread others text) :
      Spread (option :: others) (gap ++ (option.toList ++ text))

/-- What stands behind the options of a directive: spaces and tabs, or some of them and the end of a
comment. Where no comment ends the last option must not end as a comment does. -/
inductive IsClose (options : List String) : List Char → Prop where
  | blank {gap : List Char} (gaps : ∀ c ∈ gap, Text.isGap c = true)
      (unclosed : ∀ last ∈ options.getLast?, ¬ ['*', '/'] <:+ last.toList) : IsClose options gap
  | comment {gap : List Char} (apart : gap ≠ []) (gaps : ∀ c ∈ gap, Text.isGap c = true) :
      IsClose options (gap ++ ['*', '/'])

/-- A line that is written for a directive: spaces and tabs, perhaps the beginning of a comment,
spaces and tabs, an at sign, the name, the options, and what stands behind them. -/
inductive Writes (name : String) (options : List String) : List Char → Prop where
  | line {margin marker gap text close : List Char}
      (margins : ∀ c ∈ margin, Text.isGap c = true) (marks : IsMarker marker)
      (gaps : ∀ c ∈ gap, Text.isGap c = true) (named : name ≠ "")
      (plain : ∀ c ∈ name.toList, Text.isNameChar c = true) (spread : Spread options text)
      (closes : IsClose options close) :
      Writes name options
        (margin ++ (marker ++ (gap ++ '@' :: (name.toList ++ (text ++ close)))))

/-- A line of this number, with the directives that are written on it: none if there is no at sign
on it, or one of a known name. -/
inductive Piece (known : List String) (number : Nat) : List Char → List Directive → Prop where
  | prose {line : List Char} (silent : '@' ∉ line) (single : '\n' ∉ line) :
      Piece known number line []
  | directive {name : String} {options : List String} {line : List Char} (isKnown : name ∈ known)
      (writes : Writes name options line) : Piece known number line [⟨name, options, number⟩]

/-- A text of which the first line has this number, with the directives that are written in it. The
last line ends with the text, and any other with a line feed, perhaps behind a carriage return. -/
inductive Page (known : List String) : Nat → List Char → List Directive → Prop where
  | last {number : Nat} {line : List Char} {directives : List Directive}
      (piece : Piece known number line directives) : Page known number line directives
  | line {number : Nat} {line ending rest : List Char} {first others : List Directive}
      (piece : Piece known number line first) (ends : ending = [] ∨ ending = ['\r'])
      (page : Page known (number + 1) rest others) :
      Page known number (line ++ (ending ++ '\n' :: rest)) (first ++ others)

/-! ### Which options are read -/

/-- The end of a comment is no option. -/
theorem optionsOf_closed (text : List Char) :
    optionsOf (text ++ ['*', '/']) = (Text.words text).map String.ofList := by
  have kept : Text.trimEnd (text ++ ['*', '/']) = text ++ ['*', '/'] := by
    rw [List.append_cons]
    exact List.rdropWhile_concat_neg Text.isBlank (text ++ ['*']) '/' (by decide)
  rw [optionsOf, kept, dropCommentEnd_append]

/-- Without it all words are options. -/
theorem optionsOf_of_unclosed {tail : List Char} (unclosed : ¬ ['*', '/'] <:+ Text.trimEnd tail) :
    optionsOf tail = (Text.words tail).map String.ofList := by
  rw [optionsOf, dropCommentEnd_of_not_suffix unclosed, Text.words_trimEnd]

section Spread

variable {options : List String} {text close : List Char}

/-- Options that are spread begin with a space or tab. -/
theorem Spread.isGap_head (spread : Spread options text) :
    ∀ c ∈ text.head?, Text.isGap c = true := by
  cases spread with
  | nothing => exact fun c member => nomatch member
  | @option gap text option others apart gaps present visible spread =>
      obtain ⟨c, more, rfl⟩ := List.exists_cons_of_ne_nil apart
      intro d member
      cases member
      exact gaps c List.mem_cons_self

/-- Options that are spread are the words of what is written. -/
theorem Spread.words (spread : Spread options text) :
    Text.words text = options.map String.toList := by
  induction spread with
  | nothing => rfl
  | @option gap text option others apart gaps present visible spread ih =>
      have blank : ∀ c ∈ gap, Text.isBlank c = true :=
        fun c member => Text.isBlank_of_isGap (gaps c member)
      have ends : Text.startsWord text = false := by
        cases text with
        | nil => rfl
        | cons c rest =>
            have gap := spread.isGap_head c rfl
            rw [Text.startsWord, Text.isBlank_of_isGap gap]
            rfl
      have letters : option.toList ≠ [] := fun none => present (String.toList_eq_nil_iff.mp none)
      rw [Text.words_blanks_append blank, Text.words_append letters visible ends, ih]
      rfl

/-- Where options are spread they end with the last one, and a space or tab stands before it. -/
theorem Spread.exists_last (spread : Spread options text) (some : options ≠ []) :
    ∃ front gap last, text = front ++ gap :: last.toList ∧ Text.isGap gap = true ∧ last ≠ "" ∧
      (∀ c ∈ last.toList, Text.isBlank c = false) ∧ options.getLast? = .some last := by
  induction spread with
  | nothing => exact absurd rfl some
  | @option gap text option others apart gaps present visible spread ih =>
      cases others with
      | nil =>
          cases spread
          obtain ⟨before, c, rfl⟩ := (List.eq_nil_or_concat' gap).resolve_left apart
          refine ⟨before, c, option, by simp, gaps c (by simp), present, visible, rfl⟩
      | cons next others =>
          obtain ⟨front, c, last, rfl, rest⟩ := ih (List.cons_ne_nil next others)
          refine ⟨gap ++ (option.toList ++ front), c, last, by simp, ?_⟩
          rwa [List.getLast?_cons_cons]

/-- The options that are spread over a line end as a comment does only if the last one does: it
cannot be its slash alone, for no star is a space or tab. -/
theorem Spread.not_suffix (spread : Spread options text)
    (unclosed : ∀ last ∈ options.getLast?, ¬ ['*', '/'] <:+ last.toList) :
    ¬ ['*', '/'] <:+ text := by
  rcases eq_or_ne options [] with rfl | some
  · cases spread
    simp
  · obtain ⟨front, gap, last, rfl, blank, present, _, ends⟩ := spread.exists_last some
    rintro ⟨before, closed⟩
    have letters : last.toList ≠ [] := fun none => present (String.toList_eq_nil_iff.mp none)
    obtain ⟨word, c, split⟩ := (List.eq_nil_or_concat' last.toList).resolve_left letters
    rw [split, List.append_cons before, ← List.cons_append, ← List.append_assoc] at closed
    obtain ⟨starred, slash⟩ := List.append_inj' closed rfl
    obtain rfl : '/' = c := List.singleton_inj.mp slash
    rcases List.eq_nil_or_concat' word with rfl | ⟨letters, d, rfl⟩
    · obtain ⟨_, star⟩ := List.append_inj' starred rfl
      rw [← List.singleton_inj.mp star] at blank
      cases blank
    · rw [← List.cons_append, ← List.append_assoc] at starred
      obtain ⟨_, star⟩ := List.append_inj' starred rfl
      obtain rfl : '*' = d := List.singleton_inj.mp star
      exact unclosed last ends ⟨letters, by rw [split, List.append_assoc]; rfl⟩

/-- Where options are spread no blank stands at the end. -/
theorem Spread.trimEnd (spread : Spread options text) : Text.trimEnd text = text := by
  refine List.rdropWhile_eq_self_iff.mpr fun some => ?_
  have present : options ≠ [] := by
    rintro rfl
    cases spread
    exact some rfl
  obtain ⟨front, gap, last, rfl, _, letters, visible, _⟩ := spread.exists_last present
  have word : last.toList ≠ [] := fun none => letters (String.toList_eq_nil_iff.mp none)
  rw [List.getLast_append_of_ne_nil _ (List.cons_ne_nil gap last.toList), List.getLast_cons word,
    visible _ (List.getLast_mem word)]
  exact Bool.false_ne_true

/-- **Options are read as they were spread**, whatever stands behind them. -/
theorem Spread.optionsOf (spread : Spread options text) (closes : IsClose options close) :
    optionsOf (text ++ close) = options := by
  have read : options.map (String.ofList ∘ String.toList) = options := by simp
  cases closes with
  | blank gaps unclosed =>
      have blank : ∀ c ∈ close, Text.isBlank c = true :=
        fun c member => Text.isBlank_of_isGap (gaps c member)
      have ends : ¬ ['*', '/'] <:+ Text.trimEnd (text ++ close) := by
        rw [Text.trimEnd_append blank, spread.trimEnd]
        exact spread.not_suffix unclosed
      rw [optionsOf_of_unclosed ends, Text.words_append_blanks blank, spread.words, List.map_map,
        read]
  | @comment gap apart gaps =>
      have blank : ∀ c ∈ gap, Text.isBlank c = true :=
        fun c member => Text.isBlank_of_isGap (gaps c member)
      rw [← List.append_assoc, optionsOf_closed, Text.words_append_blanks blank, spread.words,
        List.map_map, read]

/-- What holds of spaces, tabs and what is not blank holds of options that are spread. -/
theorem Spread.forall (spread : Spread options text) {holds : Char → Prop}
    (gap : ∀ c, Text.isGap c = true → holds c) (visible : ∀ c, Text.isBlank c = false → holds c) :
    ∀ c ∈ text, holds c := by
  induction spread with
  | nothing => exact List.forall_mem_nil _
  | option apart gaps present letters spread ih =>
      simp only [List.forall_mem_append]
      refine ⟨fun c member => gap c (gaps c member), fun c member => ?_, ih⟩
      exact visible c (letters c member)

/-- What is written behind the name of a directive does not end a line. -/
theorem Spread.single (spread : Spread options text) (closes : IsClose options close) :
    ∀ c ∈ text ++ close, c ≠ '\r' ∧ c ≠ '\n' := by
  have gap (c : Char) (blank : Text.isGap c = true) : c ≠ '\r' ∧ c ≠ '\n' := by
    constructor <;> (rintro rfl; cases blank)
  have visible (c : Char) (letter : Text.isBlank c = false) : c ≠ '\r' ∧ c ≠ '\n' := by
    constructor <;> (rintro rfl; cases letter)
  rw [List.forall_mem_append]
  refine ⟨spread.forall gap visible, ?_⟩
  cases closes with
  | blank gaps unclosed => exact fun c member => gap c (gaps c member)
  | comment apart gaps =>
      rw [List.forall_mem_append]
      exact ⟨fun c member => gap c (gaps c member), by simp⟩

/-- What is written behind the name of a directive is its tail. -/
theorem Spread.isTail (spread : Spread options text) (closes : IsClose options close) :
    IsTail (text ++ close) := by
  have begins : ∀ c ∈ (text ++ close).head?, Text.isGap c = true := by
    cases text with
    | cons c rest => exact spread.isGap_head
    | nil =>
        intro c member
        cases closes with
        | blank gaps unclosed => exact gaps c (List.mem_of_mem_head? member)
        | @comment gap apart gaps =>
            obtain ⟨d, more, rfl⟩ := List.exists_cons_of_ne_nil apart
            cases member
            exact gaps c List.mem_cons_self
  have single := spread.single closes
  cases whole : text ++ close with
  | nil => exact .nothing
  | cons c rest =>
      rw [whole] at begins single
      exact .options (begins c rfl) fun member =>
        (single _ (List.mem_cons_of_mem c member)).1 rfl

end Spread

/-! ### Reading what is written -/

section Reading

variable {known : List String} {number : Nat} {line ending : List Char}
  {directives : List Directive}

/-- A line that is written for a directive is a directive line, and its options are read back. -/
theorem Writes.exists_form {name : String} {options : List String}
    (writes : Writes name options line) (ends : ending = [] ∨ ending = ['\r']) :
    ∃ tail, IsLine (line ++ ending) name.toList tail ∧ '\n' ∉ tail ∧ optionsOf tail = options := by
  cases writes with
  | @line margin marker gap text close margins marks gaps named plain spread closes =>
      have letters : name.toList ≠ [] := fun none => named (String.toList_eq_nil_iff.mp none)
      have form := IsLine.line margins marks gaps letters plain (spread.isTail closes) ends
      refine ⟨text ++ close, by simpa using form, fun member => ?_, spread.optionsOf closes⟩
      exact (spread.single closes _ member).2 rfl

/-- **A line that is written for a directive says this directive.** -/
theorem Writes.gives {name : String} {options : List String}
    (writes : Writes name options line) (isKnown : name ∈ known)
    (ends : ending = [] ∨ ending = ['\r']) (number : Nat) :
    Gives known (line ++ ending) ⟨name, options, number⟩ := by
  obtain ⟨tail, form, _, read⟩ := writes.exists_form ends
  have given : Gives known (line ++ ending) ⟨String.ofList name.toList, options, number⟩ :=
    .gives form (by simpa using isKnown) (isOptions_iff.mpr read.symm)
  rwa [String.ofList_toList] at given

/-- There is an at sign on a directive line. -/
theorem IsLine.mem_sign {name tail : List Char} (form : IsLine line name tail) : '@' ∈ line := by
  cases form
  simp

/-- A line that is written holds no line feed. -/
theorem Piece.single (piece : Piece known number line directives) : '\n' ∉ line := by
  cases piece with
  | prose silent single => exact single
  | directive isKnown writes =>
      obtain ⟨tail, form, single, _⟩ := writes.exists_form (.inl rfl)
      rw [List.append_nil] at form
      exact form.not_mem_feed.mpr single

/-- A line is read as it was written, with a carriage return at its end or without. -/
theorem Piece.read (piece : Piece known number line directives)
    (ends : ending = [] ∨ ending = ['\r']) :
    (ofLine? known number (line ++ ending)).toList = directives := by
  cases piece with
  | directive isKnown writes =>
      rw [ofLine?_eq_some_iff.mpr ⟨rfl, writes.gives isKnown ends number⟩]
      rfl
  | prose silent single =>
      have none : ofLine? known number (line ++ ending) = none := by
        refine Option.eq_none_iff_forall_ne_some.mpr fun directive read => ?_
        obtain ⟨_, form, _, _⟩ := ofLine?_eq_some_iff.mp read
        rcases List.mem_append.mp form.mem_sign with inside | behind
        · exact silent inside
        · rcases ends with rfl | rfl <;> simp at behind
      rw [none]
      rfl

/-- The directives of a line come before those of the lines after it. -/
theorem ofLines_cons (known : List String) (number : Nat) (line : List Char)
    (rest : List (List Char)) :
    ofLines known number (line :: rest) =
      (ofLine? known number line).toList ++ ofLines known (number + 1) rest := by
  rw [ofLines]
  cases ofLine? known number line <;> rfl

/-- The text of a single line has at most the directive of the line. -/
theorem parse_of_not_mem {text : String} (single : '\n' ∉ text.toList) (known : List String) :
    parse known text = (ofLine? known 1 text.toList).toList := by
  rw [parse, Text.lines_of_not_mem single, ofLines_cons]
  exact List.append_nil _

/-- The lines of a page are read as they were written. -/
theorem Page.read {text : List Char} (page : Page known number text directives) :
    ofLines known number (Text.lines text) = directives := by
  induction page with
  | last piece =>
      have read := piece.read (.inl rfl)
      rw [List.append_nil] at read
      rw [Text.lines_of_not_mem piece.single, ofLines_cons, read]
      exact List.append_nil _
  | @line number line ending rest first others piece ends page ih =>
      have single : '\n' ∉ line ++ ending := by
        rw [List.mem_append, not_or]
        refine ⟨piece.single, ?_⟩
        rcases ends with rfl | rfl <;> simp
      rw [← List.append_assoc, Text.lines_append single, ofLines_cons, piece.read ends, ih]

/-- **The directives of a text are those that were written**, in their order, each with its name and
options and the number of its line; and so they are if the text is a documentation. -/
theorem parse_page {text : String} (page : Page known 1 text.toList directives) :
    parse known text = directives ∧ parseDocumentation known (some text) = directives := by
  rw [parseDocumentation_some]
  exact ⟨page.read, page.read⟩

/-- A text in several layouts: both ends of a line, every beginning of a comment, the end of one,
an option that ends as a comment does, and a name without options. -/
theorem parse_page_mixed :
    Page ["before", "after", "cache"] 1
        "Moves money.\r\n \t/** @cache  users\t60 */\r\n\n\t* @before stamp*/ 3 \n@after".toList
        [⟨"cache", ["users", "60"], 2⟩, ⟨"before", ["stamp*/", "3"], 4⟩, ⟨"after", [], 5⟩] ∧
      parse ["before", "after", "cache"]
          "Moves money.\r\n \t/** @cache  users\t60 */\r\n\n\t* @before stamp*/ 3 \n@after" =
        [⟨"cache", ["users", "60"], 2⟩, ⟨"before", ["stamp*/", "3"], 4⟩, ⟨"after", [], 5⟩] := by
  have gap : ∀ c ∈ [' '], Text.isGap c = true := by simp [Text.isGap]
  have users : Spread ["users", "60"]
      ([' ', ' '] ++ ("users".toList ++ (['\t'] ++ ("60".toList ++ [])))) :=
    .option (by decide) (by simp [Text.isGap]) (by decide) (by simp [Text.isBlank])
      (.option (by decide) (by simp [Text.isGap]) (by decide) (by simp [Text.isBlank]) .nothing)
  have stamp : Spread ["stamp*/", "3"]
      ([' '] ++ ("stamp*/".toList ++ ([' '] ++ ("3".toList ++ [])))) :=
    .option (by decide) gap (by decide) (by simp [Text.isBlank])
      (.option (by decide) gap (by decide) (by simp [Text.isBlank]) .nothing)
  have cache : Writes "cache" ["users", "60"] ([' ', '\t'] ++ (['/', '*', '*'] ++ ([' '] ++ '@' ::
      ("cache".toList ++ (([' ', ' '] ++ ("users".toList ++ (['\t'] ++ ("60".toList ++ [])))) ++
        ([' '] ++ ['*', '/'])))))) :=
    .line (by simp [Text.isGap]) (.opened (by decide) (by simp)) gap (by decide)
      (by simp [Text.isNameChar]) users (.comment (by decide) gap)
  have before : Writes "before" ["stamp*/", "3"] (['\t'] ++ (['*'] ++ ([' '] ++ '@' ::
      ("before".toList ++ (([' '] ++ ("stamp*/".toList ++ ([' '] ++ ("3".toList ++ [])))) ++
        [' ']))))) :=
    .line (by simp [Text.isGap]) (.stars (by decide) (by simp)) gap (by decide)
      (by simp [Text.isNameChar]) stamp (.blank gap (by decide))
  have after : Writes "after" [] ([] ++ ([] ++ ([] ++ '@' :: ("after".toList ++ ([] ++ []))))) :=
    .line (List.forall_mem_nil _) .nothing (List.forall_mem_nil _) (by decide)
      (by simp [Text.isNameChar]) .nothing (.blank (List.forall_mem_nil _) (by decide))
  have prose : Piece ["before", "after", "cache"] 1 "Moves money.".toList [] :=
    .prose (by decide) (by decide)
  have page : Page ["before", "after", "cache"] 1
      "Moves money.\r\n \t/** @cache  users\t60 */\r\n\n\t* @before stamp*/ 3 \n@after".toList
      [⟨"cache", ["users", "60"], 2⟩, ⟨"before", ["stamp*/", "3"], 4⟩, ⟨"after", [], 5⟩] :=
    .line prose (.inr rfl)
      (.line (.directive (by decide) cache) (.inr rfl)
        (.line (.prose List.not_mem_nil List.not_mem_nil) (.inl rfl)
          (.line (.directive (by decide) before) (.inl rfl)
            (.last (.directive (by decide) after)))))
  exact ⟨page, (parse_page page).1⟩

end Reading

end Directive

end AspectWeaver
