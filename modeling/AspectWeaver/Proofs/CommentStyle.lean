/-
**The style of a comment changes no directive in it.**

The same text can be written with either end of a line, as a comment of several lines with a star
in front of each, or, if it is one line, as a comment of one line. Such a comment adds nothing to a
line but what may stand in front of a directive anyway, and the end of a comment.

* `withReturns`, `blockComment`, `lineComment` — the three styles.
* `readLine_concat_return`, `readLine_starred`, `readLine_commented` — how a line is read in each.
* `ofLines_map` — where each line is read as before so are all, further down by the lines in front.
* **`parse_restyled`** — **the directives of a text are the same in each style**; in a comment of
  several lines each stands one line further down.
-/

import AspectWeaver.Proofs.Layout

namespace AspectWeaver

namespace Text

/-! ### Styles -/

/-- A text with a carriage return in front of each line feed. -/
def withReturns (text : List Char) : List Char :=
  text.flatMap fun c => if c = '\n' then ['\r', '\n'] else [c]

/-- The lines of a text in a comment of several lines: a star in front of each, and the beginning
and the end of the comment on lines of their own. -/
def blockComment (text : List Char) : List Char :=
  ['\n'].intercalate
    (['/', '*', '*'] :: ((text.splitOn '\n').map ([' ', '*', ' '] ++ ·) ++ [[' ', '*', '/']]))

/-- A line in a comment of one line. -/
def lineComment (line : List Char) : List Char := ['/', '*', '*', ' '] ++ (line ++ [' ', '*', '/'])

/-- Behind spaces and tabs a line begins as lines in a comment do: with a star, or with a slash and
a star. -/
def IsStarred (line : List Char) : Prop :=
  ['*'] <+: line.dropWhile isGap ∨ ['/', '*'] <+: line.dropWhile isGap

instance : DecidablePred IsStarred := fun _ => inferInstanceAs (Decidable (_ ∨ _))

/-! ### Lines and their ends -/

/-- A line of a text holds no line feed, and no character that the text does not hold. -/
theorem not_mem_of_mem_lines {text line : List Char} (member : line ∈ lines text) :
    '\n' ∉ line ∧ ∀ c ∈ line, c ∈ text := by
  rw [lines_eq_splitOn] at member
  obtain ⟨index, here⟩ := List.mem_iff_getElem?.mp member
  obtain ⟨before, after, rfl, single, _⟩ := getElem?_splitOn_iff.mp here
  exact ⟨single, fun c inside => by simp [inside]⟩

/-- A comment of several lines has the lines of the text between its first and its last one. -/
theorem lines_blockComment (text : List Char) :
    lines (blockComment text) =
      ['/', '*', '*'] :: ((lines text).map ([' ', '*', ' '] ++ ·) ++ [[' ', '*', '/']]) := by
  have single : ∀ line ∈
      ['/', '*', '*'] :: ((lines text).map ([' ', '*', ' '] ++ ·) ++ [[' ', '*', '/']]),
      '\n' ∉ line := by
    simp only [List.forall_mem_cons, List.forall_mem_append, List.forall_mem_map]
    refine ⟨by decide, fun line member => ?_, by decide, List.forall_mem_nil _⟩
    simpa using (not_mem_of_mem_lines member).1
  rw [blockComment, ← lines_eq_splitOn, lines_eq_splitOn (List.intercalate _ _),
    List.splitOn_intercalate '\n' single (List.cons_ne_nil _ _)]

/-- If something is left of a text at the end, what stands in front of it is left whole. -/
theorem trimEnd_append_of_ne_nil {text : List Char} (some : trimEnd text ≠ [])
    (front : List Char) : trimEnd (front ++ text) = front ++ trimEnd text := by
  have left : (text.reverse.dropWhile isBlank).isEmpty = false := by
    simpa [trimEnd, List.isEmpty_eq_false_iff] using some
  rw [trimEnd, List.reverse_append, List.dropWhile_append, left, if_neg Bool.false_ne_true,
    List.reverse_append, List.reverse_reverse, trimEnd]

end Text

namespace Directive

open Text (IsStarred isGap isNameChar)

/-! ### How a line is read in each style -/

section Line

variable {line : List Char}

/-- A line that does not begin as lines in a comment do has only spaces and tabs for a margin. -/
theorem dropMargin_of_not_starred (plain : ¬ IsStarred line) :
    dropMargin line = line.dropWhile isGap := by
  obtain ⟨unstarred, unopened⟩ := not_or.mp plain
  have unmarked : dropMarker (line.dropWhile isGap) = line.dropWhile isGap := by
    unfold dropMarker
    split
    · rename_i rest opened
      exact absurd ⟨rest, opened.symm⟩ unopened
    · cases text : line.dropWhile isGap with
      | nil => rfl
      | cons c rest =>
          have other : c ≠ '*' := by
            rintro rfl
            exact unstarred ⟨rest, text.symm⟩
          exact List.dropWhile_cons_of_neg (by simpa using other)
  rw [dropMargin, unmarked, List.dropWhile_idempotent]

/-- A line without carriage returns keeps its end. -/
theorem dropReturn_of_not_mem (single : '\r' ∉ line) : Text.dropReturn line = line := by
  have open' : line.getLast? ≠ some '\r' := fun last => single (List.mem_of_getLast? last)
  simpa using dropReturn_append open' (.inl rfl)

/-- How a line is read depends on what is left of it. -/
theorem readLine_congr {other : List Char}
    (same : dropMargin (Text.dropReturn line) = dropMargin (Text.dropReturn other)) :
    readLine line = readLine other := by
  rw [readLine, readLine, same]

/-- **A carriage return at the end changes nothing.** -/
theorem readLine_concat_return (single : '\r' ∉ line) :
    readLine (line ++ ['\r']) = readLine line := by
  have open' : line.getLast? ≠ some '\r' := fun last => single (List.mem_of_getLast? last)
  apply readLine_congr
  rw [dropReturn_append open' (.inr rfl), dropReturn_of_not_mem single]

/-- **A star in front changes nothing**, if there is none. -/
theorem readLine_starred (single : '\r' ∉ line) (plain : ¬ IsStarred line) :
    readLine ([' ', '*', ' '] ++ line) = readLine line := by
  apply readLine_congr
  rw [dropReturn_of_not_mem (by simpa using single), dropReturn_of_not_mem single,
    dropMargin_of_not_starred plain]
  rfl

/-- Behind a space a name does not go on, and neither does what stands in front of it. -/
theorem span_closed (rest : List Char) :
    (rest ++ [' ', '*', '/']).takeWhile isNameChar = rest.takeWhile isNameChar ∧
      (rest ++ [' ', '*', '/']).dropWhile isNameChar =
        rest.dropWhile isNameChar ++ [' ', '*', '/'] := by
  induction rest with
  | nil => exact ⟨rfl, rfl⟩
  | cons c rest ih =>
      obtain ⟨taken, left⟩ := ih
      cases plain : isNameChar c with
      | false => simp [plain]
      | true => simp [plain, taken, left]

/-- Whether something is a tail does not depend on the end of a comment behind it. -/
theorem isTail_closed (tail : List Char) : isTail (tail ++ [' ', '*', '/']) = isTail tail := by
  cases tail with
  | nil => rfl
  | cons c rest => simp [isTail]

/-- What a line says that has an at sign behind its margin. -/
theorem readLine_of_sign {rest : List Char}
    (sign : dropMargin (Text.dropReturn line) = '@' :: rest) :
    readLine line =
      if !(rest.takeWhile isNameChar).isEmpty && isTail (rest.dropWhile isNameChar) then
        some (rest.takeWhile isNameChar, rest.dropWhile isNameChar)
      else none := by
  rw [readLine, sign]
  rfl

/-- A line that has none there says nothing. -/
theorem readLine_eq_none (silent : ∀ rest, dropMargin (Text.dropReturn line) ≠ '@' :: rest) :
    readLine line = none := by
  unfold readLine
  split
  · rename_i rest sign
    exact absurd sign (silent rest)
  · rfl

/-- **In a comment of one line** a line has the same name as without it, and the end of the comment
is in its tail. -/
theorem readLine_commented (single : '\r' ∉ line) (plain : ¬ IsStarred line) :
    readLine (Text.lineComment line) =
      (readLine line).map fun parts => (parts.1, parts.2 ++ [' ', '*', '/']) := by
  have bare : dropMargin (Text.dropReturn line) = line.dropWhile isGap := by
    rw [dropReturn_of_not_mem single, dropMargin_of_not_starred plain]
  have opened : dropMargin (Text.lineComment line) =
      (line ++ [' ', '*', '/']).dropWhile isGap := rfl
  have dressed : dropMargin (Text.dropReturn (Text.lineComment line)) =
      if (line.dropWhile isGap).isEmpty then ['*', '/']
      else line.dropWhile isGap ++ [' ', '*', '/'] := by
    rw [dropReturn_of_not_mem (by simpa [Text.lineComment] using single), opened,
      List.dropWhile_append]
    rfl
  by_cases sign : ∃ rest, line.dropWhile isGap = '@' :: rest
  · obtain ⟨rest, sign⟩ := sign
    obtain ⟨taken, left⟩ := span_closed rest
    rw [sign] at bare dressed
    change _ = '@' :: (rest ++ [' ', '*', '/']) at dressed
    rw [readLine_of_sign bare, readLine_of_sign dressed, taken, left, isTail_closed]
    split <;> rfl
  · have silent : ∀ rest, dropMargin (Text.dropReturn line) ≠ '@' :: rest := by
      rw [bare]
      exact not_exists.mp sign
    rw [readLine_eq_none silent, readLine_eq_none]
    · rfl
    · intro rest
      rw [dressed]
      cases left : line.dropWhile isGap with
      | nil => simp
      | cons c others =>
          have other : c ≠ '@' := by
            rintro rfl
            exact sign ⟨others, left⟩
          simp [other]

end Line

/-! ### What a line says in each style -/

section Saying

variable {known : List String} {number : Nat} {line : List Char}

/-- A directive, this many lines further down. -/
def below (count : Nat) (directive : Directive) : Directive :=
  { directive with line := directive.line + count }

/-- A line says what the parts say that are read of it. -/
theorem ofLine?_congr {other : List Char} (same : readLine line = readLine other) :
    ofLine? known number line = ofLine? known number other := by
  rw [ofLine?, ofLine?, same]

/-- Further down a line says the same there. -/
theorem ofLine?_add (count : Nat) :
    ofLine? known (number + count) line = (ofLine? known number line).map (below count) := by
  unfold ofLine?
  cases readLine line with
  | none => rfl
  | some parts =>
      dsimp only
      split <;> rfl

/-- A line that is read of a text as it stands ends with its tail. -/
theorem IsLine.suffix {name tail : List Char} (form : IsLine line name tail)
    (single : '\r' ∉ line) : tail <:+ line := by
  cases form with
  | @line margin marker gap name tail ending margins marks gaps named plain tails ends =>
      have nothing : ending = [] := by
        rcases ends with rfl | rfl
        · rfl
        · simp at single
      exact ⟨margin ++ (marker ++ (gap ++ '@' :: name)), by simp [nothing]⟩

/-- The end of a comment behind a tail changes no option, if none was there before. -/
theorem optionsOf_commented {tail : List Char} (unclosed : ¬ ['*', '/'] <:+ Text.trimEnd tail) :
    optionsOf (tail ++ [' ', '*', '/']) = optionsOf tail := by
  rw [List.append_cons, optionsOf_closed, Text.words_append_blank tail ' ' rfl,
    optionsOf_of_unclosed unclosed]

/-- **In a comment of one line** a line says what it says without it, if it does not end as a
comment does. -/
theorem ofLine?_commented (single : '\r' ∉ line) (plain : ¬ IsStarred line)
    (unclosed : ¬ ['*', '/'] <:+ Text.trimEnd line) :
    ofLine? known number (Text.lineComment line) = ofLine? known number line := by
  unfold ofLine?
  rw [readLine_commented single plain]
  cases read : readLine line with
  | none => rfl
  | some parts =>
      obtain ⟨name, tail⟩ := parts
      obtain ⟨front, rfl⟩ := (readLine_eq_some_iff.mp read).suffix single
      have open' : ¬ ['*', '/'] <:+ Text.trimEnd tail := by
        intro closed
        have some : Text.trimEnd tail ≠ [] := by
          intro nothing
          simp [nothing] at closed
        rw [Text.trimEnd_append_of_ne_nil some] at unclosed
        exact unclosed (closed.trans (List.suffix_append _ _))
      simp only [Option.map_some, optionsOf_commented open']

end Saying

/-! ### What a text says in each style -/

section Text

variable {known : List String} {first : Nat}

/-- Where each line is read as before, so are all of them, further down by the lines in front. -/
theorem ofLines_map {dress : List Char → List Char} {lines : List (List Char)}
    (same : ∀ line ∈ lines, readLine (dress line) = readLine line) (count : Nat) :
    ofLines known (first + count) (lines.map dress) =
      (ofLines known first lines).map (below count) := by
  induction lines generalizing first with
  | nil => rfl
  | cons line rest ih =>
      obtain ⟨here, beyond⟩ := List.forall_mem_cons.mp same
      rw [List.map_cons, ofLines_cons, ofLines_cons, List.map_append, ofLine?_congr here,
        ofLine?_add, Nat.add_right_comm, ih beyond]
      cases ofLine? known first line <;> rfl

/-- Carriage returns in front of line feeds change nothing, if there are no others. -/
theorem ofLines_withReturns (front : List Char) {text : List Char} (single : '\n' ∉ front)
    (noReturn : '\r' ∉ front ++ text) :
    ofLines known first (Text.lines (front ++ Text.withReturns text)) =
      ofLines known first (Text.lines (front ++ text)) := by
  -- The characters of the line that the text begins in are moved to the front one by one.
  induction text generalizing front first with
  | nil => rfl
  | cons c rest ih =>
      by_cases feed : c = '\n'
      · subst feed
        have bare : '\r' ∉ front := fun member => noReturn (List.mem_append_left _ member)
        have further : '\r' ∉ [] ++ rest := fun member =>
          noReturn (List.mem_append_right _ (List.mem_cons_of_mem _ member))
        have ended : front ++ Text.withReturns ('\n' :: rest) =
            (front ++ ['\r']) ++ '\n' :: Text.withReturns rest := by
          simp [Text.withReturns]
        rw [ended, Text.lines_append (by simpa using single), Text.lines_append single,
          ofLines_cons, ofLines_cons, ofLine?_congr (readLine_concat_return bare)]
        exact congrArg _ (ih [] List.not_mem_nil further)
      · have moved : front ++ Text.withReturns (c :: rest) =
            (front ++ [c]) ++ Text.withReturns rest := by
          simp [Text.withReturns, feed]
        rw [List.append_cons] at noReturn
        rw [moved, List.append_cons front c rest, ih _ (by simp [single, Ne.symm feed]) noReturn]

/-- Two lists of lines say what each of them says, the second behind the lines of the first. -/
theorem ofLines_append (lines more : List (List Char)) :
    ofLines known first (lines ++ more) =
      ofLines known first lines ++ ofLines known (first + lines.length) more := by
  simp only [ofLines_eq_filterMap, List.zipIdx_append, List.filterMap_append]

/-- **With either end of a line** a text says the same. -/
theorem parse_withReturns {text : String} (noReturn : '\r' ∉ text.toList) (known : List String) :
    parse known (String.ofList (Text.withReturns text.toList)) = parse known text := by
  rw [parse, String.toList_ofList]
  exact ofLines_withReturns [] List.not_mem_nil noReturn

/-- **In a comment of several lines** a text says the same one line further down. -/
theorem parse_blockComment {text : String} (noReturn : '\r' ∉ text.toList)
    (plain : ∀ line ∈ text.toList.splitOn '\n', ¬ IsStarred line) (known : List String) :
    parse known (String.ofList (Text.blockComment text.toList)) =
      (parse known text).map (below 1) := by
  have same : ∀ line ∈ Text.lines text.toList,
      readLine ([' ', '*', ' '] ++ line) = readLine line := by
    intro line member
    have single : '\r' ∉ line := fun inside =>
      noReturn ((Text.not_mem_of_mem_lines member).2 _ inside)
    rw [Text.lines_eq_splitOn] at member
    exact readLine_starred single (plain line member)
  have opening : ofLine? known 1 ['/', '*', '*'] = none := rfl
  have closing (number : Nat) : ofLine? known number [' ', '*', '/'] = none := rfl
  rw [parse, String.toList_ofList, Text.lines_blockComment, ofLines_cons, opening, ofLines_append,
    ofLines_map same, ofLines_cons, closing]
  exact List.append_nil _

/-- **In a comment of one line** a line says the same, if it does not end as a comment does. -/
theorem parse_lineComment {line : String} (noReturn : '\r' ∉ line.toList)
    (plain : ¬ IsStarred line.toList) (single : '\n' ∉ line.toList)
    (unclosed : ¬ ['*', '/'] <:+ Text.trimEnd line.toList) (known : List String) :
    parse known (String.ofList (Text.lineComment line.toList)) = parse known line := by
  have alone : '\n' ∉ (String.ofList (Text.lineComment line.toList)).toList := by
    simpa [Text.lineComment] using single
  rw [parse_of_not_mem alone, parse_of_not_mem single, String.toList_ofList,
    ofLine?_commented noReturn plain unclosed]

/-- **A text has the same directives in each style**, if no line of it begins as lines in a comment
do: with carriage returns, in a comment of several lines, where each directive stands one line
further down, and in a comment of one line, if the text is a line that does not end as a comment
does. -/
theorem parse_restyled {text : String} (noReturn : '\r' ∉ text.toList)
    (plain : ∀ line ∈ text.toList.splitOn '\n', ¬ IsStarred line) (known : List String) :
    parse known (String.ofList (Text.withReturns text.toList)) = parse known text ∧
      parse known (String.ofList (Text.blockComment text.toList)) =
        (parse known text).map (below 1) ∧
      ('\n' ∉ text.toList → ¬ ['*', '/'] <:+ Text.trimEnd text.toList →
        parse known (String.ofList (Text.lineComment text.toList)) = parse known text) := by
  refine ⟨parse_withReturns noReturn known, parse_blockComment noReturn plain known,
    fun single unclosed => ?_⟩
  have alone : text.toList ∈ text.toList.splitOn '\n' := by simp [List.splitOn_eq_singleton single]
  exact parse_lineComment noReturn (plain _ alone) single unclosed known

/-- Two directives among prose, one with an option that ends as a comment does; and a directive on
the only line. -/
theorem parse_restyled_cache :
    parse ["after", "cache"] "Pays.\r\n\t@cache users 60\r\n\r\n  @after stamp*/" =
        [⟨"cache", ["users", "60"], 2⟩, ⟨"after", ["stamp"], 4⟩] ∧
      parse ["after", "cache"]
          "/**\n * Pays.\n * \t@cache users 60\n * \n *   @after stamp*/\n */" =
        [⟨"cache", ["users", "60"], 3⟩, ⟨"after", ["stamp"], 5⟩] ∧
      parse ["after", "cache"] "/**  @cache users*/ 60  */" =
        [⟨"cache", ["users*/", "60"], 1⟩] := by
  have several : '\r' ∉ "Pays.\n\t@cache users 60\n\n  @after stamp*/".toList := by decide +kernel
  have one : '\r' ∉ " @cache users*/ 60 ".toList := by decide +kernel
  obtain ⟨returns, block, _⟩ := parse_restyled several (by decide +kernel) ["after", "cache"]
  obtain ⟨_, _, comment⟩ := parse_restyled one (by decide +kernel) ["after", "cache"]
  have read : parse ["after", "cache"] "Pays.\n\t@cache users 60\n\n  @after stamp*/" =
      [⟨"cache", ["users", "60"], 2⟩, ⟨"after", ["stamp"], 4⟩] := by decide +kernel
  rw [read] at returns block
  refine ⟨returns, block, (comment (by decide +kernel) (by decide +kernel)).trans ?_⟩
  decide +kernel

end Text

end Directive

end AspectWeaver
