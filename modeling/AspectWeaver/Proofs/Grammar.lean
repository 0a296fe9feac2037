/-
**What the directives of a text are: its lines that keep to a grammar.**

The grammar says of a line what it is made of, and nothing about how it is read. It is unambiguous,
so the name and the tail of a directive line are fixed by the line.

* `lines_eq_splitOn`, `words_eq_splitOnP` — lines are what stands between line feeds, and words are
  what stands between blanks, as far as anything does.
* `readLine_eq_some_iff` — **a line is read exactly if it keeps to the grammar**, and then it is
  read as the grammar says.
* `mem_parse_iff`, `mem_parse_iff_occurs` — what is a directive, line by line, and in the text as a
  whole.
* **`parse_exact`** — **the directives of a text are those of its directive lines**, one of each
  line and in their order.
-/

import AspectWeaver.Directive
import Mathlib.Data.List.DropRight
import Mathlib.Data.List.Nodup

namespace AspectWeaver

/-! ### Pieces of a text -/

namespace Text

/-- The lines of a text are its pieces between line feeds. -/
theorem lines_eq_splitOn (text : List Char) : lines text = text.splitOn '\n' := by
  induction text with
  | nil => rfl
  | cons c rest ih =>
      obtain ⟨first, others, split⟩ := List.exists_cons_of_ne_nil (List.splitOn_ne_nil '\n' rest)
      rw [lines, List.splitOn_cons_eq_if_modifyHead, ih, split]
      by_cases feed : c = '\n' <;> simp [feed, extendFirst]

/-- The first piece of a text between blanks is empty exactly if the text does not start with a
word. -/
theorem exists_splitOnP (text : List Char) :
    ∃ first others, text.splitOnP isBlank = first :: others ∧
      first.isEmpty = !startsWord text := by
  cases text with
  | nil => exact ⟨[], [], rfl, rfl⟩
  | cons c rest =>
      obtain ⟨first, others, split⟩ :=
        List.exists_cons_of_ne_nil (List.splitOnP_ne_nil isBlank rest)
      rw [List.splitOnP_cons_eq_if_modifyHead, split]
      cases blank : isBlank c with
      | true => exact ⟨[], first :: others, by simp, by simp [startsWord, blank]⟩
      | false => exact ⟨c :: first, others, by simp, by simp [startsWord, blank]⟩

/-- The words of a text are its pieces between blanks that are not empty. -/
theorem words_eq_splitOnP (text : List Char) :
    words text = (text.splitOnP isBlank).filter fun piece => !piece.isEmpty := by
  induction text with
  | nil => rfl
  | cons c rest ih =>
      obtain ⟨first, others, split, starts⟩ := exists_splitOnP rest
      rw [words, List.splitOnP_cons_eq_if_modifyHead, ih, split]
      cases blank : isBlank c with
      | true => simp
      | false =>
          cases word : startsWord rest with
          | true => simp [starts, word, extendFirst]
          | false =>
              have nothing : first = [] := by simpa [word] using starts
              simp [nothing]

/-- A text has one piece more than it has separators. -/
theorem length_splitOn (separator : Char) (text : List Char) :
    (text.splitOn separator).length = text.count separator + 1 := by
  induction text with
  | nil => rfl
  | cons c rest ih =>
      rw [List.splitOn_cons_eq_if_modifyHead, List.count_cons]
      by_cases here : c = separator <;> simp [here, ih]

/-- A stretch without separators that nothing or a separator stands behind is the first piece. -/
theorem exists_splitOn_of_not_mem {separator : Char} {piece after : List Char}
    (whole : separator ∉ piece) (ends : after = [] ∨ after.head? = some separator) :
    ∃ others, (piece ++ after).splitOn separator = piece :: others := by
  rcases ends with rfl | follows
  · rw [List.append_nil]
    exact ⟨[], List.splitOn_eq_singleton whole⟩
  · obtain ⟨rest, rfl⟩ := List.head?_eq_some_iff.mp follows
    exact ⟨_, List.splitOn_append_cons_self_of_not_mem whole rest⟩

/-- A piece of a text is a stretch without separators that nothing or a separator stands in front of
and nothing or a separator behind, and its number is that of the separators before it. -/
theorem getElem?_splitOn_iff {separator : Char} {text piece : List Char} {index : Nat} :
    (text.splitOn separator)[index]? = some piece ↔
      ∃ before after, text = before ++ (piece ++ after) ∧ separator ∉ piece ∧
        (before = [] ∨ before.getLast? = some separator) ∧
        (after = [] ∨ after.head? = some separator) ∧ before.count separator = index := by
  constructor
  · intro here
    induction index generalizing text with
    | zero =>
        by_cases more : separator ∈ text
        · obtain ⟨first, rest, rfl, whole⟩ := List.eq_append_cons_of_mem more
          rw [List.splitOn_append_cons_self_of_not_mem whole] at here
          cases here
          exact ⟨[], separator :: rest, rfl, whole, .inl rfl, .inr rfl, rfl⟩
        · rw [List.splitOn_eq_singleton more] at here
          cases here
          exact ⟨[], [], (List.append_nil piece).symm, more, .inl rfl, .inl rfl, rfl⟩
    | succ index ih =>
        by_cases more : separator ∈ text
        · obtain ⟨first, rest, rfl, whole⟩ := List.eq_append_cons_of_mem more
          rw [List.splitOn_append_cons_self_of_not_mem whole] at here
          obtain ⟨before, after, rfl, within, begins, ends, rfl⟩ := ih here
          refine ⟨first ++ separator :: before, after, by simp, within, .inr ?_, ends, ?_⟩
          · rw [List.getLast?_append_cons, List.getLast?_cons]
            rcases begins with rfl | begins
            · rfl
            · rw [begins]
              rfl
          · simp [List.count_eq_zero.mpr whole]
        · rw [List.splitOn_eq_singleton more] at here
          cases here
  · rintro ⟨before, after, rfl, whole, begins, ends, rfl⟩
    obtain ⟨others, split⟩ := exists_splitOn_of_not_mem whole ends
    rcases begins with rfl | begins
    · rw [List.nil_append, split]
      rfl
    · obtain ⟨front, rfl⟩ := List.getLast?_eq_some_iff.mp begins
      have pieces : (front ++ [separator] ++ (piece ++ after)).splitOn separator =
          front.splitOn separator ++ piece :: others := by
        rw [← split, List.append_assoc]
        exact List.splitOn_append_cons_self front (piece ++ after)
      have number : (front ++ [separator]).count separator =
          (front.splitOn separator).length := by
        rw [length_splitOn, List.count_append, List.count_singleton_self]
      rw [pieces, number, List.getElem?_append_right (Nat.le_refl _), Nat.sub_self]
      rfl

end Text

namespace Directive

/-! ### The grammar of a line -/

/-- The beginning of a comment, which may be missing: stars, and perhaps a slash in front of
them. -/
inductive IsMarker : List Char → Prop where
  | nothing : IsMarker []
  | stars {stars : List Char} (some : stars ≠ []) (all : ∀ c ∈ stars, c = '*') : IsMarker stars
  | opened {stars : List Char} (some : stars ≠ []) (all : ∀ c ∈ stars, c = '*') :
      IsMarker ('/' :: stars)

/-- What may follow the name of a directive: nothing, or a space or tab and then anything but
carriage returns. -/
inductive IsTail : List Char → Prop where
  | nothing : IsTail []
  | options {gap : Char} {rest : List Char} (blank : Text.isGap gap = true)
      (single : '\r' ∉ rest) : IsTail (gap :: rest)

/-- A directive line, with its name and its tail: spaces and tabs, perhaps the beginning of a
comment, spaces and tabs, an at sign, the name, the tail, and perhaps a carriage return. -/
inductive IsLine : List Char → List Char → List Char → Prop where
  | line {margin marker gap name tail ending : List Char}
      (margins : ∀ c ∈ margin, Text.isGap c = true) (marks : IsMarker marker)
      (gaps : ∀ c ∈ gap, Text.isGap c = true) (named : name ≠ [])
      (plain : ∀ c ∈ name, Text.isNameChar c = true) (tails : IsTail tail)
      (ends : ending = [] ∨ ending = ['\r']) :
      IsLine (margin ++ (marker ++ (gap ++ '@' :: (name ++ (tail ++ ending))))) name tail

/-- The options in a tail: without the blanks behind them, and then without one end of a comment,
they are what stands between blanks and is not empty. -/
def IsOptions (tail : List Char) (options : List String) : Prop :=
  ∃ text, (tail.rdropWhile Text.isBlank = text ++ ['*', '/'] ∨
      tail.rdropWhile Text.isBlank = text ∧ ¬ ['*', '/'] <:+ text) ∧
    options = ((text.splitOnP Text.isBlank).filter fun piece => !piece.isEmpty).map String.ofList

/-- A line says a directive: it keeps to the grammar, and what it names is known. On which line of a
text it stands is not for the line to say. -/
inductive Gives (known : List String) (line : List Char) : Directive → Prop where
  | gives {name tail : List Char} {options : List String} {number : Nat}
      (form : IsLine line name tail) (isKnown : String.ofList name ∈ known)
      (follow : IsOptions tail options) : Gives known line ⟨String.ofList name, options, number⟩

/-- A directive occurs in a text: a stretch of the text says it, from the beginning of the text or
behind a line feed, to the end of the text or before a line feed. Its tail, which the grammar keeps
free of carriage returns, is free of line feeds too. -/
def Occurs (known : List String) (text : List Char) (directive : Directive) : Prop :=
  ∃ before line after name tail, text = before ++ (line ++ after) ∧
    (before = [] ∨ before.getLast? = some '\n') ∧ (after = [] ∨ after.head? = some '\n') ∧
    IsLine line name tail ∧ '\n' ∉ tail ∧ String.ofList name ∈ known ∧
    directive.name = String.ofList name ∧ IsOptions tail directive.options ∧
    directive.line = before.count '\n' + 1

/-- The directives are those of the text. -/
structure Listed (known : List String) (text : List Char) (directives : List Directive) : Prop where
  /-- A directive line gives exactly one directive, with the number of the line. -/
  each {index : Nat} {line name tail : List Char}
    (here : (text.splitOn '\n')[index]? = some line) (form : IsLine line name tail)
    (isKnown : String.ofList name ∈ known) :
    ∃ options, IsOptions tail options ∧ ⟨String.ofList name, options, index + 1⟩ ∈ directives ∧
      ∀ other ∈ directives, other.line = index + 1 →
        other = ⟨String.ofList name, options, index + 1⟩
  /-- Nothing else gives one. -/
  only {directive : Directive} (member : directive ∈ directives) :
    ∃ index line, (text.splitOn '\n')[index]? = some line ∧ directive.line = index + 1 ∧
      Gives known line directive
  /-- They come in the order of their lines. -/
  increasing : directives.Pairwise fun earlier later => earlier.line < later.line
  /-- No option is empty or holds a blank. -/
  options : ∀ directive ∈ directives, ∀ option ∈ directive.options,
    option ≠ "" ∧ ∀ c ∈ option.toList, Text.isBlank c = false
  /-- They are what occurs in the text as a whole, where each has as many line feeds before it as
  there are lines before its own. -/
  occurs (directive : Directive) : directive ∈ directives ↔ Occurs known text directive

/-! ### Reading a line -/

theorem isTail_iff {tail : List Char} : isTail tail = true ↔ IsTail tail := by
  constructor
  · intro accepted
    cases tail with
    | nil => exact .nothing
    | cons gap rest =>
        rw [isTail, Bool.and_eq_true] at accepted
        exact .options accepted.1 (by simpa using accepted.2)
  · rintro (_ | ⟨blank, single⟩)
    · rfl
    · simp [isTail, blank, single]

/-- A tail holds no carriage return. -/
theorem IsTail.single {tail : List Char} (tails : IsTail tail) : '\r' ∉ tail := by
  cases tails with
  | nothing => exact List.not_mem_nil
  | options blank single =>
      intro member
      rcases List.mem_cons.mp member with rfl | inside
      · cases blank
      · exact single inside

/-- A line ends where it should, perhaps with a carriage return behind. -/
theorem exists_dropReturn (line : List Char) :
    ∃ ending, line = Text.dropReturn line ++ ending ∧ (ending = [] ∨ ending = ['\r']) := by
  unfold Text.dropReturn
  split
  · rename_i last
    obtain ⟨front, rfl⟩ := List.getLast?_eq_some_iff.mp last
    exact ⟨['\r'], by rw [List.dropLast_concat], .inr rfl⟩
  · exact ⟨[], (List.append_nil line).symm, .inl rfl⟩

theorem dropReturn_append {line ending : List Char} (open' : line.getLast? ≠ some '\r')
    (ends : ending = [] ∨ ending = ['\r']) : Text.dropReturn (line ++ ending) = line := by
  unfold Text.dropReturn
  rcases ends with rfl | rfl
  · rw [List.append_nil, if_neg open']
  · rw [if_pos (by simp), List.dropLast_concat]

theorem exists_dropMarker (line : List Char) :
    ∃ marker, IsMarker marker ∧ line = marker ++ dropMarker line := by
  have all (text : List Char) : ∀ c ∈ text.takeWhile (· = '*'), c = '*' := fun c member => by
    simpa using List.mem_takeWhile_imp member
  unfold dropMarker
  split
  · rename_i rest
    refine ⟨'/' :: '*' :: rest.takeWhile (· = '*'), .opened (List.cons_ne_nil _ _) ?_, ?_⟩
    · exact List.forall_mem_cons.mpr ⟨rfl, all rest⟩
    · simp
  · by_cases none : line.takeWhile (· = '*') = []
    · refine ⟨[], .nothing, ?_⟩
      have whole := List.takeWhile_append_dropWhile (p := (· = '*')) (l := line)
      rw [none] at whole
      exact whole.symm
    · exact ⟨_, .stars none (all line), List.takeWhile_append_dropWhile.symm⟩

/-- What stands in front of a directive is a margin, perhaps the beginning of a comment, and a
gap. -/
theorem exists_dropMargin (line : List Char) :
    ∃ margin marker gap, line = margin ++ (marker ++ (gap ++ dropMargin line)) ∧
      (∀ c ∈ margin, Text.isGap c = true) ∧ IsMarker marker ∧
      ∀ c ∈ gap, Text.isGap c = true := by
  obtain ⟨marker, marks, same⟩ := exists_dropMarker (line.dropWhile Text.isGap)
  refine ⟨line.takeWhile Text.isGap, marker,
    (dropMarker (line.dropWhile Text.isGap)).takeWhile Text.isGap, ?_,
    fun c => List.mem_takeWhile_imp, marks, fun c => List.mem_takeWhile_imp⟩
  rw [dropMargin, List.takeWhile_append_dropWhile, ← same, List.takeWhile_append_dropWhile]

/-- A gap in front of an at sign is dropped, and no star is. -/
theorem dropWhile_gap {gap : List Char} (gaps : ∀ c ∈ gap, Text.isGap c = true)
    (rest : List Char) :
    (gap ++ '@' :: rest).dropWhile Text.isGap = '@' :: rest ∧
      (gap ++ '@' :: rest).dropWhile (· = '*') = gap ++ '@' :: rest := by
  constructor
  · rw [List.dropWhile_append_of_pos gaps]
    rfl
  · cases gap with
    | nil => rfl
    | cons c others =>
        have blank := gaps c List.mem_cons_self
        have other : c ≠ '*' := by
          rintro rfl
          cases blank
        simp [other]

theorem dropMargin_append {margin marker gap : List Char}
    (margins : ∀ c ∈ margin, Text.isGap c = true) (marks : IsMarker marker)
    (gaps : ∀ c ∈ gap, Text.isGap c = true) (rest : List Char) :
    dropMargin (margin ++ (marker ++ (gap ++ '@' :: rest))) = '@' :: rest := by
  obtain ⟨sign, kept⟩ := dropWhile_gap gaps rest
  have unstarred {stars : List Char} (all : ∀ c ∈ stars, c = '*') :
      (stars ++ (gap ++ '@' :: rest)).dropWhile (· = '*') = gap ++ '@' :: rest := by
    rw [List.dropWhile_append_of_pos (by simpa using all), kept]
  rw [dropMargin, List.dropWhile_append_of_pos margins]
  cases marks with
  | nothing =>
      rw [List.nil_append, sign]
      rfl
  | stars some all =>
      obtain ⟨star, others, rfl⟩ := List.exists_cons_of_ne_nil some
      obtain ⟨rfl, _⟩ := List.forall_mem_cons.mp all
      show ((('*' :: others) ++ _).dropWhile (· = '*')).dropWhile Text.isGap = _
      rw [unstarred all, sign]
  | opened some all =>
      obtain ⟨star, others, rfl⟩ := List.exists_cons_of_ne_nil some
      obtain ⟨rfl, beyond⟩ := List.forall_mem_cons.mp all
      show ((others ++ _).dropWhile (· = '*')).dropWhile Text.isGap = _
      rw [unstarred beyond, sign]

/-- A name ends where the tail begins. -/
theorem span_name {name tail : List Char} (plain : ∀ c ∈ name, Text.isNameChar c = true)
    (tails : IsTail tail) :
    (name ++ tail).takeWhile Text.isNameChar = name ∧
      (name ++ tail).dropWhile Text.isNameChar = tail := by
  rw [List.takeWhile_append_of_pos plain, List.dropWhile_append_of_pos plain]
  cases tails with
  | nothing => simp
  | @options gap rest blank single =>
      have other : Text.isNameChar gap = false := by
        rcases (by simpa [Text.isGap] using blank : gap = ' ' ∨ gap = '\t') with rfl | rfl <;> rfl
      simp [other]

/-- **A line is read exactly if it keeps to the grammar**, as the grammar says. -/
theorem readLine_eq_some_iff {line name tail : List Char} :
    readLine line = some (name, tail) ↔ IsLine line name tail := by
  constructor
  · intro read
    obtain ⟨ending, whole, ends⟩ := exists_dropReturn line
    obtain ⟨margin, marker, gap, front, margins, marks, gaps⟩ :=
      exists_dropMargin (Text.dropReturn line)
    unfold readLine at read
    split at read
    · rename_i rest sign
      dsimp only at read
      split at read
      · rename_i accepted
        rw [Bool.and_eq_true] at accepted
        cases read
        rw [whole, front, sign]
        have parts : rest ++ ending = rest.takeWhile Text.isNameChar ++
            (rest.dropWhile Text.isNameChar ++ ending) := by
          rw [← List.append_assoc, List.takeWhile_append_dropWhile]
        have shape : margin ++ (marker ++ (gap ++ '@' :: rest)) ++ ending =
            margin ++ (marker ++ (gap ++ '@' :: (rest.takeWhile Text.isNameChar ++
              (rest.dropWhile Text.isNameChar ++ ending)))) := by
          rw [← parts]
          simp
        rw [shape]
        exact .line margins marks gaps (by simpa using accepted.1)
          (fun c => List.mem_takeWhile_imp) (isTail_iff.mp accepted.2) ends
      · cases read
    · cases read
  · intro form
    cases form with
    | @line margin marker gap name tail ending margins marks gaps named plain tails ends =>
      have shape : margin ++ (marker ++ (gap ++ '@' :: (name ++ (tail ++ ending)))) =
          (margin ++ (marker ++ (gap ++ '@' :: (name ++ tail)))) ++ ending := by simp
      have last : (margin ++ (marker ++ (gap ++ '@' :: (name ++ tail)))).getLast? ≠ some '\r' := by
        intro last
        rw [← List.append_assoc, ← List.append_assoc, List.getLast?_append_cons] at last
        rcases List.mem_cons.mp (List.mem_of_getLast? last) with same | inside
        · cases same
        · rcases List.mem_append.mp inside with inName | inTail
          · cases plain _ inName
          · exact tails.single inTail
      obtain ⟨taken, left⟩ := span_name plain tails
      unfold readLine
      rw [shape, dropReturn_append last ends, dropMargin_append margins marks gaps]
      show (if !((name ++ tail).takeWhile Text.isNameChar).isEmpty &&
        isTail ((name ++ tail).dropWhile Text.isNameChar) then some _ else none) = _
      rw [taken, left, isTail_iff.mpr tails]
      simp [named]

/-! ### Options -/

/-- The end of a comment is dropped if it is there. -/
theorem dropCommentEnd_append (text : List Char) : dropCommentEnd (text ++ ['*', '/']) = text := by
  simp [dropCommentEnd]

theorem dropCommentEnd_of_not_suffix {text : List Char} (unclosed : ¬ ['*', '/'] <:+ text) :
    dropCommentEnd text = text := by
  unfold dropCommentEnd
  split
  · rename_i rest closed
    have whole : text = rest.reverse ++ ['*', '/'] := by
      rw [← List.reverse_reverse text, closed]
      simp
    exact absurd ⟨rest.reverse, whole.symm⟩ unclosed
  · rfl

/-- The options in a tail are the ones that are read. -/
theorem isOptions_iff {tail : List Char} {options : List String} :
    IsOptions tail options ↔ options = optionsOf tail := by
  have words (text : List Char) (same : dropCommentEnd (tail.rdropWhile Text.isBlank) = text) :
      optionsOf tail =
        ((text.splitOnP Text.isBlank).filter fun piece => !piece.isEmpty).map String.ofList := by
    rw [← same, ← Text.words_eq_splitOnP]
    rfl
  constructor
  · rintro ⟨text, closed | ⟨whole, unclosed⟩, rfl⟩
    · exact (words text (by rw [closed, dropCommentEnd_append])).symm
    · exact (words text (by rw [whole, dropCommentEnd_of_not_suffix unclosed])).symm
  · rintro rfl
    by_cases closed : ['*', '/'] <:+ tail.rdropWhile Text.isBlank
    · obtain ⟨text, closed⟩ := closed
      exact ⟨text, .inl closed.symm, words text (by rw [← closed, dropCommentEnd_append])⟩
    · exact ⟨_, .inr ⟨rfl, closed⟩, words _ (dropCommentEnd_of_not_suffix closed)⟩

/-! ### Lines of a text -/

section Lines

variable {known : List String} {directive : Directive}

/-- A line that holds no line feed in its tail holds none. -/
theorem IsLine.not_mem_feed {line name tail : List Char} (form : IsLine line name tail) :
    '\n' ∉ line ↔ '\n' ∉ tail := by
  cases form with
  | @line margin marker gap name tail ending margins marks gaps named plain tails ends =>
    have inMargin : '\n' ∉ margin := fun member => nomatch margins _ member
    have inGap : '\n' ∉ gap := fun member => nomatch gaps _ member
    have inName : '\n' ∉ name := fun member => nomatch plain _ member
    have inMarker : '\n' ∉ marker := by
      cases marks with
      | nothing => exact List.not_mem_nil
      | stars some all => exact fun member => nomatch all _ member
      | opened some all => simpa using fun member => nomatch all _ member
    have inEnding : '\n' ∉ ending := by
      rcases ends with rfl | rfl <;> simp
    simp [inMargin, inMarker, inGap, inName, inEnding]

theorem ofLine?_eq_some_iff {number : Nat} {line : List Char} :
    ofLine? known number line = some directive ↔
      directive.line = number ∧ Gives known line directive := by
  unfold ofLine?
  constructor
  · intro read
    split at read
    · cases read
    · rename_i name tail parts
      dsimp only at read
      split at read
      · rename_i isKnown
        cases read
        exact ⟨rfl, .gives (readLine_eq_some_iff.mp parts) (by simpa using isKnown)
          (isOptions_iff.mpr rfl)⟩
      · cases read
  · rintro ⟨rfl, @⟨name, tail, options, number, form, isKnown, follow⟩⟩
    rw [readLine_eq_some_iff.mpr form, isOptions_iff.mp follow]
    simp [isKnown]

/-- The directives of lines are those of each line, with its number. -/
theorem ofLines_eq_filterMap (known : List String) (first : Nat) (lines : List (List Char)) :
    ofLines known first lines =
      (lines.zipIdx first).filterMap fun numbered => ofLine? known numbered.2 numbered.1 := by
  induction lines generalizing first with
  | nil => rfl
  | cons line rest ih =>
      rw [ofLines, List.zipIdx_cons, List.filterMap_cons, ih]
      cases ofLine? known first line <;> rfl

/-- **What is a directive of a text, line by line.** -/
theorem mem_parse_iff {text : String} :
    directive ∈ parse known text ↔
      ∃ index line, (text.toList.splitOn '\n')[index]? = some line ∧
        directive.line = index + 1 ∧ Gives known line directive := by
  rw [parse, ofLines_eq_filterMap, Text.lines_eq_splitOn, List.mem_filterMap]
  constructor
  · rintro ⟨⟨line, number⟩, member, read⟩
    obtain ⟨after, here⟩ := List.mk_mem_zipIdx_iff_le_and_getElem?_sub.mp member
    obtain ⟨rfl, gives⟩ := ofLine?_eq_some_iff.mp read
    exact ⟨directive.line - 1, line, here, by omega, gives⟩
  · rintro ⟨index, line, here, number, gives⟩
    refine ⟨(line, index + 1), ?_, ofLine?_eq_some_iff.mpr ⟨number, gives⟩⟩
    exact List.mk_mem_zipIdx_iff_le_and_getElem?_sub.mpr ⟨by omega, by simpa using here⟩

/-- Directives come in the order of their lines. -/
theorem parse_increasing (known : List String) (text : String) :
    (parse known text).Pairwise fun earlier later => earlier.line < later.line := by
  rw [parse, ofLines_eq_filterMap, List.pairwise_filterMap]
  have numbers : ((Text.lines text.toList).zipIdx 1).Pairwise fun earlier later =>
      earlier.2 < later.2 := by
    rw [← List.pairwise_map (f := Prod.snd), List.zipIdx_map_snd]
    exact List.pairwise_lt_range'
  refine numbers.imp fun {earlier later} before first read second found => ?_
  rw [(ofLine?_eq_some_iff.mp read).1, (ofLine?_eq_some_iff.mp found).1]
  exact before

/-- On one line there is at most one directive. -/
theorem line_injective {directives : List Directive} {other : Directive}
    (increasing : directives.Pairwise fun earlier later => earlier.line < later.line)
    (first : directive ∈ directives) (second : other ∈ directives)
    (same : directive.line = other.line) : directive = other := by
  have distinct : (directives.map Directive.line).Nodup :=
    (List.pairwise_map.mpr increasing).imp Nat.ne_of_lt
  exact List.inj_on_of_nodup_map distinct first second same

/-- **What is a directive of a text, in the text as a whole.** -/
theorem mem_parse_iff_occurs {text : String} :
    directive ∈ parse known text ↔ Occurs known text.toList directive := by
  rw [mem_parse_iff]
  constructor
  · rintro ⟨index, line, here, number, gives⟩
    obtain ⟨before, after, whole, single, begins, ends, rfl⟩ := Text.getElem?_splitOn_iff.mp here
    cases gives with
    | gives form isKnown follow =>
        exact ⟨before, line, after, _, _, whole, begins, ends, form, form.not_mem_feed.mp single,
          isKnown, rfl, follow, number⟩
  · rintro ⟨before, line, after, name, tail, whole, begins, ends, form, single, isKnown, named,
      follow, number⟩
    have here := Text.getElem?_splitOn_iff.mpr
      ⟨before, after, whole, form.not_mem_feed.mpr single, begins, ends, rfl⟩
    refine ⟨_, line, here, number, ?_⟩
    have gives : Gives known line ⟨String.ofList name, directive.options, directive.line⟩ :=
      .gives form isKnown follow
    rwa [← named] at gives

/-- In a text there are directives only if it is not blank. -/
theorem parse_of_blank {text : String} (blank : text.toList.all Text.isBlank = true) :
    parse known text = [] := by
  refine List.eq_nil_iff_forall_not_mem.mpr fun directive member => ?_
  obtain ⟨before, line, after, name, tail, whole, _, _, form, _⟩ := mem_parse_iff_occurs.mp member
  have sign : '@' ∈ text.toList := by
    rw [whole]
    cases form
    simp
  have visible := List.all_eq_true.mp blank '@' sign
  cases visible

/-- The directives of a documentation text are those of the text. -/
theorem parseDocumentation_some (known : List String) (text : String) :
    parseDocumentation known (some text) = parse known text := by
  rw [parseDocumentation]
  split
  · rename_i blank
    exact (parse_of_blank blank).symm
  · rfl

/-- **The directives of a text are those of its directive lines**, also if the text is a
documentation; without a documentation there are none. -/
theorem parse_exact (known : List String) (text : String) :
    Listed known text.toList (parse known text) ∧
      parseDocumentation known (some text) = parse known text ∧
      parseDocumentation known none = [] := by
  refine ⟨?_, parseDocumentation_some known text, rfl⟩
  constructor
  case each =>
    intro index line name tail here form isKnown
    have follow : IsOptions tail (optionsOf tail) := isOptions_iff.mpr rfl
    have given : ⟨String.ofList name, optionsOf tail, index + 1⟩ ∈ parse known text :=
      mem_parse_iff.mpr ⟨index, line, here, rfl, .gives form isKnown follow⟩
    refine ⟨optionsOf tail, follow, given, fun other member number => ?_⟩
    exact line_injective (parse_increasing known text) member given number
  case only =>
    intro directive member
    exact mem_parse_iff.mp member
  case increasing => exact parse_increasing known text
  case options =>
    intro directive member option inside
    obtain ⟨index, line, _, _, gives⟩ := mem_parse_iff.mp member
    cases gives with
    | gives form isKnown follow =>
        obtain rfl := isOptions_iff.mp follow
        obtain ⟨some, visible⟩ := mem_optionsOf inside
        exact ⟨fun none => some (by rw [none]; rfl), visible⟩
  case occurs =>
    intro directive
    exact mem_parse_iff_occurs

/-- The end of a comment is no option, a carriage return is no part of a line, and a line whose name
is not known is documentation. -/
example : parse ["cache"] "/**\n * @cache users 60 */\r\n @caches\n*@cache" =
    [⟨"cache", ["users", "60"], 2⟩, ⟨"cache", [], 4⟩] := by decide +kernel

end Lines

end Directive

end AspectWeaver
