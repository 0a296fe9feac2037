/-
**Directives: the lines of a documentation text that ask for advice.**

A directive stands alone on its line: spaces and tabs, perhaps the beginning of a comment (`/**`,
`*`), spaces and tabs, an at sign, a name, and after a space or tab the options, which are words. A
closing `*/` at the end of the line is no option. Only names that are known count; every other line
is ordinary documentation.

* `mem_optionsOf` — **options are words**: no option is empty or holds a blank.
-/

import AspectWeaver.Kind
import AspectWeaver.Text.Blank
import AspectWeaver.Text.LetterCase

namespace AspectWeaver

/-- A directive as it is written. -/
structure Directive where
  name : String
  options : List String
  /-- The line of the text it stands on, counted from one. -/
  line : Nat
  deriving DecidableEq

/-- Whether a directive is a built-in one. -/
def Directive.isBuiltin (directive : Directive) : Bool := isBuiltinName directive.name

namespace Text

/-- The pieces of a text between its line feeds; a text without one is a single piece. -/
def lines : List Char → List (List Char)
  | [] => [[]]
  | c :: rest => if c = '\n' then [] :: lines rest else extendFirst c (lines rest)

/-- A line without the carriage return at its end. -/
def dropReturn (line : List Char) : List Char :=
  if line.getLast? = some '\r' then line.dropLast else line

end Text

namespace Directive

/-! ### The grammar of a line -/

/-- A line without the beginning of a comment: any stars, or a slash and at least one star. -/
def dropMarker : List Char → List Char
  | '/' :: '*' :: rest => rest.dropWhile (· = '*')
  | line => line.dropWhile (· = '*')

/-- A line without the margin in front of a directive. -/
def dropMargin (line : List Char) : List Char :=
  (dropMarker (line.dropWhile Text.isGap)).dropWhile Text.isGap

/-- Whether what follows the name of a directive can be its tail: nothing, or a space or tab and
then anything but carriage returns. -/
def isTail : List Char → Bool
  | [] => true
  | c :: rest => Text.isGap c && !rest.contains '\r'

/-- The name and the tail of a directive line. -/
def readLine (line : List Char) : Option (List Char × List Char) :=
  match dropMargin (Text.dropReturn line) with
  | '@' :: rest =>
      let name := rest.takeWhile Text.isNameChar
      let tail := rest.dropWhile Text.isNameChar
      if !name.isEmpty && isTail tail then some (name, tail) else none
  | _ => none

/-- A text without the end of a comment. -/
def dropCommentEnd (text : List Char) : List Char :=
  match text.reverse with
  | '/' :: '*' :: rest => rest.reverse
  | _ => text

/-- The options in the tail of a directive. -/
def optionsOf (tail : List Char) : List String :=
  (Text.words (dropCommentEnd (Text.trimEnd tail))).map String.ofList

/-- No option is empty or holds a blank. -/
theorem mem_optionsOf {tail : List Char} {option : String} (member : option ∈ optionsOf tail) :
    option.toList ≠ [] ∧ ∀ c ∈ option.toList, Text.isBlank c = false := by
  obtain ⟨word, inside, rfl⟩ := List.mem_map.mp member
  simpa using Text.mem_words inside

/-! ### Parsing -/

/-- The directive on a line, if its name is known. -/
def ofLine? (known : List String) (line : Nat) (text : List Char) : Option Directive :=
  match readLine text with
  | none => none
  | some (name, tail) =>
      let name := String.ofList name
      if known.contains name then some ⟨name, optionsOf tail, line⟩ else none

/-- The directives on a list of lines, of which the first has the given number. -/
def ofLines (known : List String) (first : Nat) : List (List Char) → List Directive
  | [] => []
  | line :: rest =>
      match ofLine? known first line with
      | none => ofLines known (first + 1) rest
      | some directive => directive :: ofLines known (first + 1) rest

/-- The directives of a text, from top to bottom. -/
def parse (known : List String) (text : String) : List Directive :=
  ofLines known 1 (Text.lines text.toList)

/-- The directives of a documentation text; without one, or if it is blank, there are none. -/
def parseDocumentation (known : List String) : Option String → List Directive
  | none => []
  | some text => if text.toList.all Text.isBlank then [] else parse known text

end Directive

end AspectWeaver
