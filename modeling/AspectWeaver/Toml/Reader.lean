/-
**Reading TOML text.**

A reader takes what it reads off the front of the text and leaves the rest. Comments, bare, quoted
and dotted keys, the four sorts of strings, integers in four bases, truth values, arrays and inline
tables are read; dates and fractions are not.

Arrays and inline tables may be nested up to a limit, and so may the parts of a dotted key.
-/

import AspectWeaver.Text.Blank
import AspectWeaver.Toml.Tree
import AspectWeaver.Word64

namespace AspectWeaver.Toml

/-! ### Characters -/

/-- How deep values may be nested, and how many parts a key may have. -/
def nestingLimit : Nat := 80

/-- A character that may stand in a comment: no control but the tab. -/
def isPlain (c : Char) : Bool := c = '\t' || (0x20 ≤ c.toNat && c.toNat ≠ 0x7F)

/-- A character of a bare key. -/
def isBareKeyChar (c : Char) : Bool := c.isAlphanum || c = '_' || c = '-'

/-- The text after its spaces and tabs. -/
def skipGaps (source : List Char) : List Char := source.dropWhile Text.isGap

/-- The text after a line end, if it begins with one. -/
def lineEnd? : List Char → Option (List Char)
  | '\n' :: rest => some rest
  | '\r' :: '\n' :: rest => some rest
  | _ => none

/-- The text after a comment, if it begins with one. -/
def skipComment : List Char → List Char
  | '#' :: rest => rest.dropWhile isPlain
  | source => source

/-- The text after spaces, tabs, comments and line ends. -/
def skipAll : Nat → List Char → List Char
  | 0, source => source
  | fuel + 1, source =>
      let rest := skipComment (skipGaps source)
      match lineEnd? rest with
      | some next => skipAll fuel next
      | none => rest

/-- The text after the rest of a line: gaps, perhaps a comment, and a line end or nothing more. -/
def finishLine (source : List Char) : Option (List Char) :=
  match skipComment (skipGaps source) with
  | [] => some []
  | rest => lineEnd? rest

/-! ### Strings -/

/-- The number of hexadecimal digits, if all of them are. -/
def hexValue? (digits : List Char) : Option Nat :=
  digits.foldlM (fun value digit =>
    if digit.isDigit then some (16 * value + (digit.toNat - '0'.toNat))
    else if 'a' ≤ digit ∧ digit ≤ 'f' then some (16 * value + (digit.toNat - 'a'.toNat + 10))
    else if 'A' ≤ digit ∧ digit ≤ 'F' then some (16 * value + (digit.toNat - 'A'.toNat + 10))
    else none) 0

/-- The character of a code, if there is one. -/
def scalar? (digits : List Char) : Option Char := do
  let code ← hexValue? digits
  if code.isValidChar then some (Char.ofNat code) else none

/-- The character that a letter after a backslash stands for. -/
def escaped? (letter : Char) : Option Char :=
  [('b', '\x08'), ('t', '\t'), ('n', '\n'), ('f', '\x0c'), ('r', '\r'), ('"', '"'),
    ('\\', '\\')].lookup letter

/-- Reads an escape, after its backslash. -/
def readEscape : List Char → Option (Char × List Char)
  | 'u' :: a :: b :: c :: d :: rest => (scalar? [a, b, c, d]).map (·, rest)
  | 'U' :: a :: b :: c :: d :: e :: f :: g :: h :: rest =>
      (scalar? [a, b, c, d, e, f, g, h]).map (·, rest)
  | letter :: rest => (escaped? letter).map (·, rest)
  | [] => none

/-- Reads a basic string, after its opening quotation mark. -/
def readBasic : Nat → List Char → Option (List Char × List Char)
  | 0, _ => none
  | _ + 1, [] => none
  | fuel + 1, c :: rest =>
      if c = '"' then some ([], rest)
      else if c = '\\' then do
        let (value, rest) ← readEscape rest
        let (content, rest) ← readBasic fuel rest
        pure (value :: content, rest)
      else if isPlain c then do
        let (content, rest) ← readBasic fuel rest
        pure (c :: content, rest)
      else none

/-- Reads a literal string, after its opening apostrophe. -/
def readLiteral : List Char → Option (List Char × List Char)
  | [] => none
  | c :: rest =>
      if c = '\'' then some ([], rest)
      else if isPlain c then do
        let (content, rest) ← readLiteral rest
        pure (c :: content, rest)
      else none

/-- How many of the mark stand at the front. -/
def countMarks (mark : Char) (source : List Char) : Nat := (source.takeWhile (· = mark)).length

/-- The text after spaces, tabs and line ends. -/
def skipBlankLines : List Char → List Char
  | ' ' :: rest => skipBlankLines rest
  | '\t' :: rest => skipBlankLines rest
  | '\n' :: rest => skipBlankLines rest
  | '\r' :: '\n' :: rest => skipBlankLines rest
  | source => source

/-- The text after an escaped line end and all spaces, tabs and line ends that follow it, after its
backslash. -/
def skipEscapedLineEnd? (source : List Char) : Option (List Char) :=
  (lineEnd? (skipGaps source)).map skipBlankLines

/-- Reads a string of several lines, after its opening marks. Up to two marks may stand in front of
the three that close it. Escapes are read if `escapes`. -/
def readLong (mark : Char) (escapes : Bool) : Nat → List Char → Option (List Char × List Char)
  | 0, _ => none
  | _ + 1, [] => none
  | fuel + 1, c :: rest =>
      let marks := countMarks mark (c :: rest)
      if marks ≥ 3 then
        let inner := min (marks - 3) 2
        some (List.replicate inner mark, (c :: rest).drop (inner + 3))
      else if c = '\\' ∧ escapes then
        match skipEscapedLineEnd? rest with
        | some next => readLong mark escapes fuel next
        | none => do
            let (value, rest) ← readEscape rest
            let (content, rest) ← readLong mark escapes fuel rest
            pure (value :: content, rest)
      else
        match lineEnd? (c :: rest) with
        | some next => do
            let (content, rest) ← readLong mark escapes fuel next
            pure ('\n' :: content, rest)
        | none =>
            if isPlain c then do
              let (content, rest) ← readLong mark escapes fuel rest
              pure (c :: content, rest)
            else none

/-- The text after a line end right behind the opening marks of a string. -/
def dropFirstLineEnd (source : List Char) : List Char := (lineEnd? source).getD source

/-- Reads any string. -/
def readString (source : List Char) : Option (String × List Char) :=
  let read : Option (List Char × List Char) :=
    match source with
    | '"' :: '"' :: '"' :: rest => readLong '"' true (source.length + 1) (dropFirstLineEnd rest)
    | '"' :: rest => readBasic (source.length + 1) rest
    | '\'' :: '\'' :: '\'' :: rest =>
        readLong '\'' false (source.length + 1) (dropFirstLineEnd rest)
    | '\'' :: rest => readLiteral rest
    | _ => none
  read.map fun ended => (String.ofList ended.1, ended.2)

/-! ### Keys -/

/-- Reads one part of a key. -/
def readKeyPart : List Char → Option (String × List Char)
  | '"' :: rest =>
      (readBasic (rest.length + 1) rest).map fun ended => (String.ofList ended.1, ended.2)
  | '\'' :: rest => (readLiteral rest).map fun ended => (String.ofList ended.1, ended.2)
  | source =>
      let name := source.takeWhile isBareKeyChar
      if name.isEmpty then none
      else some (String.ofList name, source.dropWhile isBareKeyChar)

/-- Reads the parts of a key that follow, each after a dot, and the gaps around them. -/
def readKeyParts : Nat → List Char → Option (List String × List Char)
  | 0, _ => none
  | fuel + 1, source => do
      let (part, rest) ← readKeyPart (skipGaps source)
      match skipGaps rest with
      | '.' :: rest =>
          let (parts, rest) ← readKeyParts fuel rest
          pure (part :: parts, rest)
      | rest => pure ([part], rest)

/-- Reads a key: the parts in front of the last, and the last. -/
def readKey (source : List Char) : Option ((List String × String) × List Char) := do
  let (parts, rest) ← readKeyParts (nestingLimit - 1) source
  let last ← parts.getLast?
  pure ((parts.dropLast, last), rest)

/-! ### Numbers and words -/

/-- The digits of a number, if every underscore in it stands between two digits. -/
def ungroup? (isDigit : Char → Bool) (source : List Char) : Option (List Char) :=
  let digits := source.filter (· ≠ '_')
  let wellPlaced := source.head? ≠ some '_' ∧ source.getLast? ≠ some '_' ∧
    (source.zip (source.drop 1)).all fun pair => !(pair.1 = '_' && pair.2 = '_')
  if wellPlaced ∧ !digits.isEmpty ∧ digits.all isDigit then some digits else none

/-- The number of digits in a base. -/
def digitsValue (base : Nat) (digits : List Char) : Nat :=
  digits.foldl (fun value digit =>
    let worth :=
      if digit.isDigit then digit.toNat - '0'.toNat else digit.toLower.toNat - 'a'.toNat + 10
    base * value + worth) 0

/-- Whether a character is a hexadecimal digit. -/
def isHexDigit (c : Char) : Bool :=
  c.isDigit || ('a' ≤ c && c ≤ 'f') || ('A' ≤ c && c ≤ 'F')

/-- A decimal number without a sign: no zero in front of other digits. -/
def decimal? (source : List Char) : Option Nat := do
  let digits ← ungroup? Char.isDigit source
  if digits.length > 1 ∧ digits.head? = some '0' then none else some (digitsValue 10 digits)

/-- The integer that a word stands for. -/
def integer? (word : List Char) : Option Int :=
  let number : Option Int :=
    match word with
    | '0' :: 'x' :: rest => (ungroup? isHexDigit rest).map fun digits => digitsValue 16 digits
    | '0' :: 'o' :: rest =>
        (ungroup? (fun c => '0' ≤ c && c ≤ '7') rest).map fun digits => digitsValue 8 digits
    | '0' :: 'b' :: rest =>
        (ungroup? (fun c => c = '0' || c = '1') rest).map fun digits => digitsValue 2 digits
    | '+' :: rest => (decimal? rest).map Int.ofNat
    | '-' :: rest => (decimal? rest).map fun value => -Int.ofNat value
    | _ => (decimal? word).map Int.ofNat
  number.filter fun value => Fits64 value

/-- Reads an integer or a truth value. -/
def readWord (source : List Char) : Option (Toml × List Char) :=
  let isWordChar := fun c : Char => c.isAlphanum || c = '_' || c = '+' || c = '-'
  let word := source.takeWhile isWordChar
  let rest := source.dropWhile isWordChar
  if word = "true".toList then some (.boolean true, rest)
  else if word = "false".toList then some (.boolean false, rest)
  else (integer? word).map fun number => (.integer number, rest)

/-! ### Values -/

mutual

/-- Reads a value that may be nested `depth` deep. -/
def readValue : Nat → Nat → List Char → Option (Toml × List Char)
  | 0, _, _ => none
  | fuel + 1, depth, source =>
      match source with
      | '"' :: _ | '\'' :: _ => (readString source).map fun ended => (.text ended.1, ended.2)
      | '[' :: rest =>
          match depth with
          | 0 => none
          | depth + 1 => do
              let (items, rest) ← readItems fuel depth rest
              pure (.array items, rest)
      | '\x7b' :: rest =>
          match depth with
          | 0 => none
          | depth + 1 =>
              match skipGaps rest with
              | '\x7d' :: rest => some (.table [], rest)
              | rest => do
                  let (entries, rest) ← readPairs fuel depth [] rest
                  pure (.table (Tree.entriesToToml entries), rest)
      | _ => readWord source

/-- Reads the items of an array, after its bracket or after a comma. -/
def readItems : Nat → Nat → List Char → Option (List Toml × List Char)
  | 0, _, _ => none
  | fuel + 1, depth, source =>
      match skipAll (source.length + 1) source with
      | ']' :: rest => some ([], rest)
      | source => do
          let (item, rest) ← readValue fuel depth source
          match skipAll (rest.length + 1) rest with
          | ']' :: rest => pure ([item], rest)
          | ',' :: rest =>
              let (items, rest) ← readItems fuel depth rest
              pure (item :: items, rest)
          | _ => none

/-- Reads the pairs of an inline table, and adds them to the entries so far. -/
def readPairs : Nat → Nat → Tree.Entries → List Char → Option (Tree.Entries × List Char)
  | 0, _, _, _ => none
  | fuel + 1, depth, entries, source => do
      let ((path, key), rest) ← readKey source
      match rest with
      | '=' :: rest =>
          let (value, rest) ← readValue fuel depth (skipGaps rest)
          let entries ← Tree.assign path key value entries
          match skipGaps rest with
          | '\x7d' :: rest => pure (entries, rest)
          | ',' :: rest => readPairs fuel depth entries rest
          | _ => none
      | _ => none

end

/-! ### Documents -/

/-- Where the reading of a document is: under which header, and what was read before. -/
structure Progress where
  header : List String := []
  entries : Tree.Entries := []

/-- Reads a header, after its opening bracket. -/
def readHeader (progress : Progress) (source : List Char) : Option (Progress × List Char) :=
  match source with
  | '[' :: rest => do
      let ((path, key), rest) ← readKey rest
      match rest with
      | ']' :: ']' :: rest =>
          let entries ← Tree.openItem path key progress.entries
          pure (⟨path ++ [key], entries⟩, rest)
      | _ => none
  | rest => do
      let ((path, key), rest) ← readKey rest
      match rest with
      | ']' :: rest =>
          let entries ← Tree.openTable path key progress.entries
          pure (⟨path ++ [key], entries⟩, rest)
      | _ => none

/-- Reads a key with its value. -/
def readPair (progress : Progress) (source : List Char) : Option (Progress × List Char) := do
  let ((path, key), rest) ← readKey source
  match rest with
  | '=' :: rest =>
      let (value, rest) ← readValue (2 * source.length + 2) (nestingLimit - 1) (skipGaps rest)
      let entries ← Tree.assignUnder progress.header path key value progress.entries
      pure ({ progress with entries := entries }, rest)
  | _ => none

/-- Reads the lines of a document. -/
def readLines : Nat → Progress → List Char → Option Tree.Entries
  | 0, _, _ => none
  | fuel + 1, progress, source =>
      match skipAll (source.length + 1) source with
      | [] => some progress.entries
      | c :: rest => do
          let (progress, rest) ←
            if c = '[' then readHeader progress rest else readPair progress (c :: rest)
          let rest ← finishLine rest
          readLines fuel progress rest

/-- A text without the byte order mark in front of it. -/
def dropByteOrderMark : List Char → List Char
  | '\uFEFF' :: rest => rest
  | source => source

/-- The document that a text holds. -/
def parse (source : String) : Option Toml :=
  let letters := dropByteOrderMark source.toList
  (readLines (letters.length + 1) {} letters).map fun entries =>
    .table (Tree.entriesToToml entries)

end AspectWeaver.Toml
