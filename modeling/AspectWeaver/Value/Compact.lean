/-
**The compact text of a value: no spaces, fields in their order, and in a text only the quotation
mark, the backslash and the controls below the space are escaped.**
-/

import AspectWeaver.Value

namespace AspectWeaver.Value

/-- Four hexadecimal digits. -/
def fourDigits (number : Nat) : List Char :=
  let digits := Nat.toDigits 16 number
  List.replicate (4 - digits.length) '0' ++ digits

/-- A character as it stands in a written text. -/
def escapeChar (c : Char) : List Char :=
  if c = '"' then ['\\', '"']
  else if c = '\\' then ['\\', '\\']
  else if c.toNat = 8 then ['\\', 'b']
  else if c = '\t' then ['\\', 't']
  else if c = '\n' then ['\\', 'n']
  else if c.toNat = 12 then ['\\', 'f']
  else if c = '\r' then ['\\', 'r']
  else if c.toNat < 0x20 then '\\' :: 'u' :: fourDigits c.toNat
  else [c]

/-- A text between quotation marks. -/
def compactText (content : String) : String :=
  String.ofList ('"' :: (content.toList.flatMap escapeChar ++ ['"']))

mutual

/-- The compact text of a value. -/
def compact : Value → String
  | .null => "null"
  | .bool truth => if truth then "true" else "false"
  | .int number => toString number
  | .text content => compactText content
  | .list items => "[" ++ String.intercalate "," (compactItems items) ++ "]"
  | .record fields => "\x7b" ++ String.intercalate "," (compactFields fields) ++ "\x7d"

/-- The compact texts of a list of values. -/
def compactItems : List Value → List String
  | [] => []
  | value :: rest => compact value :: compactItems rest

/-- The compact texts of a list of fields. -/
def compactFields : List (String × Value) → List String
  | [] => []
  | (name, value) :: rest => (compactText name ++ ":" ++ compact value) :: compactFields rest

end

end AspectWeaver.Value
