/-
**Quoted texts: how the options of an advice are written in a log line.**

A text stands between quotation marks. A quotation mark, a backslash and the common controls are
written with a backslash, and a hidden character by its code in hexadecimal. A list of texts stands
between brackets.
-/

import AspectWeaver.Text.Hidden

namespace AspectWeaver.Text

/-- The digits of a number in hexadecimal. -/
def hexDigits (number : Nat) : List Char := Nat.toDigits 16 number

/-- A character as it stands between quotation marks. -/
def quoteChar (c : Char) : List Char :=
  if c = '"' then ['\\', '"']
  else if c = '\\' then ['\\', '\\']
  else if c = '\t' then ['\\', 't']
  else if c = '\n' then ['\\', 'n']
  else if c = '\r' then ['\\', 'r']
  else if c.toNat = 0 then ['\\', '0']
  else if isHidden c then '\\' :: 'u' :: '\x7b' :: (hexDigits c.toNat ++ ['\x7d'])
  else [c]

/-- A text between quotation marks. -/
def quote (text : String) : String :=
  String.ofList ('"' :: (text.toList.flatMap quoteChar ++ ['"']))

/-- A list of quoted texts between brackets. -/
def quoteAll (texts : List String) : String :=
  "[" ++ String.intercalate ", " (texts.map quote) ++ "]"

end AspectWeaver.Text
