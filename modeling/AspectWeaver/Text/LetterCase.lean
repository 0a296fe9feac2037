/-
**Letter case, as far as it bears on names made of ASCII letters.**

Two questions are asked: whether a text is a word in lower case, and whether a character is one of
the letters a to z in some case. Beyond ASCII two characters matter: the Kelvin sign, whose lower
case is `k`, and the long s, which is `s` without regard to case although it is its own lower case.
-/

import AspectWeaver.Text.Lowercase

namespace AspectWeaver.Text

/-- The Kelvin sign. -/
def kelvinSign : Char := '\u212A'

/-- The long s. -/
def longS : Char := '\u017F'

/-- Whether a text is the given lower-case word up to letter case. -/
def isWord (word : String) (text : List Char) : Bool := lowercase text == word.toList

/-- An ASCII letter, digit or underscore. -/
def isNameChar (c : Char) : Bool := c.isAlphanum || c = '_'

/-- A letter a to z in any case of Unicode, a digit or an underscore. -/
def isNameCharAnyCase (c : Char) : Bool := isNameChar c || c = kelvinSign || c = longS

end AspectWeaver.Text
