/-
**TOML values, and reading settings out of them.**

A struct of settings can be written as a table, by the names of its fields, or as an array, by their
order. A value that is one of a few words can be written as a text, or as a table with that word as
its only key and nothing under it.
-/

namespace AspectWeaver

/-- A TOML value. An array of tables is an array, and every sort of table is a table. -/
inductive Toml where
  | text (content : String)
  | integer (number : Int)
  | boolean (truth : Bool)
  | array (items : List Toml)
  | table (entries : List (String × Toml))
  deriving Inhabited

namespace Toml

/-- Whether a value is an array or table without anything in it. -/
def isHollow : Toml → Bool
  | .array items => items.isEmpty
  | .table entries => entries.isEmpty
  | _ => false

/-- The fields of a struct: `none` stands for a field that is not given. Keys and items that belong
to no field are ignored. -/
def fields? (names : List String) : Toml → Option (List (Option Toml))
  | .table entries => some (names.map fun name => entries.lookup name)
  | .array items => some ((List.range names.length).map fun index => items[index]?)
  | _ => none

/-- The value that a word stands for. -/
def word? {α : Type} (words : List (String × α)) : Toml → Option α
  | .text content => words.lookup content
  | .table [(content, inner)] => if inner.isHollow then words.lookup content else none
  | _ => none

/-- The text, if the value is one. -/
def text? : Toml → Option String
  | .text content => some content
  | _ => none

/-- The truth value, if the value is one. -/
def boolean? : Toml → Option Bool
  | .boolean truth => some truth
  | _ => none

/-- Reads a field by `read`, or takes the default of a field that is not given. -/
def fieldOr {α : Type} (default : α) (read : Toml → Option α) : Option Toml → Option α
  | none => some default
  | some value => read value

end Toml

end AspectWeaver
