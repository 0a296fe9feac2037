/-
**Kinds of advice and the directive names that are built in.**

Four directives are built in, one for each kind of advice. Three of their names are reserved: no
annotation may be registered under them. `info` is not reserved, and yet the built-in directive of
that name wins whenever both could be meant.

* `ofCode?_code` — the numeric code of a kind reads back as the kind.
* `kindNamed?_name` — the name of a kind is its built-in directive.
-/

namespace AspectWeaver

/-- A kind of advice. -/
inductive Kind where
  /-- Runs once, while a class is woven, and takes no part in calls. -/
  | info
  /-- Runs before the call. -/
  | before
  /-- Runs after the call and passes the result on. -/
  | after
  /-- Runs instead of the call and decides whether it proceeds. -/
  | around
  deriving DecidableEq, Inhabited

namespace Kind

/-- The name of a kind. -/
def name : Kind → String
  | .info => "info"
  | .before => "before"
  | .after => "after"
  | .around => "around"

/-- The numeric code of a kind. -/
def code : Kind → Int
  | .info => 0
  | .before => 1
  | .after => 2
  | .around => 3

/-- The kind of a numeric code. -/
def ofCode? (code : Int) : Option Kind :=
  if code = 0 then some .info
  else if code = 1 then some .before
  else if code = 2 then some .after
  else if code = 3 then some .around
  else none

/-- The code of a kind reads back as the kind. -/
theorem ofCode?_code (kind : Kind) : ofCode? kind.code = some kind := by
  cases kind <;> rfl

end Kind

/-- The kind that a built-in directive stands for. -/
def kindNamed? (name : String) : Option Kind :=
  if name = "info" then some .info
  else if name = "before" then some .before
  else if name = "after" then some .after
  else if name = "around" then some .around
  else none

/-- The built-in directive names, in the order in which they are listed. -/
def builtinNames : List String := ["info", "before", "after", "around"]

/-- The names under which nothing can be registered. -/
def reservedNames : List String := ["before", "after", "around"]

/-- Whether a name is a built-in directive. -/
def isBuiltinName (name : String) : Bool := builtinNames.contains name

/-- Whether a name is reserved. -/
def isReservedName (name : String) : Bool := reservedNames.contains name

/-- The name of a kind is its built-in directive. -/
theorem kindNamed?_name (kind : Kind) : kindNamed? kind.name = some kind := by
  cases kind <;> rfl

/-- A name stands for a kind exactly when it is built in. -/
theorem kindNamed?_isSome (name : String) : (kindNamed? name).isSome = isBuiltinName name := by
  unfold kindNamed? isBuiltinName builtinNames
  split
  · simp_all
  · split
    · simp_all
    · split
      · simp_all
      · split <;> simp_all

end AspectWeaver
