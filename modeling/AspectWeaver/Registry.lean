/-
**The registry: annotations, and the functions that built-in directives name.**

An annotation is bound to a handler and a declared kind. Nothing is ever removed or bound anew. A
registration ends with the registry that it leaves, whether it was accepted or refused.

* `find?_registerWithCode`, `function?_defineFunction` — **a registration adds one
  entry** and leaves every other name as it was.
* `registerWithCode_refused`, `defineFunction_refused` — **one that is refused leaves everything as
  it was**.
-/

import AspectWeaver.Advice
import AspectWeaver.Named
import AspectWeaver.Text.Blank
import AspectWeaver.Text.LetterCase

namespace AspectWeaver

variable {S : Interface}

/-- An annotation, bound to a handler. -/
structure Binding (S : Interface) where
  name : String
  kind : Kind
  handler : Handler S

/-- Annotations, and the advice functions that built-in directives can name: each stored under a
name, in the order in which they were added. -/
structure Registry (S : Interface) where
  bindings : List (String × Binding S) := []
  functions : List (String × Handler S) := []

/-- Whether a text can be the name of an annotation: letters, digits and underscores, at least one.
Letters are a to z in any case. -/
def isAnnotationName (name : String) : Bool :=
  name ≠ "" && name.toList.all Text.isNameCharAnyCase

/-- Whether a text can be the name of an advice function: not empty and without blanks. -/
def isFunctionName (name : String) : Bool :=
  name ≠ "" && !name.toList.any Text.isBlank

namespace Registry

/-- The binding of an annotation. -/
def find? (registry : Registry S) (name : String) : Option (Binding S) :=
  Named.lookup? name registry.bindings

/-- The advice function of a name. -/
def function? (registry : Registry S) (name : String) : Option (Handler S) :=
  Named.lookup? name registry.functions

/-- Whether an annotation is registered. -/
def contains (registry : Registry S) (name : String) : Bool := (registry.find? name).isSome

/-- How many annotations are registered. -/
def size (registry : Registry S) : Nat := registry.bindings.length

/-- Registers an annotation whose kind is given by its code. -/
def registerWithCode (registry : Registry S) (name : String) (handler : Handler S) (code : Int) :
    Except Refusal Unit × Registry S :=
  if !isAnnotationName name then (.error (.invalidName name), registry)
  else if isReservedName name then (.error (.reservedName name), registry)
  else if registry.contains name then (.error (.duplicateName name), registry)
  else match Kind.ofCode? code with
    | none => (.error (.invalidKind code), registry)
    | some kind =>
        if handler.kind = kind then
          (.ok (), { registry with
            bindings := registry.bindings ++ [(name, ⟨name, kind, handler⟩)] })
        else (.error (.notInvocable name kind), registry)

/-- Registers an annotation. -/
def register (registry : Registry S) (name : String) (handler : Handler S) (kind : Kind) :
    Except Refusal Unit × Registry S :=
  registry.registerWithCode name handler kind.code

/-- Defines an advice function. -/
def defineFunction (registry : Registry S) (name : String) (handler : Handler S) :
    Except Refusal Unit × Registry S :=
  if !isFunctionName name then (.error (.invalidName name), registry)
  else if (registry.function? name).isSome then (.error (.duplicateName name), registry)
  else (.ok (), { registry with functions := registry.functions ++ [(name, handler)] })

/-- The names that a directive can have: the built-in ones, then the annotations in the order of
their names. -/
def knownNames (registry : Registry S) : List String :=
  builtinNames ++ (registry.bindings.map Prod.fst).mergeSort fun left right => left ≤ right

/-! ### A registration adds one entry, or none -/

section Registration

variable {registry extended left : Registry S} {name : String} {handler : Handler S} {code : Int}
  {cause : Refusal}

/-- What a successful registration has checked and done. -/
theorem registerWithCode_eq_ok
    (accepted : registry.registerWithCode name handler code = (.ok (), extended)) :
    isAnnotationName name = true ∧ isReservedName name = false ∧ registry.find? name = none ∧
      Kind.ofCode? code = some handler.kind ∧
      extended = { registry with
        bindings := registry.bindings ++ [(name, ⟨name, handler.kind, handler⟩)] } := by
  unfold registerWithCode at accepted
  split at accepted
  · cases accepted
  · rename_i named
    split at accepted
    · cases accepted
    · rename_i free
      split at accepted
      · cases accepted
      · rename_i new
        split at accepted
        · cases accepted
        · rename_i kind decoded
          split at accepted
          · rename_i fits
            cases accepted
            subst fits
            exact ⟨by simpa using named, by simpa using free, by simpa [contains] using new,
              decoded, rfl⟩
          · cases accepted

/-- A registration that is refused leaves everything as it was. -/
theorem registerWithCode_refused
    (refused : registry.registerWithCode name handler code = (.error cause, left)) :
    left = registry := by
  unfold registerWithCode at refused
  -- every check that fails hands the registry back
  repeat' split at refused
  all_goals cases refused
  all_goals rfl

/-- A registration adds one entry and leaves every other name as it was. -/
theorem find?_registerWithCode
    (accepted : registry.registerWithCode name handler code = (.ok (), extended))
    (wanted : String) :
    extended.find? wanted =
      if wanted = name then some ⟨name, handler.kind, handler⟩ else registry.find? wanted := by
  obtain ⟨_, _, new, _, rfl⟩ := registerWithCode_eq_ok accepted
  simp only [find?, Named.lookup?_append_one] at new ⊢
  by_cases asked : wanted = name
  · simp [asked, new]
  · simp [asked, Ne.symm asked]

/-- What a successful definition has checked and done. -/
theorem defineFunction_eq_ok
    (accepted : registry.defineFunction name handler = (.ok (), extended)) :
    isFunctionName name = true ∧ registry.function? name = none ∧
      extended = { registry with functions := registry.functions ++ [(name, handler)] } := by
  unfold defineFunction at accepted
  split at accepted
  · cases accepted
  · rename_i named
    split at accepted
    · cases accepted
    · rename_i new
      cases accepted
      exact ⟨by simpa using named, by simpa using new, rfl⟩

/-- A definition that is refused leaves everything as it was. -/
theorem defineFunction_refused
    (refused : registry.defineFunction name handler = (.error cause, left)) : left = registry := by
  unfold defineFunction at refused
  split at refused
  · cases refused
    rfl
  · split at refused
    · cases refused
      rfl
    · cases refused

/-- A definition adds one function and leaves every other name as it was. -/
theorem function?_defineFunction
    (accepted : registry.defineFunction name handler = (.ok (), extended)) (wanted : String) :
    extended.function? wanted =
      if wanted = name then some handler else registry.function? wanted := by
  obtain ⟨_, new, rfl⟩ := defineFunction_eq_ok accepted
  simp only [function?, Named.lookup?_append_one] at new ⊢
  by_cases asked : wanted = name
  · simp [asked, new]
  · simp [asked, Ne.symm asked]

end Registration

end Registry

end AspectWeaver
