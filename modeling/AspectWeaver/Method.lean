/-
**Methods as they are declared: parameters, visibility, documentation, and the rules for a
signature.**

A signature is well formed when the names of its parameters differ and no parameter without a
default follows one with a default. `signatureFault?` reports the earliest offence.

* `nodup_of_signatureFault?` — the names of the parameters of a well-formed signature differ.
* `allows_internal` — inside its own class every method may be called.
-/

import AspectWeaver.Value

namespace AspectWeaver

/-! ### Who may call a method -/

/-- The visibility of a method. -/
inductive Visibility where
  | everyone
  | family
  | owner
  deriving DecidableEq, Inhabited

/-- Where a call is made. -/
inductive CallSite where
  /-- Outside the class. -/
  | external
  /-- Inside a subclass. -/
  | subclass
  /-- Inside the class itself. -/
  | internal
  deriving DecidableEq, Inhabited

/-- The word for a visibility. -/
def Visibility.name : Visibility → String
  | .everyone => "public"
  | .family => "protected"
  | .owner => "private"

/-- The scope that a call is made from, in words. -/
def CallSite.name : CallSite → String
  | .external => "global"
  | .subclass => "subclass"
  | .internal => "class"

/-- Whether a method of this visibility may be called at a site. -/
def Visibility.allows : Visibility → CallSite → Bool
  | .everyone, _ => true
  | .family, site => site != .external
  | .owner, site => site == .internal

/-- Inside its own class every method may be called. -/
theorem Visibility.allows_internal (visibility : Visibility) :
    visibility.allows .internal = true := by
  cases visibility <;> rfl

/-! ### Declarations -/

/-- A declared parameter. -/
structure Parameter where
  name : String
  default : Option Value := none
  /-- What the callee writes to the argument is seen by the caller. -/
  byReference : Bool := false
  deriving DecidableEq, Inhabited

/-- A declared method. -/
structure Method where
  name : String
  isStatic : Bool := false
  visibility : Visibility := .everyone
  parameters : List Parameter := []
  /-- The text in which directives are written. -/
  documentation : Option String := none
  deriving DecidableEq, Inhabited

/-- A method of a class, by name. -/
structure MethodId where
  className : String
  method : String
  deriving DecidableEq, Inhabited

/-- The class and the method, joined by two colons. -/
def MethodId.signature (target : MethodId) : String := target.className ++ "::" ++ target.method

/-! ### Well-formed signatures -/

/-- What is wrong with a signature. -/
inductive SignatureFault where
  | duplicate (parameter : String)
  | requiredAfterOptional (parameter : String)
  deriving DecidableEq

/-- The wording of a fault. -/
def SignatureFault.message : SignatureFault → String
  | .duplicate parameter => "duplicate parameter $" ++ parameter
  | .requiredAfterOptional parameter =>
      "required parameter $" ++ parameter ++ " follows an optional parameter"

/-- The earliest fault of a list of parameters, after parameters of the names `seen`, of which some
had a default if `optionalSeen`. -/
def firstFault? (seen : List String) (optionalSeen : Bool) :
    List Parameter → Option SignatureFault
  | [] => none
  | parameter :: rest =>
      if seen.contains parameter.name then some (.duplicate parameter.name)
      else if parameter.default.isSome then firstFault? (parameter.name :: seen) true rest
      else if optionalSeen then some (.requiredAfterOptional parameter.name)
      else firstFault? (parameter.name :: seen) false rest

/-- The earliest fault in the signature of a method. -/
def Method.signatureFault? (method : Method) : Option SignatureFault :=
  firstFault? [] false method.parameters

theorem nodup_of_firstFault? {seen : List String} {optionalSeen : Bool}
    {parameters : List Parameter} (faultless : firstFault? seen optionalSeen parameters = none) :
    (parameters.map Parameter.name).Nodup ∧
      ∀ name ∈ parameters.map Parameter.name, name ∉ seen := by
  induction parameters generalizing seen optionalSeen with
  | nil => simp
  | cons parameter rest ih =>
      unfold firstFault? at faultless
      split at faultless
      · cases faultless
      · rename_i fresh
        -- whether the parameter has a default only decides what is checked of the rest
        obtain ⟨optionalSeen, continued⟩ :
            ∃ optionalSeen, firstFault? (parameter.name :: seen) optionalSeen rest = none := by
          split at faultless
          · exact ⟨true, faultless⟩
          · split at faultless
            · cases faultless
            · exact ⟨false, faultless⟩
        obtain ⟨distinct, apart⟩ := ih continued
        refine ⟨?_, ?_⟩
        · rw [List.map_cons, List.nodup_cons]
          exact ⟨fun inside => apart _ inside List.mem_cons_self, distinct⟩
        · rw [List.map_cons, List.forall_mem_cons]
          refine ⟨by simpa using fresh, fun name inside => ?_⟩
          exact fun inSeen => apart name inside (List.mem_cons_of_mem _ inSeen)

/-- The names of the parameters of a well-formed signature differ. -/
theorem Method.nodup_of_signatureFault? {method : Method}
    (wellFormed : method.signatureFault? = none) :
    (method.parameters.map Parameter.name).Nodup :=
  (nodup_of_firstFault? wellFormed).1

end AspectWeaver
