/-
**The parameters of one woven call.**

While a woven call runs, each declared parameter that got an argument has a slot with its current
value. Advice reads and writes slots by name. The method's own body does not see the slots: it gets
the arguments the caller passed, with the current values at the positions passed by reference
(`overlay`), and what it leaves at those positions goes back to the slots (`absorb`).

* `getElem?_set_first` — **read after write**: a write changes the first parameter of its name and
  no other.
* `names_set`, `names_absorb` — names and their order never change.
* `length_overlay` — as many arguments come out as went in.
* `getElem?_set`, `getElem?_absorb`, `getElem?_overlay` — what happens at one position.
-/

import AspectWeaver.Method
import AspectWeaver.Named

namespace AspectWeaver

/-- A parameter of a running call. -/
structure Slot where
  name : String
  byReference : Bool
  value : Value
  deriving DecidableEq, Inhabited

/-- The slot with another value. -/
def Slot.write (value : Value) (slot : Slot) : Slot := { slot with value := value }

/-- The parameters of a running call, in the order of declaration. -/
abbrev Parameters := List Slot

namespace Parameters

/-- The slots of a call: one for each parameter that got an argument. -/
def ofCall : List Parameter → List Value → Parameters
  | parameter :: parameters, argument :: arguments =>
      ⟨parameter.name, parameter.byReference, argument⟩ :: ofCall parameters arguments
  | _, _ => []

/-- The first slot of a name. -/
def find? (wanted : String) (params : Parameters) : Option Slot :=
  Named.find? Slot.name wanted params

/-- The current value of a parameter. -/
def get (params : Parameters) (name : String) : Option Value := (params.find? name).map Slot.value

/-- Whether there is a parameter of this name. -/
def contains (params : Parameters) (name : String) : Bool := (params.find? name).isSome

/-- Whether there is a parameter of this name, and it is passed by reference. -/
def isByReference (params : Parameters) (name : String) : Bool :=
  (params.find? name).any Slot.byReference

/-- The names of the parameters, in order. -/
def names (params : Parameters) : List String := params.map Slot.name

/-- Writes a parameter; without a parameter of this name nothing changes. -/
def set (name : String) (value : Value) (params : Parameters) : Parameters :=
  Named.update Slot.name name (Slot.write value) params

/-- The current values as a record. -/
def snapshot (params : Parameters) : Value :=
  .ofPairs (params.map fun slot => (slot.name, slot.value))

/-- Arguments with the current values at the positions passed by reference. -/
def overlay : Parameters → List Value → List Value
  | slot :: slots, argument :: arguments =>
      (if slot.byReference then slot.value else argument) :: overlay slots arguments
  | _, arguments => arguments

/-- The slots after a body has left these arguments: it writes the ones passed by reference. -/
def absorb : Parameters → List Value → Parameters
  | slot :: slots, argument :: arguments =>
      (if slot.byReference then slot.write argument else slot) :: absorb slots arguments
  | slots, _ => slots

/-! ### Laws -/

/-- Where there is no parameter of a name, a write under it is refused and changes nothing. -/
theorem set_of_not_mem {params : Parameters} {name : String} (absent : name ∉ names params)
    (value : Value) : params.contains name = false ∧ params.set name value = params := by
  refine ⟨?_, Named.update_of_not_mem Slot.name absent (Slot.write value)⟩
  rw [contains, find?, (Named.find?_eq_none_iff Slot.name).mpr absent]
  rfl

/-- A write changes no name. -/
@[simp] theorem names_set (params : Parameters) (name : String) (value : Value) :
    names (params.set name value) = names params :=
  Named.map_key_update Slot.name (Slot.write value) (fun _ => rfl) name params

/-- What a body leaves changes no name. -/
@[simp] theorem names_absorb (params : Parameters) (arguments : List Value) :
    names (params.absorb arguments) = names params := by
  induction params generalizing arguments with
  | nil => rfl
  | cons slot rest ih =>
      cases arguments with
      | nil => rfl
      | cons argument arguments =>
          have tail := ih arguments
          simp only [names, absorb, List.map_cons] at tail ⊢
          rw [tail]
          split <;> rfl

/-- As many arguments come out as went in. -/
@[simp] theorem length_overlay (params : Parameters) (arguments : List Value) :
    (params.overlay arguments).length = arguments.length := by
  induction params generalizing arguments with
  | nil => rfl
  | cons slot rest ih =>
      cases arguments with
      | nil => rfl
      | cons argument arguments => simp [overlay, ih]

/-- The slots of a call stand for the declared parameters, as far as there are arguments. -/
theorem names_ofCall (parameters : List Parameter) (arguments : List Value) :
    names (ofCall parameters arguments) =
      (parameters.take arguments.length).map Parameter.name := by
  induction parameters generalizing arguments with
  | nil => simp [ofCall, names]
  | cons parameter parameters ih =>
      cases arguments with
      | nil => simp [ofCall, names]
      | cons argument arguments => simpa [ofCall, names] using ih arguments

/-! ### Slots by position -/

theorem getElem?_ofCall {declared : List Parameter} {passed : List Value} {position : Nat}
    {parameter : Parameter} {value : Value} (here : declared[position]? = some parameter)
    (given : passed[position]? = some value) :
    (ofCall declared passed)[position]? =
      some ⟨parameter.name, parameter.byReference, value⟩ := by
  induction declared generalizing passed position with
  | nil => simp at here
  | cons first rest ih =>
      cases passed with
      | nil => simp at given
      | cons argument arguments =>
          cases position with
          | zero =>
              simp only [List.getElem?_cons_zero, Option.some.injEq] at here given
              subst here given
              rfl
          | succ position =>
              simp only [List.getElem?_cons_succ] at here given
              exact ih here given

/-- As far as a call has arguments, its slots are passed as the parameters are declared. -/
theorem byReference_ofCall (declared : List Parameter) (passed : List Value) :
    (ofCall declared passed).map Slot.byReference =
      (declared.take passed.length).map Parameter.byReference := by
  induction declared generalizing passed with
  | nil => simp [ofCall]
  | cons first rest ih =>
      cases passed with
      | nil => simp [ofCall]
      | cons argument arguments => simpa [ofCall] using ih arguments

theorem getElem?_set {params : Parameters} (distinct : (names params).Nodup) (name : String)
    (value : Value) (position : Nat) :
    (params.set name value)[position]? =
      params[position]?.map fun slot => if slot.name = name then slot.write value else slot := by
  rw [set, Named.update_eq_map Slot.name distinct, List.getElem?_map]

/-- A write goes to the first slot of its name. -/
theorem getElem?_set_first (params : Parameters) (name : String) (value : Value)
    (position : Nat) :
    (params.set name value)[position]? =
      params[position]?.map fun slot =>
        if (names params).idxOf? name = some position then slot.write value else slot :=
  Named.getElem?_update Slot.name name (Slot.write value) params position

theorem getElem?_absorb (params : Parameters) (left : List Value) (position : Nat) :
    (params.absorb left)[position]? =
      params[position]?.map fun slot =>
        if slot.byReference then slot.write (left[position]?.getD slot.value) else slot := by
  induction params generalizing left position with
  | nil => simp [absorb]
  | cons slot rest ih =>
      cases left with
      | nil =>
          have same : ∀ slot : Slot,
              (if slot.byReference then slot.write slot.value else slot) = slot := by
            intro slot
            split <;> rfl
          simp [absorb, same]
      | cons argument arguments =>
          cases position with
          | zero => simp [absorb]
          | succ position => simpa [absorb] using ih arguments position

/-- An argument passed by reference is the slot's value, any other stays. -/
theorem getElem?_overlay (params : Parameters) (arguments : List Value) (position : Nat) :
    (params.overlay arguments)[position]? =
      arguments[position]?.map fun argument =>
        match params[position]? with
        | some slot => if slot.byReference then slot.value else argument
        | none => argument := by
  induction params generalizing arguments position with
  | nil => simp [overlay]
  | cons slot rest ih =>
      cases arguments with
      | nil => simp [overlay]
      | cons argument arguments =>
          cases position with
          | zero => simp [overlay]
          | succ position => simpa [overlay] using ih arguments position

/-- Before anything is written the body gets what was passed. -/
theorem overlay_ofCall (parameters : List Parameter) (passed : List Value) :
    (ofCall parameters passed).overlay passed = passed := by
  induction parameters generalizing passed with
  | nil => rfl
  | cons parameter rest ih =>
      cases passed with
      | nil => rfl
      | cons argument arguments =>
          rw [ofCall, overlay, ih, ite_self]

end Parameters

end AspectWeaver
