/-
**Dynamic values: what arguments, results and object fields hold.**

A value is null, a truth value, an integer, a text, a list or a record with named fields.

* `same_iff` — **comparison is equality**: `same` answers `true` exactly on equal values, which
  makes equality of values decidable.
* `find?_insertField` — **read after write**: a field just written reads back, others read as
  before.
* `map_fst_fieldsOf_perm`, `find?_fieldsOf` — pairs of different names become fields of these names
  with their values.
-/

import AspectWeaver.Word64

namespace AspectWeaver

/-- A dynamic value. The fields of a record stand in increasing order of their names. -/
inductive Value where
  | null
  | bool (truth : Bool)
  | int (number : Int)
  | text (content : String)
  | list (items : List Value)
  | record (fields : List (String × Value))
  deriving Inhabited

namespace Value

/-! ### Equality -/

mutual

/-- Compares two values. -/
def same : Value → Value → Bool
  | .null, .null => true
  | .bool left, .bool right => left == right
  | .int left, .int right => left == right
  | .text left, .text right => left == right
  | .list left, .list right => sameItems left right
  | .record left, .record right => sameFields left right
  | _, _ => false

/-- Compares two lists of values, item by item. -/
def sameItems : List Value → List Value → Bool
  | [], [] => true
  | left :: lefts, right :: rights => same left right && sameItems lefts rights
  | _, _ => false

/-- Compares two lists of fields, field by field. -/
def sameFields : List (String × Value) → List (String × Value) → Bool
  | [], [] => true
  | (leftName, left) :: lefts, (rightName, right) :: rights =>
      leftName == rightName && same left right && sameFields lefts rights
  | _, _ => false

end

mutual

/-- Comparison is equality. -/
theorem same_iff : ∀ left right : Value, same left right = true ↔ left = right
  | .null, right => by cases right <;> simp [same]
  | .bool _, right => by cases right <;> simp [same]
  | .int _, right => by cases right <;> simp [same]
  | .text _, right => by cases right <;> simp [same]
  | .list items, right => by cases right <;> simp [same, sameItems_iff items]
  | .record fields, right => by cases right <;> simp [same, sameFields_iff fields]

theorem sameItems_iff : ∀ left right : List Value, sameItems left right = true ↔ left = right
  | [], right => by cases right <;> simp [sameItems]
  | left :: lefts, right => by
      cases right <;> simp [sameItems, same_iff left, sameItems_iff lefts]

theorem sameFields_iff :
    ∀ left right : List (String × Value), sameFields left right = true ↔ left = right
  | [], right => by cases right <;> simp [sameFields]
  | (name, left) :: lefts, right => by
      cases right <;> simp [sameFields, same_iff left, sameFields_iff lefts, Prod.ext_iff]

end

instance : DecidableEq Value := fun left right => decidable_of_iff _ (same_iff left right)

/-! ### Integers -/

/-- The number of a value: a signed word of 64 bits is itself, all else counts as 0. -/
def toInt : Value → Int
  | .int number => if Fits64 number then number else 0
  | _ => 0

/-! ### Records -/

/-- The value of a field. -/
def find? (wanted : String) : List (String × Value) → Option Value
  | [] => none
  | (name, value) :: rest => if wanted = name then some value else find? wanted rest

/-- Puts a field in its place by name; a field of that name is replaced. -/
def insertField (name : String) (value : Value) : List (String × Value) → List (String × Value)
  | [] => [(name, value)]
  | (other, held) :: rest =>
      if name = other then (name, value) :: rest
      else if name < other then (name, value) :: (other, held) :: rest
      else (other, held) :: insertField name value rest

/-- The fields of a list of pairs, of which the last pair of a name counts. -/
def fieldsOf (pairs : List (String × Value)) : List (String × Value) :=
  pairs.foldl (fun fields pair => insertField pair.1 pair.2 fields) []

/-- The record of a list of pairs, of which the last pair of a name counts. -/
def ofPairs (pairs : List (String × Value)) : Value := .record (fieldsOf pairs)

/-- Reading a field just written gives the value; other fields read as before. -/
theorem find?_insertField (name wanted : String) (value : Value) (fields : List (String × Value)) :
    find? wanted (insertField name value fields) =
      if wanted = name then some value else find? wanted fields := by
  induction fields with
  | nil => simp [find?, insertField]
  | cons field rest ih =>
      obtain ⟨other, held⟩ := field
      by_cases here : name = other
      · subst here
        by_cases asked : wanted = name <;> simp [find?, insertField, asked]
      · by_cases earlier : name < other
        · simp [find?, insertField, here, earlier]
        · by_cases asked : wanted = other
          · simp [find?, insertField, here, earlier, asked, Ne.symm here]
          · simp [find?, insertField, here, earlier, asked, ih]

/-- A field of a new name is one field more. -/
theorem map_fst_insertField_perm {name : String} {fields : List (String × Value)}
    (new : name ∉ fields.map Prod.fst) (value : Value) :
    ((insertField name value fields).map Prod.fst).Perm (name :: fields.map Prod.fst) := by
  induction fields with
  | nil => exact .refl _
  | cons field rest ih =>
      obtain ⟨other, held⟩ := field
      rw [List.map_cons, List.mem_cons, not_or] at new
      unfold insertField
      rw [if_neg new.1]
      split
      · exact .refl _
      · exact ((ih new.2).cons other).trans (.swap name other _)

/-- Where a name does not occur, it has no value. -/
theorem find?_of_not_mem {name : String} {fields : List (String × Value)}
    (absent : name ∉ fields.map Prod.fst) : find? name fields = none := by
  induction fields with
  | nil => rfl
  | cons field rest ih =>
      rw [List.map_cons, List.mem_cons, not_or] at absent
      rw [find?, if_neg absent.1, ih absent.2]

/-- Pairs of different names that are put among fields of other names stand there with them. -/
theorem map_fst_foldl_perm {pairs fields : List (String × Value)}
    (distinct : (pairs.map Prod.fst ++ fields.map Prod.fst).Nodup) :
    ((pairs.foldl (fun fields pair => insertField pair.1 pair.2 fields) fields).map Prod.fst).Perm
      (pairs.map Prod.fst ++ fields.map Prod.fst) := by
  induction pairs generalizing fields with
  | nil => exact .refl _
  | cons pair rest ih =>
      obtain ⟨name, value⟩ := pair
      rw [List.map_cons, List.cons_append] at distinct
      obtain ⟨fresh, _⟩ := List.nodup_cons.mp distinct
      have new : name ∉ fields.map Prod.fst := fun inside => fresh (List.mem_append_right _ inside)
      have first : (rest.map Prod.fst ++ (insertField name value fields).map Prod.fst).Perm
          (name :: (rest.map Prod.fst ++ fields.map Prod.fst)) :=
        ((map_fst_insertField_perm new value).append_left _).trans List.perm_middle
      exact (ih (first.nodup_iff.mpr distinct)).trans first

/-- Pairs of different names become fields of these names. -/
theorem map_fst_fieldsOf_perm {pairs : List (String × Value)}
    (distinct : (pairs.map Prod.fst).Nodup) :
    ((fieldsOf pairs).map Prod.fst).Perm (pairs.map Prod.fst) := by
  have alone : (pairs.map Prod.fst ++ ([] : List (String × Value)).map Prod.fst).Nodup := by
    simpa using distinct
  simpa [fieldsOf] using map_fst_foldl_perm alone

/-- What is found where pairs of different names were put among fields. -/
theorem find?_foldl {pairs fields : List (String × Value)} (distinct : (pairs.map Prod.fst).Nodup)
    (wanted : String) :
    find? wanted (pairs.foldl (fun fields pair => insertField pair.1 pair.2 fields) fields) =
      (find? wanted pairs).or (find? wanted fields) := by
  induction pairs generalizing fields with
  | nil => rfl
  | cons pair rest ih =>
      obtain ⟨name, value⟩ := pair
      rw [List.map_cons, List.nodup_cons] at distinct
      rw [List.foldl_cons, ih distinct.2, find?_insertField, find?]
      by_cases asked : wanted = name
      · subst asked
        rw [find?_of_not_mem distinct.1, if_pos rfl, if_pos rfl]
        rfl
      · rw [if_neg asked, if_neg asked]

/-- Pairs of different names become fields with their values. -/
theorem find?_fieldsOf {pairs : List (String × Value)} (distinct : (pairs.map Prod.fst).Nodup)
    (wanted : String) : find? wanted (fieldsOf pairs) = find? wanted pairs := by
  rw [fieldsOf, find?_foldl distinct]
  exact Option.or_none

end Value

end AspectWeaver
