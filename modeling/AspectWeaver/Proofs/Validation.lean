/-
**What is refused of a signature and of a class: the earliest offence.**

Parameters, and the methods of a class, are checked one by one, each in the light of those before
it, and the first that offends is reported. So whatever comes behind it has no part in the report,
and those before it keep all rules.

* `scan_eq_some_iff` — a check that goes through a list item by item reports the first fault there
  is.
* `firstFault?_append_one`, `firstOffence?_append_one` — both checks go item by item.
* `signatureFault?_eq_some_iff` — **the fault of a signature** is that of the earliest parameter
  with which the parameters break a rule: as a duplicate if its name occurred before, and else as
  one without a default after one with a default.
* `offence?_eq_some_iff` — **the offence of a class** is that of its earliest method that repeats a
  name or has a malformed signature, and a repeated name comes first.
* **`validation_exact`** — both checks accept exactly what keeps the rules, and report exactly the
  earliest offence.
-/

import AspectWeaver.Proofs.Reachable
import AspectWeaver.Proofs.Signature
import Mathlib.Data.List.Induction

namespace AspectWeaver

variable {S : Interface}

/-! ### Checks that go item by item -/

/-- A check that finds the faults of items one by one, each in the light of those before it, reports
the first there is. -/
theorem scan_eq_some_iff {α β : Type} (check : List α → Option β) {fault? : List α → α → Option β}
    (start : check [] = none)
    (next : ∀ before item, check (before ++ [item]) = (check before).or (fault? before item))
    {items : List α} {fault : β} :
    check items = some fault ↔ ∃ before item after, items = before ++ item :: after ∧
      check before = none ∧ fault? before item = some fault := by
  constructor
  · intro found
    induction items using List.reverseRecOn with
    | nil =>
        rw [start] at found
        cases found
    | append_singleton items last ih =>
        rw [next] at found
        cases earlier : check items with
        | none =>
            rw [earlier, Option.none_or] at found
            exact ⟨items, last, [], rfl, earlier, found⟩
        | some other =>
            rw [earlier, Option.some_or] at found
            obtain ⟨before, item, after, rfl, faultless, faulty⟩ := ih (earlier.trans found)
            exact ⟨before, item, after ++ [last], by simp, faultless, faulty⟩
  · rintro ⟨before, item, after, rfl, faultless, faulty⟩
    induction after using List.reverseRecOn with
    | nil => rw [next, faultless, Option.none_or, faulty]
    | append_singleton after last ih =>
        rw [← List.cons_append, ← List.append_assoc, next, ih, Option.some_or]

namespace Method

/-! ### Signatures -/

/-- The method with these parameters in the place of its own. -/
def taking (method : Method) (parameters : List Parameter) : Method :=
  { method with parameters := parameters }

/-- The fault of a parameter behind others that have none. -/
def breach? (before : List Parameter) (parameter : Parameter) : Option SignatureFault :=
  if parameter.name ∈ before.map Parameter.name then some (.duplicate parameter.name)
  else if parameter.default.isNone && before.any (fun earlier => earlier.default.isSome) then
    some (.requiredAfterOptional parameter.name)
  else none

/-- One parameter more is checked in the light of all names before it, and of whether one of these
parameters has a default. -/
theorem firstFault?_concat (seen : List String) (optionalSeen : Bool) (before : List Parameter)
    (parameter : Parameter) :
    firstFault? seen optionalSeen (before ++ [parameter]) =
      (firstFault? seen optionalSeen before).or
        (firstFault? ((before.map Parameter.name).reverse ++ seen)
          (optionalSeen || before.any fun earlier => earlier.default.isSome) [parameter]) := by
  induction before generalizing seen optionalSeen with
  | nil => simp [firstFault?]
  | cons first rest ih =>
      have names : ((first :: rest).map Parameter.name).reverse ++ seen =
          (rest.map Parameter.name).reverse ++ first.name :: seen := by simp
      rw [names, List.any_cons, List.cons_append, firstFault?, firstFault?]
      by_cases known : seen.contains first.name = true
      · rw [if_pos known, if_pos known, Option.some_or]
      rw [if_neg known, if_neg known]
      by_cases optional : first.default.isSome = true
      · rw [if_pos optional, if_pos optional, ih, optional, Bool.true_or, Bool.or_true]
      rw [if_neg optional, if_neg optional]
      by_cases before : optionalSeen = true
      · rw [if_pos before, if_pos before, Option.some_or]
      rw [if_neg before, if_neg before, ih, Bool.eq_false_iff.mpr optional,
        Bool.eq_false_iff.mpr before, Bool.false_or, Bool.false_or]

/-- Parameters are checked one by one. -/
theorem firstFault?_append_one (before : List Parameter) (parameter : Parameter) :
    firstFault? [] false (before ++ [parameter]) =
      (firstFault? [] false before).or (breach? before parameter) := by
  have last : firstFault? ((before.map Parameter.name).reverse ++ [])
      (false || before.any fun earlier => earlier.default.isSome) [parameter] =
        breach? before parameter := by
    simp only [firstFault?, breach?, List.append_nil, List.contains_reverse, List.contains_iff_mem,
      Bool.false_or]
    cases parameter.default <;> simp
  rw [firstFault?_concat, last]

/-- **The fault of a signature** is that of the earliest parameter with which the parameters break a
rule. -/
theorem signatureFault?_eq_some_iff {method : Method} {fault : SignatureFault} :
    method.signatureFault? = some fault ↔
      ∃ before parameter after, method.parameters = before ++ parameter :: after ∧
        (method.taking before).Orderly ∧ ¬ (method.taking (before ++ [parameter])).Orderly ∧
        fault = if parameter.name ∈ before.map Parameter.name then .duplicate parameter.name
          else .requiredAfterOptional parameter.name := by
  have scanned : method.signatureFault? = some fault ↔ _ :=
    scan_eq_some_iff (firstFault? [] false) rfl firstFault?_append_one
  rw [scanned]
  refine exists_congr fun before => exists_congr fun parameter => exists_congr fun after =>
    and_congr_right fun _ => ?_
  rw [← signatureFault?_eq_none_iff, ← signatureFault?_eq_none_iff]
  refine and_congr_right fun faultless => ?_
  have one : (method.taking (before ++ [parameter])).signatureFault? =
      breach? before parameter := by
    have faultless : firstFault? [] false before = none := faultless
    exact (firstFault?_append_one before parameter).trans (by rw [faultless, Option.none_or])
  rw [one, breach?]
  split
  · simp [eq_comm]
  · split
    · simp [eq_comm]
    · simp

/-- A repeated name is reported as that even where a default is missing too. -/
example : signatureFault? { name := "set", parameters :=
    [{ name := "value", default := some .null }, { name := "value" }] } =
      some (.duplicate "value") := by
  decide

end Method

namespace ClassDefinition

/-! ### Classes -/

/-- The rules for the methods of a class. -/
structure Acceptable (entries : List (Entry S)) : Prop where
  /-- The names of the methods differ. -/
  distinct : (entries.map Entry.name).Nodup
  /-- Their signatures keep the rules. -/
  signatures : ∀ entry ∈ entries, entry.method.Orderly

/-- A method offends behind others that do not, and how. -/
inductive Offends (className : String) (before : List (Entry S)) (entry : Entry S) :
    Refusal → Prop where
  /-- It repeats a name, whatever its signature. -/
  | repeated (known : entry.name ∈ before.map Entry.name) :
      Offends className before entry (.methodExists ⟨className, entry.name⟩)
  | malformed {fault : SignatureFault} (new : entry.name ∉ before.map Entry.name)
      (faulty : entry.method.signatureFault? = some fault) :
      Offends className before entry (.malformedSignature ⟨className, entry.name⟩ fault)

/-- The offence of a method behind others that do not offend. -/
def breach? (className : String) (before : List (Entry S)) (entry : Entry S) : Option Refusal :=
  if entry.name ∈ before.map Entry.name then some (.methodExists ⟨className, entry.name⟩)
  else entry.method.signatureFault?.map (.malformedSignature ⟨className, entry.name⟩)

theorem breach?_eq_some_iff {className : String} {before : List (Entry S)} {entry : Entry S}
    {cause : Refusal} :
    breach? className before entry = some cause ↔ Offends className before entry cause := by
  rw [breach?]
  constructor
  · intro found
    split at found
    · rename_i known
      cases found
      exact .repeated known
    · rename_i new
      obtain ⟨fault, faulty, rfl⟩ := Option.map_eq_some_iff.mp found
      exact .malformed new faulty
  · intro offends
    cases offends with
    | repeated known => rw [if_pos known]
    | malformed new faulty => rw [if_neg new, faulty, Option.map_some]

/-- One method more is checked in the light of all names before it. -/
theorem firstOffence?_concat (className : String) (seen : List String) (before : List (Entry S))
    (entry : Entry S) :
    firstOffence? className seen (before ++ [entry]) =
      (firstOffence? className seen before).or
        (firstOffence? className ((before.map Entry.name).reverse ++ seen) [entry]) := by
  induction before generalizing seen with
  | nil => simp [firstOffence?]
  | cons first rest ih =>
      have names : ((first :: rest).map Entry.name).reverse ++ seen =
          (rest.map Entry.name).reverse ++ first.name :: seen := by simp
      rw [names, List.cons_append, firstOffence?, firstOffence?]
      by_cases known : seen.contains first.name = true
      · rw [if_pos known, if_pos known, Option.some_or]
      rw [if_neg known, if_neg known]
      cases first.method.signatureFault? with
      | some fault => rfl
      | none => exact ih (first.name :: seen)

/-- Methods are checked one by one. -/
theorem firstOffence?_append_one (className : String) (before : List (Entry S)) (entry : Entry S) :
    firstOffence? className [] (before ++ [entry]) =
      (firstOffence? className [] before).or (breach? className before entry) := by
  have last : firstOffence? className ((before.map Entry.name).reverse ++ []) [entry] =
      breach? className before entry := by
    simp only [firstOffence?, breach?, List.append_nil, List.contains_reverse,
      List.contains_iff_mem]
    cases entry.method.signatureFault? <;> rfl
  rw [firstOffence?_concat, last]

/-- Methods are accepted exactly if they keep the rules. -/
theorem firstOffence?_eq_none_iff_acceptable {className : String} {entries : List (Entry S)} :
    firstOffence? className [] entries = none ↔ Acceptable entries := by
  rw [firstOffence?_eq_none_iff]
  constructor
  · rintro ⟨distinct, _, signatures⟩
    exact ⟨distinct, fun entry inside =>
      Method.signatureFault?_eq_none_iff.mp (signatures entry inside)⟩
  · rintro ⟨distinct, signatures⟩
    exact ⟨distinct, fun _ _ => List.not_mem_nil, fun entry inside =>
      Method.signatureFault?_eq_none_iff.mpr (signatures entry inside)⟩

/-- **The offence of a class** is that of its earliest method that offends. -/
theorem offence?_eq_some_iff {definition : ClassDefinition S} {cause : Refusal} :
    definition.offence? = some cause ↔
      ∃ before entry after, definition.entries = before ++ entry :: after ∧ Acceptable before ∧
        Offends definition.name before entry cause := by
  have scanned : definition.offence? = some cause ↔ _ :=
    scan_eq_some_iff (firstOffence? definition.name []) rfl
      (firstOffence?_append_one definition.name)
  rw [scanned]
  simp only [firstOffence?_eq_none_iff_acceptable, breach?_eq_some_iff]

end ClassDefinition

/-! ### Both checks -/

/-- What can be relied on when a signature is checked. -/
structure Method.Checked (className : String) (method : Method) : Prop where
  accepted : method.checkSignature className = .ok () ↔ method.Orderly
  /-- The report names the earliest parameter with which the parameters break a rule: as a duplicate
  if its name occurred before, and else as one without a default after one with a default. -/
  refused {cause : Refusal} : method.checkSignature className = .error cause ↔
    ∃ before parameter after, method.parameters = before ++ parameter :: after ∧
      (method.taking before).Orderly ∧ ¬ (method.taking (before ++ [parameter])).Orderly ∧
      cause = .malformedSignature ⟨className, method.name⟩
        (if parameter.name ∈ before.map Parameter.name then .duplicate parameter.name
          else .requiredAfterOptional parameter.name)

/-- What can be relied on when a class is checked. -/
structure ClassDefinition.Checked (definition : ClassDefinition S) : Prop where
  accepted : definition.offence? = none ↔ Acceptable definition.entries
  /-- The report is about the earliest method that offends. -/
  refused {cause : Refusal} : definition.offence? = some cause ↔
    ∃ before entry after, definition.entries = before ++ entry :: after ∧ Acceptable before ∧
      Offends definition.name before entry cause

/-- A signature is refused with its fault. -/
theorem Method.checkSignature_eq_error_iff {className : String} {method : Method}
    {cause : Refusal} :
    method.checkSignature className = .error cause ↔
      ∃ fault, method.signatureFault? = some fault ∧
        cause = .malformedSignature ⟨className, method.name⟩ fault := by
  rw [checkSignature]
  cases method.signatureFault? <;> simp [eq_comm]

/-- **Both checks accept exactly what keeps the rules, and report exactly the earliest offence.** -/
theorem validation_exact (className : String) (method : Method) (definition : ClassDefinition S) :
    method.Checked className ∧ definition.Checked := by
  refine ⟨⟨?_, ?_⟩, ⟨?_, ?_⟩⟩
  · rw [← Method.signatureFault?_eq_none_iff, Method.checkSignature]
    cases method.signatureFault? <;> simp
  · intro cause
    rw [Method.checkSignature_eq_error_iff]
    constructor
    · rintro ⟨fault, faulty, rfl⟩
      obtain ⟨before, parameter, after, order, orderly, disorderly, rfl⟩ :=
        Method.signatureFault?_eq_some_iff.mp faulty
      exact ⟨before, parameter, after, order, orderly, disorderly, rfl⟩
    · rintro ⟨before, parameter, after, order, orderly, disorderly, rfl⟩
      exact ⟨_, Method.signatureFault?_eq_some_iff.mpr
        ⟨before, parameter, after, order, orderly, disorderly, rfl⟩, rfl⟩
  · exact ClassDefinition.firstOffence?_eq_none_iff_acceptable
  · exact ClassDefinition.offence?_eq_some_iff

end AspectWeaver
