/-
**Well-formed signatures.**

In a well-formed signature the names of the parameters differ, and the parameters with a default
come last. So of the parameters that a call leaves out either all have a default, or the first has
none.

* **`signatureFault?_eq_none_iff`** — a signature is well formed exactly if the names of its
  parameters differ and no parameter without a default follows one with a default.
* `optional_after` — after a parameter with a default all have one.
-/

import AspectWeaver.Calling
import AspectWeaver.Named

namespace AspectWeaver.Method

/-- The rules for a signature. -/
structure Orderly (method : Method) : Prop where
  /-- The names of the parameters differ. -/
  distinct : (method.parameters.map Parameter.name).Nodup
  /-- No parameter without a default follows one with a default. -/
  optionalLast : method.parameters.Pairwise fun earlier later =>
    earlier.default.isSome = true → later.default.isSome = true

/-- Parameters after others are without fault exactly if their names differ and are new, no
parameter without a default follows one with a default, and all have one if one before them has. -/
theorem firstFault?_eq_none_iff {seen : List String} {optionalSeen : Bool}
    {parameters : List Parameter} :
    firstFault? seen optionalSeen parameters = none ↔
      (parameters.map Parameter.name).Nodup ∧
        (∀ parameter ∈ parameters, parameter.name ∉ seen) ∧
        parameters.Pairwise (fun earlier later =>
          earlier.default.isSome = true → later.default.isSome = true) ∧
        (optionalSeen = true → ∀ parameter ∈ parameters, parameter.default.isSome = true) := by
  induction parameters generalizing seen optionalSeen with
  | nil => simp [firstFault?]
  | cons parameter rest ih =>
      unfold firstFault?
      rw [List.map_cons, List.nodup_cons, List.forall_mem_cons, List.forall_mem_cons,
        List.pairwise_cons]
      by_cases known : parameter.name ∈ seen
      · rw [if_pos (List.contains_iff_mem.mpr known)]
        exact iff_of_false nofun fun ⟨_, ⟨fresh, _⟩, _⟩ => fresh known
      · rw [if_neg (fun inside => known (List.contains_iff_mem.mp inside))]
        by_cases optional : parameter.default.isSome = true
        · rw [if_pos optional, ih, Named.apart_cons_iff Parameter.name]
          constructor
          · rintro ⟨distinct, ⟨different, fresh⟩, pairs, all⟩
            have follows : ∀ other ∈ rest, parameter.default.isSome = true →
                other.default.isSome = true := fun other member _ => all rfl other member
            exact ⟨⟨different, distinct⟩, ⟨known, fresh⟩, ⟨follows, pairs⟩,
              fun _ => ⟨optional, all rfl⟩⟩
          · rintro ⟨⟨different, distinct⟩, ⟨_, fresh⟩, ⟨follows, pairs⟩, _⟩
            exact ⟨distinct, ⟨different, fresh⟩, pairs,
              fun _ other member => follows other member optional⟩
        · rw [if_neg optional]
          by_cases before : optionalSeen = true
          · rw [if_pos before]
            exact iff_of_false nofun fun ⟨_, _, _, all⟩ => optional (all before).1
          · rw [if_neg before, ih, Named.apart_cons_iff Parameter.name]
            constructor
            · rintro ⟨distinct, ⟨different, fresh⟩, pairs, _⟩
              have follows : ∀ other ∈ rest, parameter.default.isSome = true →
                  other.default.isSome = true := fun _ _ given => absurd given optional
              exact ⟨⟨different, distinct⟩, ⟨known, fresh⟩, ⟨follows, pairs⟩,
                fun given => absurd given before⟩
            · rintro ⟨⟨different, distinct⟩, ⟨_, fresh⟩, ⟨_, pairs⟩, _⟩
              exact ⟨distinct, ⟨different, fresh⟩, pairs, nofun⟩

/-- **A signature is well formed exactly if it keeps the rules.** -/
theorem signatureFault?_eq_none_iff {method : Method} :
    method.signatureFault? = none ↔ method.Orderly := by
  have rules : method.signatureFault? = none ↔ _ := firstFault?_eq_none_iff
  rw [rules]
  constructor
  · rintro ⟨distinct, _, optionalLast, _⟩
    exact ⟨distinct, optionalLast⟩
  · rintro ⟨distinct, optionalLast⟩
    exact ⟨distinct, fun _ _ => List.not_mem_nil, optionalLast, nofun⟩

/-- The parameters from one on are that one and those after it. -/
theorem drop_eq_cons {parameters : List Parameter} {position : Nat} {parameter : Parameter}
    (here : parameters[position]? = some parameter) :
    parameters.drop position = parameter :: parameters.drop (position + 1) := by
  obtain ⟨inside, same⟩ := List.getElem?_eq_some_iff.mp here
  rw [← same]
  exact (List.getElem_cons_drop inside).symm

/-- After a parameter with a default all have one. -/
theorem Orderly.optional_after {method : Method} (orderly : method.Orderly) {position : Nat}
    {parameter : Parameter} (here : method.parameters[position]? = some parameter)
    (optional : parameter.default.isSome = true) :
    ∀ other ∈ method.parameters.drop position, other.default.isSome = true := by
  have rest := drop_eq_cons here
  have pairs := orderly.optionalLast.drop (i := position)
  rw [rest] at pairs ⊢
  refine List.forall_mem_cons.mpr ⟨optional, fun other member => ?_⟩
  exact (List.pairwise_cons.mp pairs).1 other member optional

end AspectWeaver.Method
