/-
**Directives of a registry that grows.**

A registry takes in entries and gives none up. A directive that resolves goes on doing so, to the
same handler, so a chain that is built is built just so with more entries.

* `Extends` — further annotations and functions; `Extends.grows`, what they keep.
* `Grows.resolve`, `Grows.ofDirectives` — **what a directive asks for stays**.
* `Grows.extendTold` — **a chain that is built stays the same**, and so does what its building does
  in the world.
-/

import AspectWeaver.Proofs.Building
import AspectWeaver.Proofs.Requests

namespace AspectWeaver

variable {S : Interface} {σ : Type}

namespace Registry

/-! ### Further entries -/

/-- A registry and what further annotations and functions make of it. -/
inductive Extends (registry : Registry S) : Registry S → Prop where
  | nothing : Extends registry registry
  | register {extended registered : Registry S} {name : String} {handler : Handler S} {kind : Kind}
      (before : Extends registry extended)
      (accepted : extended.register name handler kind = (.ok (), registered)) :
      Extends registry registered
  | define {extended defined : Registry S} {name : String} {handler : Handler S}
      (before : Extends registry extended)
      (accepted : extended.defineFunction name handler = (.ok (), defined)) :
      Extends registry defined

variable {registry extended : Registry S}

/-- Further entries take nothing away. -/
theorem Extends.grows (extends' : registry.Extends extended) : registry.Grows extended := by
  induction extends' with
  | nothing => exact .refl registry
  | register _ accepted ih =>
      obtain ⟨kind, _, accepts, rfl⟩ := registerWithCode_eq_ok_iff.mp accepted
      exact ih.trans (Takes.entry accepts).grows
  | define _ accepted ih =>
      obtain ⟨accepts, rfl⟩ := defineFunction_eq_ok_iff.mp accepted
      exact ih.trans (Takes.entry accepts).grows

namespace Grows

/-- An annotation stays registered. -/
theorem contains (grows : registry.Grows extended) {name : String}
    (contained : registry.contains name = true) : extended.contains name = true := by
  obtain ⟨binding, found⟩ := Option.isSome_iff_exists.mp contained
  exact Option.isSome_iff_exists.mpr ⟨binding, grows.bindings found⟩

variable {directive : Directive} {handler : Handler S} {target : MethodId}
  {directives : List Directive}

/-! ### Directives -/

/-- A directive still asks for the handler it asked for. -/
theorem handler? (grows : registry.Grows extended)
    (asks : directive.handler? registry = some handler) :
    directive.handler? extended = some handler := by
  unfold Directive.handler? at asks ⊢
  cases builtin : kindNamed? directive.name with
  | none =>
      rw [builtin] at asks
      obtain ⟨binding, found, same⟩ := Option.map_eq_some_iff.mp asks
      dsimp only
      rw [grows.bindings found, Option.map_some, same]
  | some kind =>
      rw [builtin] at asks
      obtain ⟨name, first, found⟩ := Option.bind_eq_some_iff.mp asks
      dsimp only
      rw [first, Option.bind_some, grows.functions found]

/-- A directive still resolves. -/
theorem resolves (grows : registry.Grows extended) (resolves : directive.Resolves registry) :
    directive.Resolves extended := by
  obtain ⟨handler, asks, fits⟩ := resolves
  exact ⟨handler, grows.handler? asks, fits⟩

/-- A directive still resolves to the same handler and options. -/
theorem resolve (grows : registry.Grows extended) {options : List String}
    (resolved : Chain.resolve registry target directive = .ok (handler, options)) :
    Chain.resolve extended target directive = .ok (handler, options) := by
  obtain ⟨asks, follow, fits⟩ := Chain.resolve_eq_ok_iff.mp resolved
  exact Chain.resolve_eq_ok_iff.mpr ⟨grows.handler? asks, follow, fits⟩

/-! ### Chains -/

/-- The chain of directives that resolve is the same. -/
theorem ofDirectives (grows : registry.Grows extended)
    (resolved : ∀ directive ∈ directives, directive.Resolves registry) :
    Chain.ofDirectives extended directives = Chain.ofDirectives registry directives := by
  induction directives with
  | nil => rfl
  | cons directive rest ih =>
      obtain ⟨⟨handler, asks, _⟩, others⟩ := List.forall_mem_cons.mp resolved
      have first : Chain.ofDirectives extended [directive] =
          Chain.ofDirectives registry [directive] := by
        rw [← Chain.empty_append (Chain.ofDirectives extended [directive]),
          ← Chain.empty_append (Chain.ofDirectives registry [directive]),
          Chain.append_single asks, Chain.append_single (grows.handler? asks)]
        cases handler <;> rfl
      have split (known : Registry S) : Chain.ofDirectives known (directive :: rest) =
          (Chain.ofDirectives known [directive]).append (Chain.ofDirectives known rest) :=
        Chain.ofDirectives_append known [directive] rest
      rw [split, split, first, ih others]

/-- **A chain that is built is built just so with more entries**: the same `info` handlers run, and
they leave the same world. -/
theorem extendTold (grows : registry.Grows extended) {host : Host S σ} {chain built : Chain S}
    {world later : World S σ} {told : List InfoRun}
    (runs : Chain.extendTold registry host target directives chain world =
      (told, some (.ok built, later))) :
    Chain.extendTold extended host target directives chain world =
      (told, some (.ok built, later)) := by
  induction directives generalizing chain world told with
  | nil => exact runs
  | cons directive rest ih =>
      rw [Chain.extendTold] at runs ⊢
      cases resolved : Chain.resolve registry target directive with
      | error cause =>
          rw [resolved] at runs
          cases runs
      | ok asked =>
          obtain ⟨handler, options⟩ := asked
          rw [resolved] at runs
          rw [grows.resolve resolved]
          cases handler with
          | before handle => exact ih runs
          | after handle => exact ih runs
          | around handle => exact ih runs
          | info handle =>
              dsimp only at runs ⊢
              cases handled : (handle target options).run host
                  (world.write (.runningInfo directive.name target)) with
              | none =>
                  rw [handled] at runs
                  cases runs
              | some ended =>
                  obtain ⟨outcome, middle⟩ := ended
                  rw [handled] at runs
                  cases outcome with
                  | error failure => cases runs
                  | ok _ =>
                      obtain ⟨rfl, ended⟩ := Prod.ext_iff.mp runs
                      have others := ih (Prod.ext rfl ended)
                      dsimp only
                      rw [others]

end Grows

end Registry

end AspectWeaver
