/-
**Loading many entries into a registry.**

Functions and annotations wait to be loaded. Loading goes through all functions, and then through
all annotations, and stops at the first that the registry refuses; what was loaded before stays. The
standard functions are added one by one, and one that is refused is left out.

* `load_append` — **loading goes in order**: two lists of submissions load as one after the other,
  and the second is not begun if the first is refused.
-/

import AspectWeaver.Advice.Standard
import AspectWeaver.Registry

namespace AspectWeaver

variable {S : Interface}

/-- An entry that waits to be loaded. -/
inductive Submission (S : Interface) where
  | function (name : String) (handler : Handler S)
  | binding (name : String) (kind : Kind) (handler : Handler S)

namespace Submission

/-- Adds the entry to a registry. -/
def addTo (registry : Registry S) : Submission S → Except Refusal Unit × Registry S
  | .function name handler => registry.defineFunction name handler
  | .binding name kind handler => registry.register name handler kind

/-- The line that announces the loading. -/
def announcement : Submission S → Event
  | .function name _ => .loadingFunction name
  | .binding name kind _ => .loadingBinding name kind

/-- The line that confirms the addition. -/
def confirmation : Submission S → Event
  | .function name handler => .definingFunction name handler.kind
  | .binding name kind _ => .registering name kind

end Submission

/-- What came of loading: the registry then, the lines written, and the refusal that stopped it. -/
structure Loading (S : Interface) where
  registry : Registry S
  events : List Event
  stopped : Option Refusal

namespace Registry

/-- Loads submissions in order until one is refused. -/
def load (registry : Registry S) : List (Submission S) → Loading S
  | [] => ⟨registry, [], none⟩
  | submission :: rest =>
      match submission.addTo registry with
      | (.error cause, left) => ⟨left, [submission.announcement], some cause⟩
      | (.ok (), extended) =>
          let loaded := extended.load rest
          { loaded with events :=
              submission.announcement :: submission.confirmation :: loaded.events }

/-- Loads the functions, and then the annotations, and counts them if all of them are accepted. -/
def autoLoad (registry : Registry S) (functions : List (String × Handler S))
    (bindings : List (Binding S)) : Except Refusal Nat × Loading S :=
  let first := registry.load (functions.map fun (name, handler) => .function name handler)
  match first.stopped with
  | some cause => (.error cause, first)
  | none =>
      let second := first.registry.load
        (bindings.map fun binding => .binding binding.name binding.kind binding.handler)
      let loaded := { second with events := first.events ++ second.events }
      match second.stopped with
      | some cause => (.error cause, loaded)
      | none =>
          let number := functions.length + bindings.length
          (.ok number, { loaded with events := loaded.events ++ [.loaded number] })

/-- Adds the standard functions, leaving out the ones that are refused. -/
def addStandard (registry : Registry S) : List (String × Handler S) → Registry S × List Event
  | [] => (registry, [])
  | (name, handler) :: rest =>
      match registry.defineFunction name handler with
      | (.error cause, left) =>
          let added := left.addStandard rest
          (added.1, .standardSkipped name cause :: added.2)
      | (.ok (), extended) =>
          let added := extended.addStandard rest
          (added.1, .definingFunction name handler.kind :: added.2)

/-- Two lists of submissions load as one after the other. -/
theorem load_append (registry : Registry S) (first second : List (Submission S)) :
    registry.load (first ++ second) =
      let loaded := registry.load first
      match loaded.stopped with
      | some _ => loaded
      | none =>
          let rest := loaded.registry.load second
          ⟨rest.registry, loaded.events ++ rest.events, rest.stopped⟩ := by
  induction first generalizing registry with
  | nil => simp [load]
  | cons submission rest ih =>
      simp only [List.cons_append, load]
      obtain ⟨outcome, left⟩ := submission.addTo registry
      cases outcome with
      | error cause => simp
      | ok _ =>
          simp only [ih left]
          cases stopped : (left.load rest).stopped with
          | none => simp
          | some cause => simp [stopped]

end Registry

end AspectWeaver
