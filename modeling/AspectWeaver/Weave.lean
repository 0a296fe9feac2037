/-
**Weaving a class.**

The methods of a class are taken in order. A method without directives is left alone. One that is
processed already is skipped, or ends the weaving, as the policy says. For any other the chain of
its directives is built; if handlers of calls are in it, the method gets a woven body, and in any
case the method is processed then. Whatever fails ends the weaving; what was done before stays.

* `weaveAll_append` — **weaving goes in order**: two lists of methods are woven as one after the
  other.
-/

import AspectWeaver.Settings.Policy
import AspectWeaver.World
import AspectWeaver.Woven

namespace AspectWeaver

variable {S : Interface} {σ : Type}

/-- What a weaving did. -/
structure WeaveReport where
  className : String
  /-- The methods that got a woven body. -/
  wrapped : List String := []
  /-- The methods that were processed before. -/
  skipped : List String := []
  /-- How many `info` handlers ran. -/
  infoRuns : Nat := 0
  deriving DecidableEq

/-- What weaving goes by: the registry, and what to do with processed methods. -/
structure Weaver (S : Interface) where
  registry : Registry S
  policy : ReweavePolicy := .skip

namespace Weaver

/-- Installs what a chain asks for on a method. -/
def apply (className : String) (method : Method) (chain : Chain S) (report : WeaveReport)
    (world : World S σ) : Except Refusal WeaveReport × World S σ :=
  let target : MethodId := ⟨className, method.name⟩
  let report := { report with infoRuns := report.infoRuns + chain.infoRuns }
  if chain.isEmpty then
    let world := world.write (.nothingToWrap target)
    let (outcome, classes) := world.classes.markProcessed target
    (outcome.map fun _ => report, { world with classes := classes })
  else
    let world := world.write (.wrapping target chain.size)
    match world.classes.body target with
    | .error cause => (.error cause, world)
    | .ok original =>
        let woven : WovenMethod S := ⟨className, method, chain, original⟩
        let world := world.write woven.report
        let (outcome, classes) := world.classes.replace target woven.body
        (outcome.map fun _ => { report with wrapped := report.wrapped ++ [method.name] },
          { world with classes := classes })

/-- Weaves one method. -/
def weaveMethod (weaver : Weaver S) (host : Host S σ) (className : String) (method : Method)
    (report : WeaveReport) : Run S σ (Except Refusal WeaveReport) := fun world =>
  let target : MethodId := ⟨className, method.name⟩
  let directives := Directive.parseDocumentation weaver.registry.knownNames method.documentation
  if directives.isEmpty then some (.ok report, world)
  else if world.classes.isProcessed target then
    match weaver.policy with
    | .skip =>
        some (.ok { report with skipped := report.skipped ++ [method.name] },
          world.write (.skipping target))
    | .error => some (.error (.alreadyWoven target), world)
  else
    match (Chain.build weaver.registry target directives).run host world with
    | none => none
    | some (.error cause, world) => some (.error cause, world)
    | some (.ok chain, world) => some (apply className method chain report world)

/-- Weaves methods in order, up to the first that fails. -/
def weaveAll (weaver : Weaver S) (host : Host S σ) (className : String) :
    List Method → WeaveReport → Run S σ (Except Refusal WeaveReport)
  | [], report, world => some (.ok report, world)
  | method :: rest, report, world =>
      match weaver.weaveMethod host className method report world with
      | none => none
      | some (.error cause, world) => some (.error cause, world)
      | some (.ok report, world) => weaver.weaveAll host className rest report world

/-- The line that ends a weaving. -/
def closing (report : WeaveReport) : Event :=
  .woven report.className report.wrapped.length report.skipped.length report.infoRuns

/-- Weaves a class: its methods as they are declared when the weaving begins. -/
def weave (weaver : Weaver S) (host : Host S σ) (className : String) :
    Run S σ (Except Refusal WeaveReport) := fun world =>
  match world.classes.methods? className with
  | none => some (.error (.classNotFound className), world)
  | some methods =>
      match weaver.weaveAll host className methods { className := className }
          (world.write (.weaving className methods.length)) with
      | none => none
      | some (.error cause, world) => some (.error cause, world)
      | some (.ok report, world) => some (.ok report, world.write (closing report))

/-- Two lists of methods are woven as one after the other. -/
theorem weaveAll_append (weaver : Weaver S) (host : Host S σ) (className : String)
    (first second : List Method) (report : WeaveReport) (world : World S σ) :
    weaver.weaveAll host className (first ++ second) report world =
      match weaver.weaveAll host className first report world with
      | none => none
      | some (.error cause, world) => some (.error cause, world)
      | some (.ok report, world) => weaver.weaveAll host className second report world := by
  induction first generalizing report world with
  | nil => rfl
  | cons method rest ih =>
      simp only [List.cons_append, weaveAll]
      cases weaver.weaveMethod host className method report world with
      | none => rfl
      | some ended =>
          obtain ⟨outcome, later⟩ := ended
          cases outcome with
          | error cause => rfl
          | ok report => exact ih report later

end Weaver

end AspectWeaver
