/-
**What weaving comes to, step by step.**

A weaving goes through the methods of a class. Each step is taken apart here once: what can have
happened, and what the world is like then. Whatever is to hold of whole weavings is shown by one
induction over the methods, with one case for each outcome of a step.

* `Installs` — what it means that a chain is installed on a method.
* `apply_cases`, `Installs.applied` — a chain is installed, or the method is not there.
* `Installs.isProcessed_iff`, `Installs.declarations` — a chain that is installed marks its method
  and no other, and changes no declaration.
* **`weaveMethod_cases`** — one method: nothing is to be done, or its chain is not built, or its
  chain is built and then installed.
* `weaveAll_cases`, `weave_cases` — methods in order, and a whole class.
-/

import AspectWeaver.Proofs.Entries
import AspectWeaver.Weave

namespace AspectWeaver

variable {S : Interface} {σ : Type}

/-- Only the log is different. -/
structure World.Logged (world later : World S σ) : Prop where
  classes : later.classes = world.classes
  clock : later.clock = world.clock
  state : later.state = world.state

theorem World.Logged.refl (world : World S σ) : world.Logged world := ⟨rfl, rfl, rfl⟩

theorem World.Logged.write (event : Event) (world : World S σ) :
    world.Logged (world.write event) := ⟨rfl, rfl, rfl⟩

namespace Weaver

/-- The directives in the documentation of a method. -/
def directives (weaver : Weaver S) (method : Method) : List Directive :=
  Directive.parseDocumentation weaver.registry.knownNames method.documentation

/-! ### Installing a chain -/

/-- A chain is installed on a method: without handlers of calls it marks the method, and any other
is put around the body that the method has. -/
inductive Installs (className : String) (method : Method) (chain : Chain S)
    (classes : ClassTable S) : ClassTable S → Prop where
  | mark {marked : ClassTable S} (empty : chain.isEmpty = true)
      (accepted : classes.markProcessed ⟨className, method.name⟩ = (.ok (), marked)) :
      Installs className method chain classes marked
  | wrap {replaced : ClassTable S} {entry : Entry S} (full : chain.isEmpty = false)
      (present : classes.entry? ⟨className, method.name⟩ = some entry)
      (accepted : classes.replace ⟨className, method.name⟩
        (WovenMethod.mk className method chain entry.body).body = (.ok (), replaced)) :
      Installs className method chain classes replaced

variable {weaver : Weaver S} {host : Host S σ} {className : String} {method : Method}
  {chain : Chain S} {report : WeaveReport} {result : Except Refusal WeaveReport}
  {world later : World S σ}

/-- A chain without handlers of calls only marks its method. -/
theorem apply_of_isEmpty {classes : ClassTable S} (empty : chain.isEmpty = true)
    (marked : world.classes.markProcessed ⟨className, method.name⟩ = (.ok (), classes)) :
    apply className method chain report world =
      (.ok { report with infoRuns := report.infoRuns + chain.infoRuns },
        { world.write (.nothingToWrap ⟨className, method.name⟩) with classes := classes }) := by
  unfold apply
  rw [if_pos empty]
  dsimp only
  rw [World.write_classes, marked]
  rfl

/-- Any other chain is put around the body that its method has. -/
theorem apply_of_not_isEmpty {original : Body S} {classes : ClassTable S}
    (full : chain.isEmpty = false)
    (bodied : world.classes.body ⟨className, method.name⟩ = .ok original)
    (replaced : world.classes.replace ⟨className, method.name⟩
      (WovenMethod.mk className method chain original).body = (.ok (), classes)) :
    apply className method chain report world =
      (.ok { report with
          infoRuns := report.infoRuns + chain.infoRuns
          wrapped := report.wrapped ++ [method.name] },
        { (world.write (.wrapping ⟨className, method.name⟩ chain.size)).write
            (WovenMethod.mk className method chain original).report with classes := classes }) := by
  unfold apply
  rw [if_neg (by simp [full])]
  dsimp only
  rw [World.write_classes, bodied]
  dsimp only
  rw [World.write_classes, World.write_classes, replaced]
  rfl

/-- On a method that is not there no chain is installed, and no class changes. -/
theorem apply_of_refused {cause : Refusal}
    (refused : world.classes.entry ⟨className, method.name⟩ = .error cause) (chain : Chain S)
    (report : WeaveReport) :
    ∃ later, apply className method chain report world = (.error cause, later) ∧
      later.classes = world.classes := by
  have unmarked : world.classes.markProcessed ⟨className, method.name⟩ =
      (.error cause, world.classes) := by
    rw [ClassTable.markProcessed, ClassTable.alter_eq, refused]
  have bodiless : world.classes.body ⟨className, method.name⟩ = .error cause := by
    rw [ClassTable.body, refused]
    rfl
  unfold apply
  simp only [World.write_classes, unmarked, bodiless]
  split
  · exact ⟨_, rfl, rfl⟩
  · exact ⟨_, rfl, rfl⟩

/-- What installing a chain comes to: it is installed, or the method is not there, and no class
changes. -/
theorem apply_cases
    (applied : apply className method chain report world = (result, later)) :
    (∃ cause, result = .error cause ∧ later.classes = world.classes ∧
        world.classes.entry ⟨className, method.name⟩ = .error cause) ∨
      (∃ told, result = .ok told) ∧
        Installs className method chain world.classes later.classes := by
  have changed (change : Entry S → Entry S) (entry : Entry S)
      (there : world.classes.entry ⟨className, method.name⟩ = .ok entry) :
      ∃ classes, world.classes.alter ⟨className, method.name⟩ change = (.ok (), classes) := by
    rw [ClassTable.alter_eq, there]
    exact ⟨_, rfl⟩
  cases there : world.classes.entry ⟨className, method.name⟩ with
  | error cause =>
      obtain ⟨last, refused, same⟩ := apply_of_refused there chain report
      rw [refused] at applied
      cases applied
      exact .inl ⟨cause, rfl, same, rfl⟩
  | ok entry =>
      have present := ClassTable.entry_eq_ok_iff.mp there
      right
      cases empty : chain.isEmpty with
      | true =>
          obtain ⟨classes, marked⟩ : ∃ classes,
              world.classes.markProcessed ⟨className, method.name⟩ = (.ok (), classes) :=
            changed _ entry there
          rw [apply_of_isEmpty empty marked] at applied
          cases applied
          exact ⟨⟨_, rfl⟩, .mark empty marked⟩
      | false =>
          have bodied := ClassTable.body_of_entry? present
          obtain ⟨classes, replaced⟩ : ∃ classes,
              world.classes.replace ⟨className, method.name⟩
                (WovenMethod.mk className method chain entry.body).body = (.ok (), classes) :=
            changed _ entry there
          rw [apply_of_not_isEmpty empty bodied replaced] at applied
          cases applied
          exact ⟨⟨_, rfl⟩, .wrap empty present replaced⟩

/-- Where a chain can be installed, it is. -/
theorem Installs.applied {classes : ClassTable S}
    (installs : Installs className method chain world.classes classes) (report : WeaveReport) :
    ∃ told later, apply className method chain report world = (.ok told, later) ∧
      later.classes = classes := by
  cases installs with
  | mark empty accepted => exact ⟨_, _, apply_of_isEmpty empty accepted, rfl⟩
  | wrap full present accepted =>
      exact ⟨_, _, apply_of_not_isEmpty full (ClassTable.body_of_entry? present) accepted, rfl⟩

/-- Installing a chain marks the method and no other. -/
theorem Installs.isProcessed_iff {classes after : ClassTable S}
    (installs : Installs className method chain classes after) (target : MethodId) :
    after.isProcessed target = true ↔
      target = ⟨className, method.name⟩ ∨ classes.isProcessed target = true := by
  cases installs with
  | mark _ accepted =>
      exact ClassTable.isProcessed_alter accepted (fun _ => rfl) (fun _ => rfl) target
  | wrap _ _ accepted =>
      exact ClassTable.isProcessed_alter accepted (fun _ => rfl) (fun _ => rfl) target

/-- Installing a chain changes no declaration. -/
theorem Installs.declarations {classes after : ClassTable S}
    (installs : Installs className method chain classes after) (other : String) :
    after.methods? other = classes.methods? other := by
  cases installs with
  | mark _ accepted => exact ClassTable.methods?_alter accepted (fun _ => rfl) other
  | wrap _ _ accepted => exact ClassTable.methods?_alter accepted (fun _ => rfl) other

/-! ### Weaving -/

/-- Weaving one method, by its directives. -/
theorem weaveMethod_def (weaver : Weaver S) (host : Host S σ) (className : String)
    (method : Method) (report : WeaveReport) (world : World S σ) :
    weaver.weaveMethod host className method report world =
      if (weaver.directives method).isEmpty = true then some (.ok report, world)
      else if world.classes.isProcessed ⟨className, method.name⟩ = true then
        match weaver.policy with
        | .skip =>
            some (.ok { report with skipped := report.skipped ++ [method.name] },
              world.write (.skipping ⟨className, method.name⟩))
        | .error => some (.error (.alreadyWoven ⟨className, method.name⟩), world)
      else
        match (Chain.build weaver.registry ⟨className, method.name⟩
            (weaver.directives method)).run host world with
        | none => none
        | some (.error cause, world) => some (.error cause, world)
        | some (.ok chain, world) => some (apply className method chain report world) := rfl

/-- **What weaving a method comes to.** Either there is nothing to be done for it, and only the log
changes; or its chain is not built; or its chain is built and then installed. -/
theorem weaveMethod_cases
    (runs : weaver.weaveMethod host className method report world = some (result, later)) :
    (((weaver.directives method).isEmpty ||
        world.classes.isProcessed ⟨className, method.name⟩) = true ∧ world.Logged later) ∨
    ((weaver.directives method).isEmpty ||
        world.classes.isProcessed ⟨className, method.name⟩) = false ∧
      ((∃ cause, result = .error cause ∧
          (Chain.build weaver.registry ⟨className, method.name⟩
            (weaver.directives method)).run host world = some (.error cause, later)) ∨
        ∃ chain middle,
          (Chain.build weaver.registry ⟨className, method.name⟩
            (weaver.directives method)).run host world = some (.ok chain, middle) ∧
          apply className method chain report middle = (result, later)) := by
  rw [weaveMethod_def] at runs
  cases asks : (weaver.directives method).isEmpty with
  | true =>
      rw [asks] at runs
      cases runs
      exact .inl ⟨rfl, .refl _⟩
  | false =>
      rw [asks, if_neg Bool.false_ne_true] at runs
      rw [Bool.false_or]
      cases marked : world.classes.isProcessed ⟨className, method.name⟩ with
      | true =>
          rw [if_pos marked] at runs
          split at runs
          · cases runs
            exact .inl ⟨rfl, .write _ _⟩
          · cases runs
            exact .inl ⟨rfl, .refl _⟩
      | false =>
          rw [if_neg (by simp [marked])] at runs
          refine .inr ⟨rfl, ?_⟩
          split at runs
          · cases runs
          · rename_i cause middle built
            cases runs
            exact .inl ⟨cause, rfl, built⟩
          · rename_i chain middle built
            exact .inr ⟨chain, middle, built, Option.some.inj runs⟩

/-- What weaving methods in order comes to: the first fails, or the rest is woven after it. -/
theorem weaveAll_cases {rest : List Method}
    (runs : weaver.weaveAll host className (method :: rest) report world =
      some (result, later)) :
    (∃ cause, result = .error cause ∧
        weaver.weaveMethod host className method report world = some (.error cause, later)) ∨
      ∃ told middle,
        weaver.weaveMethod host className method report world = some (.ok told, middle) ∧
        weaver.weaveAll host className rest told middle = some (result, later) := by
  rw [weaveAll] at runs
  split at runs
  · cases runs
  · rename_i cause middle woven
    cases runs
    exact .inl ⟨cause, rfl, woven⟩
  · rename_i told middle woven
    exact .inr ⟨told, middle, woven, runs⟩

/-- What weaving a class comes to: there is no such class, or its methods are woven, and only the
log changes after that. -/
theorem weave_cases
    (runs : weaver.weave host className world = some (result, later)) :
    (world.classes.methods? className = none ∧ result = .error (.classNotFound className) ∧
        later = world) ∨
      ∃ methods last, world.classes.methods? className = some methods ∧
        weaver.weaveAll host className methods { className := className }
          (world.write (.weaving className methods.length)) = some (result, last) ∧
        last.Logged later := by
  unfold weave at runs
  cases listed : world.classes.methods? className with
  | none =>
      rw [listed] at runs
      cases runs
      exact .inl ⟨rfl, rfl, rfl⟩
  | some methods =>
      rw [listed] at runs
      refine .inr ⟨methods, ?_⟩
      dsimp only at runs
      split at runs
      · cases runs
      · rename_i all
        cases runs
        exact ⟨later, rfl, all, .refl later⟩
      · rename_i middle all
        cases runs
        exact ⟨middle, rfl, all, .write _ middle⟩

end Weaver

end AspectWeaver
