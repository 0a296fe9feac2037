/-
**Weavings of different classes have nothing to do with each other.**

A weaving of a class looks at the class and changes it, and leaves all others alone. So it does the
same in every world that has the class, whatever the other classes are; and two weavings of
different classes can be made in either order.

* `rework_comm` — changes of two classes can be made in either order.
* `Reworks` — the same is done to one class of two tables.
* `build_both`, `apply_both`, `weaveMethod_both`, `weaveAll_both` — **in two worlds with the
  same class** a weaving of it ends in the same way, after the same runs of `info` handlers, and
  does the same to the class.
* **`weave_independent`** — **weavings of different classes are independent**.

`info` handlers change no class here, and how they end depends on the method and the options only.
-/

import AspectWeaver.Proofs.Weaving

namespace AspectWeaver

variable {S : Interface} {σ : Type}

/-! ### Changing one class -/

namespace ClassTable

/-- The same is done to one class of two tables, and nothing to any other. -/
def Reworks (className : String) (first second firstLater secondLater : ClassTable S) : Prop :=
  ∃ change : ClassDefinition S → ClassDefinition S,
    firstLater = first.rework className change ∧ secondLater = second.rework className change

section Rework

variable {table : ClassTable S} {className : String}

/-- Changes of two classes can be made in either order. -/
theorem rework_comm {other : String} (different : className ≠ other)
    (first second : ClassDefinition S → ClassDefinition S) :
    (table.rework other second).rework className first =
      (table.rework className first).rework other second :=
  congrArg ClassTable.mk (Named.revise_comm first second different table.classes)

/-- Only the class of a method is looked at. -/
theorem entry_congr {other : ClassTable S} (same : other.find? className = table.find? className)
    (method : String) : other.entry ⟨className, method⟩ = table.entry ⟨className, method⟩ := by
  rw [ClassTable.entry, ClassTable.entry, same]

/-- To change a method that is there is to change its class. -/
theorem alter_eq_rework {method : String} {entry : Entry S}
    (there : table.entry ⟨className, method⟩ = .ok entry) (change : Entry S → Entry S) :
    table.alter ⟨className, method⟩ change =
      (.ok (), table.rework className (ClassDefinition.alter method change)) := by
  rw [alter_eq, there]

end Rework

namespace Reworks

variable {className : String} {first second firstMiddle secondMiddle firstLater secondLater :
  ClassTable S}

theorem refl (className : String) (first second : ClassTable S) :
    Reworks className first second first second :=
  ⟨id, (rework_id first className).symm, (rework_id second className).symm⟩

/-- What is done to a class after something else has been done together with it. -/
theorem trans (before : Reworks className first second firstMiddle secondMiddle)
    (after : Reworks className firstMiddle secondMiddle firstLater secondLater) :
    Reworks className first second firstLater secondLater := by
  obtain ⟨change, rfl, rfl⟩ := before
  obtain ⟨again, rfl, rfl⟩ := after
  exact ⟨_, rework_rework, rework_rework⟩

/-- The class is the same afterwards if it was before. -/
theorem find?_same (reworks : Reworks className first second firstLater secondLater)
    (same : second.find? className = first.find? className) :
    secondLater.find? className = firstLater.find? className := by
  obtain ⟨change, rfl, rfl⟩ := reworks
  rw [find?_rework, find?_rework, same]

/-- No other class changes. -/
theorem elsewhere (reworks : Reworks className first second firstLater secondLater) {other : String}
    (different : other ≠ className) :
    firstLater.find? other = first.find? other ∧ secondLater.find? other = second.find? other := by
  obtain ⟨change, rfl, rfl⟩ := reworks
  rw [find?_rework, find?_rework, if_neg different, if_neg different]
  exact ⟨rfl, rfl⟩

end Reworks

end ClassTable

/-! ### In two worlds -/

namespace Chain

/-- **A chain is built alike in two worlds**, if how `info` handlers end does not depend on the
world. -/
theorem extendTold_both {registry : Registry S} {host : Host S σ} (steady : registry.Steady host)
    (target : MethodId) (directives : List Directive) (chain : Chain S)
    (world other : World S σ) :
    (extendTold registry host target directives chain other).1 =
        (extendTold registry host target directives chain world).1 ∧
      (extendTold registry host target directives chain other).2.map Prod.fst =
        (extendTold registry host target directives chain world).2.map Prod.fst := by
  induction directives generalizing chain world other with
  | nil => exact ⟨rfl, rfl⟩
  | cons directive rest ih =>
      unfold extendTold
      cases resolved : resolve registry target directive with
      | error cause => exact ⟨rfl, rfl⟩
      | ok asked =>
          obtain ⟨handler, options⟩ := asked
          obtain ⟨asks, _⟩ := resolve_eq_ok_iff.mp resolved
          cases handler with
          | before handle => exact ih _ world other
          | after handle => exact ih _ world other
          | around handle => exact ih _ world other
          | info handle =>
              let line : Event := .runningInfo directive.name target
              have ends := steady handle (Directive.mem_of_handler? asks) target options
                (other.write line) (world.write line)
              dsimp only
              cases handled : (handle target options).run host (world.write line) with
              | none =>
                  rw [handled] at ends
                  rw [Option.map_eq_none_iff.mp ends]
                  exact ⟨rfl, rfl⟩
              | some ended =>
                  obtain ⟨outcome, middle⟩ := ended
                  rw [handled] at ends
                  obtain ⟨⟨_, last⟩, again, same⟩ := Option.map_eq_some_iff.mp ends
                  cases same
                  rw [again]
                  cases outcome with
                  | error failure => exact ⟨rfl, rfl⟩
                  | ok _ =>
                      obtain ⟨told, ended⟩ :=
                        ih { chain with infoRuns := chain.infoRuns + 1 } middle last
                      dsimp only
                      rw [told]
                      exact ⟨rfl, ended⟩

/-- A chain that is built or refused is so in every other world, and no class of either changes. -/
theorem build_both {registry : Registry S} {host : Host S σ} (quiet : registry.Quiet host)
    (steady : registry.Steady host) {target : MethodId} {directives : List Directive}
    {outcome : Except Refusal (Chain S)} {world middle : World S σ}
    (built : (build registry target directives).run host world = some (outcome, middle))
    (other : World S σ) :
    ∃ between, (build registry target directives).run host other = some (outcome, between) ∧
      middle.classes = world.classes ∧ between.classes = other.classes := by
  have ends := (extendTold_both steady target directives {} world other).2
  rw [extendTold_snd, extendTold_snd] at ends
  rw [build] at built
  rw [built] at ends
  obtain ⟨⟨_, between⟩, again, same⟩ := Option.map_eq_some_iff.mp ends
  cases same
  exact ⟨between, again, (build_run quiet built).1, (build_run quiet again).1⟩

end Chain

namespace Weaver

variable {weaver : Weaver S} {host : Host S σ} {className : String} {method : Method}
  {report : WeaveReport} {world later other : World S σ} {result : Except Refusal WeaveReport}

/-- A chain is installed alike on a method of the same class. -/
theorem apply_both {chain : Chain S}
    (same : other.classes.find? className = world.classes.find? className)
    (applied : apply className method chain report world = (result, later)) :
    ∃ last, apply className method chain report other = (result, last) ∧
      ClassTable.Reworks className world.classes other.classes later.classes last.classes := by
  have entries : other.classes.entry ⟨className, method.name⟩ =
      world.classes.entry ⟨className, method.name⟩ := ClassTable.entry_congr same method.name
  cases there : world.classes.entry ⟨className, method.name⟩ with
  | error cause =>
      obtain ⟨_, refused, kept⟩ := apply_of_refused there chain report
      rw [refused] at applied
      cases applied
      obtain ⟨last, again, unchanged⟩ := apply_of_refused (entries.trans there) chain report
      refine ⟨last, again, ?_⟩
      rw [kept, unchanged]
      exact .refl className _ _
  | ok entry =>
      rw [there] at entries
      cases empty : chain.isEmpty with
      | true =>
          let change : ClassDefinition S → ClassDefinition S :=
            .alter method.name fun entry => { entry with processed := true }
          have marked {classes : ClassTable S}
              (here : classes.entry ⟨className, method.name⟩ = .ok entry) :
              classes.markProcessed ⟨className, method.name⟩ =
                (.ok (), classes.rework className change) :=
            ClassTable.alter_eq_rework here _
          rw [apply_of_isEmpty empty (marked there)] at applied
          cases applied
          rw [apply_of_isEmpty empty (marked entries)]
          exact ⟨_, rfl, change, rfl, rfl⟩
      | false =>
          have bodied {classes : ClassTable S}
              (here : classes.entry ⟨className, method.name⟩ = .ok entry) :
              classes.body ⟨className, method.name⟩ = .ok entry.body :=
            ClassTable.body_of_entry? (ClassTable.entry_eq_ok_iff.mp here)
          let woven : WovenMethod S := ⟨className, method, chain, entry.body⟩
          let change : ClassDefinition S → ClassDefinition S := .alter method.name fun entry =>
            { entry with body := woven.body, woven := true, processed := true }
          have replaced {classes : ClassTable S}
              (here : classes.entry ⟨className, method.name⟩ = .ok entry) :
              classes.replace ⟨className, method.name⟩ woven.body =
                (.ok (), classes.rework className change) :=
            ClassTable.alter_eq_rework here _
          rw [apply_of_not_isEmpty empty (bodied there) (replaced there)] at applied
          cases applied
          rw [apply_of_not_isEmpty empty (bodied entries) (replaced entries)]
          exact ⟨_, rfl, change, rfl, rfl⟩

/-- **One method is woven alike in two worlds with the same class.** -/
theorem weaveMethod_both (quiet : weaver.registry.Quiet host)
    (steady : weaver.registry.Steady host)
    (same : other.classes.find? className = world.classes.find? className)
    (runs : weaver.weaveMethod host className method report world = some (result, later)) :
    ∃ last, weaver.weaveMethod host className method report other = some (result, last) ∧
      ClassTable.Reworks className world.classes other.classes later.classes last.classes ∧
      weaver.methodRuns host className method other =
        weaver.methodRuns host className method world := by
  have marks : other.classes.isProcessed ⟨className, method.name⟩ =
      world.classes.isProcessed ⟨className, method.name⟩ :=
    ClassTable.isProcessed_congr same method.name
  rw [weaveMethod_def] at runs ⊢
  rw [methodRuns, methodRuns, marks]
  cases asks : (weaver.directives method).isEmpty with
  | true =>
      rw [asks] at runs
      cases runs
      exact ⟨other, rfl, .refl className _ _, rfl⟩
  | false =>
      rw [asks, if_neg Bool.false_ne_true] at runs
      rw [if_neg Bool.false_ne_true]
      cases marked : world.classes.isProcessed ⟨className, method.name⟩ with
      | true =>
          rw [if_pos marked] at runs
          rw [if_pos rfl]
          cases policy : weaver.policy with
          | skip =>
              rw [policy] at runs
              cases runs
              exact ⟨_, rfl, .refl className _ _, rfl⟩
          | error =>
              rw [policy] at runs
              cases runs
              exact ⟨_, rfl, .refl className _ _, rfl⟩
      | false =>
          rw [marked, if_neg Bool.false_ne_true] at runs
          rw [if_neg Bool.false_ne_true]
          have told := (Chain.extendTold_both steady ⟨className, method.name⟩
            (weaver.directives method) {} world other).1
          cases built : (Chain.build weaver.registry ⟨className, method.name⟩
              (weaver.directives method)).run host world with
          | none =>
              rw [built] at runs
              cases runs
          | some ended =>
              obtain ⟨outcome, middle⟩ := ended
              obtain ⟨between, again, kept, still⟩ := Chain.build_both quiet steady built other
              rw [built] at runs
              rw [again]
              cases outcome with
              | error cause =>
                  cases runs
                  refine ⟨between, rfl, ?_, told⟩
                  rw [kept, still]
                  exact .refl className _ _
              | ok chain =>
                  rw [← kept, ← still] at same
                  obtain ⟨last, applied, reworks⟩ := apply_both same (Option.some.inj runs)
                  refine ⟨last, congrArg some applied, ?_, told⟩
                  rw [← kept, ← still]
                  exact reworks

/-- Methods in order are woven alike in two worlds with the same class. -/
theorem weaveAll_both (quiet : weaver.registry.Quiet host)
    (steady : weaver.registry.Steady host) {methods : List Method}
    (same : other.classes.find? className = world.classes.find? className)
    (runs : weaver.weaveAll host className methods report world = some (result, later)) :
    ∃ last, weaver.weaveAll host className methods report other = some (result, last) ∧
      ClassTable.Reworks className world.classes other.classes later.classes last.classes ∧
      weaver.allRuns host className methods report other =
        weaver.allRuns host className methods report world := by
  induction methods generalizing report world other with
  | nil =>
      cases runs
      exact ⟨other, rfl, .refl className _ _, rfl⟩
  | cons method rest ih =>
      rcases weaveAll_cases runs with ⟨cause, rfl, woven⟩ | ⟨told, middle, woven, others⟩
      · obtain ⟨last, again, reworks, silent⟩ := weaveMethod_both quiet steady same woven
        refine ⟨last, ?_, reworks, ?_⟩
        · rw [weaveAll, again]
        · rw [allRuns, allRuns, again, woven, silent]
      · obtain ⟨between, again, reworks, first⟩ := weaveMethod_both quiet steady same woven
        obtain ⟨last, continued, behind, second⟩ := ih (reworks.find?_same same) others
        refine ⟨last, ?_, reworks.trans behind, ?_⟩
        · rw [weaveAll, again]
          exact continued
        · rw [allRuns, allRuns, again, woven, first]
          exact congrArg _ second

/-- **A class is woven alike in two worlds that have it.** -/
theorem weave_both (quiet : weaver.registry.Quiet host) (steady : weaver.registry.Steady host)
    (same : other.classes.find? className = world.classes.find? className)
    (runs : weaver.weave host className world = some (result, later)) :
    ∃ last, weaver.weave host className other = some (result, last) ∧
      ClassTable.Reworks className world.classes other.classes later.classes last.classes ∧
      weaver.infoRuns host className other = weaver.infoRuns host className world := by
  have listed : other.classes.methods? className = world.classes.methods? className := by
    rw [ClassTable.methods?, ClassTable.methods?, same]
  rw [infoRuns, infoRuns, listed]
  rw [weave] at runs ⊢
  rw [listed]
  cases declared : world.classes.methods? className with
  | none =>
      rw [declared] at runs
      cases runs
      exact ⟨other, rfl, .refl className _ _, rfl⟩
  | some methods =>
      rw [declared] at runs
      have began : (other.write (.weaving className methods.length)).classes.find? className =
          (world.write (.weaving className methods.length)).classes.find? className := same
      dsimp only at runs ⊢
      split at runs
      · cases runs
      · rename_i all
        cases runs
        obtain ⟨last, again, reworks, silent⟩ := weaveAll_both quiet steady began all
        rw [again]
        exact ⟨last, rfl, reworks, silent⟩
      · rename_i all
        cases runs
        obtain ⟨last, again, reworks, silent⟩ := weaveAll_both quiet steady began all
        rw [again]
        exact ⟨_, rfl, reworks, silent⟩

/-! ### Different classes -/

/-- A weaving of a class reads and changes no other class: in every world with the same class it
ends in the same way, after the same runs of `info` handlers, leaves the class in the same state,
and leaves every other class as it is there. -/
def ReadsOnly (weaver : Weaver S) (host : Host S σ) (className : String) (world later : World S σ)
    (result : Except Refusal WeaveReport) : Prop :=
  ∀ other : World S σ, other.classes.find? className = world.classes.find? className →
    ∃ last, weaver.weave host className other = some (result, last) ∧
      weaver.infoRuns host className other = weaver.infoRuns host className world ∧
      last.classes.find? className = later.classes.find? className ∧
      ∀ elsewhere ≠ className, last.classes.find? elsewhere = other.classes.find? elsewhere

/-- **Weavings of different classes are independent.** Whether a weaving succeeds or fails, it reads
and changes no other class. And weavings of two classes in the other order end in the same way, each
after the same runs of `info` handlers, and leave the same table. -/
theorem weave_independent (quiet : weaver.registry.Quiet host)
    (steady : weaver.registry.Steady host) {first second : String} (different : first ≠ second)
    (runs : weaver.weave host first world = some (result, later)) :
    weaver.ReadsOnly host first world later result ∧
      ∀ (other : Except Refusal WeaveReport) (last : World S σ),
        weaver.weave host second later = some (other, last) →
        ∃ between finish, weaver.weave host second world = some (other, between) ∧
          weaver.weave host first between = some (result, finish) ∧
          finish.classes = last.classes ∧
          weaver.infoRuns host second world = weaver.infoRuns host second later ∧
          weaver.infoRuns host first between = weaver.infoRuns host first world := by
  constructor
  · intro other same
    obtain ⟨last, again, reworks, silent⟩ := weave_both quiet steady same runs
    exact ⟨last, again, silent, reworks.find?_same same,
      fun elsewhere apart => (reworks.elsewhere apart).2⟩
  · intro other last next
    -- the second class is the same before and after the first weaving
    obtain ⟨_, _, alone, _⟩ := weave_both quiet steady rfl runs
    have apart := (alone.elsewhere (Ne.symm different)).1
    obtain ⟨between, early, reworked, silent⟩ := weave_both quiet steady apart.symm next
    -- and so is the first class before and after the second weaving
    have still := (reworked.elsewhere different).2
    obtain ⟨finish, late, reworks, quietly⟩ := weave_both quiet steady still runs
    obtain ⟨change, changed, finished⟩ := reworks
    obtain ⟨again, ended, begun⟩ := reworked
    refine ⟨between, finish, early, late, ?_, silent, quietly⟩
    rw [finished, begun, ended, changed]
    exact ClassTable.rework_comm different change again

/-! ### Two classes -/

/-- Two classes, one with a method for which there is no function. -/
def jobsAndTasks : World Interface.idle Unit where
  classes := ⟨[
    ("Job", ⟨"Job", [documented "index" "@note a\n@before stamp",
      documented "run" "@after lock"]⟩),
    ("Task", ⟨"Task", [documented "index" "@before stamp\n@note b"]⟩)]⟩
  clock := 0
  log := []
  state := ()

/-- Weaving one of the classes fails after its first method, and weaving the other succeeds. -/
theorem weave_independent_jobs :
    (noting ["stamp"]).Quiet (.idle : Host Interface.idle Unit) ∧
    (noting ["stamp"]).Steady (.idle : Host Interface.idle Unit) ∧ "Job" ≠ "Task" ∧
    ∃ (cause : Refusal) (told : WeaveReport)
        (later last between finish : World Interface.idle Unit),
      weave ⟨noting ["stamp"], .skip⟩ .idle "Job" jobsAndTasks = some (.error cause, later) ∧
      weave ⟨noting ["stamp"], .skip⟩ .idle "Task" later = some (.ok told, last) ∧
      told.wrapped = ["index"] ∧
      weave ⟨noting ["stamp"], .skip⟩ .idle "Task" jobsAndTasks = some (.ok told, between) ∧
      weave ⟨noting ["stamp"], .skip⟩ .idle "Job" between = some (.error cause, finish) ∧
      finish.classes = last.classes := by
  have quiet := noting_quiet ["stamp"]
  have steady := noting_steady ["stamp"]
  obtain ⟨later, first⟩ := refused?_eq_some_iff.mp
    (show refused? ⟨noting ["stamp"], .skip⟩ .idle "Job" jobsAndTasks =
      some (.unknownHandler ⟨⟨"Job", "run"⟩, "after", 1⟩ "lock") by decide +kernel)
  obtain ⟨reads, swaps⟩ := weave_independent quiet steady (show "Job" ≠ "Task" by decide) first
  obtain ⟨told, alone, woven, names⟩ := wrapped?_eq_some_iff.mp
    (show wrapped? ⟨noting ["stamp"], .skip⟩ .idle "Task" jobsAndTasks = some ["index"]
      by decide +kernel)
  -- the failed weaving left the other class alone, so that it is woven as if there had been none
  have apart : later.classes.find? "Task" = jobsAndTasks.classes.find? "Task" := by
    obtain ⟨last, again, _, _, elsewhere⟩ := reads jobsAndTasks rfl
    cases first.symm.trans again
    exact elsewhere "Task" (by decide)
  obtain ⟨last, next, _⟩ := weave_both quiet steady apart woven
  obtain ⟨between, finish, early, late, classes, _⟩ := swaps (.ok told) last next
  exact ⟨quiet, steady, by decide, _, told, later, last, between, finish, first, next, names,
    early, late, classes⟩

end Weaver

end AspectWeaver
