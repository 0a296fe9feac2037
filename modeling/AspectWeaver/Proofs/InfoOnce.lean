/-
**How often an `info` handler runs for a method, over any number of weavings.**

A class is woven again and again, each time with another registry, policy and host, and some of the
weavings fail. Methods are marked as processed one by one, and only when all their directives are
through.

* `Weaves.split` — an `info` handler runs only for a method that is due, and the method is woven
  then, unless the weaving fails at it.
* **`marks_of_weave`** — **what one weaving does to the marks of a class** (`Marks`), whether it
  succeeds or fails.
* `silent_of_isProcessed` — once a method is processed, no `info` handler runs for it any more.
* **`info_once`** — **no `info` handler runs for a method again** after one that ran for it in a
  weaving that did not fail at that method; the runs are those that have happened.
* `info_twice` — after a weaving that failed at the method, the same handler runs again.
-/

import AspectWeaver.Proofs.FailedWeaving

namespace AspectWeaver

variable {S : Interface} {σ : Type}

/-! ### For which methods `info` handlers run -/

/-- The runs of directives of a method are runs for the method. -/
theorem Directive.target_of_mem_completedRuns {registry : Registry S} {target : MethodId}
    {directives : List Directive} {run : InfoRun}
    (ran : run ∈ completedRuns registry target directives) : run.target = target := by
  obtain ⟨directive, _, rfl⟩ := List.mem_map.mp ran
  rfl

/-- The runs before the building of a chain stops are runs for its method. -/
theorem Chain.Stops.target_of_mem {registry : Registry S} {target : MethodId}
    {directives : List Directive} {cause : Refusal} {runs : List InfoRun} {run : InfoRun}
    (stops : Stops registry target directives cause runs) (ran : run ∈ runs) :
    run.target = target := by
  cases stops with
  | unresolved _ _ _ => exact Directive.target_of_mem_completedRuns ran
  | failed _ _ _ _ =>
      rcases List.mem_append.mp ran with before | last
      · exact Directive.target_of_mem_completedRuns before
      · rw [List.mem_singleton.mp last]

/-- The method at which a weaving has failed, if it has failed at one. -/
def failedAt? : Except Refusal WeaveReport → Option MethodId
  | .ok _ => none
  | .error cause => cause.target?

/-- If there is a class of this name, it is in good order. -/
def ClassTable.OrderlyAt (table : ClassTable S) (className : String) : Prop :=
  ∀ definition, table.find? className = some definition → definition.WellFormed

namespace Weaver

variable {weaver : Weaver S} {host : Host S σ} {className : String} {world later : World S σ}
  {entry : Entry S} {run : InfoRun} {result : Except Refusal WeaveReport}

theorem due_of_mem_dueRuns (ran : run ∈ weaver.dueRuns className entry) :
    weaver.isDue entry = true ∧ run.target = ⟨className, entry.name⟩ := by
  unfold dueRuns at ran
  split at ran
  · rename_i due
    exact ⟨due, Directive.target_of_mem_completedRuns ran⟩
  · cases ran

theorem Fails.due_of_mem {cause : Refusal} {runs : List InfoRun}
    (fails : weaver.Fails className entry cause runs) (ran : run ∈ runs) :
    weaver.isDue entry = true ∧ run.target = ⟨className, entry.name⟩ := by
  cases fails with
  | alreadyWoven _ _ => cases ran
  | stopped due stops => exact ⟨due, stops.target_of_mem ran⟩

/-- Methods in order are woven up to some one, and every `info` handler that ran did so for a method
that was due, and that was woven or is the one at which the weaving failed. -/
theorem Weaves.split {entries left : List (Entry S)} {report : WeaveReport} {ran : List InfoRun}
    (weaves : weaver.Weaves className entries report ran left result) :
    ∃ done rest, entries = done ++ rest ∧ left = done.map (weaver.wovenEntry className) ++ rest ∧
      ∀ run ∈ ran, ∃ entry ∈ entries, weaver.isDue entry = true ∧
        run.target = ⟨className, entry.name⟩ ∧
        (entry ∈ done ∨ failedAt? result = some run.target) := by
  cases result with
  | ok told =>
      obtain ⟨_, _, rfl, rfl⟩ := weaves
      refine ⟨entries, [], (List.append_nil _).symm, (List.append_nil _).symm, ?_⟩
      intro run member
      obtain ⟨entry, inside, ran⟩ := List.mem_flatMap.mp member
      obtain ⟨due, named⟩ := due_of_mem_dueRuns ran
      exact ⟨entry, inside, due, named, .inl inside⟩
  | error cause =>
      obtain ⟨done, failed, rest, last, rfl, _, fails, rfl, rfl⟩ := weaves
      refine ⟨done, failed :: rest, rfl, rfl, fun run member => ?_⟩
      rcases List.mem_append.mp member with before | at_last
      · obtain ⟨entry, inside, ran⟩ := List.mem_flatMap.mp before
        obtain ⟨due, named⟩ := due_of_mem_dueRuns ran
        exact ⟨entry, List.mem_append_left _ inside, due, named, .inl inside⟩
      · obtain ⟨due, named⟩ := fails.due_of_mem at_last
        refine ⟨failed, List.mem_append_right _ List.mem_cons_self, due, named, .inr ?_⟩
        rw [named]
        exact fails.target

/-! ### Marks -/

/-- A processed method stays processed when it is woven, and one that was due is processed then. -/
theorem processed_wovenEntry
    (marked : entry.processed = true ∨ weaver.isDue entry = true) :
    (weaver.wovenEntry className entry).processed = true := by
  rcases wovenEntry_cases weaver className entry with ⟨_, same⟩ | ⟨_, _, same⟩ | ⟨idle, same⟩
  · rw [same]
  · rw [same]
  · rw [same]
    refine marked.resolve_right fun due => ?_
    rw [idle] at due
    cases due

/-- An `info` handler runs only for a method that is not processed. -/
theorem not_processed_of_isDue (due : weaver.isDue entry = true) : entry.processed = false := by
  rw [isDue, Bool.and_eq_true] at due
  simpa using due.2

/-- A class of which the first methods are woven is in order. -/
theorem wellFormed_left {definition : ClassDefinition S} (orderly : definition.WellFormed)
    {done rest : List (Entry S)} (order : definition.entries = done ++ rest) :
    (definition.withEntries (done.map (weaver.wovenEntry className) ++ rest)).WellFormed := by
  have methods := methods_left weaver className done rest
  rw [← order] at methods
  constructor
  case distinct =>
    have names := Entry.map_name_congr methods
    exact names ▸ orderly.distinct
  case signatures =>
    intro entry member
    have declared := List.mem_map_of_mem (f := Entry.method) member
    have there : entry.method ∈ definition.entries.map Entry.method := methods ▸ declared
    obtain ⟨former, inside, same⟩ := List.mem_map.mp there
    exact same ▸ orderly.signatures former inside
  case marks =>
    intro entry member woven
    rcases List.mem_append.mp member with first | behind
    · obtain ⟨former, inside, rfl⟩ := List.mem_map.mp first
      have before : former ∈ definition.entries := by
        rw [order]
        exact List.mem_append_left _ inside
      rcases wovenEntry_cases weaver className former with
        ⟨_, same⟩ | ⟨_, _, same⟩ | ⟨_, same⟩
      · rw [same]
      · rw [same]
      · rw [same] at woven ⊢
        exact orderly.marks former before woven
    · refine orderly.marks entry ?_ woven
      rw [order]
      exact List.mem_append_right _ behind

/-- What one weaving of a class does to the marks of its methods. -/
structure Marks (className : String) (before after : ClassTable S) (ran : List InfoRun)
    (failed : Option MethodId) : Prop where
  orderly : after.OrderlyAt className
  /-- Marks stay. -/
  keeps : ∀ method, before.isProcessed ⟨className, method⟩ = true →
    after.isProcessed ⟨className, method⟩ = true
  /-- An `info` handler runs only for a method that is not processed. -/
  fresh : ∀ run ∈ ran, run.target.className = className ∧ before.isProcessed run.target = false
  /-- The method is processed then, unless the weaving fails at it. -/
  through : ∀ run ∈ ran, failed ≠ some run.target → after.isProcessed run.target = true

/-- **What one weaving does to the marks of a class**, whether it succeeds or fails. -/
theorem marks_of_weave (quiet : weaver.registry.Quiet host)
    (orderly : world.classes.OrderlyAt className)
    (runs : weaver.weave host className world = some (result, later)) :
    Marks className world.classes later.classes (weaver.infoRuns host className world)
      (failedAt? result) := by
  cases found : world.classes.find? className with
  | none =>
      obtain ⟨refused, silent⟩ : weaver.weave host className world = _ ∧ _ :=
        weave_of_absent found
      rw [refused] at runs
      cases runs
      rw [silent]
      exact ⟨orderly, fun _ marked => marked, List.forall_mem_nil _, List.forall_mem_nil _⟩
  | some definition =>
      have tidy := orderly definition found
      obtain ⟨_, classes, weaves⟩ := weave_run quiet tidy found runs
      obtain ⟨done, rest, order, rfl, ran⟩ := weaves.split
      let left := done.map (weaver.wovenEntry className) ++ rest
      have now : later.classes.find? className = some (definition.withEntries left) := by
        rw [classes, ClassTable.find?_setEntries_self found]
      have still : (definition.withEntries left).WellFormed := wellFormed_left tidy order
      have mark {entry : Entry S} (member : entry ∈ left) :
          later.classes.isProcessed ⟨className, entry.name⟩ = entry.processed :=
        ClassTable.isProcessed_of_entry? (ClassTable.entry?_of_mem now still.distinct member)
      -- a method that is woven is processed if it was before or was due
      have woven {entry : Entry S} (member : entry ∈ done)
          (marked : entry.processed = true ∨ weaver.isDue entry = true) :
          later.classes.isProcessed ⟨className, entry.name⟩ = true := by
        have inside : weaver.wovenEntry className entry ∈ left :=
          List.mem_append_left _ (List.mem_map_of_mem member)
        rw [← wovenEntry_name weaver className entry, mark inside]
        exact processed_wovenEntry marked
      constructor
      case orderly =>
        intro other here
        rw [now] at here
        cases here
        exact still
      case keeps =>
        intro method marked
        obtain ⟨entry, present, processed⟩ := ClassTable.isProcessed_eq_true_iff.mp marked
        obtain ⟨inside, rfl⟩ := ClassTable.mem_of_entry? found present
        rw [order] at inside
        rcases List.mem_append.mp inside with first | behind
        · exact woven first (.inl processed)
        · rw [mark (List.mem_append_right _ behind)]
          exact processed
      case fresh =>
        intro run member
        obtain ⟨entry, inside, due, named, _⟩ := ran run member
        have present := ClassTable.entry?_of_mem found tidy.distinct inside
        rw [named, ClassTable.isProcessed_of_entry? present]
        exact ⟨rfl, not_processed_of_isDue due⟩
      case through =>
        intro run member elsewhere
        obtain ⟨entry, _, due, named, inDone | failed⟩ := ran run member
        · rw [named]
          exact woven inDone (.inr due)
        · exact absurd failed elsewhere

end Weaver

/-! ### Weavings in turn -/

namespace Weaving

variable {className : String}

/-- The runs of `info` handlers in the weaving, in order. -/
def infoRuns (weaving : Weaving S σ className) : List InfoRun :=
  weaving.weaver.infoRuns weaving.host className weaving.start

/-- These runs have happened in the weaving, and no others. -/
theorem happened (weaving : Weaving S σ className) :
    Performed weaving.weaver.registry weaving.host weaving.start weaving.infoRuns
      weaving.finish :=
  Weaver.performed_weave weaving.runs

/-- What a weaving in turn does to the marks. -/
theorem marks (weaving : Weaving S σ className) {classes : ClassTable S}
    (orderly : classes.OrderlyAt className)
    (same : weaving.start.classes.find? className = classes.find? className)
    (quiet : weaving.Quiet) :
    Weaver.Marks className weaving.start.classes weaving.finish.classes weaving.infoRuns
      (failedAt? weaving.result) := by
  refine Weaver.marks_of_weave quiet ?_ weaving.runs
  intro definition found
  exact orderly definition (same ▸ found)

/-- Once a method is processed, no `info` handler runs for it any more. -/
theorem silent_of_isProcessed {classes : ClassTable S} {weavings : List (Weaving S σ className)}
    (orderly : classes.OrderlyAt className) (inTurn : InTurn classes weavings)
    (quiet : ∀ weaving ∈ weavings, weaving.Quiet) {method : String}
    (marked : classes.isProcessed ⟨className, method⟩ = true) :
    ∀ weaving ∈ weavings, ∀ run ∈ weaving.infoRuns, run.target ≠ ⟨className, method⟩ := by
  induction weavings generalizing classes with
  | nil => exact List.forall_mem_nil _
  | cons first rest ih =>
      obtain ⟨same, inTurn⟩ := inTurn
      obtain ⟨calm, quiet⟩ := List.forall_mem_cons.mp quiet
      have step := first.marks orderly same calm
      rw [← ClassTable.isProcessed_congr same] at marked
      have still := step.keeps method marked
      refine List.forall_mem_cons.mpr ⟨?_, ih step.orderly inTurn quiet still⟩
      intro run ran named
      have unmarked := (step.fresh run ran).2
      rw [named, marked] at unmarked
      cases unmarked

/-- **An `info` handler runs for a method only until one has run for it in a weaving that did not
fail at the method.** The runs of each weaving are those that have happened in it. -/
theorem info_once {classes : ClassTable S} {weavings : List (Weaving S σ className)}
    (reachable : classes.Reachable) (inTurn : InTurn classes weavings)
    (quiet : ∀ weaving ∈ weavings, weaving.Quiet) :
    (∀ weaving ∈ weavings,
      Performed weaving.weaver.registry weaving.host weaving.start weaving.infoRuns
        weaving.finish) ∧
    weavings.Pairwise fun earlier later =>
      ∀ run ∈ earlier.infoRuns, failedAt? earlier.result ≠ some run.target →
        ∀ other ∈ later.infoRuns, other.target ≠ run.target := by
  refine ⟨fun weaving _ => weaving.happened, ?_⟩
  have orderly : classes.OrderlyAt className := fun _ found => reachable.wellFormed.of_find? found
  clear reachable
  induction weavings generalizing classes with
  | nil => exact .nil
  | cons first rest ih =>
      obtain ⟨same, inTurn⟩ := inTurn
      obtain ⟨calm, quiet⟩ := List.forall_mem_cons.mp quiet
      have step := first.marks orderly same calm
      refine .cons ?_ (ih inTurn quiet step.orderly)
      intro later member run ran elsewhere other
      have here : run.target = ⟨className, run.target.method⟩ := by
        rw [← (step.fresh run ran).1]
      have marked := step.through run ran elsewhere
      rw [here] at marked ⊢
      exact silent_of_isProcessed step.orderly inTurn quiet marked later member other

/-! ### A weaving that is tried again -/

/-- A class of which the second method needs an advice function. -/
def retried : World Interface.idle Unit :=
  Weaver.jobs [Weaver.documented "index" "@note a",
    Weaver.documented "run" "@note b\n@before stamp"]

/-- The function is not there yet, so the weaving fails. -/
def attempt : Weaving Interface.idle Unit "Job" :=
  .begin ⟨Weaver.noting [], .skip⟩ .idle retried (by decide +kernel)

/-- The function is there, and the weaving succeeds. -/
def retry : Weaving Interface.idle Unit "Job" :=
  .begin ⟨Weaver.noting ["stamp"], .skip⟩ .idle attempt.finish (by decide +kernel)

theorem inTurn_retry : InTurn retried.classes [attempt, retry] := ⟨rfl, rfl, trivial⟩

theorem quiet_retry : ∀ weaving ∈ [attempt, retry], weaving.Quiet :=
  List.forall_mem_cons.mpr ⟨Weaver.noting_quiet _,
    List.forall_mem_singleton.mpr (Weaver.noting_quiet _)⟩

/-- The `info` handler of a directive runs for a second time, for the method at which the first
weaving failed after the handler had run. -/
theorem info_twice :
    retried.classes.Reachable ∧ InTurn retried.classes [attempt, retry] ∧
    (∀ weaving ∈ [attempt, retry], weaving.Quiet) ∧
    (∀ weaving ∈ [attempt, retry], weaving.weaver.policy = .skip) ∧
    (∀ weaving ∈ [attempt, retry],
      Performed weaving.weaver.registry weaving.host weaving.start weaving.infoRuns
        weaving.finish) ∧
    ¬ [attempt, retry].Pairwise fun earlier later =>
      ∀ run ∈ earlier.infoRuns, run.failure = none →
        ∀ other ∈ later.infoRuns,
          ¬ (other.target = run.target ∧ other.directive = run.directive) := by
  let run : InfoRun := ⟨⟨"Job", "run"⟩, ⟨"note", ["b"], 1⟩, ["b"], none⟩
  have ran : run ∈ attempt.infoRuns := by decide +kernel
  have again : run ∈ retry.infoRuns := by decide +kernel
  refine ⟨Weaver.jobs_reachable (by decide) rfl, inTurn_retry, quiet_retry, ?_,
    fun weaving _ => weaving.happened, fun never => ?_⟩
  · exact List.forall_mem_cons.mpr ⟨rfl, List.forall_mem_singleton.mpr rfl⟩
  · exact List.pairwise_pair.mp never run ran rfl run again ⟨rfl, rfl⟩

/-- No `info` handler runs again for the other method. -/
theorem info_once_retry :
    retried.classes.Reachable ∧ InTurn retried.classes [attempt, retry] ∧
    (∀ weaving ∈ [attempt, retry], weaving.Quiet) ∧
    (∀ weaving ∈ [attempt, retry],
      Performed weaving.weaver.registry weaving.host weaving.start weaving.infoRuns
        weaving.finish) ∧
    ∃ run ∈ attempt.infoRuns, run.target = ⟨"Job", "index"⟩ ∧
      failedAt? attempt.result ≠ some run.target ∧
      ∀ other ∈ retry.infoRuns, other.target ≠ run.target := by
  have reachable : retried.classes.Reachable := Weaver.jobs_reachable (by decide) rfl
  have ran : ⟨⟨"Job", "index"⟩, ⟨"note", ["a"], 1⟩, ["a"], none⟩ ∈ attempt.infoRuns := by
    decide +kernel
  have elsewhere : failedAt? attempt.result ≠ some ⟨"Job", "index"⟩ := by decide +kernel
  obtain ⟨happened, once⟩ := info_once reachable inTurn_retry quiet_retry
  have first := List.pairwise_pair.mp once
  exact ⟨reachable, inTurn_retry, quiet_retry, happened, _, ran, rfl, elsewhere,
    first _ ran elsewhere⟩

end Weaving

end AspectWeaver
