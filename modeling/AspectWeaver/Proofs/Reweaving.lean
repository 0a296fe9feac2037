/-
**Weaving a class again.**

A weaving that succeeds is through with every method that has directives: no method is due any more.
What it does to the other methods, and what the marks of the methods were before, plays no part.

* `isDue_wovenEntry` — no method that is woven is due.
* `weaveAll_settled` — **methods of which none is due** are passed over: those with directives are
  skipped, or the first of them ends the weaving, and only the log gets longer.
* **`weave_again`** — **a weaving that succeeds leaves nothing to do**: a further one, under either
  policy, runs no `info` handler and changes nothing.
-/

import AspectWeaver.Proofs.Weaving

namespace AspectWeaver

variable {S : Interface} {σ : Type}

/-- The world with more lines in the log. -/
def World.writeAll (lines : List Event) (world : World S σ) : World S σ :=
  { world with log := world.log ++ lines }

namespace Weaver

/-- Whether the documentation of the method has directives. -/
def directed (weaver : Weaver S) (method : Method) : Bool := !(weaver.directives method).isEmpty

/-- What weaving methods comes to if none of them is due: those with directives are skipped, or the
first of them ends it. -/
def passing (weaver : Weaver S) (className : String) (methods : List Method)
    (report : WeaveReport) : Except Refusal WeaveReport :=
  match weaver.policy with
  | .skip =>
      .ok { report with
        skipped := report.skipped ++ (methods.filter weaver.directed).map Method.name }
  | .error =>
      match methods.find? weaver.directed with
      | none => .ok report
      | some method => .error (.alreadyWoven ⟨className, method.name⟩)

variable {weaver : Weaver S} {host : Host S σ} {className : String} {world later : World S σ}

/-! ### Methods that are not due -/

/-- A method that is woven is not due any more. -/
theorem isDue_wovenEntry (entry : Entry S) :
    weaver.isDue (weaver.wovenEntry className entry) = false := by
  rcases wovenEntry_cases weaver className entry with ⟨_, same⟩ | ⟨_, _, same⟩ | ⟨idle, same⟩
  · rw [same]
    exact Bool.and_false _
  · rw [same]
    exact Bool.and_false _
  · rw [same]
    exact idle

/-- Methods are passed over one after the other. -/
theorem passing_cons (weaver : Weaver S) (className : String) (method : Method)
    (rest : List Method) (report : WeaveReport) :
    weaver.passing className (method :: rest) report =
      match weaver.passing className [method] report with
      | .ok told => weaver.passing className rest told
      | .error cause => .error cause := by
  cases policy : weaver.policy with
  | skip =>
      simp only [passing, policy, List.filter_cons, List.filter_nil]
      cases weaver.directed method <;> simp
  | error =>
      simp only [passing, policy, List.find?_cons, List.find?_nil]
      cases weaver.directed method <;> rfl

/-- One method that is not due is passed over. -/
theorem weaveMethod_settled {entry : Entry S} (settled : weaver.isDue entry = false)
    (mark : world.classes.isProcessed ⟨className, entry.name⟩ = entry.processed)
    (report : WeaveReport) :
    ∃ lines, weaver.weaveMethod host className entry.method report world =
      some (weaver.passing className [entry.method] report, world.writeAll lines) := by
  rw [weaveMethod_eq mark, settled, if_neg Bool.false_ne_true]
  cases asks : weaver.directed entry.method with
  | false =>
      have plain : weaver.skips entry = false := by
        rw [skips, ← directed, asks, Bool.false_and]
      refine ⟨[], ?_⟩
      rw [plain, if_neg Bool.false_ne_true]
      unfold passing World.writeAll
      cases weaver.policy <;> simp [asks]
  | true =>
      -- a method with directives that is not due is processed
      have skipped : weaver.skips entry = true := by
        rw [isDue, ← directed, asks, Bool.true_and, Bool.not_eq_false'] at settled
        rw [skips, ← directed, asks, settled, Bool.true_and]
      rw [skipped, if_pos rfl]
      cases policy : weaver.policy with
      | skip =>
          refine ⟨[.skipping ⟨className, entry.name⟩], ?_⟩
          simp only [passing, policy, List.filter_cons, asks, if_true, List.filter_nil]
          rfl
      | error =>
          refine ⟨[], ?_⟩
          simp only [passing, policy, List.find?_cons, asks, World.writeAll, List.append_nil]
          rfl

/-- **Methods of which none is due are passed over**, and no `info` handler runs. -/
theorem weaveAll_settled {entries : List (Entry S)}
    (settled : ∀ entry ∈ entries, weaver.isDue entry = false)
    (marks : ∀ entry ∈ entries,
      world.classes.isProcessed ⟨className, entry.name⟩ = entry.processed)
    (report : WeaveReport) :
    (∃ lines, weaver.weaveAll host className (entries.map Entry.method) report world =
      some (weaver.passing className (entries.map Entry.method) report, world.writeAll lines)) ∧
    weaver.allRuns host className (entries.map Entry.method) report world = [] := by
  induction entries generalizing report world with
  | nil =>
      refine ⟨⟨[], ?_⟩, rfl⟩
      unfold passing World.writeAll
      cases weaver.policy <;> simp [weaveAll]
  | cons entry rest ih =>
      obtain ⟨idle, settled⟩ := List.forall_mem_cons.mp settled
      obtain ⟨mark, marks⟩ := List.forall_mem_cons.mp marks
      have silent : weaver.methodRuns host className entry.method world = [] := by
        rw [methodRuns_eq mark, idle]
        rfl
      obtain ⟨lines, first⟩ : ∃ lines,
          weaver.weaveMethod host className entry.method report world = some (_, _) :=
        weaveMethod_settled idle mark report
      have parts := passing_cons weaver className entry.method (rest.map Entry.method) report
      rw [List.map_cons, weaveAll, allRuns, silent, List.nil_append, first, parts]
      cases weaver.passing className [entry.method] report with
      | error cause => exact ⟨⟨lines, rfl⟩, rfl⟩
      | ok told =>
          have still : ∀ entry ∈ rest, (world.writeAll lines).classes.isProcessed
              ⟨className, entry.name⟩ = entry.processed := marks
          obtain ⟨⟨others, ends⟩, quietly⟩ := ih settled still told
          refine ⟨⟨lines ++ others, ?_⟩, quietly⟩
          dsimp only
          rw [ends]
          simp only [World.writeAll, List.append_assoc]

/-! ### A class that was woven -/

/-- A class of which no method is due is passed over. -/
theorem weave_settled {definition : ClassDefinition S}
    (found : world.classes.find? className = some definition)
    (distinct : (definition.entries.map Entry.name).Nodup)
    (settled : ∀ entry ∈ definition.entries, weaver.isDue entry = false) :
    (∃ lines, weaver.weave host className world =
      some (weaver.passing className (definition.entries.map Entry.method)
        { className := className }, world.writeAll lines)) ∧
    weaver.infoRuns host className world = [] := by
  have listed := ClassTable.methods?_of_find? found
  let first : Event := .weaving className (definition.entries.map Entry.method).length
  let began := world.write first
  have marks : ∀ entry ∈ definition.entries,
      began.classes.isProcessed ⟨className, entry.name⟩ = entry.processed := by
    intro entry member
    exact ClassTable.isProcessed_of_entry? (ClassTable.entry?_of_mem found distinct member)
  obtain ⟨⟨lines, all⟩, silent⟩ : (∃ lines, weaver.weaveAll host className _ _ began = _) ∧ _ :=
    weaveAll_settled settled marks { className := className }
  unfold weave infoRuns
  rw [listed]
  dsimp only
  rw [all]
  refine ⟨?_, silent⟩
  cases weaver.passing className (definition.entries.map Entry.method)
      { className := className } with
  | error cause => exact ⟨first :: lines, by simp [World.writeAll, began, World.write]⟩
  | ok told =>
      exact ⟨first :: lines ++ [closing told], by simp [World.writeAll, began, World.write]⟩

/-- **A weaving that succeeds leaves nothing to do.** A further weaving with the same registry, in a
world with the same classes and whatever policy and host, runs no `info` handler and changes nothing
but the log: it skips the methods that have directives, or refuses to weave the first of them. -/
theorem weave_again (reachable : world.classes.Reachable) (quiet : weaver.registry.Quiet host)
    {told : WeaveReport} (runs : weaver.weave host className world = some (.ok told, later)) :
    ∃ methods, world.classes.methods? className = some methods ∧
      later.classes.methods? className = some methods ∧
      ∀ (policy : ReweavePolicy) (answers : Host S σ) (again : World S σ),
        again.classes = later.classes →
        (∃ lines, Weaver.weave ⟨weaver.registry, policy⟩ answers className again =
          some (passing ⟨weaver.registry, policy⟩ className methods { className := className },
            again.writeAll lines)) ∧
        infoRuns ⟨weaver.registry, policy⟩ answers className again = [] := by
  obtain ⟨definition, found, _, _, classes⟩ := weave_ok quiet reachable.wellFormed runs
  have orderly := reachable.wellFormed.of_find? found
  let woven := definition.entries.map (weaver.wovenEntry className)
  have methods : woven.map Entry.method = definition.entries.map Entry.method :=
    map_method_wovenEntry weaver className definition.entries
  have distinct : (woven.map Entry.name).Nodup := by
    rw [Entry.map_name_congr methods]
    exact orderly.distinct
  have settled (policy : ReweavePolicy) :
      ∀ entry ∈ woven, isDue ⟨weaver.registry, policy⟩ entry = false := by
    intro entry member
    obtain ⟨former, _, rfl⟩ := List.mem_map.mp member
    exact isDue_wovenEntry former
  have now : later.classes.find? className = some (definition.withEntries woven) := by
    rw [classes, ClassTable.find?_setEntries_self found]
  have listed := ClassTable.methods?_of_find? found
  refine ⟨_, listed, ?_, fun policy answers again same => ?_⟩
  · rw [classes, ClassTable.methods_setEntries found methods, listed]
  · rw [← methods]
    rw [← same] at now
    exact weave_settled now distinct (settled policy)

/-- A method of each sort. -/
def assorted : List (Entry Interface.idle) :=
  [documented "plain" "without directives", documented "noted" "@note a",
    documented "stamped" "@note b\n@before stamp"]

/-- The second weaving skips two methods, or refuses to weave the first of them. -/
theorem weave_again_assorted :
    (jobs assorted).classes.Reachable ∧
    (noting ["stamp"]).Quiet (.idle : Host Interface.idle Unit) ∧
    ∃ (told : WeaveReport) (later : World Interface.idle Unit),
      Weaver.weave ⟨noting ["stamp"], .skip⟩ .idle "Job" (jobs assorted) =
        some (.ok told, later) ∧
      told.wrapped = ["stamped"] ∧
      (∃ lines, Weaver.weave ⟨noting ["stamp"], .skip⟩ .idle "Job" later =
        some (.ok { className := "Job", skipped := ["noted", "stamped"] },
          later.writeAll lines)) ∧
      ∃ lines, Weaver.weave ⟨noting ["stamp"], .error⟩ .idle "Job" later =
        some (.error (.alreadyWoven ⟨"Job", "noted"⟩), later.writeAll lines) := by
  have reachable : (jobs assorted).classes.Reachable := jobs_reachable (by decide) rfl
  obtain ⟨told, later, runs, names⟩ := wrapped?_eq_some_iff.mp
    (show wrapped? ⟨noting ["stamp"], .skip⟩ .idle "Job" (jobs assorted) = some ["stamped"]
      by decide +kernel)
  obtain ⟨_, listed, _, again⟩ := weave_again reachable (noting_quiet _) runs
  cases listed
  obtain ⟨skips, _⟩ := again .skip .idle later rfl
  obtain ⟨stops, _⟩ := again .error .idle later rfl
  let methods := assorted.map Entry.method
  have skipped : (methods.filter (directed ⟨noting ["stamp"], .skip⟩)).map Method.name =
      ["noted", "stamped"] := by decide +kernel
  have first : (methods.find? (directed ⟨noting ["stamp"], .error⟩)).map Method.name =
      some "noted" := by decide +kernel
  obtain ⟨method, found, named⟩ := Option.map_eq_some_iff.mp first
  refine ⟨reachable, noting_quiet _, told, later, runs, names, ?_, ?_⟩
  · rw [← skipped]
    exact skips
  · have refused : passing ⟨noting ["stamp"], .error⟩ "Job" methods { className := "Job" } =
        .error (.alreadyWoven ⟨"Job", "noted"⟩) := by
      simp only [passing, found, named]
    rw [← refused]
    exact stops

end Weaver

end AspectWeaver
