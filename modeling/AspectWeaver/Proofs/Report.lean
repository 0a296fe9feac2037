/-
**What the report of a weaving says, and what it does not say.**

There are four sorts of methods. One without directives is left alone. One with directives that was
processed before is skipped. Of the others, those with a directive that asks for a handler of calls
get a woven body, and those for which there are `info` handlers only are marked and not mentioned.

* `isEmpty_ofDirectives` — there is nothing in a chain exactly if no directive asks for a handler of
  calls.
* `Weaver.sorts` — every method of a class that is woven is of one of the four sorts.
* **`Weaver.weave_reports`** — **the report is exact**: it names the wrapped methods and the skipped
  ones in their order, counts the `info` handlers, and agrees with what the class has become and
  with what has happened meanwhile.
-/

import AspectWeaver.Proofs.Performed

namespace AspectWeaver

variable {S : Interface} {σ : Type}

/-! ### Directives that ask for handlers of calls -/

/-- Whether a directive asks for a handler of calls: a before, after or around handler. -/
def Directive.isAdvice (registry : Registry S) (directive : Directive) : Bool :=
  match directive.handler? registry with
  | none | some (.info _) => false
  | some (.before _) | some (.after _) | some (.around _) => true

/-- A directive asks for a handler of calls exactly if it is in one of the lists of a chain. -/
theorem Directive.isAdvice_eq_false_iff {registry : Registry S} {directive : Directive} :
    directive.isAdvice registry = false ↔
      directive.before? registry = none ∧ directive.after? registry = none ∧
        directive.around? registry = none := by
  unfold isAdvice before? after? around?
  cases directive.handler? registry with
  | none => simp
  | some handler => cases handler <;> simp

/-- A directive that resolves and asks for no handler of calls asks for an `info` handler. -/
theorem Directive.Resolves.isInfo {registry : Registry S} {directive : Directive}
    (resolves : directive.Resolves registry) (silent : directive.isAdvice registry = false) :
    directive.isInfo registry = true := by
  obtain ⟨handler, asks, _⟩ := resolves
  rw [Directive.isAdvice, asks] at silent
  rw [Directive.isInfo, asks]
  cases handler with
  | info _ => rfl
  | before _ => cases silent
  | after _ => cases silent
  | around _ => cases silent

/-- A directive that asks for an `info` handler asks for no handler of calls. -/
theorem Directive.isAdvice_of_isInfo {registry : Registry S} {directive : Directive}
    (info : directive.isInfo registry = true) : directive.isAdvice registry = false := by
  unfold isInfo at info
  unfold isAdvice
  cases asks : directive.handler? registry with
  | none => rfl
  | some handler =>
      rw [asks] at info
      cases handler with
      | info _ => rfl
      | before _ => cases info
      | after _ => cases info
      | around _ => cases info

/-- There is nothing in a chain exactly if no directive asks for a handler of calls. -/
theorem Chain.isEmpty_ofDirectives (registry : Registry S) (directives : List Directive) :
    (ofDirectives registry directives).isEmpty =
      !directives.any (Directive.isAdvice registry) := by
  rw [Bool.eq_iff_iff, Bool.not_eq_true', List.any_eq_false]
  simp only [isEmpty, ofDirectives, Bool.and_eq_true, List.isEmpty_iff, List.filterMap_eq_nil_iff,
    Bool.not_eq_true, Directive.isAdvice_eq_false_iff]
  constructor
  · rintro ⟨⟨before, after⟩, around⟩ directive member
    exact ⟨before directive member, after directive member, around directive member⟩
  · intro none
    exact ⟨⟨fun directive member => (none directive member).1,
      fun directive member => (none directive member).2.1⟩,
      fun directive member => (none directive member).2.2⟩

namespace Weaver

/-! ### Sorts of methods -/

section Sorts

variable (weaver : Weaver S) (className : String) (entry : Entry S)

/-- Whether the method is not processed and a directive asks for a handler of calls. -/
def advises : Bool :=
  !entry.processed && (weaver.directives entry.method).any (Directive.isAdvice weaver.registry)

/-- The method is not processed and has directives, and all of them ask for `info` handlers. -/
def Notes : Prop :=
  entry.processed = false ∧ weaver.directives entry.method ≠ [] ∧
    ∀ directive ∈ weaver.directives entry.method, directive.isInfo weaver.registry = true

/-- The runs of all `info` handlers that a method asks for. -/
def askedRuns : List InfoRun :=
  Directive.completedRuns weaver.registry ⟨className, entry.name⟩ (weaver.directives entry.method)

/-- The methods that get a woven body are those that have advice. -/
theorem wraps_eq_advises : weaver.wraps entry = weaver.advises entry := by
  rw [wraps, isDue, advises, chain, Chain.isEmpty_ofDirectives, Bool.not_not]
  cases weaver.directives entry.method with
  | nil => simp
  | cons directive rest => simp

/-- Every method is of one of four sorts, if its directives resolve while it is not processed. -/
theorem sorts {entry : Entry S} (resolves : weaver.Resolves entry) :
    weaver.advises entry = true ∨ weaver.skips entry = true ∨ weaver.Notes entry ∨
      weaver.directives entry.method = [] := by
  by_cases plain : weaver.directives entry.method = []
  · exact .inr (.inr (.inr plain))
  have asks : (!(weaver.directives entry.method).isEmpty) = true := by simpa using plain
  cases processed : entry.processed with
  | true =>
      refine .inr (.inl ?_)
      rw [skips, asks, processed, Bool.true_and]
  | false =>
      cases advised : (weaver.directives entry.method).any (Directive.isAdvice weaver.registry) with
      | true =>
          refine .inl ?_
          rw [advises, processed, advised]
          rfl
      | false =>
          refine .inr (.inr (.inl ⟨processed, plain, fun directive member => ?_⟩))
          have due : weaver.isDue entry = true := by rw [isDue, asks, processed]; rfl
          have silent := List.any_eq_false.mp advised directive member
          exact (resolves due directive member).isInfo (Bool.eq_false_iff.mpr silent)

/-- A method for which there are `info` handlers only is due, and has no advice. -/
theorem sorts_of_notes {weaver : Weaver S} {entry : Entry S} (notes : weaver.Notes entry) :
    weaver.isDue entry = true ∧ weaver.advises entry = false ∧ weaver.skips entry = false := by
  obtain ⟨fresh, asks, info⟩ := notes
  have silent : (weaver.directives entry.method).any (Directive.isAdvice weaver.registry) =
      false := by
    refine List.any_eq_false.mpr fun directive member => ?_
    rw [Directive.isAdvice_of_isInfo (info directive member)]
    exact Bool.false_ne_true
  rw [isDue, advises, skips, fresh, silent]
  simpa using asks

/-- A method without directives is of no other sort. -/
theorem sorts_of_plain {weaver : Weaver S} {entry : Entry S}
    (plain : weaver.directives entry.method = []) :
    weaver.isDue entry = false ∧ weaver.advises entry = false ∧ weaver.skips entry = false := by
  rw [isDue, advises, skips, plain]
  exact ⟨rfl, Bool.and_false _, rfl⟩

/-- A method that is skipped is not due. -/
theorem isDue_of_skips {weaver : Weaver S} {entry : Entry S}
    (skipped : weaver.skips entry = true) : weaver.isDue entry = false := by
  rw [skips, Bool.and_eq_true] at skipped
  rw [isDue, skipped.2]
  exact Bool.and_false _

/-- Only methods without directives are neither processed nor due, so they do not count. -/
theorem flatMap_due {α : Type} {items : Entry S → List α}
    (nothing : ∀ entry, weaver.directives entry.method = [] → items entry = [])
    (entries : List (Entry S)) :
    (entries.flatMap fun entry => if weaver.isDue entry = true then items entry else []) =
      (entries.filter fun entry => !entry.processed).flatMap items := by
  induction entries with
  | nil => rfl
  | cons entry rest ih =>
      rw [List.flatMap_cons, ih, List.filter_cons, isDue]
      cases entry.processed with
      | true => simp
      | false =>
          cases asks : weaver.directives entry.method with
          | nil => simp [nothing entry asks]
          | cons directive others => simp

/-- The `info` handlers that run are those of the methods that are not processed. -/
theorem flatMap_dueRuns (entries : List (Entry S)) :
    entries.flatMap (weaver.dueRuns className) =
      (entries.filter fun entry => !entry.processed).flatMap (weaver.askedRuns className) := by
  have nothing (entry : Entry S) (plain : weaver.directives entry.method = []) :
      weaver.askedRuns className entry = [] := by
    rw [askedRuns, plain]
    rfl
  exact weaver.flatMap_due nothing entries

end Sorts

/-! ### Reports -/

/-- A report tells just what a weaving of a class with these entries has done. -/
structure Reports (weaver : Weaver S) (host : Host S σ) (className : String)
    (world later : World S σ) (told : WeaveReport) (entries : List (Entry S)) : Prop where
  /-- What the class was like before. -/
  had : ∃ definition, world.classes.find? className = some definition ∧
    definition.entries = entries
  named : told.className = className
  /-- All directives of the methods that were not processed resolve. -/
  resolved : ∀ entry ∈ entries, weaver.Resolves entry
  /-- Each method is of one of four sorts. -/
  sorted : ∀ entry ∈ entries, weaver.advises entry = true ∨ weaver.skips entry = true ∨
    weaver.Notes entry ∨ weaver.directives entry.method = []
  /-- The report names the methods with advice, in their order. -/
  wrapped : told.wrapped = (entries.filter weaver.advises).map Entry.name
  /-- They have a new body and both marks. -/
  replaced : ∀ entry ∈ entries, weaver.advises entry = true →
    later.classes.entry? ⟨className, entry.name⟩ = some { entry with
      body := (weaver.wrapping className entry).body, woven := true, processed := true }
  /-- No other method gets another body or the mark of a woven one. -/
  kept : ∀ entry ∈ entries, weaver.advises entry = false → ∃ now,
    later.classes.entry? ⟨className, entry.name⟩ = some now ∧ now.body = entry.body ∧
      now.woven = entry.woven
  /-- The report names the methods with directives that were processed before, in their order. -/
  skipped : told.skipped = (entries.filter weaver.skips).map Entry.name
  /-- They are as they were. -/
  passed : ∀ entry ∈ entries, weaver.skips entry = true →
    later.classes.entry? ⟨className, entry.name⟩ = some entry
  /-- Methods for which there are `info` handlers only are marked, and not mentioned. -/
  noted : ∀ entry ∈ entries, weaver.Notes entry →
    later.classes.entry? ⟨className, entry.name⟩ = some { entry with processed := true } ∧
      entry.name ∉ told.wrapped ∧ entry.name ∉ told.skipped
  /-- Methods without directives are as they were, and not mentioned. -/
  plain : ∀ entry ∈ entries, weaver.directives entry.method = [] →
    later.classes.entry? ⟨className, entry.name⟩ = some entry ∧
      entry.name ∉ told.wrapped ∧ entry.name ∉ told.skipped
  /-- The report counts the `info` directives of the methods that were not processed. -/
  counted : told.infoRuns =
    ((entries.filter fun entry => !entry.processed).flatMap fun entry =>
      weaver.directives entry.method).countP (Directive.isInfo weaver.registry)
  /-- The handler of each has run once and without failure, in the order of the methods and of their
  directives. -/
  ran : weaver.infoRuns host className world =
    (entries.filter fun entry => !entry.processed).flatMap (weaver.askedRuns className)
  /-- This has happened, and nothing else. -/
  happened : Performed weaver.registry host world (weaver.infoRuns host className world) later
  /-- No declaration of any class is changed. -/
  declarations (other : String) : later.classes.methods? other = world.classes.methods? other
  /-- No other class is changed. -/
  elsewhere (other : String) (different : other ≠ className) :
    later.classes.find? other = world.classes.find? other

variable {weaver : Weaver S} {host : Host S σ} {className : String} {world later : World S σ}

/-- **The report is exact.** A weaving that succeeds has done to each method what its sort asks for,
and the report tells just that. -/
theorem weave_reports (reachable : world.classes.Reachable) (quiet : weaver.registry.Quiet host)
    {told : WeaveReport} (runs : weaver.weave host className world = some (.ok told, later)) :
    ∃ entries, weaver.Reports host className world later told entries := by
  obtain ⟨definition, found, _⟩ := weave_ok quiet reachable.wellFormed runs
  have orderly := reachable.wellFormed.of_find? found
  obtain ⟨left, classes, resolved, same, ran, rfl⟩ := weave_run quiet orderly found runs
  rw [foldl_reported] at same
  subst same
  -- the entry of a method now is the woven one
  have now {entry : Entry S} (member : entry ∈ definition.entries) :
      later.classes.entry? ⟨className, entry.name⟩ = some (weaver.wovenEntry className entry) := by
    have before := ClassTable.entry?_of_mem found orderly.distinct member
    rw [entry_of_weave quiet reachable.wellFormed runs, before, Option.map_some]
  -- a method of another sort is not named
  have unnamed {entry : Entry S} (member : entry ∈ definition.entries) {sort : Entry S → Bool}
      (other : sort entry = false) :
      entry.name ∉ (definition.entries.filter sort).map Entry.name := by
    rw [Named.mem_filter_iff Entry.name orderly.distinct member, other]
    exact Bool.false_ne_true
  have sort : weaver.wraps = weaver.advises := funext weaver.wraps_eq_advises
  refine ⟨definition.entries, ?_⟩
  constructor
  case had => exact ⟨definition, found, rfl⟩
  case named => rfl
  case resolved => exact resolved
  case sorted => exact fun entry member => weaver.sorts (resolved entry member)
  case wrapped => exact congrArg (fun sort => (definition.entries.filter sort).map Entry.name) sort
  case replaced =>
    intro entry member advised
    rw [now member, wovenEntry, wraps_eq_advises, if_pos advised]
  case kept =>
    intro entry member silent
    refine ⟨_, now member, ?_⟩
    rw [wovenEntry, wraps_eq_advises, silent, if_neg Bool.false_ne_true]
    split <;> exact ⟨rfl, rfl⟩
  case skipped => rfl
  case passed =>
    intro entry member skipped
    rw [now member, wovenEntry_of_not_due weaver className (isDue_of_skips skipped)]
  case noted =>
    intro entry member notes
    obtain ⟨due, silent, fresh⟩ := sorts_of_notes notes
    refine ⟨?_, sort ▸ unnamed member silent, unnamed member fresh⟩
    rw [now member, wovenEntry, wraps_eq_advises, silent, if_neg Bool.false_ne_true, if_pos due]
  case plain =>
    intro entry member none
    obtain ⟨idle, silent, fresh⟩ := sorts_of_plain none
    refine ⟨?_, sort ▸ unnamed member silent, unnamed member fresh⟩
    rw [now member, wovenEntry_of_not_due weaver className idle]
  case counted =>
    dsimp only
    rw [Nat.zero_add, flatMap_due weaver (fun _ none => none) definition.entries]
  case ran => rw [ran, flatMap_dueRuns]
  case happened => exact performed_weave runs
  case declarations =>
    intro other
    rw [classes]
    exact ClassTable.methods_setEntries found
      (map_method_wovenEntry weaver className definition.entries) other
  case elsewhere =>
    intro other different
    rw [classes, ClassTable.find?_setEntries, if_neg different]

/-! ### A class with a method of each sort -/

/-- A method of each sort; the second one is processed. -/
def eachSort : List (Entry Interface.idle) :=
  [documented "plain" "without directives",
    { documented "seen" "@note a" with processed := true },
    documented "noted" "@note b\n@note c", documented "stamped" "@note d\n@before stamp"]

/-- One method is wrapped and one is skipped, and three `info` handlers run. -/
theorem weave_reports_eachSort :
    (jobs eachSort).classes.Reachable ∧
    (noting ["stamp"]).Quiet (.idle : Host Interface.idle Unit) ∧
    ∃ (later : World Interface.idle Unit),
      Weaver.weave ⟨noting ["stamp"], .skip⟩ .idle "Job" (jobs eachSort) =
        some (.ok ⟨"Job", ["stamped"], ["seen"], 3⟩, later) ∧
      Reports ⟨noting ["stamp"], .skip⟩ .idle "Job" (jobs eachSort) later
        ⟨"Job", ["stamped"], ["seen"], 3⟩ eachSort := by
  let fresh : List (Entry Interface.idle) :=
    eachSort.map fun entry => { entry with processed := false }
  have defined : (jobs fresh).classes.Reachable := jobs_reachable (by decide) rfl
  have reachable : (jobs eachSort).classes.Reachable :=
    .markProcessed defined (show (jobs fresh).classes.markProcessed ⟨"Job", "seen"⟩ =
      (.ok (), (jobs eachSort).classes) from rfl)
  obtain ⟨told, later, runs, names⟩ := wrapped?_eq_some_iff.mp
    (show wrapped? ⟨noting ["stamp"], .skip⟩ .idle "Job" (jobs eachSort) = some ["stamped"]
      by decide +kernel)
  obtain ⟨entries, reports⟩ := weave_reports reachable (noting_quiet _) runs
  obtain ⟨_, found, rfl⟩ := reports.had
  cases found
  have skipped : told.skipped = ["seen"] := reports.skipped.trans (by decide +kernel)
  have counted : told.infoRuns = 3 := reports.counted.trans (by decide +kernel)
  have same : told = ⟨"Job", ["stamped"], ["seen"], 3⟩ := by
    obtain ⟨named, _, _, _⟩ := told
    cases reports.named
    cases names
    cases skipped
    cases counted
    rfl
  subst same
  exact ⟨reachable, noting_quiet _, later, runs, reports⟩

end Weaver

end AspectWeaver
