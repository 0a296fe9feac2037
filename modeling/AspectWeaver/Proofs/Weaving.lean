/-
**What a weaving does to the table of classes.**

`Weaver.wovenEntry` says what becomes of one method: it is wrapped, or only marked, or left as it
is. It looks at the method and at nothing else.

* `weaveMethod_run` — **one method**: its entry becomes the woven one and no other entry changes; if
  weaving the method fails, nothing changes. The `info` handlers that run are those it asks for, up
  to the directive that fails.
* `weaveAll_run` — **methods in order**, up to the first that fails (`Weaves`).
* **`weave_run`** — **a weaving of a class**, whether it succeeds or fails.
* **`weave_ok`** — **a class that is woven** has the woven entries in the order of the old ones, and
  the report tells which methods were wrapped (`mem_wrapped_iff`).
* `Weaving`, `Weaving.InTurn` — weavings that came to their end, and weavings of which each finds
  the class as the one before has left it.

What a weaving does is told under the assumption that `info` handlers change no class.
-/

import AspectWeaver.Proofs.Building
import AspectWeaver.Proofs.History
import AspectWeaver.Proofs.Steps

namespace AspectWeaver

variable {S : Interface} {σ : Type}

namespace Weaver

/-! ### What becomes of a method -/

section Effect

variable (weaver : Weaver S) (className : String)

/-- The chain that these directives ask for. -/
def chain (method : Method) : Chain S :=
  Chain.ofDirectives weaver.registry (weaver.directives method)

/-- Whether the method has directives and is not processed. -/
def isDue (entry : Entry S) : Bool :=
  !(weaver.directives entry.method).isEmpty && !entry.processed

/-- If the method is due, all its directives ask for handlers that there are. -/
def Resolves (entry : Entry S) : Prop :=
  weaver.isDue entry = true →
    ∀ directive ∈ weaver.directives entry.method, directive.Resolves weaver.registry

/-- Whether the method gets a woven body. -/
def wraps (entry : Entry S) : Bool := weaver.isDue entry && !(weaver.chain entry.method).isEmpty

/-- Whether the method has directives and is processed already. -/
def skips (entry : Entry S) : Bool :=
  !(weaver.directives entry.method).isEmpty && entry.processed

/-- The method with its advice around the body it has. -/
def wrapping (entry : Entry S) : WovenMethod S :=
  ⟨className, entry.method, weaver.chain entry.method, entry.body⟩

/-- The entry of a method that is woven. -/
def wovenEntry (entry : Entry S) : Entry S :=
  if weaver.wraps entry then
    { entry with
      body := (weaver.wrapping className entry).body, woven := true, processed := true }
  else if weaver.isDue entry then { entry with processed := true }
  else entry

/-- The report after one more method. -/
def reported (report : WeaveReport) (entry : Entry S) : WeaveReport :=
  { report with
    wrapped := report.wrapped ++ if weaver.wraps entry then [entry.name] else []
    skipped := report.skipped ++ if weaver.skips entry then [entry.name] else []
    infoRuns := report.infoRuns +
      if weaver.isDue entry then (weaver.chain entry.method).infoRuns else 0 }

/-- The runs of the `info` handlers that a method asks for if it is due. -/
def dueRuns (entry : Entry S) : List InfoRun :=
  if weaver.isDue entry then
    Directive.completedRuns weaver.registry ⟨className, entry.name⟩ (weaver.directives entry.method)
  else []

/-- Weaving a method fails with a refusal, after these runs of `info` handlers for it. -/
inductive Fails (entry : Entry S) : Refusal → List InfoRun → Prop where
  | alreadyWoven (policy : weaver.policy = .error) (processed : weaver.skips entry = true) :
      Fails entry (.alreadyWoven ⟨className, entry.name⟩) []
  | stopped {cause : Refusal} {runs : List InfoRun} (due : weaver.isDue entry = true)
      (stops : Chain.Stops weaver.registry ⟨className, entry.name⟩
        (weaver.directives entry.method) cause runs) : Fails entry cause runs

/-- What weaving methods in order comes to, with the runs of `info` handlers and the entries that it
leaves: either each method is woven, or one fails after those before it have been woven, and it and
the rest are as they were. -/
def Weaves (entries : List (Entry S)) (report : WeaveReport) (ran : List InfoRun)
    (left : List (Entry S)) : Except Refusal WeaveReport → Prop
  | .ok told =>
      (∀ entry ∈ entries, weaver.Resolves entry) ∧ told = entries.foldl weaver.reported report ∧
        ran = entries.flatMap (weaver.dueRuns className) ∧
        left = entries.map (weaver.wovenEntry className)
  | .error cause =>
      ∃ done failed rest last, entries = done ++ failed :: rest ∧
        (∀ entry ∈ done, weaver.Resolves entry) ∧ weaver.Fails className failed cause last ∧
        ran = done.flatMap (weaver.dueRuns className) ++ last ∧
        left = done.map (weaver.wovenEntry className) ++ failed :: rest

/-- A method that is woven gets a new body and both marks, or one mark if there is no advice for it,
or nothing if it is not due. -/
theorem wovenEntry_cases (entry : Entry S) :
    (weaver.wraps entry = true ∧ weaver.wovenEntry className entry = { entry with
        body := (weaver.wrapping className entry).body, woven := true, processed := true }) ∨
      (weaver.isDue entry = true ∧ (weaver.chain entry.method).isEmpty = true ∧
        weaver.wovenEntry className entry = { entry with processed := true }) ∨
      weaver.isDue entry = false ∧ weaver.wovenEntry className entry = entry := by
  rw [wovenEntry]
  by_cases wrapped : weaver.wraps entry = true
  · rw [if_pos wrapped]
    exact .inl ⟨wrapped, rfl⟩
  · rw [if_neg wrapped]
    by_cases due : weaver.isDue entry = true
    · rw [if_pos due]
      refine .inr (.inl ⟨due, ?_, rfl⟩)
      simpa [wraps, due] using wrapped
    · rw [if_neg due]
      exact .inr (.inr ⟨Bool.eq_false_iff.mpr due, rfl⟩)

/-- A method that is not due is left as it is. -/
theorem wovenEntry_of_not_due {entry : Entry S} (idle : weaver.isDue entry = false) :
    weaver.wovenEntry className entry = entry := by
  rw [wovenEntry, wraps, idle]
  rfl

/-- Weaving changes no declaration. -/
@[simp] theorem wovenEntry_method (entry : Entry S) :
    (weaver.wovenEntry className entry).method = entry.method := by
  unfold wovenEntry
  split
  · rfl
  · split <;> rfl

@[simp] theorem wovenEntry_name (entry : Entry S) :
    (weaver.wovenEntry className entry).name = entry.name :=
  congrArg Method.name (wovenEntry_method weaver className entry)

theorem map_method_wovenEntry (entries : List (Entry S)) :
    (entries.map (weaver.wovenEntry className)).map Entry.method = entries.map Entry.method := by
  rw [List.map_map]
  exact List.map_congr_left fun entry _ => wovenEntry_method weaver className entry

/-- The report tells the wrapped methods and the skipped ones in order, and counts the directives
that ask for `info` handlers among those of the methods that were due. -/
theorem foldl_reported (entries : List (Entry S)) (report : WeaveReport) :
    entries.foldl weaver.reported report =
      { report with
        wrapped := report.wrapped ++ (entries.filter weaver.wraps).map Entry.name
        skipped := report.skipped ++ (entries.filter weaver.skips).map Entry.name
        infoRuns := report.infoRuns + (entries.flatMap fun entry =>
          if weaver.isDue entry = true then weaver.directives entry.method else []).countP
            (Directive.isInfo weaver.registry) } := by
  induction entries generalizing report with
  | nil => simp
  | cons entry rest ih =>
      rw [List.foldl_cons, ih, reported, List.flatMap_cons, List.countP_append, ← Nat.add_assoc]
      cases wrapped : weaver.wraps entry <;> cases skipped : weaver.skips entry <;>
        cases due : weaver.isDue entry <;> simp [wrapped, skipped, chain, Chain.ofDirectives]

end Effect

/-! ### Runs of `info` handlers -/

section Runs

variable (weaver : Weaver S) (host : Host S σ) (className : String)

/-- The runs of `info` handlers while one method is woven: those of the building of its chain. -/
def methodRuns (method : Method) (world : World S σ) : List InfoRun :=
  if (weaver.directives method).isEmpty || world.classes.isProcessed ⟨className, method.name⟩ then
    []
  else
    Chain.toldRuns weaver.registry host ⟨className, method.name⟩ (weaver.directives method) world

/-- The runs of `info` handlers while methods are woven in order, up to the first that fails. -/
def allRuns : List Method → WeaveReport → World S σ → List InfoRun
  | [], _, _ => []
  | method :: rest, report, world =>
      weaver.methodRuns host className method world ++
        match weaver.weaveMethod host className method report world with
        | some (.ok report, later) => allRuns rest report later
        | _ => []

/-- The runs of `info` handlers while a class is woven, in order. -/
def infoRuns (world : World S σ) : List InfoRun :=
  match world.classes.methods? className with
  | none => []
  | some methods =>
      weaver.allRuns host className methods { className := className }
        (world.write (.weaving className methods.length))

/-- The runs of `info` handlers while two lists of methods are woven are those for one after the
other. -/
theorem allRuns_append (first second : List Method) (report : WeaveReport)
    (world : World S σ) :
    weaver.allRuns host className (first ++ second) report world =
      weaver.allRuns host className first report world ++
        match weaver.weaveAll host className first report world with
        | some (.ok told, later) => weaver.allRuns host className second told later
        | _ => [] := by
  induction first generalizing report world with
  | nil => rfl
  | cons method rest ih =>
      rw [List.cons_append, allRuns, allRuns, weaveAll, List.append_assoc]
      cases weaver.weaveMethod host className method report world with
      | none => rfl
      | some ended =>
          obtain ⟨outcome, later⟩ := ended
          cases outcome with
          | error cause => rfl
          | ok told => exact congrArg _ (ih told later)

end Runs

/-! ### Weaving methods -/

section Weaving

variable {weaver : Weaver S} {host : Host S σ} {className : String} {base : ClassTable S}
  {definition : ClassDefinition S} {before entries after : List (Entry S)} {entry : Entry S}
  {report : WeaveReport} {world later : World S σ}

/-- The entry of a method that stands after others of other names. -/
theorem entry?_at (found : base.find? className = some definition)
    (absent : entry.name ∉ before.map Entry.name)
    (here : world.classes = base.setEntries className (before ++ entry :: after)) :
    world.classes.entry? ⟨className, entry.name⟩ = some entry := by
  rw [here]
  refine (ClassTable.entry_setEntries found entry.name).trans ?_
  exact Named.find?_middle Entry.name absent after

/-- Installing the chain of a method that is due. -/
theorem apply_eq (found : base.find? className = some definition)
    (absent : entry.name ∉ before.map Entry.name)
    (here : world.classes = base.setEntries className (before ++ entry :: after))
    (due : weaver.isDue entry = true) :
    ∃ later : World S σ,
      apply className entry.method (weaver.chain entry.method) report world =
        (.ok (weaver.reported report entry), later) ∧
      later.classes =
        base.setEntries className (before ++ weaver.wovenEntry className entry :: after) := by
  have inside : Named.find? Entry.name entry.name (before ++ entry :: after) = some entry :=
    Named.find?_middle Entry.name absent after
  have present : world.classes.entry? ⟨className, entry.method.name⟩ = some entry :=
    entry?_at found absent here
  have changed (change : Entry S → Entry S) :
      world.classes.alter ⟨className, entry.method.name⟩ change =
        (.ok (), base.setEntries className (before ++ change entry :: after)) := by
    rw [here]
    refine (ClassTable.alter_setEntries found inside change).trans ?_
    rw [Named.update_middle Entry.name absent]
  have unskipped : weaver.skips entry = false := by
    rw [isDue, Bool.and_eq_true] at due
    rw [skips, due.1, Bool.true_and]
    simpa using due.2
  cases empty : (weaver.chain entry.method).isEmpty with
  | true =>
      have unwrapped : weaver.wraps entry = false := by simp [wraps, empty]
      have marked : weaver.wovenEntry className entry = { entry with processed := true } := by
        simp [wovenEntry, unwrapped, due]
      have told : weaver.reported report entry =
          { report with infoRuns := report.infoRuns + (weaver.chain entry.method).infoRuns } := by
        simp [reported, unwrapped, unskipped, due]
      rw [marked, told]
      exact ⟨_, apply_of_isEmpty empty (changed _), rfl⟩
  | false =>
      have wrapped : weaver.wraps entry = true := by simp [wraps, due, empty]
      have bodied := ClassTable.body_of_entry? present
      have replaced : weaver.wovenEntry className entry =
          { entry with
            body := (weaver.wrapping className entry).body, woven := true, processed := true } := by
        simp [wovenEntry, wrapped]
      have told : weaver.reported report entry =
          { report with
            infoRuns := report.infoRuns + (weaver.chain entry.method).infoRuns
            wrapped := report.wrapped ++ [entry.method.name] } := by
        simp [reported, wrapped, unskipped, due, Entry.name]
      rw [replaced, told]
      exact ⟨_, apply_of_not_isEmpty empty bodied (changed _), rfl⟩

/-- Weaving one method, by what there is to do for it. -/
theorem weaveMethod_eq
    (processed : world.classes.isProcessed ⟨className, entry.name⟩ = entry.processed) :
    weaver.weaveMethod host className entry.method report world =
      if weaver.isDue entry = true then
        match (Chain.build weaver.registry ⟨className, entry.name⟩
            (weaver.directives entry.method)).run host world with
        | none => none
        | some (.error cause, world) => some (.error cause, world)
        | some (.ok chain, world) => some (apply className entry.method chain report world)
      else if weaver.skips entry = true then
        match weaver.policy with
        | .skip =>
            some (.ok { report with skipped := report.skipped ++ [entry.name] },
              world.write (.skipping ⟨className, entry.name⟩))
        | .error => some (.error (.alreadyWoven ⟨className, entry.name⟩), world)
      else some (.ok report, world) := by
  have same : world.classes.isProcessed ⟨className, entry.method.name⟩ = entry.processed :=
    processed
  rw [weaveMethod_def, isDue, skips, same]
  cases (weaver.directives entry.method).isEmpty with
  | true => rfl
  | false =>
      cases entry.processed with
      | true => rfl
      | false => rfl

/-- The runs of `info` handlers for one method, by what there is to do for it. -/
theorem methodRuns_eq
    (processed : world.classes.isProcessed ⟨className, entry.name⟩ = entry.processed) :
    weaver.methodRuns host className entry.method world =
      if weaver.isDue entry = true then
        Chain.toldRuns weaver.registry host ⟨className, entry.name⟩
          (weaver.directives entry.method) world
      else [] := by
  have same : world.classes.isProcessed ⟨className, entry.method.name⟩ = entry.processed :=
    processed
  rw [methodRuns, same, isDue]
  cases (weaver.directives entry.method).isEmpty with
  | true => rfl
  | false =>
      cases entry.processed with
      | true => rfl
      | false => rfl

/-- Weaving a method that is due builds its chain and installs it. -/
theorem weaveMethod_run_of_due (quiet : weaver.registry.Quiet host)
    (found : base.find? className = some definition)
    (absent : entry.name ∉ before.map Entry.name)
    (here : world.classes = base.setEntries className (before ++ entry :: after))
    (processed : world.classes.isProcessed ⟨className, entry.name⟩ = entry.processed)
    (due : weaver.isDue entry = true) {result : Except Refusal WeaveReport}
    (runs : weaver.weaveMethod host className entry.method report world = some (result, later)) :
    ∃ now, later.classes = base.setEntries className (before ++ now :: after) ∧
      weaver.Weaves className [entry] report
        (weaver.methodRuns host className entry.method world) [now] result := by
  rw [methodRuns_eq processed, if_pos due]
  rw [weaveMethod_eq processed, if_pos due] at runs
  cases built : (Chain.build weaver.registry ⟨className, entry.name⟩
      (weaver.directives entry.method)).run host world with
  | none =>
      rw [built] at runs
      cases runs
  | some ended =>
      obtain ⟨outcome, middle⟩ := ended
      obtain ⟨kept, builds⟩ := Chain.build_run quiet built
      rw [built] at runs
      cases outcome with
      | error cause =>
          cases runs
          exact ⟨entry, kept.trans here, [], entry, [], _, rfl, List.forall_mem_nil _,
            .stopped due builds, rfl, rfl⟩
      | ok chain =>
          obtain ⟨rfl, resolved, told⟩ := builds
          rw [Chain.empty_append] at runs
          obtain ⟨applied, same, classes⟩ : ∃ applied : World S σ,
              apply className entry.method (weaver.chain entry.method) report middle =
                (.ok (weaver.reported report entry), applied) ∧ applied.classes = _ :=
            apply_eq found absent (kept.trans here) due
          have ended : some (apply className entry.method (weaver.chain entry.method) report
              middle) = some (result, later) := runs
          rw [same] at ended
          cases ended
          have resolves : weaver.Resolves entry := fun _ => resolved
          refine ⟨_, classes, List.forall_mem_singleton.mpr resolves, rfl, ?_, rfl⟩
          rw [told, List.flatMap_singleton, dueRuns, if_pos due]

/-- **Weaving one method** of a class makes its entry the woven one and runs the `info` handlers it
asks for; if it fails, it changes nothing. -/
theorem weaveMethod_run (quiet : weaver.registry.Quiet host)
    (found : base.find? className = some definition)
    (absent : entry.name ∉ before.map Entry.name)
    (here : world.classes = base.setEntries className (before ++ entry :: after))
    {result : Except Refusal WeaveReport}
    (runs : weaver.weaveMethod host className entry.method report world = some (result, later)) :
    ∃ now, later.classes = base.setEntries className (before ++ now :: after) ∧
      weaver.Weaves className [entry] report
        (weaver.methodRuns host className entry.method world) [now] result := by
  have processed : world.classes.isProcessed ⟨className, entry.name⟩ = entry.processed :=
    ClassTable.isProcessed_of_entry? (entry?_at found absent here)
  cases due : weaver.isDue entry with
  | true => exact weaveMethod_run_of_due quiet found absent here processed due runs
  | false =>
      have resolves : weaver.Resolves entry := by
        intro asked
        rw [due] at asked
        cases asked
      have unchanged := weaver.wovenEntry_of_not_due className due
      have silent : weaver.dueRuns className entry = [] := by
        rw [dueRuns, due, if_neg Bool.false_ne_true]
      rw [methodRuns_eq processed, due, if_neg Bool.false_ne_true]
      rw [weaveMethod_eq processed, due, if_neg Bool.false_ne_true] at runs
      -- a method that is left alone or skipped is woven as it is
      have woven {told : WeaveReport} (same : told = weaver.reported report entry) :
          weaver.Weaves className [entry] report [] [entry] (.ok told) := by
        refine ⟨List.forall_mem_singleton.mpr resolves, same, ?_, ?_⟩
        · rw [List.flatMap_singleton, silent]
        · rw [List.map_singleton, unchanged]
      cases skipped : weaver.skips entry with
      | false =>
          rw [skipped, if_neg Bool.false_ne_true] at runs
          cases runs
          refine ⟨entry, here, woven ?_⟩
          simp [reported, wraps, due, skipped]
      | true =>
          rw [skipped, if_pos rfl] at runs
          cases policy : weaver.policy with
          | skip =>
              rw [policy] at runs
              cases runs
              refine ⟨entry, here, woven ?_⟩
              simp [reported, wraps, due, skipped]
          | error =>
              rw [policy] at runs
              cases runs
              exact ⟨entry, here, [], entry, [], [], rfl, List.forall_mem_nil _,
                .alreadyWoven policy skipped, rfl, rfl⟩

/-- What comes of methods in order comes of the first and then of the rest. -/
theorem Weaves.cons {rest left : List (Entry S)} {told : WeaveReport} {ran others : List InfoRun}
    {now : Entry S} {result : Except Refusal WeaveReport}
    (first : weaver.Weaves className [entry] report ran [now] (.ok told))
    (weaves : weaver.Weaves className rest told others left result) :
    weaver.Weaves className (entry :: rest) report (ran ++ others) (now :: left) result := by
  obtain ⟨resolved, rfl, rfl, same⟩ := first
  rw [List.forall_mem_singleton] at resolved
  rw [List.flatMap_singleton]
  cases same
  cases result with
  | ok told =>
      obtain ⟨each, rfl, rfl, rfl⟩ := weaves
      exact ⟨List.forall_mem_cons.mpr ⟨resolved, each⟩, rfl, rfl, rfl⟩
  | error cause =>
      obtain ⟨done, failed, behind, last, rfl, each, fails, rfl, rfl⟩ := weaves
      refine ⟨entry :: done, failed, behind, last, rfl,
        List.forall_mem_cons.mpr ⟨resolved, each⟩, fails, ?_, rfl⟩
      rw [List.flatMap_cons, List.append_assoc]

/-- A method that fails ends the weaving of methods in order. -/
theorem Weaves.fail {ran : List InfoRun} {now : Entry S} {cause : Refusal}
    (first : weaver.Weaves className [entry] report ran [now] (.error cause))
    (rest : List (Entry S)) :
    weaver.Weaves className (entry :: rest) report ran (now :: rest) (.error cause) := by
  obtain ⟨done, failed, behind, last, order, each, fails, rfl, left⟩ := first
  cases done with
  | nil =>
      cases order
      cases left
      exact ⟨[], entry, rest, last, rfl, each, fails, rfl, rfl⟩
  | cons earlier done =>
      have two := congrArg List.length order
      simp at two

/-- Once a method is woven, the next one is to be woven in the same way. -/
theorem weaveMethod_next (quiet : weaver.registry.Quiet host)
    (found : base.find? className = some definition)
    (distinct : ((before ++ entry :: after).map Entry.name).Nodup)
    (here : world.classes = base.setEntries className (before ++ entry :: after))
    {told : WeaveReport}
    (runs : weaver.weaveMethod host className entry.method report world =
      some (.ok told, later)) :
    ∃ now, later.classes = base.setEntries className (before ++ [now] ++ after) ∧
      ((before ++ [now] ++ after).map Entry.name).Nodup ∧
      weaver.Weaves className [entry] report
        (weaver.methodRuns host className entry.method world) [now] (.ok told) := by
  obtain ⟨now, classes, woven⟩ :=
    weaveMethod_run quiet found (Named.absent_of_nodup Entry.name distinct) here runs
  rw [List.append_cons] at classes
  have named : now.name = entry.name := by
    obtain ⟨_, _, _, same⟩ := woven
    cases same
    exact wovenEntry_name weaver className entry
  refine ⟨now, classes, ?_, woven⟩
  simpa [named] using distinct

/-- **Weaving methods in order** weaves them up to the first that fails, and leaves it and the rest
as they were; and so it leaves the methods that come after these. -/
theorem weaveAll_run (quiet : weaver.registry.Quiet host)
    (found : base.find? className = some definition)
    (distinct : ((before ++ (entries ++ after)).map Entry.name).Nodup)
    (here : world.classes = base.setEntries className (before ++ (entries ++ after)))
    {result : Except Refusal WeaveReport}
    (runs : weaver.weaveAll host className (entries.map Entry.method) report world =
      some (result, later)) :
    ∃ left, later.classes = base.setEntries className (before ++ (left ++ after)) ∧
      weaver.Weaves className entries report
        (weaver.allRuns host className (entries.map Entry.method) report world) left result := by
  induction entries generalizing before report world with
  | nil =>
      cases runs
      exact ⟨[], here, List.forall_mem_nil _, rfl, rfl, rfl⟩
  | cons entry rest ih =>
      rw [List.map_cons, allRuns]
      rcases weaveAll_cases runs with ⟨cause, rfl, woven⟩ | ⟨told, middle, woven, others⟩
      · have absent := Named.absent_of_nodup Entry.name distinct
        obtain ⟨now, classes, first⟩ := weaveMethod_run quiet found absent here woven
        rw [woven, List.append_nil]
        exact ⟨now :: rest, classes, first.fail rest⟩
      · obtain ⟨now, classes, still, first⟩ := weaveMethod_next quiet found distinct here woven
        rw [woven]
        obtain ⟨left, table, weaves⟩ := ih still classes others
        refine ⟨now :: left, ?_, first.cons weaves⟩
        rw [table, List.append_assoc]
        rfl

/-- **A weaving of a class, whether it succeeds or fails**: what it reports, the runs of `info`
handlers, and the entries it leaves. -/
theorem weave_run (quiet : weaver.registry.Quiet host) (orderly : definition.WellFormed)
    (found : world.classes.find? className = some definition)
    {result : Except Refusal WeaveReport}
    (runs : weaver.weave host className world = some (result, later)) :
    ∃ left, later.classes = world.classes.setEntries className left ∧
      weaver.Weaves className definition.entries { className := className }
        (weaver.infoRuns host className world) left result := by
  have named := ClassTable.methods?_of_find? found
  rcases weave_cases runs with ⟨unlisted, _⟩ | ⟨methods, last, listed, all, logged⟩
  · rw [unlisted] at named
    cases named
  · rw [listed] at named
    cases named
    have distinct : (([] ++ (definition.entries ++ [])).map Entry.name).Nodup := by
      rw [List.nil_append, List.append_nil]
      exact orderly.distinct
    have here (event : Event) : (world.write event).classes =
        world.classes.setEntries className ([] ++ (definition.entries ++ [])) := by
      rw [List.nil_append, List.append_nil]
      exact (ClassTable.setEntries_self found).symm
    unfold infoRuns
    rw [listed, logged.classes]
    obtain ⟨left, classes, weaves⟩ := weaveAll_run quiet found distinct (here _) all
    rw [List.nil_append, List.append_nil] at classes
    exact ⟨left, classes, weaves⟩

/-- Weaving a class that there is not is refused, and changes nothing. -/
theorem weave_of_absent (absent : world.classes.find? className = none) :
    weaver.weave host className world = some (.error (.classNotFound className), world) ∧
      weaver.infoRuns host className world = [] := by
  have unlisted : world.classes.methods? className = none := by
    rw [ClassTable.methods?, absent]
    rfl
  rw [weave, infoRuns, unlisted]
  exact ⟨rfl, rfl⟩

/-- **A class that is woven** has the woven entries, in their order, and the report tells of
each. -/
theorem weave_ok (quiet : weaver.registry.Quiet host) (orderly : world.classes.WellFormed)
    {told : WeaveReport} (runs : weaver.weave host className world = some (.ok told, later)) :
    ∃ definition, world.classes.find? className = some definition ∧
      (∀ entry ∈ definition.entries, weaver.Resolves entry) ∧
      told = definition.entries.foldl weaver.reported { className := className } ∧
      later.classes = world.classes.setEntries className
        (definition.entries.map (weaver.wovenEntry className)) := by
  cases found : world.classes.find? className with
  | none =>
      rw [(weave_of_absent found).1] at runs
      cases runs
  | some definition =>
      obtain ⟨left, classes, each, same, _, rfl⟩ :=
        weave_run quiet (orderly.of_find? found) found runs
      exact ⟨definition, rfl, each, same, classes⟩

/-- The entry of a method of a class that is woven. -/
theorem entry_of_weave (quiet : weaver.registry.Quiet host) (orderly : world.classes.WellFormed)
    {told : WeaveReport} (runs : weaver.weave host className world = some (.ok told, later))
    (method : String) :
    later.classes.entry? ⟨className, method⟩ =
      (world.classes.entry? ⟨className, method⟩).map (weaver.wovenEntry className) := by
  obtain ⟨definition, found, _, _, classes⟩ := weave_ok quiet orderly runs
  rw [classes, ClassTable.entry_setEntries found,
    Named.find?_map Entry.name (wovenEntry_name weaver className), ClassTable.entry?, found]
  rfl

/-- The report names exactly the methods that get a woven body. -/
theorem mem_wrapped_iff (quiet : weaver.registry.Quiet host) (orderly : world.classes.WellFormed)
    {told : WeaveReport} (runs : weaver.weave host className world = some (.ok told, later))
    (present : world.classes.entry? ⟨className, entry.name⟩ = some entry) :
    entry.name ∈ told.wrapped ↔ weaver.wraps entry = true := by
  obtain ⟨definition, found, _, rfl, _⟩ := weave_ok quiet orderly runs
  have distinct := (orderly.of_find? found).distinct
  rw [ClassTable.entry?, found] at present
  rw [foldl_reported]
  exact Named.mem_filter_iff Entry.name distinct (Named.mem_of_find? Entry.name present)

/-- The directives of a method that gets a woven body all resolve. -/
theorem resolves_of_weave (quiet : weaver.registry.Quiet host)
    (orderly : world.classes.WellFormed) {told : WeaveReport}
    (runs : weaver.weave host className world = some (.ok told, later))
    (present : world.classes.entry? ⟨className, entry.name⟩ = some entry) :
    weaver.Resolves entry := by
  obtain ⟨definition, found, each, _, _⟩ := weave_ok quiet orderly runs
  rw [ClassTable.entry?, found] at present
  exact each entry (Named.mem_of_find? Entry.name present)

/-- The methods that weaving a class wraps, if it succeeds. -/
def wrapped? (weaver : Weaver S) (host : Host S σ) (className : String) (world : World S σ) :
    Option (List String) :=
  (weaver.weave host className world).bind fun ended =>
    ended.1.toOption.map WeaveReport.wrapped

theorem wrapped?_eq_some_iff {names : List String} :
    weaver.wrapped? host className world = some names ↔
      ∃ told later, weaver.weave host className world = some (.ok told, later) ∧
        told.wrapped = names := by
  unfold wrapped?
  constructor
  · intro wrapped
    obtain ⟨⟨outcome, later⟩, runs, told⟩ := Option.bind_eq_some_iff.mp wrapped
    cases outcome with
    | error cause => cases told
    | ok report => exact ⟨report, later, runs, Option.some.inj told⟩
  · rintro ⟨told, later, runs, rfl⟩
    rw [runs]
    rfl

/-- Why weaving a class is refused, if it is. -/
def refused? (weaver : Weaver S) (host : Host S σ) (className : String) (world : World S σ) :
    Option Refusal :=
  (weaver.weave host className world).bind fun ended =>
    match ended.1 with
    | .ok _ => none
    | .error cause => some cause

theorem refused?_eq_some_iff {cause : Refusal} :
    weaver.refused? host className world = some cause ↔
      ∃ later, weaver.weave host className world = some (.error cause, later) := by
  unfold refused?
  constructor
  · intro refused
    obtain ⟨⟨outcome, later⟩, runs, told⟩ := Option.bind_eq_some_iff.mp refused
    cases outcome with
    | error because =>
        cases told
        exact ⟨later, runs⟩
    | ok report => cases told
  · rintro ⟨later, runs⟩
    rw [runs]
    rfl

end Weaving

end Weaver

/-! ### Weavings in turn -/

/-- A weaving of a class that came to its end. -/
structure Weaving (S : Interface) (σ : Type) (className : String) where
  weaver : Weaver S
  host : Host S σ
  start : World S σ
  result : Except Refusal WeaveReport
  finish : World S σ
  runs : weaver.weave host className start = some (result, finish)

namespace Weaving

variable {className : String}

/-- The weaving that begins in a world, if it comes to its end. -/
def begin (weaver : Weaver S) (host : Host S σ) (start : World S σ)
    (ends : (weaver.weave host className start).isSome = true) : Weaving S σ className where
  weaver := weaver
  host := host
  start := start
  result := ((weaver.weave host className start).get ends).1
  finish := ((weaver.weave host className start).get ends).2
  runs := (Option.some_get ends).symm

/-- The `info` handlers of the weaving change no class. -/
def Quiet (weaving : Weaving S σ className) : Prop :=
  weaving.weaver.registry.Quiet weaving.host

/-- Each weaving finds the class as the one before has left it; anything else may change. -/
def InTurn : ClassTable S → List (Weaving S σ className) → Prop
  | _, [] => True
  | classes, weaving :: rest =>
      weaving.start.classes.find? className = classes.find? className ∧
        InTurn weaving.finish.classes rest

/-- The table that weavings leave. -/
def leaves : ClassTable S → List (Weaving S σ className) → ClassTable S
  | classes, [] => classes
  | _, weaving :: rest => leaves weaving.finish.classes rest

end Weaving

/-! ### A class to weave -/

namespace Weaver

/-- A registry with an `info` handler and advice functions of these names, which do nothing. -/
def noting (functions : List String) : Registry Interface.idle where
  bindings := [("note", ⟨"note", .info, .info fun _ _ => .done (.ok ())⟩)]
  functions := functions.map fun name => (name, .before fun _ _ => .done (.ok ()))

/-- A method with this documentation, as it is defined. -/
def documented (name documentation : String) : Entry S where
  method := { name := name, isStatic := true, documentation := some documentation }
  body := fun _ arguments => .done (.ok .null, arguments)

/-- A world with one class, which has these methods. -/
def jobs (entries : List (Entry S)) : World S Unit :=
  ⟨⟨[("Job", ⟨"Job", entries⟩)]⟩, 0, [], ()⟩

theorem noting_quiet (functions : List String) :
    (noting functions).Quiet (.idle : Host Interface.idle Unit) := by
  intro handle member
  rcases List.mem_append.mp member with bound | named
  · cases List.mem_singleton.mp bound
    rintro target options world outcome later ⟨⟩
    rfl
  · simp [noting] at named

/-- The handler of such a registry always returns. -/
theorem noting_steady (functions : List String) :
    (noting functions).Steady (.idle : Host Interface.idle Unit) := by
  intro handle member
  rcases List.mem_append.mp member with bound | named
  · cases List.mem_singleton.mp bound
    intro target options world other
    rfl
  · simp [noting] at named

theorem jobs_reachable {entries : List (Entry S)}
    (new : entries.all (fun entry => !entry.woven && !entry.processed) = true)
    (accepted : (ClassDefinition.mk "Job" entries).offence? = none) :
    (jobs entries).classes.Reachable := by
  refine ClassTable.Reachable.single (fun entry member => ?_) accepted
  simpa using List.all_eq_true.mp new entry member

end Weaver

end AspectWeaver
