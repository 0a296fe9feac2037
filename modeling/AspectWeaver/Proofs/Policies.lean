/-
**The policies for processed methods agree up to the first processed method.**

A weaving looks at its policy only where it comes to a method that has directives and is processed.
Up to there it does the same under every policy.

* `Weaver.under` — the same registry under another policy.
* `weaveMethod_under`, `weaveAll_under` — **the policy has no part** in the weaving of methods of
  which none is processed.
* `FailsToBuild`, `weaveAll_eq_error_iff` — such methods fail only because a chain is not built.
* `FirstProcessed`, `StopsShort` — the first processed method of a class, and how a weaving under
  the policy `error` stops there.
* **`weave_policies`** — **the policies agree** on a class without processed methods, and on any
  other up to its first processed method.

`info` handlers change no class here. How they end may depend on anything.
-/

import AspectWeaver.Proofs.InfoOnce

namespace AspectWeaver

variable {S : Interface} {σ : Type}

namespace Weaver

/-- The same registry under a policy for processed methods. -/
def under (weaver : Weaver S) (policy : ReweavePolicy) : Weaver S := ⟨weaver.registry, policy⟩

/-- One of the methods fails to build: the methods before it are woven, and then the chain of its
directives is not built. -/
inductive FailsToBuild (weaver : Weaver S) (host : Host S σ) (className : String) :
    List (Entry S) → WeaveReport → World S σ → Refusal → World S σ → Prop where
  | here {entry : Entry S} {rest : List (Entry S)} {report : WeaveReport} {cause : Refusal}
      {world later : World S σ} (due : weaver.isDue entry = true)
      (refused : (Chain.build weaver.registry ⟨className, entry.name⟩
        (weaver.directives entry.method)).run host world = some (.error cause, later)) :
      FailsToBuild weaver host className (entry :: rest) report world cause later
  | behind {entry : Entry S} {rest : List (Entry S)} {report told : WeaveReport} {cause : Refusal}
      {world middle later : World S σ}
      (woven : weaver.weaveMethod host className entry.method report world =
        some (.ok told, middle))
      (fails : FailsToBuild weaver host className rest told middle cause later) :
      FailsToBuild weaver host className (entry :: rest) report world cause later

/-- No method of the class has directives and is processed. -/
def Unprocessed (weaver : Weaver S) (className : String) (classes : ClassTable S) : Prop :=
  ∀ definition, classes.find? className = some definition →
    ∀ entry ∈ definition.entries, weaver.skips entry = false

/-- The method is the first of the class that has directives and is processed. -/
structure FirstProcessed (weaver : Weaver S) (className : String) (classes : ClassTable S)
    (before : List (Entry S)) (entry : Entry S) (after : List (Entry S)) : Prop where
  listed : ∃ definition, classes.find? className = some definition ∧
    definition.entries = before ++ entry :: after
  earlier : ∀ other ∈ before, weaver.skips other = false
  processed : weaver.skips entry = true

section Agree

variable {weaver : Weaver S} {host : Host S σ} {className : String} {base : ClassTable S}
  {definition : ClassDefinition S} {before entries after : List (Entry S)} {entry : Entry S}
  {report : WeaveReport} {world later : World S σ}

/-! ### Where the policy has no part -/

/-- A method that is not processed is woven in the same way under every policy. -/
theorem weaveMethod_under
    (mark : world.classes.isProcessed ⟨className, entry.name⟩ = entry.processed)
    (unprocessed : weaver.skips entry = false) (policy : ReweavePolicy) :
    (weaver.under policy).weaveMethod host className entry.method report world =
      weaver.weaveMethod host className entry.method report world := by
  have same : (weaver.under policy).skips entry = false := unprocessed
  rw [weaveMethod_eq mark, weaveMethod_eq mark, same, unprocessed]
  rfl

/-- **Methods of which none is processed are woven in the same way under every policy**, with the
same runs of `info` handlers. -/
theorem weaveAll_under (quiet : weaver.registry.Quiet host)
    (found : base.find? className = some definition)
    (distinct : ((before ++ (entries ++ after)).map Entry.name).Nodup)
    (here : world.classes = base.setEntries className (before ++ (entries ++ after)))
    (unprocessed : ∀ entry ∈ entries, weaver.skips entry = false) (policy : ReweavePolicy) :
    (weaver.under policy).weaveAll host className (entries.map Entry.method) report world =
        weaver.weaveAll host className (entries.map Entry.method) report world ∧
      (weaver.under policy).allRuns host className (entries.map Entry.method) report world =
        weaver.allRuns host className (entries.map Entry.method) report world := by
  induction entries generalizing before report world with
  | nil => exact ⟨rfl, rfl⟩
  | cons entry rest ih =>
      obtain ⟨first, others⟩ := List.forall_mem_cons.mp unprocessed
      have absent := Named.absent_of_nodup Entry.name distinct
      have mark := ClassTable.isProcessed_of_entry? (entry?_at found absent here)
      have same : (weaver.under policy).weaveMethod host className entry.method report world = _ :=
        weaveMethod_under mark first policy
      have silent : (weaver.under policy).methodRuns host className entry.method world =
        weaver.methodRuns host className entry.method world := rfl
      rw [List.map_cons, weaveAll, weaveAll, allRuns, allRuns, same, silent]
      cases woven : weaver.weaveMethod host className entry.method report world with
      | none => exact ⟨rfl, rfl⟩
      | some ended =>
          obtain ⟨outcome, middle⟩ := ended
          cases outcome with
          | error cause => exact ⟨rfl, rfl⟩
          | ok told =>
              obtain ⟨now, classes, still, _⟩ := weaveMethod_next quiet found distinct here woven
              obtain ⟨all, told⟩ := ih still classes others
              exact ⟨all, congrArg _ told⟩

/-- A method that is not processed fails just if the chain of its directives is not built. -/
theorem weaveMethod_eq_error_iff {cause : Refusal} (quiet : weaver.registry.Quiet host)
    (present : world.classes.entry? ⟨className, entry.name⟩ = some entry)
    (unprocessed : weaver.skips entry = false) :
    weaver.weaveMethod host className entry.method report world = some (.error cause, later) ↔
      weaver.isDue entry = true ∧
        (Chain.build weaver.registry ⟨className, entry.name⟩
          (weaver.directives entry.method)).run host world = some (.error cause, later) := by
  rw [weaveMethod_eq (ClassTable.isProcessed_of_entry? present), unprocessed,
    if_neg Bool.false_ne_true]
  cases due : weaver.isDue entry with
  | false => simp
  | true =>
      rw [if_pos rfl]
      cases built : (Chain.build weaver.registry ⟨className, entry.name⟩
          (weaver.directives entry.method)).run host world with
      | none => simp
      | some ended =>
          obtain ⟨outcome, middle⟩ := ended
          cases outcome with
          | error other => simp
          | ok chain =>
              -- the method is there, so that its chain is installed
              have kept := (Chain.build_run quiet built).1
              have installed : (apply className entry.method chain report middle).1 ≠
                  .error cause := by
                intro refused
                rcases apply_cases (Prod.ext refused rfl) with ⟨_, _, _, absent⟩ | ⟨⟨_, told⟩, _⟩
                · have none := ClassTable.entry?_of_refused absent
                  rw [kept] at none
                  cases none.symm.trans present
                · cases told
              constructor
              · intro failed
                exact absurd (congrArg Prod.fst (Option.some.inj failed)) installed
              · rintro ⟨_, failed⟩
                cases failed

/-- **Methods of which none is processed fail just if one of them fails to build.** -/
theorem weaveAll_eq_error_iff {cause : Refusal} (quiet : weaver.registry.Quiet host)
    (found : base.find? className = some definition)
    (distinct : ((before ++ (entries ++ after)).map Entry.name).Nodup)
    (here : world.classes = base.setEntries className (before ++ (entries ++ after)))
    (unprocessed : ∀ entry ∈ entries, weaver.skips entry = false) :
    weaver.weaveAll host className (entries.map Entry.method) report world =
        some (.error cause, later) ↔
      weaver.FailsToBuild host className entries report world cause later := by
  induction entries generalizing before report world with
  | nil =>
      constructor
      · intro runs
        cases runs
      · intro fails
        cases fails
  | cons entry rest ih =>
      obtain ⟨first, others⟩ := List.forall_mem_cons.mp unprocessed
      have absent := Named.absent_of_nodup Entry.name distinct
      have present := entry?_at found absent here
      constructor
      · intro runs
        rcases weaveAll_cases runs with ⟨_, same, failed⟩ | ⟨told, middle, woven, runs⟩
        · cases same
          obtain ⟨due, refused⟩ := (weaveMethod_eq_error_iff quiet present first).mp failed
          exact .here due refused
        · obtain ⟨now, classes, still, _⟩ := weaveMethod_next quiet found distinct here woven
          exact .behind woven ((ih still classes others).mp runs)
      · intro fails
        rw [List.map_cons, weaveAll]
        cases fails with
        | here due refused =>
            rw [(weaveMethod_eq_error_iff quiet present first).mpr ⟨due, refused⟩]
        | behind woven fails =>
            obtain ⟨now, classes, still, _⟩ := weaveMethod_next quiet found distinct here woven
            rw [woven]
            exact (ih still classes others).mpr fails

/-- A method that is processed is skipped, and stops a weaving under the policy `error`. -/
theorem weaveMethod_of_skips
    (mark : world.classes.isProcessed ⟨className, entry.name⟩ = entry.processed)
    (processed : weaver.skips entry = true) (host : Host S σ) (report : WeaveReport) :
    (weaver.under .error).weaveMethod host className entry.method report world =
        some (.error (.alreadyWoven ⟨className, entry.name⟩), world) ∧
      weaver.methodRuns host className entry.method world = [] := by
  have idle : weaver.isDue entry = false := by
    rw [skips, Bool.and_eq_true] at processed
    rw [isDue, processed.2]
    exact Bool.and_false _
  have same : (weaver.under .error).skips entry = true := processed
  have settled : (weaver.under .error).isDue entry = false := idle
  rw [weaveMethod_eq mark, methodRuns_eq mark, settled, idle, same]
  exact ⟨rfl, rfl⟩

/-! ### A class -/

/-- A weaving that has come to the end of its methods is closed by a line. -/
def closed : Option (Except Refusal WeaveReport × World S σ) →
    Option (Except Refusal WeaveReport × World S σ)
  | some (.ok told, world) => some (.ok told, world.write (closing told))
  | ended => ended

theorem closed_eq_some {ended : Option (Except Refusal WeaveReport × World S σ)}
    {result : Except Refusal WeaveReport} (closes : closed ended = some (result, later)) :
    ∃ last, ended = some (result, last) ∧ last.Logged later := by
  unfold closed at closes
  split at closes
  · cases closes
    exact ⟨_, rfl, .write _ _⟩
  · exact ⟨later, closes, .refl later⟩

/-- The world in which the first of the methods is woven. -/
def begun (className : String) (entries : List (Entry S)) (world : World S σ) : World S σ :=
  world.write (.weaving className entries.length)

/-- To weave a class is to weave its methods. -/
theorem weave_of_find? (found : world.classes.find? className = some definition) :
    weaver.weave host className world =
        closed (weaver.weaveAll host className (definition.entries.map Entry.method)
          { className := className } (begun className definition.entries world)) ∧
      weaver.infoRuns host className world =
        weaver.allRuns host className (definition.entries.map Entry.method)
          { className := className } (begun className definition.entries world) := by
  rw [weave, infoRuns, ClassTable.methods?_of_find? found, begun]
  dsimp only
  rw [List.length_map]
  refine ⟨?_, rfl⟩
  cases weaver.weaveAll host className (definition.entries.map Entry.method)
      { className := className } (world.write (.weaving className definition.entries.length)) with
  | none => rfl
  | some ended =>
      obtain ⟨outcome, later⟩ := ended
      cases outcome with
      | error cause => rfl
      | ok told => rfl

/-- When a weaving begins, the class has its entries. -/
theorem begun_at (orderly : world.classes.WellFormed)
    (found : world.classes.find? className = some definition)
    (listed : definition.entries = entries ++ after) :
    (([] ++ (entries ++ after)).map Entry.name).Nodup ∧
      (begun className definition.entries world).classes =
        world.classes.setEntries className ([] ++ (entries ++ after)) := by
  rw [List.nil_append, ← listed]
  exact ⟨(orderly.of_find? found).distinct, (ClassTable.setEntries_self found).symm⟩

/-- **A class without processed methods** is woven in the same way under every policy. -/
theorem weave_under (quiet : weaver.registry.Quiet host) (orderly : world.classes.WellFormed)
    (unprocessed : weaver.Unprocessed className world.classes) (policy : ReweavePolicy) :
    (weaver.under policy).weave host className world = weaver.weave host className world ∧
      (weaver.under policy).infoRuns host className world =
        weaver.infoRuns host className world := by
  cases found : world.classes.find? className with
  | none =>
      obtain ⟨refused, silent⟩ :
          weaver.weave host className world = _ ∧ weaver.infoRuns host className world = _ :=
        weave_of_absent found
      obtain ⟨again, quietly⟩ :
          (weaver.under policy).weave host className world = _ ∧
            (weaver.under policy).infoRuns host className world = _ :=
        weave_of_absent found
      exact ⟨again.trans refused.symm, quietly.trans silent.symm⟩
  | some definition =>
      obtain ⟨distinct, here⟩ := begun_at orderly found (List.append_nil _).symm
      obtain ⟨all, told⟩ : (weaver.under policy).weaveAll host className
            (definition.entries.map Entry.method) { className := className }
            (begun className definition.entries world) = _ ∧ _ = _ :=
        weaveAll_under quiet found distinct here (unprocessed definition found) policy
      rw [(weave_of_find? found).1, (weave_of_find? found).1, (weave_of_find? found).2,
        (weave_of_find? found).2, all, told]
      exact ⟨rfl, rfl⟩

/-- A weaving under the policy `error` stops at a processed method. The methods before it are woven
as they are under the policy `skip`, and no `info` handler of it or of a later method has run. -/
structure StopsShort (weaver : Weaver S) (host : Host S σ) (className : String)
    (world middle : World S σ) (before : List (Entry S)) (entry : Entry S)
    (after : List (Entry S)) : Prop where
  refused : (weaver.under .error).weave host className world =
    some (.error (.alreadyWoven ⟨className, entry.name⟩), middle)
  /-- The methods before are woven, and no other entry is changed. -/
  classes : middle.classes = world.classes.setEntries className
    (before.map (weaver.wovenEntry className) ++ entry :: after)
  /-- Under the policy `skip` the weaving comes to the same world and goes on from there. -/
  passes : ∃ told,
    (weaver.under .skip).weaveAll host className (before.map Entry.method)
        { className := className } (begun className (before ++ entry :: after) world) =
      some (.ok told, middle) ∧
    (weaver.under .skip).weave host className world =
      closed ((weaver.under .skip).weaveAll host className ((entry :: after).map Entry.method)
        told middle)
  /-- However the weaving under the policy `skip` ends, it leaves the methods before as they are
  left here. -/
  same (result : Except Refusal WeaveReport) (last : World S σ)
    (runs : (weaver.under .skip).weave host className world = some (result, last)) :
    ∀ other ∈ before, last.classes.entry? ⟨className, other.name⟩ =
      middle.classes.entry? ⟨className, other.name⟩
  /-- The `info` handlers that ran are those of the methods before, as under the policy `skip`. -/
  ran : (weaver.under .error).infoRuns host className world =
      before.flatMap (weaver.dueRuns className) ∧
    ∃ further, (weaver.under .skip).infoRuns host className world =
      before.flatMap (weaver.dueRuns className) ++ further
  /-- These runs have happened, and no others. -/
  happened : Performed weaver.registry host world
    ((weaver.under .error).infoRuns host className world) middle
  spared : ∀ run ∈ (weaver.under .error).infoRuns host className world,
    ∀ other ∈ entry :: after, run.target ≠ ⟨className, other.name⟩

namespace FirstProcessed

variable {processed : Entry S}

/-- When the weaving begins, the class has the methods in their order. -/
theorem begins (orderly : world.classes.WellFormed)
    (first : weaver.FirstProcessed className world.classes before processed after) :
    ∃ definition, world.classes.find? className = some definition ∧
      definition.entries = before ++ processed :: after ∧
      ((before ++ processed :: after).map Entry.name).Nodup ∧
      (begun className (before ++ processed :: after) world).classes =
        world.classes.setEntries className ([] ++ (before ++ processed :: after)) := by
  obtain ⟨definition, found, listed⟩ := first.listed
  obtain ⟨distinct, here⟩ := begun_at orderly found listed
  rw [listed] at here
  exact ⟨definition, found, listed, distinct, here⟩

/-- The methods before the first processed one fail just if one of them fails to build. -/
theorem fails_iff (quiet : weaver.registry.Quiet host) (orderly : world.classes.WellFormed)
    (first : weaver.FirstProcessed className world.classes before processed after)
    {cause : Refusal} :
    weaver.weaveAll host className (before.map Entry.method) { className := className }
        (begun className (before ++ processed :: after) world) = some (.error cause, later) ↔
      weaver.FailsToBuild host className before { className := className }
        (begun className (before ++ processed :: after) world) cause later := by
  obtain ⟨definition, found, _, distinct, here⟩ := first.begins orderly
  exact weaveAll_eq_error_iff quiet found distinct here first.earlier

/-- The methods before the first processed one are woven in the same way under every policy, and
the weaving goes on after them. -/
theorem weave_under (quiet : weaver.registry.Quiet host) (orderly : world.classes.WellFormed)
    (first : weaver.FirstProcessed className world.classes before processed after)
    (policy : ReweavePolicy) :
    (weaver.under policy).weave host className world =
      closed (match weaver.weaveAll host className (before.map Entry.method)
          { className := className } (begun className (before ++ processed :: after) world) with
        | some (.ok told, middle) =>
            (weaver.under policy).weaveAll host className ((processed :: after).map Entry.method)
              told middle
        | ended => ended) ∧
    (weaver.under policy).infoRuns host className world =
      weaver.allRuns host className (before.map Entry.method) { className := className }
          (begun className (before ++ processed :: after) world) ++
        match weaver.weaveAll host className (before.map Entry.method)
          { className := className } (begun className (before ++ processed :: after) world) with
        | some (.ok told, middle) =>
            (weaver.under policy).allRuns host className ((processed :: after).map Entry.method)
              told middle
        | _ => [] := by
  obtain ⟨definition, found, listed, distinct, here⟩ := first.begins orderly
  obtain ⟨all, told⟩ : (weaver.under policy).weaveAll host className
        (before.map Entry.method) { className := className }
        (begun className (before ++ processed :: after) world) = _ ∧ _ = _ :=
    weaveAll_under quiet found distinct here first.earlier policy
  rw [(weave_of_find? found).1, (weave_of_find? found).2, listed, List.map_append,
    weaveAll_append, allRuns_append, all, told]
  refine ⟨congrArg closed ?_, rfl⟩
  cases weaver.weaveAll host className (before.map Entry.method)
      { className := className } (begun className (before ++ processed :: after) world) with
  | none => rfl
  | some ended =>
      obtain ⟨outcome, later⟩ := ended
      cases outcome with
      | error cause => rfl
      | ok told => rfl

/-- If a method before the first processed one fails to build, every policy gives the same. -/
theorem weave_of_fails (quiet : weaver.registry.Quiet host) (orderly : world.classes.WellFormed)
    (first : weaver.FirstProcessed className world.classes before processed after)
    {cause : Refusal}
    (fails : weaver.FailsToBuild host className before { className := className }
      (begun className (before ++ processed :: after) world) cause later)
    (policy : ReweavePolicy) :
    (weaver.under policy).weave host className world = some (.error cause, later) ∧
      (weaver.under policy).infoRuns host className world =
        weaver.allRuns host className (before.map Entry.method) { className := className }
          (begun className (before ++ processed :: after) world) := by
  have failed := (first.fails_iff quiet orderly).mpr fails
  obtain ⟨all, told⟩ := first.weave_under quiet orderly policy
  rw [failed] at all told
  rw [List.append_nil] at told
  exact ⟨all, told⟩

/-- If the methods before the first processed one are woven, the policy `error` stops there. -/
theorem stopsShort (quiet : weaver.registry.Quiet host) (orderly : world.classes.WellFormed)
    (first : weaver.FirstProcessed className world.classes before processed after)
    {told : WeaveReport} {middle : World S σ}
    (woven : weaver.weaveAll host className (before.map Entry.method) { className := className }
      (begun className (before ++ processed :: after) world) = some (.ok told, middle)) :
    weaver.StopsShort host className world middle before processed after := by
  obtain ⟨definition, found, _, distinct, here⟩ := first.begins orderly
  obtain ⟨left, classes, _, _, runs, rfl⟩ := weaveAll_run quiet found distinct here woven
  rw [List.nil_append] at classes
  have names : (before.map (weaver.wovenEntry className)).map Entry.name = before.map Entry.name :=
    Entry.map_name_congr (map_method_wovenEntry weaver className before)
  have absent : processed.name ∉ (before.map (weaver.wovenEntry className)).map Entry.name := by
    rw [names]
    exact Named.absent_of_nodup Entry.name distinct
  have mark := ClassTable.isProcessed_of_entry? (entry?_at found absent classes)
  obtain ⟨stops, silent⟩ := weaveMethod_of_skips mark first.processed host told
  -- what is woven before the processed method, under each of the policies
  have each := first.weave_under quiet orderly
  simp only [woven, runs] at each
  have failed : (weaver.under .error).weaveAll host className
      ((processed :: after).map Entry.method) told middle =
        some (.error (.alreadyWoven ⟨className, processed.name⟩), middle) := by
    rw [List.map_cons, weaveAll, stops]
  have quietly : (weaver.under .error).allRuns host className
      ((processed :: after).map Entry.method) told middle = [] := by
    have none : (weaver.under .error).methodRuns host className processed.method middle = [] :=
      silent
    rw [List.map_cons, allRuns, stops, none]
    rfl
  obtain ⟨refused, ran⟩ := each .error
  rw [failed] at refused
  rw [quietly, List.append_nil] at ran
  obtain ⟨passed, further⟩ := each .skip
  constructor
  case refused => exact refused
  case classes => exact classes
  case passes =>
    refine ⟨told, ?_, passed⟩
    rw [← woven]
    exact (weaveAll_under quiet found distinct here first.earlier .skip).1
  case same =>
    intro result last runs other member
    rw [passed] at runs
    obtain ⟨finish, all, logged⟩ := closed_eq_some runs
    have still : ((before.map (weaver.wovenEntry className) ++ (processed :: after ++ [])).map
        Entry.name).Nodup := by
      rw [List.append_nil, List.map_append, names, ← List.map_append]
      exact distinct
    rw [← List.append_nil (processed :: after)] at classes
    have calm : (weaver.under .skip).registry.Quiet host := quiet
    obtain ⟨left, table, _⟩ := weaveAll_run calm found still classes all
    have inside : other.name ∈ (before.map (weaver.wovenEntry className)).map Entry.name := by
      rw [names]
      exact List.mem_map_of_mem member
    rw [logged.classes, table, classes, ClassTable.entry_setEntries found,
      ClassTable.entry_setEntries found, Named.find?_append_left Entry.name inside,
      Named.find?_append_left Entry.name inside]
  case ran => exact ⟨ran, _, further⟩
  case happened =>
    have told : Performed (weaver.under .error).registry host world _ middle :=
      performed_weave refused
    exact told
  case spared =>
    intro run member other behind same
    rw [ran] at member
    obtain ⟨earlier, former, did⟩ := List.mem_flatMap.mp member
    have named : earlier.name = other.name :=
      congrArg MethodId.method ((due_of_mem_dueRuns did).2.symm.trans same)
    rw [List.map_append, List.nodup_append] at distinct
    exact distinct.2.2 _ (List.mem_map_of_mem former) _ (List.mem_map_of_mem behind) named

end FirstProcessed

/-- A class is without processed methods, or one of them is the first. -/
theorem exists_first {classes : ClassTable S}
    (marked : ¬ weaver.Unprocessed className classes) :
    ∃ before processed after, weaver.FirstProcessed className classes before processed after := by
  refine Classical.byContradiction fun none => marked fun definition found => ?_
  cases search : definition.entries.find? weaver.skips with
  | none => simpa using search
  | some processed =>
      obtain ⟨skips, before, after, listed, earlier⟩ := List.find?_eq_some_iff_append.mp search
      have unprocessed : ∀ other ∈ before, weaver.skips other = false := by
        intro other member
        simpa using earlier other member
      exact absurd ⟨before, processed, after, ⟨definition, found, listed⟩, unprocessed, skips⟩ none

/-- **The policies for processed methods agree up to the first processed method.** On a class of
which no method with directives is processed they give the same, in everything. Otherwise there is a
first one. If a method before it fails to build, both give this refusal. If none does, `error` stops
at the processed method, unless an `info` handler before it never returns under either policy. -/
theorem weave_policies (reachable : world.classes.Reachable)
    (quiet : weaver.registry.Quiet host) (className : String) :
    (weaver.Unprocessed className world.classes →
      (weaver.under .error).weave host className world =
          (weaver.under .skip).weave host className world ∧
        (weaver.under .error).infoRuns host className world =
          (weaver.under .skip).infoRuns host className world) ∧
    (¬ weaver.Unprocessed className world.classes → ∃ before processed after,
      weaver.FirstProcessed className world.classes before processed after ∧
      (∀ cause later, weaver.FailsToBuild host className before { className := className }
          (begun className (before ++ processed :: after) world) cause later →
        (weaver.under .error).weave host className world = some (.error cause, later) ∧
          (weaver.under .skip).weave host className world = some (.error cause, later) ∧
          (weaver.under .error).infoRuns host className world =
            (weaver.under .skip).infoRuns host className world) ∧
      ((∀ cause later, ¬ weaver.FailsToBuild host className before { className := className }
          (begun className (before ++ processed :: after) world) cause later) →
        (∃ middle, weaver.StopsShort host className world middle before processed after) ∨
          ((weaver.under .error).weave host className world = none ∧
            (weaver.under .skip).weave host className world = none))) := by
  have orderly := reachable.wellFormed
  constructor
  · intro unprocessed
    obtain ⟨stopping, told⟩ := weave_under quiet orderly unprocessed .error
    obtain ⟨skipping, same⟩ := weave_under quiet orderly unprocessed .skip
    exact ⟨stopping.trans skipping.symm, told.trans same.symm⟩
  · intro marked
    obtain ⟨before, processed, after, first⟩ := exists_first marked
    refine ⟨before, processed, after, first, fun cause later fails => ?_, fun builds => ?_⟩
    · obtain ⟨stopping, told⟩ := first.weave_of_fails quiet orderly fails .error
      obtain ⟨skipping, same⟩ := first.weave_of_fails quiet orderly fails .skip
      exact ⟨stopping, skipping, told.trans same.symm⟩
    · cases woven : weaver.weaveAll host className (before.map Entry.method)
          { className := className } (begun className (before ++ processed :: after) world) with
      | none =>
          -- then no weaving comes to an end
          have never (policy : ReweavePolicy) :
              (weaver.under policy).weave host className world = none := by
            rw [(first.weave_under quiet orderly policy).1, woven]
            rfl
          exact .inr ⟨never .error, never .skip⟩
      | some ended =>
          obtain ⟨outcome, middle⟩ := ended
          cases outcome with
          | error cause =>
              exact absurd ((first.fails_iff quiet orderly).mp woven) (builds cause middle)
          | ok told => exact .inl ⟨middle, first.stopsShort quiet orderly woven⟩

end Agree

/-! ### A class that is woven in part -/

/-- Three methods with directives, of which the second is processed. -/
def partlyWoven : World Interface.idle Unit :=
  jobs [documented "index" "@note a\n@before stamp",
    { documented "load" "@before stamp" with processed := true },
    documented "run" "@note b\n@before stamp"]

/-- The policy `error` stops at the second method, after the first has been woven. -/
theorem weave_policies_partly_woven :
    partlyWoven.classes.Reachable ∧ (noting ["stamp"]).Quiet (.idle : Host Interface.idle Unit) ∧
    ∃ before processed after middle,
      StopsShort ⟨noting ["stamp"], .skip⟩ .idle "Job" partlyWoven middle before processed after ∧
      processed.name = "load" ∧
      infoRuns ⟨noting ["stamp"], .error⟩ .idle "Job" partlyWoven =
        [⟨⟨"Job", "index"⟩, ⟨"note", ["a"], 1⟩, ["a"], none⟩] := by
  let weaver : Weaver Interface.idle := ⟨noting ["stamp"], .skip⟩
  have reachable : partlyWoven.classes.Reachable := by
    let unwoven : World Interface.idle Unit :=
      jobs [documented "index" "@note a\n@before stamp", documented "load" "@before stamp",
        documented "run" "@note b\n@before stamp"]
    have before : unwoven.classes.Reachable := jobs_reachable (by decide) rfl
    have marks : unwoven.classes.markProcessed ⟨"Job", "load"⟩ =
        (.ok (), partlyWoven.classes) := rfl
    exact before.markProcessed marks
  have quiet := noting_quiet ["stamp"]
  have blames : refused? (weaver.under .error) .idle "Job" partlyWoven =
      some (.alreadyWoven ⟨"Job", "load"⟩) := by decide +kernel
  obtain ⟨last, refused⟩ := refused?_eq_some_iff.mp blames
  obtain ⟨told, finish, skips, _⟩ := wrapped?_eq_some_iff.mp
    (show wrapped? (weaver.under .skip) .idle "Job" partlyWoven = some ["index", "run"]
      by decide +kernel)
  obtain ⟨same, agree⟩ : (weaver.Unprocessed "Job" partlyWoven.classes → _ = _ ∧ _ = _) ∧ _ :=
    weave_policies reachable quiet "Job"
  have unequal : ¬ weaver.Unprocessed "Job" partlyWoven.classes := by
    intro unprocessed
    have both := (same unprocessed).1
    rw [refused, skips] at both
    cases both
  obtain ⟨before, processed, after, _, fails, stops⟩ := agree unequal
  have builds : ∀ cause later, ¬ weaver.FailsToBuild .idle "Job" before { className := "Job" }
      (begun "Job" (before ++ processed :: after) partlyWoven) cause later := by
    intro cause later failed
    have both := (fails cause later failed).2.1
    rw [skips] at both
    cases both
  rcases stops builds with ⟨middle, short⟩ | ⟨never, _⟩
  case inr =>
    rw [refused] at never
    cases never
  refine ⟨reachable, quiet, before, processed, after, middle, short, ?_, by decide +kernel⟩
  have stopped : some (Refusal.alreadyWoven ⟨"Job", "load"⟩) = some _ :=
    blames.symm.trans (refused?_eq_some_iff.mpr ⟨middle, short.refused⟩)
  exact (MethodId.mk.inj (Refusal.alreadyWoven.inj (Option.some.inj stopped))).2.symm

end Weaver

end AspectWeaver
