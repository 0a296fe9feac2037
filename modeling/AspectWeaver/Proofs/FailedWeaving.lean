/-
**What a weaving that fails leaves behind.**

A weaving fails at one method: at the first directive that does not resolve, at an `info` handler
that fails, or because the method is processed and the policy says so.

* `Fails.target`, `target_of_refused` — the refusal is about the method at which the weaving fails.
* **`weave_stops`** — **a failed weaving leaves a clean prefix**: the methods before that one are
  woven, it and all others are as they were, and the `info` handlers that ran are those of the
  methods before it and of its own directives up to the one that failed. These runs, and no others,
  have happened in the weaving.
-/

import AspectWeaver.Proofs.Diagnostics
import AspectWeaver.Proofs.Performed

namespace AspectWeaver

variable {S : Interface} {σ : Type}

/-! ### The method that a refusal is about -/

/-- The method that a refusal is about, if it is about a method. -/
def Refusal.target? : Refusal → Option MethodId
  | .missingHandler site | .unknownHandler site _ | .handlerKindMismatch site _ _ _ =>
      some site.target
  | .alreadyWoven target | .infoHandlerFailed target _ _ | .methodNotFound target
  | .methodExists target | .malformedSignature target _ | .missingArgument target _
  | .tooManyArguments target _ _ | .missingReceiver target | .notAccessible target _ _ =>
      some target
  | .invalidName _ | .reservedName _ | .duplicateName _ | .notInvocable _ _ | .invalidKind _
  | .classNotFound _ => none

/-- A refusal at a place is about the method there. -/
theorem Refusal.target_of_site {cause : Refusal} {site : DirectiveSite}
    (blames : cause.site? = some site) : cause.target? = some site.target := by
  cases cause <;> cases blames <;> rfl

namespace Chain

/-- A directive that does not resolve is refused for its method. -/
theorem target_of_refused {registry : Registry S} {target : MethodId} {directive : Directive}
    {cause : Refusal} (refused : resolve registry target directive = .error cause) :
    cause.target? = some target :=
  Refusal.target_of_site (site_of_refused refused)

/-- The building of a chain stops with a refusal for its method. -/
theorem Stops.target {registry : Registry S} {target : MethodId} {directives : List Directive}
    {cause : Refusal} {runs : List InfoRun}
    (stops : Stops registry target directives cause runs) : cause.target? = some target := by
  cases stops with
  | unresolved _ _ refused => exact target_of_refused refused
  | failed _ _ _ _ => rfl

end Chain

namespace Weaver

variable {weaver : Weaver S} {host : Host S σ} {className : String} {world later : World S σ}
  {cause : Refusal}

/-- A weaving fails with a refusal for the method at which it fails. -/
theorem Fails.target {entry : Entry S} {runs : List InfoRun}
    (fails : weaver.Fails className entry cause runs) :
    cause.target? = some ⟨className, entry.name⟩ := by
  cases fails with
  | alreadyWoven _ _ => rfl
  | stopped _ stops => exact stops.target

/-! ### The clean prefix -/

/-- A weaving of a class stops at a method. The methods `done` before it are woven; it and the
methods `rest` after it are not. -/
structure StopsAt (weaver : Weaver S) (host : Host S σ) (className : String)
    (world later : World S σ) (done : List (Entry S)) (failed : Entry S) (rest : List (Entry S))
    (cause : Refusal) : Prop where
  /-- The refusal is about the method. -/
  blamed : cause.target? = some ⟨className, failed.name⟩
  /-- What the class was like before. -/
  had : ∃ definition, world.classes.find? className = some definition ∧
    definition.entries = done ++ failed :: rest
  /-- What the class is like now. -/
  has : ∃ definition, later.classes.find? className = some definition ∧
    definition.entries = done.map (weaver.wovenEntry className) ++ failed :: rest
  /-- The methods before it are just what they become when a class that has them is woven with
  success. -/
  complete (entry : Entry S) (member : entry ∈ done) (policy : ReweavePolicy) (answers : Host S σ)
    (start finish : World S σ) (told : WeaveReport) (reachable : start.classes.Reachable)
    (quiet : weaver.registry.Quiet answers)
    (has : start.classes.entry? ⟨className, entry.name⟩ = some entry)
    (succeeds : Weaver.weave ⟨weaver.registry, policy⟩ answers className start =
      some (.ok told, finish)) :
    later.classes.entry? ⟨className, entry.name⟩ = finish.classes.entry? ⟨className, entry.name⟩
  /-- A method has a new body and both marks, or the old body and the mark of a method without
  advice, or nothing new at all. -/
  consistent : ∀ entry ∈ done ++ failed :: rest, ∃ now,
    later.classes.entry? ⟨className, entry.name⟩ = some now ∧
      (now = entry ∨
        now = { entry with
          body := (weaver.wrapping className entry).body, woven := true, processed := true } ∨
        (weaver.chain entry.method).isEmpty = true ∧ now = { entry with processed := true })
  /-- No declaration of any class is changed. -/
  declarations (other : String) : later.classes.methods? other = world.classes.methods? other
  /-- No other class is changed. -/
  elsewhere (other : String) (different : other ≠ className) :
    later.classes.find? other = world.classes.find? other
  /-- All `info` handlers of the methods before it have run, and those of its own directives up to
  the failure. -/
  ran : ∃ last, weaver.Fails className failed cause last ∧
    weaver.infoRuns host className world = done.flatMap (weaver.dueRuns className) ++ last

/-- To weave the first methods changes no declaration. -/
theorem methods_left (weaver : Weaver S) (className : String) (done rest : List (Entry S)) :
    (done.map (weaver.wovenEntry className) ++ rest).map Entry.method =
      (done ++ rest).map Entry.method := by
  rw [List.map_append, List.map_append, map_method_wovenEntry]

/-- What a weaving that stops has left, when the entries it leaves are known. -/
theorem stopsAt_of_left {definition : ClassDefinition S} {done rest : List (Entry S)}
    {failed : Entry S} {last : List InfoRun} (orderly : definition.WellFormed)
    (found : world.classes.find? className = some definition)
    (order : definition.entries = done ++ failed :: rest)
    (fails : weaver.Fails className failed cause last)
    (ran : weaver.infoRuns host className world =
      done.flatMap (weaver.dueRuns className) ++ last)
    (classes : later.classes = world.classes.setEntries className
      (done.map (weaver.wovenEntry className) ++ failed :: rest)) :
    weaver.StopsAt host className world later done failed rest cause := by
  have methods := methods_left weaver className done (failed :: rest)
  have names : (done.map (weaver.wovenEntry className) ++ failed :: rest).map Entry.name =
      (done ++ failed :: rest).map Entry.name := Entry.map_name_congr methods
  have distinct : ((done ++ failed :: rest).map Entry.name).Nodup := by
    rw [← order]
    exact orderly.distinct
  -- the entry of a method now is the one at its place
  have now {entry : Entry S}
      (member : entry ∈ done.map (weaver.wovenEntry className) ++ failed :: rest) :
      later.classes.entry? ⟨className, entry.name⟩ = some entry := by
    rw [classes]
    exact ClassTable.entry_of_mem_entries found (names ▸ distinct) member
  have woven {entry : Entry S} (member : entry ∈ done) :
      later.classes.entry? ⟨className, entry.name⟩ = some (weaver.wovenEntry className entry) := by
    have here := now (List.mem_append_left _ (List.mem_map_of_mem member))
    rwa [wovenEntry_name] at here
  exact {
    blamed := fails.target
    had := ⟨definition, found, order⟩
    has := by
      refine ⟨definition.withEntries _, ?_, rfl⟩
      rw [classes, ClassTable.find?_setEntries_self found]
    complete := by
      intro entry member policy answers start finish told reachable quiet has succeeds
      let again : Weaver S := ⟨weaver.registry, policy⟩
      have calm : again.registry.Quiet answers := quiet
      -- the policy has no part in what becomes of a method
      have same : weaver.wovenEntry className entry = again.wovenEntry className entry := rfl
      rw [woven member, entry_of_weave calm reachable.wellFormed succeeds, has, Option.map_some,
        same]
    consistent := by
      intro entry member
      rcases List.mem_append.mp member with inDone | left
      · refine ⟨_, woven inDone, ?_⟩
        rcases wovenEntry_cases weaver className entry with
          ⟨_, same⟩ | ⟨_, empty, same⟩ | ⟨_, same⟩
        · exact .inr (.inl same)
        · exact .inr (.inr ⟨empty, same⟩)
        · exact .inl same
      · exact ⟨entry, now (List.mem_append_right _ left), .inl rfl⟩
    declarations := by
      intro other
      rw [classes]
      exact ClassTable.methods_setEntries found (methods.trans (congrArg _ order.symm)) other
    elsewhere := by
      intro other different
      rw [classes, ClassTable.find?_setEntries, if_neg different]
    ran := ⟨last, fails, ran⟩ }

/-- **A failed weaving leaves a clean prefix.** The runs of `info` handlers that are told of have
happened and no others have. Either there is no such class, and nothing at all has happened; or the
weaving stops at a method. -/
theorem weave_stops (reachable : world.classes.Reachable) (quiet : weaver.registry.Quiet host)
    (runs : weaver.weave host className world = some (.error cause, later)) :
    Performed weaver.registry host world (weaver.infoRuns host className world) later ∧
      ((world.classes.find? className = none ∧ cause = .classNotFound className ∧ later = world ∧
          weaver.infoRuns host className world = []) ∨
        ∃ done failed rest,
          weaver.StopsAt host className world later done failed rest cause) := by
  refine ⟨performed_weave runs, ?_⟩
  cases found : world.classes.find? className with
  | none =>
      obtain ⟨refused, silent⟩ : weaver.weave host className world = _ ∧ _ :=
        weave_of_absent found
      rw [refused] at runs
      cases runs
      exact .inl ⟨rfl, rfl, rfl, silent⟩
  | some definition =>
      have orderly := reachable.wellFormed.of_find? found
      obtain ⟨_, classes, done, failed, rest, last, order, _, fails, ran, rfl⟩ :=
        weave_run quiet orderly found runs
      exact .inr ⟨done, failed, rest, stopsAt_of_left orderly found order fails ran classes⟩

/-! ### A weaving that stops half-way -/

/-- Three methods, of which the second names an unknown function. -/
def halfWay : World Interface.idle Unit :=
  jobs [documented "first" "@note a\n@before stamp",
    documented "second" "@note b\n@before missing\n@note c", documented "third" "@note d"]

/-- The first method is woven, and two `info` handlers have run. -/
theorem weave_stops_half_way :
    halfWay.classes.Reachable ∧ (noting ["stamp"]).Quiet (.idle : Host Interface.idle Unit) ∧
    ∃ (later : World Interface.idle Unit) (cause : Refusal)
      (done rest : List (Entry Interface.idle)) (failed : Entry Interface.idle),
      Weaver.weave ⟨noting ["stamp"], .skip⟩ .idle "Job" halfWay = some (.error cause, later) ∧
      StopsAt ⟨noting ["stamp"], .skip⟩ .idle "Job" halfWay later done failed rest cause ∧
      failed.name = "second" ∧
      Performed (noting ["stamp"]) .idle halfWay
        (infoRuns ⟨noting ["stamp"], .skip⟩ .idle "Job" halfWay) later ∧
      infoRuns ⟨noting ["stamp"], .skip⟩ .idle "Job" halfWay =
        [⟨⟨"Job", "first"⟩, ⟨"note", ["a"], 1⟩, ["a"], none⟩,
         ⟨⟨"Job", "second"⟩, ⟨"note", ["b"], 1⟩, ["b"], none⟩] := by
  have reachable : halfWay.classes.Reachable := jobs_reachable (by decide) rfl
  let cause : Refusal := .unknownHandler ⟨⟨"Job", "second"⟩, "before", 2⟩ "missing"
  obtain ⟨later, runs⟩ := refused?_eq_some_iff.mp
    (show refused? ⟨noting ["stamp"], .skip⟩ .idle "Job" halfWay = some cause
      by decide +kernel)
  obtain ⟨happened, ⟨_, other, _⟩ | ⟨done, failed, rest, stops⟩⟩ :=
    weave_stops reachable (noting_quiet _) runs
  · exact absurd other (by decide)
  · have named : failed.name = "second" :=
      (congrArg MethodId.method (Option.some.inj stops.blamed)).symm
    refine ⟨reachable, noting_quiet _, later, cause, done, rest, failed, runs, stops, named,
      happened, ?_⟩
    decide +kernel

end Weaver

end AspectWeaver
