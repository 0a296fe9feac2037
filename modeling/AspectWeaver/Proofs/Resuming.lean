/-
**A weaving that failed is resumed.**

A weaving stops where an advice function is missing. The function is defined and the class is woven
again: what was woven before is skipped, and the rest is woven then. Nothing in the table tells that
the class was not woven at once.

* `Registry.Defines` — further definitions of functions; the registry grows, so that the chain of a
  method stays the same.
* `Directive.Passes` — a directive that is no obstacle to any weaving: it resolves, and its `info`
  handler does not fail.
* `Turns`, `turns_of_weaveMethod`, `Turns.woven` — **what one method does to the table** depends on
  nothing else in the world, and is the same with more functions.
* `TurnsAll` — the same for methods in order, up to the first that fails.
* **`weave_resumed`** — **a failed weaving and then one that succeeds leave the table that a single
  weaving leaves**, and that single weaving succeeds.

`info` handlers change no class here, and how they end depends on the method and the options only.
-/

import AspectWeaver.Proofs.Growing
import AspectWeaver.Proofs.Performed

namespace AspectWeaver

variable {S : Interface} {σ : Type}

/-! ### Further functions -/

/-- A registry and what further definitions of functions make of it. -/
inductive Registry.Defines (registry : Registry S) : Registry S → Prop where
  | nothing : Defines registry registry
  | define {extended defined : Registry S} {name : String} {handler : Handler S}
      (before : Defines registry extended)
      (accepted : extended.defineFunction name handler = (.ok (), defined)) :
      Defines registry defined

namespace Registry.Defines

variable {registry extended : Registry S}

/-- Annotations stay as they are. -/
theorem bindings (defines : registry.Defines extended) :
    extended.bindings = registry.bindings := by
  induction defines with
  | nothing => rfl
  | define _ accepted ih =>
      obtain ⟨_, _, rfl⟩ := defineFunction_eq_ok accepted
      exact ih

/-- Further functions take nothing away. -/
theorem grows (defines : registry.Defines extended) : registry.Grows extended := by
  induction defines with
  | nothing => exact .refl registry
  | define _ accepted ih =>
      obtain ⟨accepts, rfl⟩ := defineFunction_eq_ok_iff.mp accepted
      exact ih.trans (Takes.entry accepts).grows

/-- The same names are known. -/
theorem knownNames (defines : registry.Defines extended) :
    extended.knownNames = registry.knownNames := by
  rw [Registry.knownNames, Registry.knownNames, defines.bindings]

/-- What is in the registry stays there. -/
theorem mem_handlers (defines : registry.Defines extended) {handler : Handler S}
    (member : handler ∈ registry.handlers) : handler ∈ extended.handlers := by
  induction defines with
  | nothing => exact member
  | define _ accepted ih =>
      obtain ⟨_, _, rfl⟩ := defineFunction_eq_ok accepted
      rw [handlers, List.map_append, ← List.append_assoc]
      exact List.mem_append_left _ ih

/-- If no `info` handler changes a class, none did before. -/
theorem quiet {host : Host S σ} (defines : registry.Defines extended)
    (quiet : extended.Quiet host) : registry.Quiet host :=
  fun handle member => quiet handle (defines.mem_handlers member)

end Registry.Defines

/-! ### Directives that are no obstacle -/

/-- The directive resolves, and if it asks for an `info` handler, that one always returns. -/
structure Directive.Passes (registry : Registry S) (host : Host S σ) (target : MethodId)
    (directive : Directive) : Prop where
  resolves : directive.Resolves registry
  returns (handle : InfoHandler S) (asks : directive.handler? registry = some (.info handle))
    (world : World S σ) :
    ∃ later, (handle target directive.handed).run host world = some (.ok (), later)

/-- Directives whose handlers have all run are no obstacle any more, whatever functions are defined
then. -/
theorem Directive.passes_of_performed {registry extended : Registry S} {host : Host S σ}
    {target : MethodId} {directives : List Directive} {world later : World S σ}
    (defines : registry.Defines extended) (steady : extended.Steady host)
    (resolved : ∀ directive ∈ directives, directive.Resolves registry)
    (performed : Performed registry host world (completedRuns registry target directives) later) :
    ∀ directive ∈ directives, directive.Passes extended host target := by
  intro directive member
  refine ⟨defines.grows.resolves (resolved directive member), fun handle asks other => ?_⟩
  -- the handler is the one that has run
  have before : directive.handler? registry = some (.info handle) := by
    obtain ⟨handler, found, _⟩ := resolved directive member
    rw [defines.grows.handler? found] at asks
    rw [found, asks]
  have info : directive.isInfo registry = true := by rw [isInfo, before]
  have told : ⟨target, directive, directive.handed, none⟩ ∈
      completedRuns registry target directives :=
    List.mem_map_of_mem (List.mem_filter.mpr ⟨member, info⟩)
  obtain ⟨start, finish, same, found, _, ended⟩ := performed.happened told
  rw [before] at found
  cases found
  have ends := steady handle (mem_of_handler? asks) target directive.handed other start
  rw [ended] at ends
  obtain ⟨⟨outcome, last⟩, runs, same⟩ := Option.map_eq_some_iff.mp ends
  cases same
  exact ⟨last, runs⟩

/-- The chain of directives that are no obstacle is built in every world. -/
theorem Chain.extendTold_of_passes {registry : Registry S} {host : Host S σ} {target : MethodId}
    {directives : List Directive}
    (passes : ∀ directive ∈ directives, directive.Passes registry host target) (chain : Chain S)
    (world : World S σ) :
    ∃ built later, (extendTold registry host target directives chain world).2 =
      some (.ok built, later) := by
  induction directives generalizing chain world with
  | nil => exact ⟨chain, world, rfl⟩
  | cons directive rest ih =>
      obtain ⟨⟨⟨handler, asks, fits⟩, returns⟩, others⟩ := List.forall_mem_cons.mp passes
      have resolved : resolve registry target directive = .ok (handler, directive.handed) :=
        resolve_eq_ok_iff.mpr ⟨asks, rfl, fits⟩
      unfold extendTold
      rw [resolved]
      cases handler with
      | before handle => exact ih others _ world
      | after handle => exact ih others _ world
      | around handle => exact ih others _ world
      | info handle =>
          obtain ⟨middle, ended⟩ :=
            returns handle asks (world.write (.runningInfo directive.name target))
          dsimp only
          rw [ended]
          exact ih others _ middle

namespace Weaver

/-! ### What one method does to the table -/

/-- Whether there is nothing to be done for a method: it has no directives or is processed. -/
def settled (weaver : Weaver S) (className : String) (classes : ClassTable S) (method : Method) :
    Bool :=
  (weaver.directives method).isEmpty || classes.isProcessed ⟨className, method.name⟩

/-- Weaving a method turns a table into another one: either there is nothing to be done for the
method, or none of its directives is an obstacle and its chain is installed. -/
inductive Turns (weaver : Weaver S) (host : Host S σ) (className : String) (method : Method)
    (classes : ClassTable S) : ClassTable S → Prop where
  | idle (settled : weaver.settled className classes method = true) :
      Turns weaver host className method classes classes
  | due {after : ClassTable S} (unsettled : weaver.settled className classes method = false)
      (passes : ∀ directive ∈ weaver.directives method,
        directive.Passes weaver.registry host ⟨className, method.name⟩)
      (installs : Installs className method (weaver.chain method) classes after) :
      Turns weaver host className method classes after

section Turns

variable {registry extended : Registry S} {weaver : Weaver S} {host : Host S σ}
  {className : String} {method : Method} {report : WeaveReport} {world later : World S σ}
  {classes after : ClassTable S}

/-- The same lines are directives. -/
theorem directives_of_defines (defines : registry.Defines extended) (policy : ReweavePolicy)
    (method : Method) :
    directives ⟨extended, policy⟩ method = directives ⟨registry, policy⟩ method := by
  unfold directives
  rw [defines.knownNames]

/-- A method that is woven turns the table, and with more functions it turns it just so. -/
theorem turns_of_weaveMethod (defines : registry.Defines extended) (quiet : extended.Quiet host)
    (steady : extended.Steady host) {told : WeaveReport}
    (runs : weaveMethod ⟨registry, .skip⟩ host className method report world =
      some (.ok told, later)) :
    Turns ⟨extended, .skip⟩ host className method world.classes later.classes := by
  have same := directives_of_defines defines .skip method
  have marks : settled ⟨extended, .skip⟩ className world.classes method =
      settled ⟨registry, .skip⟩ className world.classes method := by
    rw [settled, settled, same]
  rcases weaveMethod_cases runs with
    ⟨idle, logged⟩ | ⟨busy, ⟨cause, refused, _⟩ | ⟨chain, middle, built, applied⟩⟩
  · rw [logged.classes]
    exact .idle (marks.trans idle)
  · cases refused
  · obtain ⟨kept, rfl, resolved, ran⟩ := Chain.build_run (defines.quiet quiet) built
    have performed := Chain.performed_build built
    rw [ran] at performed
    have passes := Directive.passes_of_performed defines steady resolved performed
    have asked : chain ⟨extended, .skip⟩ method =
        Chain.ofDirectives registry (directives ⟨registry, .skip⟩ method) := by
      rw [chain, same]
      exact defines.grows.ofDirectives resolved
    rw [Chain.empty_append] at applied
    rcases apply_cases applied with ⟨_, refused, _⟩ | ⟨_, installs⟩
    · cases refused
    · rw [kept, ← asked] at installs
      refine .due (marks.trans busy) ?_ installs
      rw [same]
      exact passes

/-- A method at which a weaving fails leaves the table as it is. -/
theorem classes_of_weaveMethod_error (quiet : weaver.registry.Quiet host) {cause : Refusal}
    (runs : weaver.weaveMethod host className method report world = some (.error cause, later)) :
    later.classes = world.classes := by
  rcases weaveMethod_cases runs with
    ⟨_, logged⟩ | ⟨_, ⟨_, _, built⟩ | ⟨chain, middle, built, applied⟩⟩
  · exact logged.classes
  · exact (Chain.build_run quiet built).1
  · rcases apply_cases applied with ⟨_, _, same, _⟩ | ⟨⟨_, accepted⟩, _⟩
    · exact same.trans (Chain.build_run quiet built).1
    · cases accepted

/-- In every world with the table, the method is woven. -/
theorem Turns.woven (turns : weaver.Turns host className method world.classes after)
    (quiet : weaver.registry.Quiet host) (skip : weaver.policy = .skip) (report : WeaveReport) :
    ∃ told later, weaver.weaveMethod host className method report world =
      some (.ok told, later) ∧ later.classes = after := by
  rw [weaveMethod_def]
  cases turns with
  | idle settled =>
      split
      · exact ⟨_, _, rfl, rfl⟩
      · rename_i asks
        rw [Weaver.settled, Bool.or_eq_true, or_iff_right asks] at settled
        rw [if_pos settled, skip]
        exact ⟨_, _, rfl, rfl⟩
  | due unsettled passes installs =>
      obtain ⟨asks, fresh⟩ := Bool.or_eq_false_iff.mp unsettled
      rw [if_neg (by simp [asks]), if_neg (by simp [fresh])]
      obtain ⟨built, middle, ended⟩ := Chain.extendTold_of_passes passes {} world
      rw [Chain.extendTold_snd] at ended
      obtain ⟨kept, rfl, _⟩ := Chain.build_run quiet ended
      rw [Chain.empty_append] at ended
      rw [← kept] at installs
      obtain ⟨told, later, applied, same⟩ := installs.applied report
      refine ⟨told, later, ?_, same⟩
      rw [Chain.build, ended]
      exact congrArg some applied

/-- There is nothing left to be done for the method. -/
theorem Turns.settles (turns : weaver.Turns host className method classes after) :
    weaver.settled className after method = true := by
  cases turns with
  | idle settled => exact settled
  | due _ _ installs =>
      rw [settled, Bool.or_eq_true]
      exact .inr ((installs.isProcessed_iff _).mpr (.inl rfl))

/-- What there is nothing left to be done for stays so. -/
theorem Turns.keeps (turns : weaver.Turns host className method classes after) {other : Method}
    (done : weaver.settled className classes other = true) :
    weaver.settled className after other = true := by
  cases turns with
  | idle _ => exact done
  | due _ _ installs =>
      rw [settled, Bool.or_eq_true] at done ⊢
      exact done.imp_right fun marked => (installs.isProcessed_iff _).mpr (.inr marked)

/-- No declaration changes. -/
theorem Turns.declarations (turns : weaver.Turns host className method classes after)
    (other : String) : after.methods? other = classes.methods? other := by
  cases turns with
  | idle _ => rfl
  | due _ _ installs => exact installs.declarations other

/-- A method with nothing left to be done for it changes nothing. -/
theorem Turns.same (turns : weaver.Turns host className method classes after)
    (done : weaver.settled className classes method = true) : after = classes := by
  cases turns with
  | idle _ => rfl
  | due unsettled _ _ =>
      rw [done] at unsettled
      cases unsettled

end Turns

/-! ### What methods in order do to the table -/

/-- Weaving methods in order turns a table into another one, each method in its turn. -/
inductive TurnsAll (weaver : Weaver S) (host : Host S σ) (className : String) :
    ClassTable S → List Method → ClassTable S → Prop where
  | nil {classes : ClassTable S} : TurnsAll weaver host className classes [] classes
  | cons {classes middle after : ClassTable S} {method : Method} {rest : List Method}
      (first : weaver.Turns host className method classes middle)
      (others : TurnsAll weaver host className middle rest after) :
      TurnsAll weaver host className classes (method :: rest) after

section TurnsAll

variable {registry extended : Registry S} {weaver : Weaver S} {host : Host S σ}
  {className : String} {methods first second : List Method} {report : WeaveReport}
  {world later : World S σ} {classes middle after : ClassTable S}
  {result : Except Refusal WeaveReport}

/-- Methods go on where others have left the table. -/
theorem TurnsAll.append (before : weaver.TurnsAll host className classes first middle)
    (behind : weaver.TurnsAll host className middle second after) :
    weaver.TurnsAll host className classes (first ++ second) after := by
  induction before with
  | nil => exact behind
  | cons turns _ ih => exact .cons turns (ih behind)

/-- Two lists of methods have a table between them. -/
theorem TurnsAll.split (turns : weaver.TurnsAll host className classes (first ++ second) after) :
    ∃ middle, weaver.TurnsAll host className classes first middle ∧
      weaver.TurnsAll host className middle second after := by
  induction first generalizing classes with
  | nil => exact ⟨classes, .nil, turns⟩
  | cons method rest ih =>
      cases turns with
      | cons turned others =>
          obtain ⟨middle, before, behind⟩ := ih others
          exact ⟨middle, .cons turned before, behind⟩

/-- What there is nothing left to be done for stays so. -/
theorem TurnsAll.keeps (turns : weaver.TurnsAll host className classes methods after)
    {other : Method} (done : weaver.settled className classes other = true) :
    weaver.settled className after other = true := by
  induction turns with
  | nil => exact done
  | cons first _ ih => exact ih (first.keeps done)

/-- There is nothing left to be done for any of the methods. -/
theorem TurnsAll.settles (turns : weaver.TurnsAll host className classes methods after) :
    ∀ method ∈ methods, weaver.settled className after method = true := by
  induction turns with
  | nil => exact List.forall_mem_nil _
  | cons first others ih => exact List.forall_mem_cons.mpr ⟨others.keeps first.settles, ih⟩

/-- Methods with nothing left to be done for them change nothing. -/
theorem TurnsAll.same (turns : weaver.TurnsAll host className classes methods after)
    (done : ∀ method ∈ methods, weaver.settled className classes method = true) :
    after = classes := by
  induction turns with
  | nil => rfl
  | cons first _ ih =>
      obtain ⟨now, others⟩ := List.forall_mem_cons.mp done
      cases first.same now
      exact ih others

/-- No declaration changes. -/
theorem TurnsAll.declarations (turns : weaver.TurnsAll host className classes methods after)
    (other : String) : after.methods? other = classes.methods? other := by
  induction turns with
  | nil => rfl
  | cons first _ ih => exact ih.trans (first.declarations other)

/-- In every world with the table, the methods are woven. -/
theorem TurnsAll.woven (turns : weaver.TurnsAll host className world.classes methods after)
    (quiet : weaver.registry.Quiet host) (skip : weaver.policy = .skip) (report : WeaveReport) :
    ∃ told later, weaver.weaveAll host className methods report world = some (.ok told, later) ∧
      later.classes = after := by
  induction methods generalizing world report with
  | nil =>
      cases turns
      exact ⟨report, world, rfl, rfl⟩
  | cons method rest ih =>
      cases turns with
      | cons first others =>
          obtain ⟨told, middle, woven, rfl⟩ := first.woven quiet skip report
          rw [weaveAll, woven]
          exact ih others told

/-- **Methods in order turn the table up to the first that fails**, and with more functions they
turn it just so. -/
theorem turnsAll_of_weaveAll (defines : registry.Defines extended) (quiet : extended.Quiet host)
    (steady : extended.Steady host)
    (runs : weaveAll ⟨registry, .skip⟩ host className methods report world =
      some (result, later)) :
    ∃ done rest, methods = done ++ rest ∧
      TurnsAll ⟨extended, .skip⟩ host className world.classes done later.classes ∧
      ∀ told, result = .ok told → rest = [] := by
  induction methods generalizing report world with
  | nil =>
      cases runs
      exact ⟨[], [], rfl, .nil, fun _ _ => rfl⟩
  | cons method others ih =>
      rcases weaveAll_cases runs with ⟨cause, rfl, woven⟩ | ⟨told, middle, woven, behind⟩
      · have same := classes_of_weaveMethod_error (defines.quiet quiet) woven
        rw [same]
        exact ⟨[], method :: others, rfl, .nil, nofun⟩
      · obtain ⟨done, rest, rfl, turns, complete⟩ := ih behind
        have first := turns_of_weaveMethod defines quiet steady woven
        exact ⟨method :: done, rest, rfl, .cons first turns, complete⟩

/-- A weaving of a class turns the table in the order of its methods, up to the first that fails. -/
theorem turnsAll_of_weave (defines : registry.Defines extended) (quiet : extended.Quiet host)
    (steady : extended.Steady host)
    (runs : weave ⟨registry, .skip⟩ host className world = some (result, later)) :
    (world.classes.methods? className = none ∧ result = .error (.classNotFound className) ∧
        later = world) ∨
      ∃ done rest, world.classes.methods? className = some (done ++ rest) ∧
        TurnsAll ⟨extended, .skip⟩ host className world.classes done later.classes ∧
        ∀ told, result = .ok told → rest = [] := by
  rcases weave_cases runs with absent | ⟨methods, last, listed, all, logged⟩
  · exact .inl absent
  · obtain ⟨done, rest, rfl, turns, complete⟩ :=
      turnsAll_of_weaveAll defines quiet steady all
    rw [logged.classes]
    exact .inr ⟨done, rest, listed, turns, complete⟩

/-- A class of which all methods turn the table is woven. -/
theorem weave_of_turnsAll (quiet : weaver.registry.Quiet host) (skip : weaver.policy = .skip)
    (listed : world.classes.methods? className = some methods)
    (turns : weaver.TurnsAll host className world.classes methods after) :
    ∃ told later, weaver.weave host className world = some (.ok told, later) ∧
      later.classes = after := by
  let began := world.write (.weaving className methods.length)
  have turned : weaver.TurnsAll host className began.classes methods after := turns
  obtain ⟨told, last, all, same⟩ := turned.woven quiet skip { className := className }
  refine ⟨told, last.write (closing told), ?_, same⟩
  rw [weave, listed]
  dsimp only
  rw [all]

end TurnsAll

/-! ### Resuming -/

section Resuming

variable {registry extended : Registry S} {host : Host S σ} {className : String}

/-- **A failed weaving that is resumed leaves no trace in the table.** A weaving fails, further
functions are defined, and the class is woven again with success. Then to weave the class with these
functions in the first place succeeds too, and leaves the same table. -/
theorem weave_resumed (defines : registry.Defines extended) (quiet : extended.Quiet host)
    (steady : extended.Steady host) {first failed again resumed start : World S σ}
    {cause : Refusal} {told : WeaveReport}
    (fails : weave ⟨registry, .skip⟩ host className first = some (.error cause, failed))
    (left : again.classes = failed.classes)
    (succeeds : weave ⟨extended, .skip⟩ host className again = some (.ok told, resumed))
    (afresh : start.classes = first.classes) :
    ∃ report later, weave ⟨extended, .skip⟩ host className start = some (.ok report, later) ∧
      later.classes = resumed.classes := by
  rcases turnsAll_of_weave .nothing quiet steady succeeds with
    ⟨_, refused, _⟩ | ⟨all, none, listed, whole, complete⟩
  · cases refused
  · cases complete told rfl
    rw [List.append_nil] at listed
    rcases turnsAll_of_weave defines quiet steady fails with
      ⟨unlisted, _, rfl⟩ | ⟨done, rest, declared, before, _⟩
    · rw [left, unlisted] at listed
      cases listed
    · -- the second weaving goes through the same methods
      rw [left, before.declarations, declared] at listed
      cases listed
      obtain ⟨middle, skipped, behind⟩ := whole.split
      rw [left] at skipped
      -- what the first weaving is through with, the second one leaves alone
      cases skipped.same before.settles
      rw [← afresh] at declared before
      exact weave_of_turnsAll quiet rfl declared (before.append behind)

end Resuming

/-! ### A weaving that is interrupted -/

/-- A class of which the second method needs another advice function than the first one. -/
def locking : World Interface.idle Unit :=
  jobs [documented "index" "@note a\n@before stamp", documented "run" "@note b\n@before lock"]

/-- This function is not there yet, so the weaving fails. -/
def interrupted : Weaving Interface.idle Unit "Job" :=
  .begin ⟨noting ["stamp"], .skip⟩ .idle locking (by decide +kernel)

/-- The first weaving wraps the first method and the second weaving the other one; the table is the
same as if both methods had been wrapped at once. -/
theorem weave_resumed_interrupted :
    (noting ["stamp"]).Defines (noting ["stamp", "lock"]) ∧
    (noting ["stamp", "lock"]).Quiet (.idle : Host Interface.idle Unit) ∧
    (noting ["stamp", "lock"]).Steady (.idle : Host Interface.idle Unit) ∧
    (∃ cause, weave ⟨noting ["stamp"], .skip⟩ .idle "Job" locking =
      some (.error cause, interrupted.finish)) ∧
    ∃ (told report : WeaveReport) (resumed later : World Interface.idle Unit),
      weave ⟨noting ["stamp", "lock"], .skip⟩ .idle "Job" interrupted.finish =
        some (.ok told, resumed) ∧ told.wrapped = ["run"] ∧
      weave ⟨noting ["stamp", "lock"], .skip⟩ .idle "Job" locking = some (.ok report, later) ∧
      later.classes = resumed.classes := by
  have defines : (noting ["stamp"]).Defines (noting ["stamp", "lock"]) :=
    .define .nothing (show (noting ["stamp"]).defineFunction "lock"
      (.before fun _ _ => .done (.ok ())) = (.ok (), noting ["stamp", "lock"]) from rfl)
  have quiet := noting_quiet ["stamp", "lock"]
  have steady := noting_steady ["stamp", "lock"]
  obtain ⟨failed, fails⟩ := refused?_eq_some_iff.mp
    (show refused? ⟨noting ["stamp"], .skip⟩ .idle "Job" locking =
      some (.unknownHandler ⟨⟨"Job", "run"⟩, "before", 2⟩ "lock") by decide +kernel)
  have same : interrupted.finish = failed :=
    (Prod.ext_iff.mp (Option.some.inj (interrupted.runs.symm.trans fails))).2
  rw [← same] at fails
  obtain ⟨told, resumed, succeeds, names⟩ := wrapped?_eq_some_iff.mp
    (show wrapped? ⟨noting ["stamp", "lock"], .skip⟩ .idle "Job" interrupted.finish =
      some ["run"] by decide +kernel)
  obtain ⟨report, later, runs, equal⟩ :=
    weave_resumed defines quiet steady fails rfl succeeds rfl
  exact ⟨defines, quiet, steady, ⟨_, fails⟩, told, report, resumed, later, succeeds, names, runs,
    equal⟩

end Weaver

end AspectWeaver
