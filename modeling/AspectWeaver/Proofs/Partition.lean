/-
**To build a chain loses nothing, doubles nothing and reorders nothing.**

Every directive that resolves goes to the list of its kind, behind those before it; if it asks for
an `info` handler, this one is called at once and the directive is counted. The first directive that
does not resolve, or whose handler fails, ends the building.

* `resolve_eq_error_iff` — the ways in which a directive does not resolve, each with its refusal.
* `length_eq` — each directive that resolves is taken up once, in one list or in the count.
* `run_extend_of_calls`, `run_extend_of_stops` — from the calls of `info` handlers to the building.
* **`build_run_iff`** — **how a chain is built, exactly**: which chain comes of which directives, or
  which refusal, and which `info` handlers are called for which method, with which options.
-/

import AspectWeaver.Proofs.Diagnostics

namespace AspectWeaver

variable {S : Interface} {σ : Type}

/-! ### Directives that do not resolve -/

/-- A directive of a method does not resolve, and this is the refusal. -/
inductive Directive.Unresolved (registry : Registry S) (target : MethodId)
    (directive : Directive) : Refusal → Prop where
  /-- It is not built in, and there is no annotation of its name. -/
  | unregistered (custom : kindNamed? directive.name = none)
      (absent : registry.find? directive.name = none) :
      Unresolved registry target directive (.unknownHandler (directive.site target) directive.name)
  /-- It is built in and names no function. -/
  | unnamed {kind : Kind} (builtin : kindNamed? directive.name = some kind)
      (bare : directive.options = []) :
      Unresolved registry target directive (.missingHandler (directive.site target))
  /-- It is built in, and there is no function of the name. -/
  | unknownFunction {kind : Kind} {name : String}
      (builtin : kindNamed? directive.name = some kind)
      (named : directive.options.head? = some name) (absent : registry.function? name = none) :
      Unresolved registry target directive (.unknownHandler (directive.site target) name)
  /-- It is built in, and the function of the name is of another kind. -/
  | otherKind {kind : Kind} {name : String} {handler : Handler S}
      (builtin : kindNamed? directive.name = some kind)
      (named : directive.options.head? = some name)
      (found : registry.function? name = some handler) (differs : handler.kind ≠ kind) :
      Unresolved registry target directive
        (.handlerKindMismatch (directive.site target) name kind handler.kind)

namespace Chain

variable {registry : Registry S} {host : Host S σ} {target : MethodId}
  {directives done rest : List Directive} {directive : Directive} {cause : Refusal}
  {world later : World S σ} {runs : List InfoRun}

/-- The ways in which a directive does not resolve. -/
theorem resolve_eq_error_iff :
    resolve registry target directive = .error cause ↔
      directive.Unresolved registry target cause := by
  constructor
  · intro refused
    unfold resolve at refused
    dsimp only at refused
    split at refused
    · rename_i custom
      split at refused
      · rename_i absent
        cases refused
        exact .unregistered custom absent
      · cases refused
    · rename_i kind builtin
      split at refused
      · rename_i bare
        cases refused
        exact .unnamed builtin bare
      · rename_i name options given
        have named : directive.options.head? = some name := by rw [given, List.head?_cons]
        split at refused
        · rename_i absent
          cases refused
          exact .unknownFunction builtin named absent
        · rename_i handler found
          split at refused
          · cases refused
          · rename_i differs
            cases refused
            exact .otherKind builtin named found differs
  · intro unresolved
    cases unresolved with
    | unregistered custom absent =>
        rw [resolve, custom, absent]
        rfl
    | unnamed builtin bare =>
        rw [resolve, builtin, bare]
        rfl
    | unknownFunction builtin named absent =>
        obtain ⟨options, given⟩ := List.head?_eq_some_iff.mp named
        rw [resolve, builtin, given]
        dsimp only
        rw [absent]
        rfl
    | otherKind builtin named found differs =>
        obtain ⟨options, given⟩ := List.head?_eq_some_iff.mp named
        rw [resolve, builtin, given]
        dsimp only
        rw [found]
        dsimp only
        rw [if_neg differs]
        rfl

/-! ### Directives that resolve -/

/-- How many handlers there are in two chains, one after the other. -/
theorem size_append (first second : Chain S) :
    (first.append second).size = first.size + second.size := by
  simp only [size, append, List.length_append]
  omega

/-- **Each directive that resolves is taken up once**: there is one handler for it in the chain, or
one more in the count of `info` handlers. -/
theorem length_eq (resolved : ∀ directive ∈ directives, directive.Resolves registry) :
    (ofDirectives registry directives).size + (ofDirectives registry directives).infoRuns =
      directives.length := by
  induction directives with
  | nil => rfl
  | cons directive rest ih =>
      obtain ⟨⟨handler, asks, _⟩, others⟩ := List.forall_mem_cons.mp resolved
      have single : (ofDirectives registry [directive]).size +
          (ofDirectives registry [directive]).infoRuns = 1 := by
        rw [← empty_append (ofDirectives registry [directive]), append_single asks]
        cases handler <;> rfl
      have split : ofDirectives registry (directive :: rest) =
          (ofDirectives registry [directive]).append (ofDirectives registry rest) :=
        ofDirectives_append registry [directive] rest
      have counted := ih others
      rw [split, size_append, List.length_cons]
      show _ + ((ofDirectives registry [directive]).infoRuns +
        (ofDirectives registry rest).infoRuns) = _
      omega

/-! ### From the calls to the building -/

/-- Calls in two parts have a world between them. -/
theorem calls_append_iff {first second : List InfoRun} :
    Calls registry host world (first ++ second) later ↔
      ∃ middle, Calls registry host world first middle ∧
        Calls registry host middle second later := by
  induction first generalizing world with
  | nil =>
      constructor
      · intro calls
        exact ⟨world, .nothing world, calls⟩
      · rintro ⟨middle, before, behind⟩
        cases before
        exact behind
  | cons run rest ih =>
      constructor
      · intro calls
        cases calls with
        | call happened others =>
            obtain ⟨middle, before, behind⟩ := ih.mp others
            exact ⟨middle, .call happened before, behind⟩
      · rintro ⟨middle, before, behind⟩
        cases before with
        | call happened others => exact .call happened (ih.mpr ⟨middle, others, behind⟩)

/-- To call the `info` handler that a directive asks for is to announce it and to run it. -/
theorem calls_cons_iff {handle : InfoHandler S}
    (asks : directive.handler? registry = some (.info handle)) (failure : Option Failure) :
    Calls registry host world (⟨target, directive, directive.handed, failure⟩ :: runs) later ↔
      ∃ middle, (handle target directive.handed).run host
          (world.write (.runningInfo directive.name target)) =
            some (InfoRun.outcome ⟨target, directive, directive.handed, failure⟩, middle) ∧
        Calls registry host middle runs later := by
  constructor
  · intro calls
    cases calls with
    | call happened others =>
        obtain ⟨called, found, _, ended⟩ := happened
        rw [asks] at found
        cases found
        exact ⟨_, ended, others⟩
  · rintro ⟨middle, ended, others⟩
    exact .call ⟨handle, asks, rfl, ended⟩ others

/-- A directive that asks for an `info` handler is announced, and the handler runs; if it returns,
the directives that are left are next. -/
theorem run_adopt_info (handle : InfoHandler S) (options : List String) (rest : List Directive)
    (chain : Chain S) :
    (adopt registry target directive options rest chain (.info handle)).run host world =
      match (handle target options).run host
          (world.write (.runningInfo directive.name target)) with
      | none => none
      | some (.error failure, later) =>
          some (.error (.infoHandlerFailed target directive.name failure.fullMessage), later)
      | some (.ok (), later) =>
          (extend registry target rest
            { chain with infoRuns := chain.infoRuns + 1 }).run host later := by
  show ((handle target options).bind _).run host (world.write _) = _
  rw [Program.run_bind]
  cases (handle target options).run host (world.write (.runningInfo directive.name target)) with
  | none => rfl
  | some ended =>
      obtain ⟨outcome, later⟩ := ended
      cases outcome <;> rfl

/-- If the `info` handlers of directives that resolve are called and return, the directives are
taken into the chain. -/
theorem run_extend_of_calls (resolved : ∀ directive ∈ directives, directive.Resolves registry)
    (calls : Calls registry host world (Directive.completedRuns registry target directives) later)
    (chain : Chain S) :
    (extend registry target directives chain).run host world =
      some (.ok (chain.append (ofDirectives registry directives)), later) := by
  induction directives generalizing world chain with
  | nil =>
      cases calls
      rw [show ofDirectives registry [] = ({} : Chain S) from rfl, append_empty]
      rfl
  | cons directive rest ih =>
      obtain ⟨⟨handler, asks, fits⟩, others⟩ := List.forall_mem_cons.mp resolved
      have resolves : resolve registry target directive = .ok (handler, directive.handed) :=
        resolve_eq_ok_iff.mpr ⟨asks, rfl, fits⟩
      have split : ofDirectives registry (directive :: rest) =
          (ofDirectives registry [directive]).append (ofDirectives registry rest) :=
        ofDirectives_append registry [directive] rest
      have ran : Directive.completedRuns registry target (directive :: rest) = _ :=
        Directive.completedRuns_append registry target [directive] rest
      rw [ran, Directive.completedRuns_single target asks] at calls
      rw [extend_resolved resolves, split, ← append_assoc, append_single asks]
      cases handler with
      | before handle => exact ih others calls _
      | after handle => exact ih others calls _
      | around handle => exact ih others calls _
      | info handle =>
          obtain ⟨middle, ended, behind⟩ := (calls_cons_iff asks none).mp calls
          rw [run_adopt_info, ended]
          exact ih others behind _

/-- If the `info` handlers are called up to where the building stops, it stops there. -/
theorem run_extend_of_stops (stops : Stops registry target directives cause runs)
    (calls : Calls registry host world runs later) (chain : Chain S) :
    (extend registry target directives chain).run host world = some (.error cause, later) := by
  cases stops with
  | unresolved order resolved refused =>
      have taken := run_extend_of_calls resolved calls chain
      rw [order, extend_append, Program.run_bind, taken]
      dsimp only
      rw [extend_refused refused]
      rfl
  | failed order resolved asks failure =>
      obtain ⟨middle, before, last⟩ := calls_append_iff.mp calls
      have taken := run_extend_of_calls resolved before chain
      obtain ⟨_, ended, nothing⟩ :=
        (calls_cons_iff (resolve_eq_ok_iff.mp asks).1 (some failure)).mp last
      cases nothing
      rw [order, extend_append, Program.run_bind, taken]
      dsimp only
      rw [extend_resolved asks, run_adopt_info, ended]
      rfl

/-! ### What comes of directives -/

/-- A chain is built of the directives of a method. -/
structure Complete (registry : Registry S) (host : Host S σ) (target : MethodId)
    (directives : List Directive) (world : World S σ) (chain : Chain S) (later : World S σ) :
    Prop where
  /-- Every directive asks for a handler that there is, and a built-in one for one of its kind. -/
  resolved : ∀ directive ∈ directives, directive.Resolves registry
  /-- In each list there are, in their order, the directives that ask for a handler of the kind,
  with the handler and the options that are for it. -/
  before : chain.before = directives.filterMap (Directive.before? registry)
  around : chain.around = directives.filterMap (Directive.around? registry)
  after : chain.after = directives.filterMap (Directive.after? registry)
  /-- The directives that ask for an `info` handler are counted, and with them every directive is
  there, and none is there twice. -/
  infoRuns : chain.infoRuns = directives.countP (Directive.isInfo registry)
  counted : chain.size + chain.infoRuns = directives.length
  /-- The `info` handlers of all other directives are called, each once and in their order, for the
  method and with the options that are for them, and all return. -/
  called : Calls registry host world (Directive.completedRuns registry target directives) later

/-- The building of a chain ends with a refusal. -/
inductive Broken (registry : Registry S) (host : Host S σ) (target : MethodId)
    (directives : List Directive) (world : World S σ) : Refusal → World S σ → Prop where
  /-- A directive does not resolve. Those before it do, and their `info` handlers are called and
  return; no other handler is called. -/
  | unresolved {done rest : List Directive} {directive : Directive} {cause : Refusal}
      {later : World S σ} (order : directives = done ++ directive :: rest)
      (resolved : ∀ earlier ∈ done, earlier.Resolves registry)
      (first : directive.Unresolved registry target cause)
      (called : Calls registry host world (Directive.completedRuns registry target done) later) :
      Broken registry host target directives world cause later
  /-- The `info` handler of a directive fails. The directives before it resolve, and their `info`
  handlers are called and return; then its own is called, and no other. -/
  | failed {done rest : List Directive} {directive : Directive} {failure : Failure}
      {later : World S σ} (order : directives = done ++ directive :: rest)
      (resolved : ∀ earlier ∈ done, earlier.Resolves registry)
      (resolves : directive.Resolves registry)
      (called : Calls registry host world (Directive.completedRuns registry target done ++
        [⟨target, directive, directive.handed, some failure⟩]) later) :
      Broken registry host target directives world
        (.infoHandlerFailed target directive.name failure.fullMessage) later

/-- The building ends with a refusal just if it stops and the `info` handlers up to there are
called. -/
theorem broken_iff :
    Broken registry host target directives world cause later ↔
      ∃ told, Stops registry target directives cause told ∧
        Calls registry host world told later := by
  constructor
  · intro broken
    cases broken with
    | unresolved order resolved first called =>
        exact ⟨_, .unresolved order resolved (resolve_eq_error_iff.mpr first), called⟩
    | failed order resolved resolves called =>
        obtain ⟨_, _, last⟩ := calls_append_iff.mp called
        cases last with
        | call happened _ =>
            obtain ⟨handle, asks, _, _⟩ := happened
            -- the handler that has run is the one that the directive resolves to
            obtain ⟨handler, found, fits⟩ := resolves
            cases asks.symm.trans found
            exact ⟨_, .failed order resolved (resolve_eq_ok_iff.mpr ⟨asks, rfl, fits⟩) _, called⟩
  · rintro ⟨told, stops, called⟩
    cases stops with
    | unresolved order resolved refused =>
        exact .unresolved order resolved (resolve_eq_error_iff.mp refused) called
    | failed order resolved asks failure =>
        obtain ⟨found, _, fits⟩ := resolve_eq_ok_iff.mp asks
        exact .failed order resolved ⟨_, found, fits⟩ called

/-- **How a chain is built, exactly.** It is built just if all directives resolve and their `info`
handlers are called and return, and then it holds each other directive once, in the list of its kind
and in order; the building ends with a refusal just if it is that of the first directive that does
not resolve or whose `info` handler fails. -/
theorem build_run_iff (registry : Registry S) (host : Host S σ) (target : MethodId)
    (directives : List Directive) (world later : World S σ) :
    (∀ chain, (build registry target directives).run host world = some (.ok chain, later) ↔
        Complete registry host target directives world chain later) ∧
      ∀ cause, (build registry target directives).run host world = some (.error cause, later) ↔
        Broken registry host target directives world cause later := by
  constructor
  · intro chain
    constructor
    · intro runs
      obtain ⟨calls, rfl, resolved, ran⟩ := calls_of_build runs
      rw [empty_append]
      rw [ran] at calls
      exact ⟨resolved, rfl, rfl, rfl, rfl, length_eq resolved, calls⟩
    · rintro ⟨resolved, before, around, after, infoRuns, _, called⟩
      obtain rfl : chain = ofDirectives registry directives := by
        cases chain
        rw [ofDirectives, ← before, ← around, ← after, ← infoRuns]
      have built := run_extend_of_calls resolved called {}
      rwa [empty_append] at built
  · intro cause
    rw [broken_iff]
    constructor
    · intro runs
      obtain ⟨calls, stops⟩ := calls_of_build runs
      exact ⟨_, stops, calls⟩
    · rintro ⟨told, stops, calls⟩
      exact run_extend_of_stops stops calls {}

end Chain

end AspectWeaver
