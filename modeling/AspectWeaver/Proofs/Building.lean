/-
**What the directives of a method ask for, without building a chain.**

A directive asks for one handler and hands it some options; its kind is the kind of the handler. The
chain of a list of directives holds, for each kind, the handlers of the directives of that kind in
the order of the directives.

* `resolve_eq_ok_iff` — a directive resolves exactly to what it asks for.
* `Calls` — `info` handlers are called one after the other, and nothing else happens.
* `extendTold_snd` — to tell the runs of `info` handlers changes nothing in the building.
* `extendTold_run` — the runs that are told are the calls that are made, and the building ends as
  the directives demand.
* **`build_run`** — **a chain that is built is the chain of its directives**; if the building stops,
  it is at the first directive that does not resolve or whose handler fails, and the `info` handlers
  that ran are those of the directives up to there. No class changes if no `info` handler changes
  one.
-/

import AspectWeaver.Chain
import AspectWeaver.World

namespace AspectWeaver

variable {S : Interface} {σ : Type}

/-! ### What a directive asks for -/

namespace Directive

/-- The handler that a directive asks for: the handler of the annotation, or the function that a
built-in directive names with its first option. -/
def handler? (registry : Registry S) (directive : Directive) : Option (Handler S) :=
  match kindNamed? directive.name with
  | none => (registry.find? directive.name).map Binding.handler
  | some _ =>
      directive.options.head?.bind registry.function?

/-- The options that a directive hands to its handler: all of them, but a built-in directive keeps
the name of the function. -/
def handed (directive : Directive) : List String :=
  if directive.isBuiltin then directive.options.tail else directive.options

/-- The invocation of a directive that asks for a before handler. -/
def before? (registry : Registry S) (directive : Directive) :
    Option (Invocation (BeforeHandler S)) :=
  match directive.handler? registry with
  | some (.before handle) => some ⟨directive.name, handle, directive.handed⟩
  | _ => none

/-- The invocation of a directive that asks for an around handler. -/
def around? (registry : Registry S) (directive : Directive) :
    Option (Invocation (AroundHandler S)) :=
  match directive.handler? registry with
  | some (.around handle) => some ⟨directive.name, handle, directive.handed⟩
  | _ => none

/-- The invocation of a directive that asks for an after handler. -/
def after? (registry : Registry S) (directive : Directive) :
    Option (Invocation (AfterHandler S)) :=
  match directive.handler? registry with
  | some (.after handle) => some ⟨directive.name, handle, directive.handed⟩
  | _ => none

/-- Whether a directive asks for an `info` handler. -/
def isInfo (registry : Registry S) (directive : Directive) : Bool :=
  match directive.handler? registry with
  | some (.info _) => true
  | _ => false

/-- The directive asks for a handler that there is, and a built-in one for a handler of its kind. -/
def Resolves (registry : Registry S) (directive : Directive) : Prop :=
  ∃ handler, directive.handler? registry = some handler ∧
    ∀ kind, kindNamed? directive.name = some kind → handler.kind = kind

end Directive

namespace Chain

/-- The chain of a list of directives. -/
def ofDirectives (registry : Registry S) (directives : List Directive) : Chain S where
  before := directives.filterMap (Directive.before? registry)
  around := directives.filterMap (Directive.around? registry)
  after := directives.filterMap (Directive.after? registry)
  infoRuns := directives.countP (Directive.isInfo registry)

/-- A chain with the directives of another one after its own. -/
def append (first second : Chain S) : Chain S where
  before := first.before ++ second.before
  around := first.around ++ second.around
  after := first.after ++ second.after
  infoRuns := first.infoRuns + second.infoRuns

/-- A directive resolves exactly to the handler it asks for and the options it hands to it, and
those of a built-in directive are of its kind. -/
theorem resolve_eq_ok_iff {registry : Registry S} {target : MethodId} {directive : Directive}
    {handler : Handler S} {options : List String} :
    resolve registry target directive = .ok (handler, options) ↔
      directive.handler? registry = some handler ∧ options = directive.handed ∧
        ∀ kind, kindNamed? directive.name = some kind → handler.kind = kind := by
  have builtin := kindNamed?_isSome directive.name
  unfold resolve Directive.handler? Directive.handed Directive.isBuiltin
  rw [← builtin]
  cases kindNamed? directive.name with
  | none =>
      cases registry.find? directive.name with
      | none => simp
      | some binding => simp [eq_comm]
  | some kind =>
      cases directive.options with
      | nil => simp
      | cons name rest =>
          cases found : registry.function? name with
          | none => simp [found]
          | some named =>
              by_cases fits : named.kind = kind
              · subst fits
                simp only [found, if_true, Except.ok.injEq, Prod.mk.injEq, List.head?_cons,
                  Option.bind_some, Option.some.injEq, Option.isSome_some, List.tail_cons,
                  forall_eq']
                constructor
                · rintro ⟨rfl, rfl⟩
                  exact ⟨rfl, rfl, rfl⟩
                · rintro ⟨rfl, rfl, _⟩
                  exact ⟨rfl, rfl⟩
              · simp only [found, fits, if_false, reduceCtorEq, List.head?_cons, Option.bind_some,
                  Option.some.injEq, forall_eq', false_iff, not_and]
                rintro rfl _ same
                exact fits same

end Chain

/-! ### `info` handlers that run -/

/-- A run of an `info` handler: for which method and directive, with which options, and why it
failed if it did. -/
structure InfoRun where
  target : MethodId
  directive : Directive
  options : List String
  failure : Option Failure
  deriving DecidableEq

namespace Directive

/-- The runs of the `info` handlers that directives of a method ask for, if none of them fails. -/
def completedRuns (registry : Registry S) (target : MethodId) (directives : List Directive) :
    List InfoRun :=
  (directives.filter (isInfo registry)).map fun directive =>
    ⟨target, directive, directive.handed, none⟩

theorem completedRuns_append (registry : Registry S) (target : MethodId)
    (first second : List Directive) :
    completedRuns registry target (first ++ second) =
      completedRuns registry target first ++ completedRuns registry target second := by
  simp only [completedRuns, List.filter_append, List.map_append]

/-- Of one directive there is a run if it asks for an `info` handler. -/
theorem completedRuns_single {registry : Registry S} {directive : Directive}
    {handler : Handler S} (target : MethodId)
    (asks : directive.handler? registry = some handler) :
    completedRuns registry target [directive] =
      match handler with
      | .info _ => [⟨target, directive, directive.handed, none⟩]
      | _ => [] := by
  cases handler <;> simp [completedRuns, isInfo, asks]

end Directive

/-- How the handler of a run ended. -/
def InfoRun.outcome (run : InfoRun) : Except Failure Unit :=
  match run.failure with
  | none => .ok ()
  | some failure => .error failure

/-- The handler that the directive of a run asks for has run, with the options that the directive
hands to it, and has ended as the run tells. -/
def InfoRun.Happened (registry : Registry S) (host : Host S σ) (run : InfoRun)
    (start finish : World S σ) : Prop :=
  ∃ handle, run.directive.handler? registry = some (.info handle) ∧
    run.options = run.directive.handed ∧
    (handle run.target run.options).run host start = some (run.outcome, finish)

/-- `info` handlers are called one after the other. A line in the log announces each of the calls,
and nothing else happens. -/
inductive Calls (registry : Registry S) (host : Host S σ) :
    World S σ → List InfoRun → World S σ → Prop where
  | nothing (world : World S σ) : Calls registry host world [] world
  | call {world middle later : World S σ} {run : InfoRun} {rest : List InfoRun}
      (happened : run.Happened registry host
        (world.write (.runningInfo run.directive.name run.target)) middle)
      (others : Calls registry host middle rest later) :
      Calls registry host world (run :: rest) later

/-! ### What is asked of `info` handlers -/

/-- The handlers of annotations and functions. -/
def Registry.handlers (registry : Registry S) : List (Handler S) :=
  registry.bindings.map (fun stored => stored.2.handler) ++ registry.functions.map Prod.snd

/-- No `info` handler of the registry changes the table of classes. -/
def Registry.Quiet (registry : Registry S) (host : Host S σ) : Prop :=
  ∀ handle : InfoHandler S, .info handle ∈ registry.handlers →
    ∀ target options world outcome later,
      (handle target options).run host world = some (outcome, later) →
        later.classes = world.classes

/-- How an `info` handler of the registry ends depends on the method and the options only. -/
def Registry.Steady (registry : Registry S) (host : Host S σ) : Prop :=
  ∀ handle : InfoHandler S, .info handle ∈ registry.handlers →
    ∀ target options (world other : World S σ),
      ((handle target options).run host world).map Prod.fst =
        ((handle target options).run host other).map Prod.fst

/-- The handler that a directive asks for is in the registry. -/
theorem Directive.mem_of_handler? {registry : Registry S} {directive : Directive}
    {handler : Handler S} (asks : directive.handler? registry = some handler) :
    handler ∈ registry.handlers := by
  unfold handler? at asks
  split at asks
  · obtain ⟨binding, found, rfl⟩ := Option.map_eq_some_iff.mp asks
    exact List.mem_append_left _ (List.mem_map.mpr ⟨_, Named.mem_of_lookup? found, rfl⟩)
  · obtain ⟨name, _, found⟩ := Option.bind_eq_some_iff.mp asks
    exact List.mem_append_right _ (List.mem_map.mpr ⟨_, Named.mem_of_lookup? found, rfl⟩)

/-- Calls of `info` handlers change no class if no `info` handler changes one. -/
theorem Calls.classes {registry : Registry S} {host : Host S σ} {world later : World S σ}
    {runs : List InfoRun} (calls : Calls registry host world runs later)
    (quiet : registry.Quiet host) : later.classes = world.classes := by
  induction calls with
  | nothing world => rfl
  | call happened _ ih =>
      obtain ⟨handle, asks, _, ended⟩ := happened
      have kept := quiet handle (Directive.mem_of_handler? asks) _ _ _ _ _ ended
      exact ih.trans kept

namespace Chain

/-! ### Building -/

theorem append_empty (chain : Chain S) : chain.append {} = chain := by
  simp [append]

theorem empty_append (chain : Chain S) : Chain.append {} chain = chain := by
  simp [append]

theorem append_assoc (first second third : Chain S) :
    (first.append second).append third = first.append (second.append third) := by
  simp [append, Nat.add_assoc]

/-- The chain of two lists of directives. -/
theorem ofDirectives_append (registry : Registry S) (first second : List Directive) :
    ofDirectives registry (first ++ second) =
      (ofDirectives registry first).append (ofDirectives registry second) := by
  simp only [ofDirectives, append, List.filterMap_append, List.countP_append]

/-- A chain with one more directive, by the handler it asks for. -/
theorem append_single {registry : Registry S} {directive : Directive} {handler : Handler S}
    (asks : directive.handler? registry = some handler) (chain : Chain S) :
    chain.append (ofDirectives registry [directive]) =
      match handler with
      | .info _ => { chain with infoRuns := chain.infoRuns + 1 }
      | .before handle =>
          { chain with before := chain.before ++ [⟨directive.name, handle, directive.handed⟩] }
      | .after handle =>
          { chain with after := chain.after ++ [⟨directive.name, handle, directive.handed⟩] }
      | .around handle =>
          { chain with
            around := chain.around ++ [⟨directive.name, handle, directive.handed⟩] } := by
  cases handler <;>
    simp [append, ofDirectives, Directive.before?, Directive.around?, Directive.after?,
      Directive.isInfo, asks]

/-! ### Runs of `info` handlers -/

/-- Builds the rest of a chain in a world, and tells the runs of `info` handlers. -/
def extendTold (registry : Registry S) (host : Host S σ) (target : MethodId) :
    List Directive → Chain S → World S σ →
      List InfoRun × Option (Except Refusal (Chain S) × World S σ)
  | [], chain, world => ([], some (.ok chain, world))
  | directive :: rest, chain, world =>
      match resolve registry target directive with
      | .error cause => ([], some (.error cause, world))
      | .ok (.info handle, options) =>
          match (handle target options).run host
              (world.write (.runningInfo directive.name target)) with
          | none => ([], none)
          | some (.error failure, later) =>
              ([⟨target, directive, options, some failure⟩],
                some (.error (.infoHandlerFailed target directive.name failure.fullMessage), later))
          | some (.ok (), later) =>
              let others := extendTold registry host target rest
                { chain with infoRuns := chain.infoRuns + 1 } later
              (⟨target, directive, options, none⟩ :: others.1, others.2)
      | .ok (.before handle, options) =>
          extendTold registry host target rest
            { chain with before := chain.before ++ [⟨directive.name, handle, options⟩] } world
      | .ok (.after handle, options) =>
          extendTold registry host target rest
            { chain with after := chain.after ++ [⟨directive.name, handle, options⟩] } world
      | .ok (.around handle, options) =>
          extendTold registry host target rest
            { chain with around := chain.around ++ [⟨directive.name, handle, options⟩] } world

/-- To tell the runs changes nothing else: what is built is what is built without telling. -/
theorem extendTold_snd (registry : Registry S) (host : Host S σ) (target : MethodId)
    (directives : List Directive) (chain : Chain S) (world : World S σ) :
    (extendTold registry host target directives chain world).2 =
      (extend registry target directives chain).run host world := by
  induction directives generalizing chain world with
  | nil => rfl
  | cons directive rest ih =>
      unfold extendTold extend
      cases resolve registry target directive with
      | error cause => rfl
      | ok asked =>
          obtain ⟨handler, options⟩ := asked
          cases handler with
          | before handle => exact ih _ _
          | after handle => exact ih _ _
          | around handle => exact ih _ _
          | info handle =>
              change _ = ((handle target options).bind _).run host (world.write _)
              rw [Program.run_bind]
              dsimp only
              cases (handle target options).run host
                  (world.write (.runningInfo directive.name target)) with
              | none => rfl
              | some ended =>
                  obtain ⟨outcome, later⟩ := ended
                  cases outcome with
                  | error failure => rfl
                  | ok _ => exact ih _ _

/-- The runs of `info` handlers while the chain of a method is built. -/
def toldRuns (registry : Registry S) (host : Host S σ) (target : MethodId)
    (directives : List Directive) (world : World S σ) : List InfoRun :=
  (extendTold registry host target directives {} world).1

/-- Building the chain of a method ends with a refusal, after these runs of `info` handlers: each
directive before some one resolved, and that one did not or its handler failed. -/
inductive Stops (registry : Registry S) (target : MethodId) (directives : List Directive) :
    Refusal → List InfoRun → Prop where
  | unresolved {done rest : List Directive} {directive : Directive} {cause : Refusal}
      (order : directives = done ++ directive :: rest)
      (resolved : ∀ earlier ∈ done, earlier.Resolves registry)
      (refused : resolve registry target directive = .error cause) :
      Stops registry target directives cause (Directive.completedRuns registry target done)
  | failed {done rest : List Directive} {directive : Directive} {handle : InfoHandler S}
      (order : directives = done ++ directive :: rest)
      (resolved : ∀ earlier ∈ done, earlier.Resolves registry)
      (asks : resolve registry target directive = .ok (.info handle, directive.handed))
      (failure : Failure) :
      Stops registry target directives
        (.infoHandlerFailed target directive.name failure.fullMessage)
        (Directive.completedRuns registry target done ++
          [⟨target, directive, directive.handed, some failure⟩])

/-- A directive that resolves is one more before the one at which the building stops. -/
theorem Stops.cons {registry : Registry S} {target : MethodId} {directive : Directive}
    {rest : List Directive} {cause : Refusal} {runs : List InfoRun}
    (resolves : directive.Resolves registry) (stops : Stops registry target rest cause runs) :
    Stops registry target (directive :: rest) cause
      (Directive.completedRuns registry target [directive] ++ runs) := by
  cases stops with
  | unresolved order resolved refused =>
      rw [← Directive.completedRuns_append]
      exact .unresolved (congrArg (List.cons directive) order)
        (List.forall_mem_cons.mpr ⟨resolves, resolved⟩) refused
  | failed order resolved asks failure =>
      rw [← List.append_assoc, ← Directive.completedRuns_append]
      exact .failed (congrArg (List.cons directive) order)
        (List.forall_mem_cons.mpr ⟨resolves, resolved⟩) asks failure

/-- How the building of the rest of a chain ends, and after which runs of `info` handlers: either
it has added what the directives ask for and each `info` handler has run, or it stops. -/
def Builds (registry : Registry S) (target : MethodId) (directives : List Directive)
    (chain : Chain S) (told : List InfoRun) : Except Refusal (Chain S) → Prop
  | .ok built =>
      built = chain.append (ofDirectives registry directives) ∧
        (∀ directive ∈ directives, directive.Resolves registry) ∧
        told = Directive.completedRuns registry target directives
  | .error cause => Stops registry target directives cause told

/-- What a directive that resolves adds comes before what the others add. -/
theorem Builds.cons {registry : Registry S} {target : MethodId} {directive : Directive}
    {rest : List Directive} {chain next : Chain S} {ran told : List InfoRun}
    {result : Except Refusal (Chain S)} (resolves : directive.Resolves registry)
    (added : chain.append (ofDirectives registry [directive]) = next)
    (completed : Directive.completedRuns registry target [directive] = ran)
    (builds : Builds registry target rest next told result) :
    Builds registry target (directive :: rest) chain (ran ++ told) result := by
  subst added completed
  cases result with
  | ok built =>
      obtain ⟨rfl, resolved, rfl⟩ := builds
      refine ⟨?_, List.forall_mem_cons.mpr ⟨resolves, resolved⟩, ?_⟩
      · rw [append_assoc, ← ofDirectives_append]
        rfl
      · rw [← Directive.completedRuns_append]
        rfl
  | error cause => exact Stops.cons resolves builds

/-- What building the rest of a chain does: the runs that are told are calls that are made, and it
ends as the directives demand. -/
theorem extendTold_run {registry : Registry S} {host : Host S σ} {target : MethodId}
    {directives : List Directive} {chain : Chain S} {world later : World S σ}
    {told : List InfoRun} {result : Except Refusal (Chain S)}
    (runs : extendTold registry host target directives chain world =
      (told, some (result, later))) :
    Calls registry host world told later ∧ Builds registry target directives chain told result := by
  induction directives generalizing chain world told with
  | nil =>
      cases runs
      exact ⟨.nothing _, (append_empty chain).symm, List.forall_mem_nil _, rfl⟩
  | cons directive rest ih =>
      have first : directive :: rest = [] ++ directive :: rest := rfl
      unfold extendTold at runs
      cases resolved : resolve registry target directive with
      | error cause =>
          rw [resolved] at runs
          cases runs
          exact ⟨.nothing _, .unresolved first (List.forall_mem_nil _) resolved⟩
      | ok asked =>
          obtain ⟨handler, options⟩ := asked
          obtain ⟨asks, rfl, fits⟩ := resolve_eq_ok_iff.mp resolved
          rw [resolved] at runs
          have resolves : directive.Resolves registry := ⟨handler, asks, fits⟩
          have completed := Directive.completedRuns_single target asks
          cases handler with
          | before handle =>
              obtain ⟨calls, builds⟩ := ih runs
              exact ⟨calls, Builds.cons resolves (append_single asks chain) completed builds⟩
          | after handle =>
              obtain ⟨calls, builds⟩ := ih runs
              exact ⟨calls, Builds.cons resolves (append_single asks chain) completed builds⟩
          | around handle =>
              obtain ⟨calls, builds⟩ := ih runs
              exact ⟨calls, Builds.cons resolves (append_single asks chain) completed builds⟩
          | info handle =>
              dsimp only at runs
              cases handled : (handle target directive.handed).run host
                  (world.write (.runningInfo directive.name target)) with
              | none =>
                  rw [handled] at runs
                  cases runs
              | some ended =>
                  obtain ⟨outcome, middle⟩ := ended
                  rw [handled] at runs
                  cases outcome with
                  | error failure =>
                      cases runs
                      exact ⟨.call ⟨handle, asks, rfl, handled⟩ (.nothing _),
                        .failed first (List.forall_mem_nil _) resolved failure⟩
                  | ok _ =>
                      obtain ⟨rfl, ended⟩ := Prod.ext_iff.mp runs
                      obtain ⟨calls, builds⟩ := ih (Prod.ext rfl ended)
                      exact ⟨.call ⟨handle, asks, rfl, handled⟩ calls,
                        Builds.cons resolves (append_single asks chain) completed builds⟩

/-- What building the chain of a method does, whatever its `info` handlers do. -/
theorem calls_of_build {registry : Registry S} {host : Host S σ} {target : MethodId}
    {directives : List Directive} {world later : World S σ} {result : Except Refusal (Chain S)}
    (runs : (build registry target directives).run host world = some (result, later)) :
    Calls registry host world (toldRuns registry host target directives world) later ∧
      Builds registry target directives {} (toldRuns registry host target directives world)
        result := by
  have ended : (extendTold registry host target directives {} world).2 = some (result, later) :=
    (extendTold_snd registry host target directives {} world).trans runs
  exact extendTold_run (Prod.ext rfl ended)

/-- **A chain that is built is the chain of its directives**, and all their `info` handlers have
run; otherwise it is known where the building stopped and what had run by then. -/
theorem build_run {registry : Registry S} {host : Host S σ} (quiet : registry.Quiet host)
    {target : MethodId} {directives : List Directive} {world later : World S σ}
    {result : Except Refusal (Chain S)}
    (runs : (build registry target directives).run host world = some (result, later)) :
    later.classes = world.classes ∧
      Builds registry target directives {} (toldRuns registry host target directives world)
        result := by
  obtain ⟨calls, builds⟩ := calls_of_build runs
  exact ⟨calls.classes quiet, builds⟩

end Chain

end AspectWeaver
