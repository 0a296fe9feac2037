/-
**What is told of `info` handlers has happened.**

A weaving lets `info` handlers run one after the other. Between them it writes to the log and to the
table of classes, and nothing else.

* `Performed` — handlers ran one after the other, from one world to another, for these methods and
  directives, with these options and endings.
* `Performed.append` — what happens after something else has happened together with it.
* **`performed_weave`** — **the runs that are told of a weaving are what has happened in it**,
  whether it succeeds or fails.
* `Performed.happened` — a run that is told of is a run of the handler that its directive asks for.
-/

import AspectWeaver.Proofs.Weaving

namespace AspectWeaver

variable {S : Interface} {σ : Type}

/-- The clock and the surrounding program are the same. -/
structure World.SameOutside (world later : World S σ) : Prop where
  clock : later.clock = world.clock
  state : later.state = world.state

namespace World.SameOutside

variable {world middle later : World S σ}

theorem refl (world : World S σ) : world.SameOutside world := ⟨rfl, rfl⟩

theorem trans (first : world.SameOutside middle) (second : middle.SameOutside later) :
    world.SameOutside later :=
  ⟨second.clock.trans first.clock, second.state.trans first.state⟩

theorem write (event : Event) (world : World S σ) : world.SameOutside (world.write event) :=
  ⟨rfl, rfl⟩

end World.SameOutside

theorem World.Logged.sameOutside {world later : World S σ} (logged : world.Logged later) :
    world.SameOutside later := ⟨logged.clock, logged.state⟩

/-- These runs of `info` handlers have happened one after the other, and nothing else has changed
the clock or the surrounding program. -/
inductive Performed (registry : Registry S) (host : Host S σ) :
    World S σ → List InfoRun → World S σ → Prop where
  | nothing {world later : World S σ} (same : world.SameOutside later) :
      Performed registry host world [] later
  | run {world start middle later : World S σ} {run : InfoRun} {rest : List InfoRun}
      (same : world.SameOutside start) (happened : run.Happened registry host start middle)
      (others : Performed registry host middle rest later) :
      Performed registry host world (run :: rest) later

namespace Performed

variable {registry : Registry S} {host : Host S σ} {world start middle later : World S σ}
  {first second : List InfoRun}

/-- What is the same outside makes no difference at the beginning. -/
theorem of_sameOutside (same : world.SameOutside start)
    (performed : Performed registry host start first later) :
    Performed registry host world first later := by
  cases performed with
  | nothing unchanged => exact .nothing (same.trans unchanged)
  | run before happened others => exact .run (same.trans before) happened others

/-- What happens after something else has happened together with it. -/
theorem append (before : Performed registry host world first middle)
    (after : Performed registry host middle second later) :
    Performed registry host world (first ++ second) later := by
  induction before with
  | nothing same => exact after.of_sameOutside same
  | run same happened _ ih => exact .run same happened (ih after)

/-- Each of the runs has happened. -/
theorem happened (performed : Performed registry host world first later) {run : InfoRun}
    (member : run ∈ first) : ∃ start finish, run.Happened registry host start finish := by
  induction performed with
  | nothing same => cases member
  | run _ happened _ ih =>
      rcases List.mem_cons.mp member with rfl | inside
      · exact ⟨_, _, happened⟩
      · exact ih inside

end Performed

/-! ### Building -/

/-- What is called one after the other has happened. -/
theorem Calls.performed {registry : Registry S} {host : Host S σ} {world later : World S σ}
    {runs : List InfoRun} (calls : Calls registry host world runs later) :
    Performed registry host world runs later := by
  induction calls with
  | nothing world => exact .nothing (.refl world)
  | call happened _ ih => exact .run (.write _ _) happened ih

/-- What is told of the building of the chain of a method has happened. -/
theorem Chain.performed_build {registry : Registry S} {host : Host S σ} {target : MethodId}
    {directives : List Directive} {world later : World S σ} {result : Except Refusal (Chain S)}
    (runs : (build registry target directives).run host world = some (result, later)) :
    Performed registry host world (toldRuns registry host target directives world) later :=
  (calls_of_build runs).1.performed

/-! ### Weaving -/

namespace Weaver

variable {weaver : Weaver S} {host : Host S σ} {className : String} {world later : World S σ}
  {result : Except Refusal WeaveReport}

/-- To install a chain changes the log and the table only. -/
theorem sameOutside_apply {method : Method} {chain : Chain S} {report : WeaveReport}
    (applied : apply className method chain report world = (result, later)) :
    world.SameOutside later := by
  unfold apply at applied
  dsimp only at applied
  split at applied
  · cases applied
    exact ⟨rfl, rfl⟩
  · split at applied
    · cases applied
      exact ⟨rfl, rfl⟩
    · cases applied
      exact ⟨rfl, rfl⟩

/-- What is told of the weaving of a method has happened. -/
theorem performed_weaveMethod {method : Method} {report : WeaveReport}
    (runs : weaver.weaveMethod host className method report world = some (result, later)) :
    Performed weaver.registry host world (weaver.methodRuns host className method world)
      later := by
  unfold methodRuns
  rcases weaveMethod_cases runs with
    ⟨idle, logged⟩ | ⟨busy, ⟨cause, _, built⟩ | ⟨chain, middle, built, applied⟩⟩
  · rw [if_pos idle]
    exact .nothing logged.sameOutside
  · rw [if_neg (by simp [busy])]
    exact Chain.performed_build built
  · rw [if_neg (by simp [busy])]
    have last := (Chain.performed_build built).append (.nothing (sameOutside_apply applied))
    rwa [List.append_nil] at last

/-- What is told of the weaving of methods in order has happened. -/
theorem performed_weaveAll {methods : List Method} {report : WeaveReport}
    (runs : weaver.weaveAll host className methods report world = some (result, later)) :
    Performed weaver.registry host world (weaver.allRuns host className methods report world)
      later := by
  induction methods generalizing report world with
  | nil =>
      cases runs
      exact .nothing (.refl _)
  | cons method rest ih =>
      rw [allRuns]
      rcases weaveAll_cases runs with ⟨cause, _, woven⟩ | ⟨told, middle, woven, others⟩
      · rw [woven, List.append_nil]
        exact performed_weaveMethod woven
      · rw [woven]
        exact (performed_weaveMethod woven).append (ih others)

/-- **What is told of a weaving has happened**, in this order and nothing else, whether the weaving
succeeds or fails. -/
theorem performed_weave
    (runs : weaver.weave host className world = some (result, later)) :
    Performed weaver.registry host world (weaver.infoRuns host className world) later := by
  unfold infoRuns
  rcases weave_cases runs with ⟨unlisted, _, rfl⟩ | ⟨methods, last, listed, all, logged⟩
  · rw [unlisted]
    exact .nothing (.refl _)
  · rw [listed]
    have first := World.SameOutside.write (.weaving className methods.length) world
    have ended := (performed_weaveAll all).append (.nothing logged.sameOutside)
    rw [List.append_nil] at ended
    exact ended.of_sameOutside first

end Weaver

end AspectWeaver
