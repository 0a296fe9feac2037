/-
**Weavings inside weavings: how often a method is wrapped.**

An `info` handler may use services of the surrounding program, and by them weave the class that is
being woven just now.

* `weavings_of_weave` — **a weaving only weaves**, if its host does nothing else to the class, and
  captures what is told. The services may weave in turn, to any depth.
* **`wrapped_exactly`** — from the definition of the class on, a method has as many woven bodies as
  it was captured; **a woven body is wrapped exactly if the method was wrapped while its own `info`
  handlers ran**, so no method is wrapped twice exactly if that never happens.
* `wrapped_exactly_boot` — it does happen.
-/

import AspectWeaver.Proofs.Captures
import AspectWeaver.Proofs.Weaving

namespace AspectWeaver

variable {S : Interface} {σ : Type}

/-! ### What a weaving captures -/

/-- Tells what is captured while a host answers a request. -/
abbrev Spy (S : Interface) (σ : Type) := S.Request → World S σ → List (Capture S)

/-- The host does nothing to the class but weave it, and captures what the spy tells. -/
def Host.OnlyWeaves (host : Host S σ) (spy : Spy S σ) (className : String) : Prop :=
  ∀ request world reply later, host request world = some (reply, later) →
    Weavings className world.classes (spy request world) later.classes

/-- What is captured while a program runs. -/
def Program.captures {α : Type} (host : Host S σ) (spy : Spy S σ) :
    Program (Hosted S) α → World S σ → List (Capture S)
  | .done _, _ => []
  | .ask (.log event) resume, world => (resume ()).captures host spy (world.write event)
  | .ask .clock resume, world => (resume world.clock).captures host spy world
  | .ask (.service request) resume, world =>
      spy request world ++
        match host request world with
        | none => []
        | some (reply, later) => (resume reply).captures host spy later

namespace Weaver

section Captures

variable (weaver : Weaver S) (host : Host S σ) (spy : Spy S σ) (className : String)

/-- What is captured while one method is woven: first what the `info` handlers capture, and then, if
there is a chain to put around it, the body of the method. -/
def methodCaptures (method : Method) (world : World S σ) : List (Capture S) :=
  let target : MethodId := ⟨className, method.name⟩
  if (weaver.directives method).isEmpty || world.classes.isProcessed target then []
  else
    let building := Chain.build weaver.registry target (weaver.directives method)
    let meanwhile := building.captures host spy world
    match building.run host world with
    | some (.ok chain, later) =>
        if chain.isEmpty then meanwhile
        else meanwhile ++ ((later.classes.entry? target).map (Capture.since meanwhile)).toList
    | _ => meanwhile

/-- What is captured while methods are woven in order, up to the first that fails. -/
def allCaptures : List Method → WeaveReport → World S σ → List (Capture S)
  | [], _, _ => []
  | method :: rest, report, world =>
      weaver.methodCaptures host spy className method world ++
        match weaver.weaveMethod host className method report world with
        | some (.ok report, later) => allCaptures rest report later
        | _ => []

/-- What is captured while a class is woven, in order. -/
def captures (world : World S σ) : List (Capture S) :=
  match world.classes.methods? className with
  | none => []
  | some methods =>
      weaver.allCaptures host spy className methods { className := className }
        (world.write (.weaving className methods.length))

end Captures

variable {weaver : Weaver S} {host : Host S σ} {spy : Spy S σ} {className : String}
  {world later : World S σ}

/-- A program that is run by such a host only weaves. -/
theorem weavings_of_run {α : Type} (only : host.OnlyWeaves spy className)
    {program : Program (Hosted S) α} {result : α}
    (runs : program.run host world = some (result, later)) :
    Weavings className world.classes (program.captures host spy world) later.classes := by
  induction program generalizing world with
  | done value =>
      cases runs
      exact .elsewhere rfl
  | ask request resume ih =>
      match request with
      | .log event => exact ih () runs
      | .clock => exact ih world.clock runs
      | .service request =>
          simp only [Program.run] at runs
          simp only [Program.captures]
          cases answered : host request world with
          | none =>
              rw [answered] at runs
              cases runs
          | some answer =>
              obtain ⟨reply, middle⟩ := answer
              rw [answered] at runs
              exact (only request world reply middle answered).next (ih reply runs)

/-- Installing a chain captures the body of the method, if there is anything to put around it. -/
theorem weavings_of_apply {before : ClassTable S} {method : Method} {chain : Chain S}
    {report : WeaveReport} {result : Except Refusal WeaveReport} {captures : List (Capture S)}
    (free : before.isProcessed ⟨className, method.name⟩ = false)
    (meanwhile : Weavings className before captures world.classes)
    (applied : apply className method chain report world = (result, later)) :
    Weavings className before
      (if chain.isEmpty then captures
        else captures ++ ((world.classes.entry? ⟨className, method.name⟩).map
          (Capture.since captures)).toList)
      later.classes := by
  rcases apply_cases applied with ⟨_, _, same, absent⟩ | ⟨_, installs⟩
  · -- nothing is installed, so nothing more is captured
    rw [same, ClassTable.entry?_of_refused absent, Option.map_none, Option.toList_none, List.append_nil, ite_self]
    exact meanwhile
  · cases installs with
    | mark empty marked =>
        rw [if_pos empty]
        exact .mark free meanwhile marked
    | wrap full present replaced =>
        rw [if_neg (by simp [full]), present]
        exact .wrap free meanwhile present replaced

/-- **Weaving one method** only weaves, and captures what is told. -/
theorem weavings_of_weaveMethod (only : host.OnlyWeaves spy className) {method : Method}
    {report : WeaveReport} {result : Except Refusal WeaveReport}
    (runs : weaver.weaveMethod host className method report world = some (result, later)) :
    Weavings className world.classes (weaver.methodCaptures host spy className method world)
      later.classes := by
  unfold methodCaptures
  dsimp only
  rcases weaveMethod_cases runs with
    ⟨idle, logged⟩ | ⟨busy, ⟨cause, _, built⟩ | ⟨chain, middle, built, applied⟩⟩
  · rw [if_pos idle, logged.classes]
    exact .elsewhere rfl
  · rw [if_neg (by simp [busy]), built]
    exact weavings_of_run only built
  · rw [if_neg (by simp [busy]), built]
    exact weavings_of_apply (Bool.or_eq_false_iff.mp busy).2 (weavings_of_run only built) applied

/-- **Weaving methods in order** only weaves. -/
theorem weavings_of_weaveAll (only : host.OnlyWeaves spy className) {methods : List Method}
    {report : WeaveReport} {result : Except Refusal WeaveReport}
    (runs : weaver.weaveAll host className methods report world = some (result, later)) :
    Weavings className world.classes (weaver.allCaptures host spy className methods report world)
      later.classes := by
  induction methods generalizing report world with
  | nil =>
      cases runs
      exact .elsewhere rfl
  | cons method rest ih =>
      rw [allCaptures]
      rcases weaveAll_cases runs with ⟨cause, _, woven⟩ | ⟨told, middle, woven, others⟩
      · rw [woven, List.append_nil]
        exact weavings_of_weaveMethod only woven
      · rw [woven]
        exact (weavings_of_weaveMethod only woven).next (ih others)

/-- **A weaving of a class** only weaves it, and captures what is told. -/
theorem weavings_of_weave (only : host.OnlyWeaves spy className)
    {result : Except Refusal WeaveReport}
    (runs : weaver.weave host className world = some (result, later)) :
    Weavings className world.classes (weaver.captures host spy className world)
      later.classes := by
  unfold captures
  rcases weave_cases runs with ⟨unlisted, _, rfl⟩ | ⟨methods, last, listed, all, logged⟩
  · rw [unlisted]
    exact .elsewhere rfl
  · rw [listed, logged.classes]
    exact weavings_of_weaveAll only all

end Weaver

/-! ### Weavings of a class that was defined -/

/-- A weaving whose host does nothing to the class but weave it. -/
structure NestedWeaving (S : Interface) (σ : Type) (className : String) extends
    Weaving S σ className where
  spy : Spy S σ
  only : host.OnlyWeaves spy className

namespace NestedWeaving

variable {className : String}

/-- What is captured in the weaving and in those inside it. -/
def captures (weaving : NestedWeaving S σ className) : List (Capture S) :=
  weaving.weaver.captures weaving.host weaving.spy className weaving.start

theorem weavings_of_inTurn {classes : ClassTable S}
    {weavings : List (NestedWeaving S σ className)}
    (inTurn : Weaving.InTurn classes (weavings.map toWeaving)) :
    Weavings className classes (weavings.flatMap captures)
      (Weaving.leaves classes (weavings.map toWeaving)) := by
  induction weavings generalizing classes with
  | nil => exact .elsewhere rfl
  | cons weaving rest ih =>
      obtain ⟨same, inTurn⟩ := inTurn
      have first := Weaver.weavings_of_weave weaving.only weaving.runs
      rw [List.flatMap_cons]
      exact (Weavings.elsewhere same).next (first.next (ih inTurn))

/-- How often the methods of a class have been wrapped since it was defined. -/
structure Account (definition : ClassDefinition S) (captures : List (Capture S))
    (after : ClassTable S) : Prop where
  /-- A method has as many woven bodies around its own as it was captured. -/
  methods : ∀ entry ∈ definition.entries, ∃ now,
    after.entry? ⟨definition.name, entry.name⟩ = some now ∧
      entry.Wrapped (Capture.times captures entry.name) now
  /-- A capture is of the body with as many woven bodies as there were captures before it. -/
  captured : ∀ earlier capture later, captures = earlier ++ capture :: later →
    ∃ entry ∈ definition.entries, entry.name = capture.name ∧
      entry.Wrapped (Capture.times earlier capture.name) capture.entry
  /-- The body that is captured is a woven one exactly if the method was wrapped by another weaving
  while its `info` handlers ran in this one. -/
  woven : ∀ capture ∈ captures, capture.entry.woven = true ↔ capture.disturbed = true
  /-- No method is wrapped twice exactly if that never happens. -/
  once : (∀ method, Capture.times captures method ≤ 1) ↔
    ∀ capture ∈ captures, capture.disturbed = false

/-- **How often methods are wrapped**, from the definition of a class on, in any weavings of it, one
after the other and one inside another. -/
theorem wrapped_exactly {table classes : ClassTable S} {definition : ClassDefinition S}
    (new : ∀ entry ∈ definition.entries, entry.woven = false ∧ entry.processed = false)
    (accepted : table.define definition = (.ok (), classes))
    {weavings : List (NestedWeaving S σ definition.name)}
    (inTurn : Weaving.InTurn classes (weavings.map toWeaving)) :
    Account definition (weavings.flatMap captures)
      (Weaving.leaves classes (weavings.map toWeaving)) := by
  have effect := (weavings_of_inTurn inTurn).effect
  have found : classes.find? definition.name = some definition := by
    rw [ClassTable.find?_define accepted, if_pos rfl]
  have orderly : definition.WellFormed :=
    ClassDefinition.wellFormed_of_offence? (ClassTable.define_eq_ok accepted).1 new
  have seen {earlier later : List (Capture S)} {capture : Capture S}
      (split : weavings.flatMap captures = earlier ++ capture :: later) :
      ∃ entry ∈ definition.entries, entry.name = capture.name ∧
        entry.Wrapped (Capture.times earlier capture.name) capture.entry ∧
        (capture.disturbed = true ↔ 0 < Capture.times earlier capture.name) := by
    obtain ⟨entry, present, wrapped, disturbed⟩ := effect.seen earlier capture later split
    obtain ⟨member, named⟩ := ClassTable.mem_of_entry? found present
    exact ⟨entry, member, named, wrapped, disturbed⟩
  constructor
  case methods =>
    intro entry member
    exact effect.entries entry.name entry
      (ClassTable.entry?_of_mem found orderly.distinct member)
  case captured =>
    intro earlier capture later split
    obtain ⟨entry, member, named, wrapped, _⟩ := seen split
    exact ⟨entry, member, named, wrapped⟩
  case woven =>
    intro capture member
    obtain ⟨earlier, later, split⟩ := List.append_of_mem member
    obtain ⟨entry, inside, _, wrapped, disturbed⟩ := seen split
    rw [wrapped.woven, disturbed, (new entry inside).1]
    exact or_iff_right Bool.false_ne_true
  case once =>
    constructor
    · intro once capture member
      obtain ⟨earlier, later, split⟩ := List.append_of_mem member
      obtain ⟨_, _, _, _, disturbed⟩ := seen split
      refine Bool.eq_false_iff.mpr fun again => ?_
      have before := disturbed.mp again
      have most := once capture.name
      rw [split, Capture.times_append, Capture.times_cons, if_pos rfl] at most
      omega
    · intro undisturbed method
      refine Nat.le_of_not_lt fun twice => ?_
      obtain ⟨earlier, capture, later, split, rfl, before⟩ := Capture.exists_again twice
      obtain ⟨_, _, _, _, disturbed⟩ := seen split
      have member : capture ∈ weavings.flatMap captures := by
        rw [split]
        exact List.mem_append_right _ List.mem_cons_self
      have never := undisturbed capture member
      rw [disturbed.mpr before] at never
      cases never

/-! ### A class that is woven while it is woven -/

/-- A surrounding program with one service. -/
abbrev bell : Interface := ⟨Unit, fun _ => Unit⟩

/-- A registry with an `info` handler that uses the service, and an advice function that does
nothing. -/
def booting : Registry bell where
  bindings := [("boot", ⟨"boot", .info, .info fun _ _ =>
    .ask (.service ()) fun _ => .done (.ok ())⟩)]
  functions := [⟨"stamp", .before fun _ _ => .done (.ok ())⟩]

/-- The service weaves the class, down to a depth. -/
def weavesBack : Nat → Host bell Unit
  | 0 => fun _ world => some ((), world)
  | depth + 1 => fun _ world =>
      (Weaver.weave ⟨booting, .skip⟩ (weavesBack depth) "Job" world).map fun ended =>
        ((), ended.2)

/-- What the service captures. -/
def spiesBack : Nat → Spy bell Unit
  | 0 => fun _ _ => []
  | depth + 1 => fun _ world =>
      Weaver.captures ⟨booting, .skip⟩ (weavesBack depth) (spiesBack depth) "Job" world

theorem weavesBack_only (depth : Nat) :
    (weavesBack depth).OnlyWeaves (spiesBack depth) "Job" := by
  induction depth with
  | zero =>
      intro request world reply later answered
      cases answered
      exact .elsewhere rfl
  | succ depth ih =>
      intro request world reply later answered
      obtain ⟨ended, runs, same⟩ := Option.map_eq_some_iff.mp answered
      cases same
      exact Weaver.weavings_of_weave ih runs

/-- A method that has its class woven before it is woven itself. -/
def booted : Entry bell := Weaver.documented "run" "@boot\n@before stamp"

/-- The weaving in which the service is used, and weaves once more. -/
def boot : NestedWeaving bell Unit "Job" where
  toWeaving := .begin ⟨booting, .skip⟩ (weavesBack 1) (Weaver.jobs [booted]) (by decide +kernel)
  spy := spiesBack 1
  only := weavesBack_only 1

/-- Both weavings wrap the method, one around the other. -/
theorem wrapped_exactly_boot :
    ClassTable.define {} ⟨"Job", [booted]⟩ = (.ok (), (Weaver.jobs [booted]).classes) ∧
    Weaving.InTurn (Weaver.jobs [booted]).classes ([boot].map toWeaving) ∧
    boot.captures.map (fun capture => (capture.name, capture.entry.woven, capture.disturbed)) =
      [("run", false, false), ("run", true, true)] ∧
    ∃ now, boot.finish.classes.entry? ⟨"Job", "run"⟩ = some now ∧ booted.Wrapped 2 now := by
  have new : ∀ entry ∈ [booted], entry.woven = false ∧ entry.processed = false := by
    intro entry member
    rw [List.mem_singleton.mp member]
    exact ⟨rfl, rfl⟩
  have accepted : ClassTable.define {} ⟨"Job", [booted]⟩ =
      (.ok (), (Weaver.jobs [booted]).classes) := rfl
  have inTurn : Weaving.InTurn (Weaver.jobs [booted]).classes ([boot].map toWeaving) :=
    ⟨rfl, trivial⟩
  have captured : boot.captures.map (fun capture =>
      (capture.name, capture.entry.woven, capture.disturbed)) =
        [("run", false, false), ("run", true, true)] := by decide +kernel
  have account := wrapped_exactly new accepted inTurn
  obtain ⟨now, present, wrapped⟩ := account.methods booted (List.mem_singleton_self _)
  have twice : Capture.times ([boot].flatMap captures) booted.name = 2 := by decide +kernel
  rw [twice] at wrapped
  exact ⟨accepted, inTurn, captured, now, present, wrapped⟩

end NestedWeaving

end AspectWeaver
