/-
**How errors flow through a woven call.**

A failure stops what would come after it and nothing else, and it arrives as it is. A failure of the
body or of an around handler goes to the around handler outside it, which may return it, replace it,
try again or return a value.

* `Program.Forwards` — around handlers that return the outcome of a `proceed` as it is.
* `AroundCourse`, `CallCourse` — **what a call can come to**: one case for each place where it can
  end, with the nest of around handlers as a tree.
* `course_of_records` — every call takes such a course.
* `AroundCourse.forwarded` — **an outcome goes through all handlers that forward**.
* **`body_error_flow`** — **failures stop exactly what follows, and arrive unchanged**.
-/

import AspectWeaver.Proofs.Tally

namespace AspectWeaver

variable {S : Interface}

/-! ### Stages and levels -/

/-- The stages of a call: the before handlers, the body in its around handlers, and the after
handlers. -/
inductive Stage where
  | before
  | around
  | after
  deriving DecidableEq

/-- The stage that a part of the call belongs to. -/
def Part.stage : Part → Stage
  | .before _ => .before
  | .around _ | .body => .around
  | .after _ => .after

/-- The stage that the moment is a step of, if it is a step. -/
def Moment.stage? : Moment → Option Stage
  | .beforeBegins _ _ _ | .beforeEnds _ _ => some .before
  | .aroundBegins _ _ _ | .proceeds _ | .aroundEnds _ _ | .bodyBegins _ _ | .bodyEnds _ _ =>
      some .around
  | .afterBegins _ _ _ _ | .afterEnds _ _ => some .after
  | .reads _ | .writes _ _ => none

/-- The outcome with which a level of the around stage ends in this moment. The body is level 0, and
each around handler is one level above what it is wrapped around. -/
def Moment.endsAt? : Nat → Moment → Option Outcome
  | 0, .bodyEnds outcome _ => some outcome
  | level + 1, .aroundEnds number outcome => if number = level then some outcome else none
  | _, _ => none

/-- A level of the around stage has ended with this outcome. -/
def EndedAt (level : Nat) (record : List Moment) (outcome : Outcome) : Prop :=
  ∃ moment ∈ record, moment.endsAt? level = some outcome

instance (level : Nat) (record : List Moment) (outcome : Outcome) :
    Decidable (EndedAt level record outcome) :=
  inferInstanceAs (Decidable (∃ moment ∈ record, moment.endsAt? level = some outcome))

theorem Moment.stage?_of_begins? {moment : Moment} {part : Part}
    (begins : moment.begins? = some part) : moment.stage? = some part.stage := by
  cases moment <;> cases begins <;> rfl

theorem Moment.stage?_of_endsAt? {level : Nat} {moment : Moment} {outcome : Outcome}
    (ends : moment.endsAt? level = some outcome) : moment.stage? = some .around := by
  cases level <;> cases moment <;> first | rfl | cases ends

/-- What is a step of a stage is a step. -/
theorem Moment.isStep_of_stage? {moment : Moment} {stage : Stage}
    (step : moment.stage? = some stage) : moment.isStep = true := by
  cases moment <;> first | rfl | cases step

theorem mem_stepsOf_iff {moment : Moment} {stage : Stage} (step : moment.stage? = some stage)
    {record : List Moment} : moment ∈ stepsOf record ↔ moment ∈ record := by
  rw [stepsOf, List.mem_filter, Moment.isStep_of_stage? step, and_iff_left rfl]

/-- Whatever its proceeds come to, the program of an around handler returns one of these outcomes as
it is. -/
def Program.Forwards (program : Program (Surrounding S) Outcome) : Prop :=
  ∀ outcomes outcome, program.Returns outcomes outcome → outcome ∈ outcomes

/-- Of the steps of the three stages, those of one of them. -/
def Stage.steps (first middle last : List Moment) : Stage → List Moment
  | .before => first
  | .around => middle
  | .after => last

/-- All these moments are steps of one stage. -/
def InStage (stage : Stage) (steps : List Moment) : Prop :=
  ∀ moment ∈ steps, moment.stage? = some stage

namespace InStage

variable {stage : Stage} {steps : List Moment}

/-- What belongs to another stage does not run. -/
theorem executions_eq_zero (within : InStage stage steps) {part : Part}
    (other : part.stage ≠ stage) : executions part steps = 0 := by
  refine AspectWeaver.executions_eq_zero fun moment member begins => other ?_
  have same := Moment.stage?_of_begins? begins
  rw [within moment member] at same
  exact (Option.some.inj same).symm

theorem not_mem (within : InStage stage steps) {moment : Moment} {own : Stage}
    (step : moment.stage? = some own) (other : own ≠ stage) : moment ∉ steps := by
  intro member
  have same := within moment member
  rw [step] at same
  exact other (Option.some.inj same)

end InStage

namespace WovenMethod

/-! ### Before and after handlers -/

section Courses

variable {joinPoint : JoinPoint} {position : Nat} {steps : List Moment}

/-- Handlers of one kind begin and end one after the other, from the first of these positions up to
the second. -/
inductive Consecutive (own : Nat → Part) : Nat → List Moment → Nat → Prop where
  | nil {position : Nat} : Consecutive own position [] position
  | cons {position last : Nat} {begins ends : Moment} {later : List Moment}
      (first : begins.begins? = some (own position)) (second : ends.begins? = none)
      (rest : Consecutive own (position + 1) later last) :
      Consecutive own position (begins :: ends :: later) last

theorem Consecutive.le {own : Nat → Part} {last : Nat}
    (consecutive : Consecutive own position steps last) : position ≤ last := by
  induction consecutive with
  | nil => exact Nat.le_refl _
  | cons _ _ _ ih => exact Nat.le_of_succ_le ih

/-- Each of these handlers runs once, and no other of the kind does. -/
theorem Consecutive.executions_eq {own : Nat → Part} (differ : Function.Injective own) {last : Nat}
    (consecutive : Consecutive own position steps last) (number : Nat) :
    executions (own number) steps = if position ≤ number ∧ number < last then 1 else 0 := by
  induction consecutive with
  | nil => exact (if_neg (by omega)).symm
  | @cons position last begins ends later first second rest ih =>
      have bound := rest.le
      have here : executions (own number) (begins :: ends :: later) =
          executions (own number) later + if position = number then 1 else 0 := by
        unfold executions
        rw [List.countP_cons, List.countP_cons, first, second]
        simp [differ.eq_iff]
      rw [here, ih]
      split <;> split <;> split <;> omega

namespace BeforeCourse

variable {invocations : List (Invocation (BeforeHandler S))} {begun : Except Failure Unit}

theorem inStage (course : BeforeCourse joinPoint position invocations steps begun) :
    InStage .before steps := by
  induction course with
  | done => exact List.forall_mem_nil _
  | fails => exact List.forall_mem_cons.mpr ⟨rfl, List.forall_mem_singleton.mpr rfl⟩
  | goes _ ih => exact List.forall_mem_cons.mpr ⟨rfl, List.forall_mem_cons.mpr ⟨rfl, ih⟩⟩

/-- If no before handler fails, all of them run. -/
theorem consecutive (course : BeforeCourse joinPoint position invocations steps begun)
    (begins : begun = .ok ()) :
    Consecutive .before position steps (position + invocations.length) := by
  induction course with
  | done => exact .nil
  | fails => cases begins
  | goes _ ih =>
      rw [List.length_cons, ← Nat.add_assoc, Nat.add_right_comm]
      exact .cons rfl rfl (ih begins)

/-- What ends the before handlers is what one of them has failed with. -/
theorem exists_of_error (course : BeforeCourse joinPoint position invocations steps begun)
    {failure : Failure} (fails : begun = .error failure) :
    ∃ number, .beforeEnds number (.error failure) ∈ steps := by
  induction course with
  | done => cases fails
  | @fails position =>
      cases fails
      exact ⟨position, by simp⟩
  | goes _ ih =>
      obtain ⟨number, member⟩ := ih fails
      exact ⟨number, by simp [member]⟩

/-- A before handler that fails is the last to run, and its failure ends them. -/
theorem stops (course : BeforeCourse joinPoint position invocations steps begun) {number : Nat}
    {failure : Failure} (fails : .beforeEnds number (.error failure) ∈ steps) :
    begun = .error failure ∧ Consecutive .before position steps (number + 1) := by
  induction course with
  | done => cases fails
  | fails =>
      simp only [List.mem_cons, List.not_mem_nil, Moment.beforeEnds.injEq, Except.error.injEq,
        reduceCtorEq, false_or, or_false] at fails
      obtain ⟨rfl, rfl⟩ := fails
      exact ⟨rfl, .cons rfl rfl .nil⟩
  | goes _ ih =>
      simp only [List.mem_cons, Moment.beforeEnds.injEq, reduceCtorEq, and_false, false_or]
        at fails
      obtain ⟨ends, consecutive⟩ := ih fails
      exact ⟨ends, .cons rfl rfl consecutive⟩

end BeforeCourse

namespace AfterCourse

variable {invocations : List (Invocation (AfterHandler S))} {given : Value} {outcome : Outcome}

theorem inStage (course : AfterCourse joinPoint position given invocations steps outcome) :
    InStage .after steps := by
  induction course with
  | done => exact List.forall_mem_nil _
  | fails => exact List.forall_mem_cons.mpr ⟨rfl, List.forall_mem_singleton.mpr rfl⟩
  | goes _ ih => exact List.forall_mem_cons.mpr ⟨rfl, List.forall_mem_cons.mpr ⟨rfl, ih⟩⟩

/-- An after handler that fails is the last to run, and its failure is the outcome. -/
theorem stops (course : AfterCourse joinPoint position given invocations steps outcome)
    {number : Nat} {failure : Failure} (fails : .afterEnds number (.error failure) ∈ steps) :
    outcome = .error failure ∧ Consecutive .after position steps (number + 1) := by
  induction course with
  | done => cases fails
  | fails =>
      simp only [List.mem_cons, List.not_mem_nil, Moment.afterEnds.injEq, Except.error.injEq,
        reduceCtorEq, false_or, or_false] at fails
      obtain ⟨rfl, rfl⟩ := fails
      exact ⟨rfl, .cons rfl rfl .nil⟩
  | goes _ ih =>
      simp only [List.mem_cons, Moment.afterEnds.injEq, reduceCtorEq, and_false, false_or]
        at fails
      obtain ⟨ends, consecutive⟩ := ih fails
      exact ⟨ends, .cons rfl rfl consecutive⟩

end AfterCourse

/-! ### Around handlers -/

/-- The steps of the around stage up to a level. The body begins and ends; an around handler begins,
proceeds any number of times to what it is wrapped around, and ends with something that it can
return when its proceeds come to these outcomes. -/
inductive AroundCourse (joinPoint : JoinPoint) (arounds : List (Invocation (AroundHandler S))) :
    Nat → List Moment → Outcome → Prop where
  | body {arguments left : List Value} {outcome : Outcome} :
      AroundCourse joinPoint arounds 0
        [.bodyBegins joinPoint.receiver arguments, .bodyEnds outcome left] outcome
  | handler {number : Nat} {invocation : Invocation (AroundHandler S)}
      {runs : List (List Moment × Outcome)} {outcome : Outcome}
      (here : arounds[number]? = some invocation)
      (each : ∀ run ∈ runs, AroundCourse joinPoint arounds number run.1 run.2)
      (returns : (invocation.handler joinPoint invocation.options).Returns (runs.map Prod.snd)
        outcome) :
      AroundCourse joinPoint arounds (number + 1)
        (.aroundBegins number joinPoint invocation.options ::
          (runs.flatMap (fun run => .proceeds number :: run.1) ++ [.aroundEnds number outcome]))
        outcome

/-- **Around handlers take their course**, if what they are wrapped around does. -/
theorem course_surround {arounds rest : List (Invocation (AroundHandler S))}
    {inner : Layer (Recording S) Outcome}
    (within : ∀ steps outcome, inner.Steps steps outcome →
      AroundCourse joinPoint arounds position steps outcome)
    (here : ∀ offset < rest.length, arounds[position + offset]? = rest[offset]?)
    {outcome : Outcome}
    (runs : Layer.Steps (surround joinPoint (recordFrom recordAround position rest) inner) steps
      outcome) :
    AroundCourse joinPoint arounds (position + rest.length) steps outcome := by
  induction rest generalizing position inner with
  | nil => exact within steps outcome runs
  | cons invocation rest ih =>
      have shift : position + (rest.length + 1) = position + 1 + rest.length := by omega
      rw [List.length_cons, shift]
      refine ih (fun steps outcome ran => ?_) (fun offset bound => ?_) runs
      · obtain ⟨runs, each, rfl, returns⟩ := steps_wrap ran
        exact .handler (here 0 (Nat.zero_lt_succ _))
          (fun run member => within _ _ (each run member)) returns
      · have later := here (offset + 1) (Nat.succ_lt_succ bound)
        rwa [List.getElem?_cons_succ, ← Nat.add_assoc, Nat.add_right_comm] at later

namespace AroundCourse

variable {arounds : List (Invocation (AroundHandler S))} {level : Nat} {outcome : Outcome}

/-- The steps of an around handler are its own, or steps of what it is wrapped around. -/
theorem mem_handler {number : Nat} {options : List String} {runs : List (List Moment × Outcome)}
    {moment : Moment}
    (member : moment ∈ .aroundBegins number joinPoint options ::
      (runs.flatMap (fun run => .proceeds number :: run.1) ++ [.aroundEnds number outcome])) :
    moment = .aroundBegins number joinPoint options ∨ moment = .proceeds number ∨
      moment = .aroundEnds number outcome ∨ ∃ run ∈ runs, moment ∈ run.1 := by
  rcases List.mem_cons.mp member with rfl | member
  · exact .inl rfl
  rcases List.mem_append.mp member with within | last
  · obtain ⟨run, ran, step⟩ := List.mem_flatMap.mp within
    rcases List.mem_cons.mp step with rfl | inside
    · exact .inr (.inl rfl)
    · exact .inr (.inr (.inr ⟨run, ran, inside⟩))
  · exact .inr (.inr (.inl (List.mem_singleton.mp last)))

theorem inStage (course : AroundCourse joinPoint arounds level steps outcome) :
    InStage .around steps := by
  induction course with
  | body => exact List.forall_mem_cons.mpr ⟨rfl, List.forall_mem_singleton.mpr rfl⟩
  | handler _ _ _ ih =>
      intro moment member
      rcases mem_handler member with rfl | rfl | rfl | ⟨run, ran, inside⟩
      · rfl
      · rfl
      · rfl
      · exact ih run ran moment inside

/-- No level above ends in it. -/
theorem endsAt?_above (course : AroundCourse joinPoint arounds level steps outcome) {higher : Nat}
    (above : level < higher) : ∀ moment ∈ steps, moment.endsAt? higher = none := by
  induction course with
  | body =>
      obtain ⟨lower, rfl⟩ := Nat.exists_eq_add_one_of_ne_zero (Nat.ne_of_gt above)
      exact List.forall_mem_cons.mpr ⟨rfl, List.forall_mem_singleton.mpr rfl⟩
  | handler _ _ _ ih =>
      obtain ⟨lower, rfl⟩ :=
        Nat.exists_eq_add_one_of_ne_zero (Nat.ne_of_gt (Nat.zero_lt_of_lt above))
      intro moment member
      rcases mem_handler member with rfl | rfl | rfl | ⟨run, ran, inside⟩
      · rfl
      · rfl
      · exact if_neg (by omega)
      · exact ih run ran (Nat.lt_of_succ_lt above) moment inside

/-- The level of a course ends in it once, with its outcome. -/
theorem endedAt_iff (course : AroundCourse joinPoint arounds level steps outcome)
    {ended : Outcome} : EndedAt level steps ended ↔ ended = outcome := by
  constructor
  · rintro ⟨moment, member, ends⟩
    cases course with
    | body =>
        rcases List.mem_cons.mp member with rfl | last
        · cases ends
        · rw [List.mem_singleton.mp last] at ends
          exact (Option.some.inj ends).symm
    | handler _ each _ =>
        rcases mem_handler member with rfl | rfl | rfl | ⟨run, ran, inside⟩
        · cases ends
        · cases ends
        · rw [Moment.endsAt?, if_pos rfl] at ends
          exact (Option.some.inj ends).symm
        · rw [(each run ran).endsAt?_above (Nat.lt_succ_self _) moment inside] at ends
          cases ends
  · rintro rfl
    cases course with
    | body => exact ⟨_, List.mem_cons_of_mem _ List.mem_cons_self, rfl⟩
    | @handler number invocation runs outcome =>
        exact ⟨.aroundEnds number ended, by simp, if_pos rfl⟩

/-- **An outcome goes through all handlers that forward**: if all handlers from a level on do, what
they come to is what this level has come to at some time. -/
theorem forwarded (course : AroundCourse joinPoint arounds level steps outcome) {lower : Nat}
    (bound : lower ≤ level)
    (forwards : ∀ number invocation, lower ≤ number → arounds[number]? = some invocation →
      (invocation.handler joinPoint invocation.options).Forwards) :
    EndedAt lower steps outcome := by
  induction course with
  | @body arguments left outcome =>
      obtain rfl := Nat.le_zero.mp bound
      exact ⟨.bodyEnds outcome left, by simp, rfl⟩
  | @handler number invocation runs outcome here each returns ih =>
      rcases Nat.eq_or_lt_of_le bound with rfl | below
      · exact (endedAt_iff (.handler here each returns)).mpr rfl
      have inner := Nat.le_of_lt_succ below
      -- what it returns is the outcome of a run of the level below
      obtain ⟨run, ran, rfl⟩ :=
        List.mem_map.mp (forwards number invocation inner here _ _ returns)
      obtain ⟨moment, member, ends⟩ := ih run ran inner
      refine ⟨moment, List.mem_cons_of_mem _ (List.mem_append_left _ ?_), ends⟩
      exact List.mem_flatMap.mpr ⟨run, ran, List.mem_cons_of_mem _ member⟩

end AroundCourse

end Courses

/-! ### Whole calls -/

/-- The steps of a call, stage by stage: a before handler fails; or the around stage fails; or it
comes to a value, and the after handlers go on with it. -/
inductive CallCourse (chain : Chain S) (joinPoint : JoinPoint) :
    List Moment → List Moment → List Moment → Outcome → Prop where
  | refused {first : List Moment} {failure : Failure}
      (before : BeforeCourse joinPoint 0 chain.before first (.error failure)) :
      CallCourse chain joinPoint first [] [] (.error failure)
  | failed {first middle : List Moment} {failure : Failure}
      (before : BeforeCourse joinPoint 0 chain.before first (.ok ()))
      (around : AroundCourse joinPoint chain.around chain.around.length middle (.error failure)) :
      CallCourse chain joinPoint first middle [] (.error failure)
  | returned {first middle last : List Moment} {value : Value} {outcome : Outcome}
      (before : BeforeCourse joinPoint 0 chain.before first (.ok ()))
      (around : AroundCourse joinPoint chain.around chain.around.length middle (.ok value))
      (after : AfterCourse joinPoint 0 value chain.after last outcome) :
      CallCourse chain joinPoint first middle last outcome

/-- **Every call takes its course.** -/
theorem course_of_records {woven : WovenMethod S} {receiver : Receiver}
    {passed left : List Value} {outcome : Outcome} {record : List Moment}
    (records : (woven.recorded.body receiver passed).Records record (outcome, left)) :
    ∃ first middle last, stepsOf record = first ++ (middle ++ last) ∧
      CallCourse woven.chain ⟨woven.target, receiver⟩ first middle last outcome := by
  obtain ⟨params, ran, _⟩ := records_body_iff.mp records
  rw [run_eq] at ran
  obtain ⟨first, rest, begun, rfl, begins, continues⟩ := Program.records_bind_iff.mp ran
  have before := course_runBefore begins
  rw [stepsOf_append]
  obtain ⟨begun, slots⟩ := begun
  cases begun with
  | error failure =>
      obtain ⟨rfl, same⟩ := Program.records_done_iff.mp continues
      cases same
      exact ⟨_, [], [], rfl, .refused before⟩
  | ok _ =>
      obtain ⟨middle, last, ended, rfl, surrounds, finishes⟩ :=
        Program.records_bind_iff.mp continues
      obtain ⟨stage, slots⟩ := ended
      have around : AroundCourse ⟨woven.target, receiver⟩ woven.chain.around
          (0 + woven.chain.around.length) (stepsOf middle) stage := by
        refine course_surround (fun steps outcome runs => ?_) (fun offset _ => ?_)
          ⟨_, middle, _, surrounds, rfl⟩
        · obtain ⟨arguments, left, rfl⟩ := steps_callOriginal runs
          exact .body
        · rw [Nat.zero_add]
      rw [Nat.zero_add] at around
      rw [stepsOf_append]
      cases stage with
      | error failure =>
          obtain ⟨rfl, same⟩ := Program.records_done_iff.mp finishes
          cases same
          exact ⟨_, _, [], rfl, .failed before around⟩
      | ok value => exact ⟨_, _, _, rfl, .returned before around (course_runAfter finishes)⟩

section Parts

variable {chain : Chain S} {joinPoint : JoinPoint} {first middle last record : List Moment}
  {outcome : Outcome}

theorem CallCourse.inStage (course : CallCourse chain joinPoint first middle last outcome)
    (stage : Stage) : InStage stage (stage.steps first middle last) := by
  have nothing : ∀ stage, InStage stage [] := fun stage => List.forall_mem_nil _
  cases course with
  | refused before =>
      cases stage with
      | before => exact before.inStage
      | around | after => exact nothing _
  | failed before around =>
      cases stage with
      | before => exact before.inStage
      | around => exact around.inStage
      | after => exact nothing _
  | returned before around after =>
      cases stage with
      | before => exact before.inStage
      | around => exact around.inStage
      | after => exact after.inStage

/-- What belongs to a stage runs in the steps of this stage. -/
theorem CallCourse.executions_eq (course : CallCourse chain joinPoint first middle last outcome)
    (split : stepsOf record = first ++ (middle ++ last)) (part : Part) :
    executions part record = executions part (part.stage.steps first middle last) := by
  have none (stage : Stage) (other : part.stage ≠ stage) :
      executions part (stage.steps first middle last) = 0 :=
    (course.inStage stage).executions_eq_zero other
  have before := none .before
  have around := none .around
  have after := none .after
  rw [← executions_stepsOf, split, executions_append, executions_append]
  cases stage : part.stage <;> simp_all [Stage.steps]

/-- A step of a stage stands in the steps of this stage. -/
theorem CallCourse.mem_iff (course : CallCourse chain joinPoint first middle last outcome)
    (split : stepsOf record = first ++ (middle ++ last)) {moment : Moment} {stage : Stage}
    (step : moment.stage? = some stage) :
    moment ∈ record ↔ moment ∈ stage.steps first middle last := by
  have none (other : Stage) (different : stage ≠ other) :
      moment ∉ other.steps first middle last :=
    (course.inStage other).not_mem step different
  have before := none .before
  have around := none .around
  have after := none .after
  rw [← mem_stepsOf_iff step, split, List.mem_append, List.mem_append]
  cases stage <;> simp_all [Stage.steps]

theorem CallCourse.endedAt_iff (course : CallCourse chain joinPoint first middle last outcome)
    (split : stepsOf record = first ++ (middle ++ last)) {level : Nat} {ended : Outcome} :
    EndedAt level record ended ↔ EndedAt level middle ended :=
  exists_congr fun _ => and_congr_left fun ends =>
    course.mem_iff split (Moment.stage?_of_endsAt? ends)

end Parts

/-! ### The flow of errors -/

/-- The after handlers run on a value, as they do when the around stage has returned it. -/
def AfterRuns (chain : Chain S) (joinPoint : JoinPoint) (record : List Moment) (value : Value)
    (outcome : Outcome) : Prop :=
  ∃ earlier later, stepsOf record = earlier ++ later ∧
    (∀ number, executions (.after number) earlier = 0) ∧
    AfterCourse joinPoint 0 value chain.after later outcome

/-- All around handlers from a level on forward. -/
def ForwardsFrom (chain : Chain S) (joinPoint : JoinPoint) (level : Nat) : Prop :=
  ∀ number invocation, level ≤ number → chain.around[number]? = some invocation →
    (invocation.handler joinPoint invocation.options).Forwards

/-- How errors flow through a call that has left this record and has come to this outcome. The
around stage is what its outermost level comes to: the last around handler, or the body if there is
no around handler. -/
structure ErrorFlow (chain : Chain S) (joinPoint : JoinPoint) (record : List Moment)
    (outcome : Outcome) : Prop where
  /-- If a before handler fails, nothing runs but the before handlers up to it, and the call fails
  with its failure. -/
  before {number : Nat} {failure : Failure}
    (fails : .beforeEnds number (.error failure) ∈ record) :
    outcome = .error failure ∧
      (∀ earlier ≤ number, executions (.before earlier) record = 1) ∧
      ∀ part, (∀ earlier ≤ number, part ≠ .before earlier) → executions part record = 0
  /-- If none fails, the around stage is run, and it is run once. -/
  reached (begins : ∀ number failure, .beforeEnds number (.error failure) ∉ record) :
    ∃! ended, EndedAt chain.around.length record ended
  /-- If the around stage fails, no after handler runs, and the call fails with its failure. -/
  stage {failure : Failure} (fails : EndedAt chain.around.length record (.error failure)) :
    outcome = .error failure ∧
      (∀ number < chain.before.length, executions (.before number) record = 1) ∧
      ∀ number, executions (.after number) record = 0
  /-- What handlers forward arrives as it is. If all do, it is what the body has come to. -/
  forwarded {level : Nat} (inside : level ≤ chain.around.length)
    (forwards : ForwardsFrom chain joinPoint level) {ended : Outcome}
    (stage : EndedAt chain.around.length record ended) : EndedAt level record ended
  /-- If the around stage returns a value, the after handlers run on it, whatever has failed
  inside. -/
  returned {value : Value} (returns : EndedAt chain.around.length record (.ok value)) :
    AfterRuns chain joinPoint record value outcome
  /-- So it is if an inner handler catches what has failed inside and always returns a value, and
  the handlers outside it forward. -/
  caught {level : Nat} (inside : level ≤ chain.around.length)
    (begins : ∀ number failure, .beforeEnds number (.error failure) ∉ record)
    (forwards : ForwardsFrom chain joinPoint level) {value : Value}
    (returns : ∀ ended, EndedAt level record ended → ended = .ok value) :
    AfterRuns chain joinPoint record value outcome
  /-- If an after handler fails, no later one runs, and the call fails with its failure. -/
  after {number : Nat} {failure : Failure}
    (fails : .afterEnds number (.error failure) ∈ record) :
    outcome = .error failure ∧
      (∀ earlier ≤ number, executions (.after earlier) record = 1) ∧
      ∀ later > number, executions (.after later) record = 0

namespace CallCourse

variable {chain : Chain S} {joinPoint : JoinPoint} {first middle last record : List Moment}
  {outcome : Outcome}

/-- A before handler that fails is the last to run, and its failure ends the call. -/
theorem before (course : CallCourse chain joinPoint first middle last outcome)
    (split : stepsOf record = first ++ (middle ++ last)) {number : Nat} {failure : Failure}
    (fails : .beforeEnds number (.error failure) ∈ record) :
    outcome = .error failure ∧
      (∀ earlier ≤ number, executions (.before earlier) record = 1) ∧
      ∀ part, (∀ earlier ≤ number, part ≠ .before earlier) → executions part record = 0 := by
  have stands := (course.mem_iff split rfl).mp fails
  cases course with
  | failed before => cases (before.stops stands).1
  | returned before => cases (before.stops stands).1
  | refused before =>
      have course : CallCourse chain joinPoint first [] [] _ := .refused before
      obtain ⟨same, consecutive⟩ := before.stops stands
      have each := consecutive.executions_eq fun _ _ => Part.before.inj
      cases same
      refine ⟨rfl, fun earlier bound => ?_, fun part other => ?_⟩
      · rw [course.executions_eq split]
        exact (each earlier).trans (if_pos ⟨Nat.zero_le _, Nat.lt_succ_of_le bound⟩)
      · rw [course.executions_eq split]
        cases part with
        | before earlier =>
            exact (each earlier).trans
              (if_neg fun within => other _ (Nat.le_of_lt_succ within.2) rfl)
        | around | body | after => rfl

/-- If no before handler fails, the around stage comes to one outcome. -/
theorem reached (course : CallCourse chain joinPoint first middle last outcome)
    (split : stepsOf record = first ++ (middle ++ last))
    (begins : ∀ number failure, .beforeEnds number (.error failure) ∉ record) :
    ∃! ended, EndedAt chain.around.length record ended := by
  simp only [course.endedAt_iff split]
  cases course with
  | refused before =>
      obtain ⟨number, fails⟩ := before.exists_of_error rfl
      have course : CallCourse chain joinPoint first [] [] _ := .refused before
      exact absurd ((course.mem_iff split rfl).mpr fails) (begins number _)
  | failed _ around => exact ⟨_, around.endedAt_iff.mpr rfl, fun _ => around.endedAt_iff.mp⟩
  | returned _ around => exact ⟨_, around.endedAt_iff.mpr rfl, fun _ => around.endedAt_iff.mp⟩

/-- If the around stage fails, its failure ends the call, and no after handler runs. -/
theorem stage (course : CallCourse chain joinPoint first middle last outcome)
    (split : stepsOf record = first ++ (middle ++ last)) {failure : Failure}
    (fails : EndedAt chain.around.length record (.error failure)) :
    outcome = .error failure ∧
      (∀ number < chain.before.length, executions (.before number) record = 1) ∧
      ∀ number, executions (.after number) record = 0 := by
  have ended := (course.endedAt_iff split).mp fails
  cases course with
  | refused => exact absurd ended (by rintro ⟨_, member, _⟩; cases member)
  | returned _ around => cases around.endedAt_iff.mp ended
  | failed before around =>
      have course : CallCourse chain joinPoint first middle [] _ := .failed before around
      cases around.endedAt_iff.mp ended
      refine ⟨rfl, fun number bound => ?_, fun number => ?_⟩
      · rw [course.executions_eq split]
        refine ((before.consecutive rfl).executions_eq (fun _ _ => Part.before.inj) number).trans ?_
        exact if_pos ⟨Nat.zero_le _, by omega⟩
      · rw [course.executions_eq split]
        rfl

/-- What handlers forward arrives. -/
theorem forwarded (course : CallCourse chain joinPoint first middle last outcome)
    (split : stepsOf record = first ++ (middle ++ last)) {level : Nat}
    (inside : level ≤ chain.around.length) (forwards : ForwardsFrom chain joinPoint level)
    {ended : Outcome} (stage : EndedAt chain.around.length record ended) :
    EndedAt level record ended := by
  rw [course.endedAt_iff split] at stage ⊢
  cases course with
  | refused => exact absurd stage (by rintro ⟨_, member, _⟩; cases member)
  | failed _ around =>
      cases around.endedAt_iff.mp stage
      exact around.forwarded inside forwards
  | returned _ around =>
      cases around.endedAt_iff.mp stage
      exact around.forwarded inside forwards

/-- If the around stage returns a value, the after handlers run on it. -/
theorem returns (course : CallCourse chain joinPoint first middle last outcome)
    (split : stepsOf record = first ++ (middle ++ last)) {value : Value}
    (returns : EndedAt chain.around.length record (.ok value)) :
    AfterRuns chain joinPoint record value outcome := by
  have ended := (course.endedAt_iff split).mp returns
  cases course with
  | refused => exact absurd ended (by rintro ⟨_, member, _⟩; cases member)
  | failed _ around => cases around.endedAt_iff.mp ended
  | returned before around after =>
      cases around.endedAt_iff.mp ended
      refine ⟨first ++ middle, last, ?_, fun number => ?_, after⟩
      · rw [split, List.append_assoc]
      · rw [executions_append, before.inStage.executions_eq_zero (by simp [Part.stage]),
          around.inStage.executions_eq_zero (by simp [Part.stage])]

/-- An after handler that fails is the last to run, and its failure ends the call. -/
theorem after (course : CallCourse chain joinPoint first middle last outcome)
    (split : stepsOf record = first ++ (middle ++ last)) {number : Nat} {failure : Failure}
    (fails : .afterEnds number (.error failure) ∈ record) :
    outcome = .error failure ∧
      (∀ earlier ≤ number, executions (.after earlier) record = 1) ∧
      ∀ later > number, executions (.after later) record = 0 := by
  have stands := (course.mem_iff split rfl).mp fails
  have counts (number : Nat) :
      executions (.after number) record = executions (.after number) last :=
    course.executions_eq split (.after number)
  cases course with
  | refused => cases stands
  | failed => cases stands
  | returned _ _ after =>
      obtain ⟨same, consecutive⟩ := after.stops stands
      have each := consecutive.executions_eq fun _ _ => Part.after.inj
      refine ⟨same, fun earlier bound => ?_, fun later beyond => ?_⟩
      · rw [counts, each, if_pos ⟨Nat.zero_le _, Nat.lt_succ_of_le bound⟩]
      · rw [counts, each, if_neg fun within => Nat.not_lt_of_le beyond within.2]

/-- **In the course of a call errors flow so.** -/
theorem errorFlow (course : CallCourse chain joinPoint first middle last outcome)
    (split : stepsOf record = first ++ (middle ++ last)) :
    ErrorFlow chain joinPoint record outcome where
  before := course.before split
  reached := course.reached split
  stage := course.stage split
  forwarded := course.forwarded split
  returned := course.returns split
  caught inside begins forwards _ returns := by
    obtain ⟨ended, stage, _⟩ := course.reached split begins
    obtain rfl := returns ended (course.forwarded split inside forwards stage)
    exact course.returns split stage
  after := course.after split

end CallCourse

/-- **Failures stop exactly what follows, and arrive unchanged.** A call that ends has a record, and
in the record errors flow as is told for the before handlers, the around stage and the after
handlers. -/
theorem body_error_flow (woven : WovenMethod S) (receiver : Receiver) (passed : List Value) :
    (woven.recorded.body receiver passed).forget = woven.body receiver passed ∧
    (∀ history result, (woven.body receiver passed).Ends history result →
      ∃ record, (woven.recorded.body receiver passed).Records record result) ∧
    ∀ record outcome left, (woven.recorded.body receiver passed).Records record (outcome, left) →
      ErrorFlow woven.chain ⟨woven.target, receiver⟩ record outcome := by
  refine ⟨woven.forget_body receiver passed, fun _ _ => exists_records_body,
    fun record outcome left records => ?_⟩
  obtain ⟨first, middle, last, split, course⟩ := course_of_records records
  exact course.errorFlow split

/-! ### A failure that is caught -/

/-- A handler that proceeds and returns what comes of it forwards. -/
theorem forwards_proceed : Program.Forwards (Surrounding.proceed : Program (Surrounding S) _) := by
  rintro outcomes outcome ⟨history, ends, rfl⟩
  obtain ⟨reply, later, rfl, rest⟩ := Program.ends_ask_iff.mp ends
  obtain ⟨rfl, rfl⟩ := Program.ends_done_iff.mp rest
  exact List.mem_singleton_self outcome

/-- A handler that proceeds and returns a value if that fails. -/
def recover (value : Value) : AroundHandler Interface.idle := fun _ _ =>
  Surrounding.proceed.bind fun outcome =>
    match outcome with
    | .error _ => .done (.ok value)
    | .ok returned => .done (.ok returned)

/-- A method whose body fails. Of its three around handlers the one in the middle recovers, and of
its three after handlers the one in the middle fails. -/
def recovering : WovenMethod Interface.idle where
  className := "Account"
  method := { name := "close", isStatic := true }
  chain :=
    { before := [⟨"before", fun _ _ => .done (.ok ()), []⟩]
      around := [⟨"around", fun _ _ => Surrounding.proceed, []⟩, ⟨"around", recover (.int 7), []⟩,
        ⟨"around", fun _ _ => Surrounding.proceed, []⟩]
      after := [⟨"after", fun _ _ given => .done (.ok given), []⟩,
        ⟨"after", fun _ _ _ => .done (.error (.raised "late" none)), []⟩,
        ⟨"after", fun _ _ given => .done (.ok given), []⟩] }
  original := fun _ arguments => .done (.error (.raised "lost" none), arguments)

/-- The failure of the body comes as far as to the handler that recovers; the after handlers run on
its value, up to the one that fails, and the call fails with that. -/
theorem body_error_flow_recovering :
    ∃ record,
      (recovering.recorded.body .static []).Records record (.error (.raised "late" none), []) ∧
      EndedAt 0 record (.error (.raised "lost" none)) ∧
      EndedAt 1 record (.error (.raised "lost" none)) ∧
      ForwardsFrom recovering.chain ⟨recovering.target, .static⟩ 2 ∧
      EndedAt 2 record (.ok (.int 7)) ∧
      AfterRuns recovering.chain ⟨recovering.target, .static⟩ record (.int 7)
        (.error (.raised "late" none)) ∧
      executions (.after 1) record = 1 ∧ executions (.after 2) record = 0 := by
  let call := recovering.recorded.body .static []
  have records : call.Records call.replay.1 (.error (.raised "late" none), []) :=
    call.records_replay
  have flow := (body_error_flow recovering .static []).2.2 _ _ _ records
  have forwards : ForwardsFrom recovering.chain ⟨recovering.target, .static⟩ 2 := by
    intro number invocation bound here
    obtain ⟨inside, same⟩ := List.getElem?_eq_some_iff.mp here
    obtain rfl : number = 2 := Nat.le_antisymm (Nat.le_of_lt_succ inside) bound
    rw [← same]
    exact forwards_proceed
  have returns : EndedAt recovering.chain.around.length call.replay.1 (.ok (.int 7)) := by
    decide +kernel
  have fails : .afterEnds 1 (.error (.raised "late" none)) ∈ call.replay.1 := by
    exact List.mem_of_getElem? (i := 16) rfl
  obtain ⟨_, runs, stops⟩ := flow.after fails
  exact ⟨_, records, by decide +kernel, by decide +kernel, forwards,
    flow.forwarded (by decide) forwards returns, flow.returned returns,
    runs 1 (Nat.le_refl _), stops 2 (Nat.lt_succ_self _)⟩

end WovenMethod

end AspectWeaver
