/-
**The schedule of a woven call, read off its record.**

The steps of a call are the moments at which handlers and the body begin, proceed and end. If
nothing fails and each around handler proceeds once, a call has only one order of steps.

* `BeforeCourse`, `AfterCourse` — how the handlers around a call can go: one after the other, up to
  the first that fails.
* `steps_withProceed` — an around handler's own steps are its proceeds, each followed by the steps
  of what it proceeds to.
* `steps_surround` — **around handlers nest**: they are entered from the last to the first and left
  from the first to the last.
* `scheduled_of_records` — **a call goes by its schedule**, and its outcome is the last result.
-/

import AspectWeaver.Proofs.Record

namespace AspectWeaver

variable {S : Interface} {α : Type}

/-! ### Steps -/

/-- Whether a moment is a step of the call: all but what concerns parameters. -/
def Moment.isStep : Moment → Bool
  | .reads _ => false
  | .writes _ _ => false
  | _ => true

/-- Whether the moment is a failure of a handler or of the body. -/
def Moment.isFailure : Moment → Bool
  | .beforeEnds _ (.error _) => true
  | .aroundEnds _ (.error _) => true
  | .afterEnds _ (.error _) => true
  | .bodyEnds (.error _) _ => true
  | _ => false

/-- Whether in this moment the around handler of a number proceeds. -/
def Moment.isProceedOf (position : Nat) : Moment → Bool
  | .proceeds here => here == position
  | _ => false

/-- The number of the around handler that begins, proceeds or ends in this moment, if one does. -/
def Moment.around? : Moment → Option Nat
  | .aroundBegins number _ _ => some number
  | .proceeds number => some number
  | .aroundEnds number _ => some number
  | _ => none

/-- The moment is one of the around handlers from a number on. -/
def Moment.FromOn (position : Nat) (moment : Moment) : Prop :=
  ∃ number, moment.around? = some number ∧ position ≤ number

/-- The steps of a record. -/
def stepsOf (record : List Moment) : List Moment := record.filter Moment.isStep

/-- Neither a handler nor the body fails. -/
def Flawless (record : List Moment) : Prop := ∀ moment ∈ record, moment.isFailure = false

instance (record : List Moment) : Decidable (Flawless record) :=
  inferInstanceAs (Decidable (∀ moment ∈ record, moment.isFailure = false))

/-- How often the around handler of a number proceeds. -/
def proceedsOf (position : Nat) (record : List Moment) : Nat :=
  record.countP (Moment.isProceedOf position)

theorem Moment.FromOn.earlier {position : Nat} {moment : Moment}
    (later : moment.FromOn (position + 1)) : moment.FromOn position := by
  obtain ⟨number, own, bound⟩ := later
  exact ⟨number, own, Nat.le_of_succ_le bound⟩

/-- To proceed is a moment of an around handler. -/
theorem Moment.fromOn_of_isProceedOf {position number : Nat} {moment : Moment}
    (proceeds : moment.isProceedOf number = true) (from_here : position ≤ number) :
    moment.FromOn position := by
  cases moment with
  | proceeds here => exact ⟨here, rfl, by rwa [eq_of_beq proceeds]⟩
  | _ => cases proceeds

theorem stepsOf_append (first second : List Moment) :
    stepsOf (first ++ second) = stepsOf first ++ stepsOf second :=
  List.filter_append first second

theorem Flawless.stepsOf {record : List Moment} (flawless : Flawless record) :
    Flawless (stepsOf record) :=
  fun moment member => flawless moment (List.mem_filter.mp member).1

theorem flawless_append_iff {first second : List Moment} :
    Flawless (first ++ second) ↔ Flawless first ∧ Flawless second :=
  List.forall_mem_append

theorem proceedsOf_append (position : Nat) (first second : List Moment) :
    proceedsOf position (first ++ second) =
      proceedsOf position first + proceedsOf position second :=
  List.countP_append

/-- To proceed is a step. -/
theorem proceedsOf_stepsOf (position : Nat) (record : List Moment) :
    proceedsOf position (stepsOf record) = proceedsOf position record := by
  rw [proceedsOf, stepsOf, List.countP_filter]
  refine List.countP_congr fun moment _ => ?_
  cases moment <;> simp [Moment.isProceedOf, Moment.isStep]

/-! ### Handlers -/

/-- These are the steps of a layer when it ends with this result, from some parameters on. -/
def Layer.Steps (layer : Layer (Recording S) α) (steps : List Moment) (result : α) : Prop :=
  ∃ params record left, (layer params).Records record (result, left) ∧ stepsOf record = steps

/-- In a before or after handler there are no steps. -/
theorem steps_withParameters {program : Program (Advising S) α} {params : Parameters}
    {record : List Moment} {ended : α × Parameters}
    (records : (program.recordedAdvice.withParameters params).Records record ended) :
    stepsOf record = [] := by
  induction program generalizing params record with
  | done result =>
      obtain ⟨rfl, _⟩ := Program.records_done_iff.mp records
      rfl
  | ask request resume ih =>
      match request with
      | .host request =>
          rw [Program.recordedAdvice_host] at records
          obtain ⟨first, second, reply, rfl, asked, rest⟩ := Program.records_bind_iff.mp records
          rw [Program.records_request request asked]
          exact ih reply rest
      | .read =>
          rw [Program.recordedAdvice_read] at records
          obtain ⟨later, rfl, rest⟩ := Program.records_noting_iff.mp records
          have steps := ih params rest
          exact steps
      | .write name value =>
          rw [Program.recordedAdvice_write] at records
          obtain ⟨later, rfl, rest⟩ := Program.records_noting_iff.mp records
          have steps := ih _ rest
          exact steps

/-- The steps of a handler that notes its beginning and its end are these two. -/
theorem steps_noting {begins : Moment} {ends : α → Moment} (step : begins.isStep = true)
    (steps : ∀ result, (ends result).isStep = true) {program : Program (Advising S) α}
    {params : Parameters} {record : List Moment} {ended : α × Parameters}
    (records : (Program.noting begins ((program.recordedAdvice.withParameters params).bind
      fun ended => .noting (ends ended.1) (.done ended))).Records record ended) :
    stepsOf record = [begins, ends ended.1] := by
  obtain ⟨within, rfl, handled⟩ := Program.records_between records
  have silent : within.filter Moment.isStep = [] := steps_withParameters handled
  rw [stepsOf, List.filter_cons_of_pos step, List.filter_append, silent,
    List.filter_cons_of_pos (steps ended.1)]
  rfl

/-- The outcome of what is proceeded to in this exchange, if it is a proceed. -/
def proceeded? : Exchange (Surrounding S) → Option Outcome
  | ⟨.proceed, outcome⟩ => some outcome
  | _ => none

/-- If its proceeds come to these outcomes, in order, the program of an around handler can come to
this result. -/
def Program.Returns (program : Program (Surrounding S) α) (outcomes : List Outcome) (result : α) :
    Prop :=
  ∃ history, program.Ends history result ∧ history.filterMap proceeded? = outcomes

/-- In an around handler the steps are its proceeds, each followed by those of what it proceeds
to, and its result is one that it can come to with their outcomes. -/
theorem steps_withProceed {position : Nat} {inner : Layer (Recording S) Outcome}
    {program : Program (Surrounding S) α} {params : Parameters} {record : List Moment}
    {ended : α × Parameters}
    (records : ((program.recordedAround position).withProceed inner params).Records record ended) :
    ∃ runs : List (List Moment × Outcome), (∀ run ∈ runs, inner.Steps run.1 run.2) ∧
      stepsOf record = (runs.flatMap fun run => .proceeds position :: run.1) ∧
      program.Returns (runs.map Prod.snd) ended.1 := by
  induction program generalizing params record with
  | done result =>
      obtain ⟨rfl, rfl⟩ := Program.records_done_iff.mp records
      exact ⟨[], List.forall_mem_nil _, rfl, [], .done result, rfl⟩
  | ask request resume ih =>
      match request with
      | .advice (.host request) =>
          rw [Program.recordedAround_host] at records
          obtain ⟨first, second, reply, rfl, asked, rest⟩ := Program.records_bind_iff.mp records
          rw [Program.records_request request asked]
          obtain ⟨runs, each, steps, history, ends, outcomes⟩ := ih reply rest
          exact ⟨runs, each, steps, _, .ask reply ends, outcomes⟩
      | .advice .read =>
          rw [Program.recordedAround_read] at records
          obtain ⟨later, rfl, rest⟩ := Program.records_noting_iff.mp records
          obtain ⟨runs, each, steps, history, ends, outcomes⟩ := ih params rest
          exact ⟨runs, each, steps, _, .ask params ends, outcomes⟩
      | .advice (.write name value) =>
          rw [Program.recordedAround_write] at records
          obtain ⟨later, rfl, rest⟩ := Program.records_noting_iff.mp records
          obtain ⟨runs, each, steps, history, ends, outcomes⟩ := ih _ rest
          exact ⟨runs, each, steps, _, .ask _ ends, outcomes⟩
      | .proceed =>
          rw [Program.recordedAround_proceed] at records
          obtain ⟨later, rfl, rest⟩ := Program.records_noting_iff.mp records
          obtain ⟨first, second, middle, rfl, ran, rest⟩ := Program.records_bind_iff.mp rest
          obtain ⟨runs, each, steps, history, ends, outcomes⟩ := ih middle.1 rest
          refine ⟨(stepsOf first, middle.1) :: runs, ?_, ?_, _, .ask middle.1 ends, ?_⟩
          · exact List.forall_mem_cons.mpr ⟨⟨params, first, middle.2, ran, rfl⟩, each⟩
          · show stepsOf (_ :: (first ++ second)) = _
            rw [List.flatMap_cons, ← steps]
            exact congrArg (List.cons _) (stepsOf_append first second)
          · exact congrArg (List.cons middle.1) outcomes

namespace WovenMethod

/-! ### Layers -/

section Layers

variable {joinPoint : JoinPoint}

/-- The steps of one before handler. -/
def beforeSteps (joinPoint : JoinPoint) (invocation : Invocation (BeforeHandler S) × Nat) :
    List Moment :=
  [.beforeBegins invocation.2 joinPoint invocation.1.options, .beforeEnds invocation.2 (.ok ())]

/-- The steps in which one around handler is entered. -/
def enteringSteps (joinPoint : JoinPoint) (invocation : Invocation (AroundHandler S) × Nat) :
    List Moment :=
  [.aroundBegins invocation.2 joinPoint invocation.1.options, .proceeds invocation.2]

/-- The step in which one around handler is left, with what it returns. -/
def leavingStep (returned : Value × Nat) : Moment := .aroundEnds returned.2 (.ok returned.1)

/-- The steps of after handlers, each of which gets the result of the one before it. -/
def afterSteps (joinPoint : JoinPoint) :
    Nat → Value → List (Invocation (AfterHandler S)) → List Value → List Moment
  | position, given, invocation :: rest, result :: results =>
      .afterBegins position joinPoint invocation.options given ::
        .afterEnds position (.ok result) :: afterSteps joinPoint (position + 1) result rest results
  | _, _, _, _ => []

/-- The steps of before handlers from a number on: each begins and ends, up to the first that
fails. -/
inductive BeforeCourse (joinPoint : JoinPoint) :
    Nat → List (Invocation (BeforeHandler S)) → List Moment → Except Failure Unit → Prop where
  | done {position : Nat} : BeforeCourse joinPoint position [] [] (.ok ())
  | fails {position : Nat} {invocation : Invocation (BeforeHandler S)}
      {rest : List (Invocation (BeforeHandler S))} {failure : Failure} :
      BeforeCourse joinPoint position (invocation :: rest)
        [.beforeBegins position joinPoint invocation.options,
          .beforeEnds position (.error failure)] (.error failure)
  | goes {position : Nat} {invocation : Invocation (BeforeHandler S)}
      {rest : List (Invocation (BeforeHandler S))} {steps : List Moment}
      {begun : Except Failure Unit}
      (later : BeforeCourse joinPoint (position + 1) rest steps begun) :
      BeforeCourse joinPoint position (invocation :: rest)
        (.beforeBegins position joinPoint invocation.options ::
          .beforeEnds position (.ok ()) :: steps) begun

/-- The steps of after handlers from a number on: each begins with the result of the one before and
ends, up to the first that fails. -/
inductive AfterCourse (joinPoint : JoinPoint) :
    Nat → Value → List (Invocation (AfterHandler S)) → List Moment → Outcome → Prop where
  | done {position : Nat} {given : Value} : AfterCourse joinPoint position given [] [] (.ok given)
  | fails {position : Nat} {given : Value} {invocation : Invocation (AfterHandler S)}
      {rest : List (Invocation (AfterHandler S))} {failure : Failure} :
      AfterCourse joinPoint position given (invocation :: rest)
        [.afterBegins position joinPoint invocation.options given,
          .afterEnds position (.error failure)] (.error failure)
  | goes {position : Nat} {given result : Value} {invocation : Invocation (AfterHandler S)}
      {rest : List (Invocation (AfterHandler S))} {steps : List Moment} {outcome : Outcome}
      (later : AfterCourse joinPoint (position + 1) result rest steps outcome) :
      AfterCourse joinPoint position given (invocation :: rest)
        (.afterBegins position joinPoint invocation.options given ::
          .afterEnds position (.ok result) :: steps) outcome

/-- **Before handlers go in order, up to the first that fails.** -/
theorem course_runBefore {invocations : List (Invocation (BeforeHandler S))} {position : Nat}
    {params : Parameters} {record : List Moment} {begun : Except Failure Unit × Parameters}
    (records : (runBefore joinPoint (recordFrom recordBefore position invocations) params).Records
      record begun) : BeforeCourse joinPoint position invocations (stepsOf record) begun.1 := by
  induction invocations generalizing position params record with
  | nil =>
      obtain ⟨rfl, rfl⟩ := Program.records_done_iff.mp records
      exact .done
  | cons invocation rest ih =>
      rw [recordFrom, runBefore_cons, recordBefore_withParameters] at records
      obtain ⟨first, later, ended, rfl, ran, continues⟩ := Program.records_bind_iff.mp records
      have steps : stepsOf first = _ := steps_noting rfl (fun _ => rfl) ran
      rw [stepsOf_append, steps]
      obtain ⟨ended, params⟩ := ended
      cases ended with
      | error failure =>
          obtain ⟨rfl, rfl⟩ := Program.records_done_iff.mp continues
          exact .fails
      | ok _ => exact .goes (ih continues)

/-- **After handlers go in order, up to the first that fails.** -/
theorem course_runAfter {invocations : List (Invocation (AfterHandler S))} {position : Nat}
    {given : Value} {params : Parameters} {record : List Moment} {ended : Outcome × Parameters}
    (records : (runAfter joinPoint (recordFrom recordAfter position invocations) given
      params).Records record ended) :
    AfterCourse joinPoint position given invocations (stepsOf record) ended.1 := by
  induction invocations generalizing position given params record with
  | nil =>
      obtain ⟨rfl, rfl⟩ := Program.records_done_iff.mp records
      exact .done
  | cons invocation rest ih =>
      rw [recordFrom, runAfter_cons, recordAfter_withParameters] at records
      obtain ⟨first, later, outcome, rfl, ran, continues⟩ := Program.records_bind_iff.mp records
      have steps : stepsOf first = _ := steps_noting rfl (fun _ => rfl) ran
      rw [stepsOf_append, steps]
      obtain ⟨outcome, params⟩ := outcome
      cases outcome with
      | error failure =>
          obtain ⟨rfl, rfl⟩ := Program.records_done_iff.mp continues
          exact .fails
      | ok next => exact .goes (ih continues)

/-- If no before handler fails, all of them run. -/
theorem BeforeCourse.complete {position : Nat} {invocations : List (Invocation (BeforeHandler S))}
    {steps : List Moment} {begun : Except Failure Unit}
    (course : BeforeCourse joinPoint position invocations steps begun) (flawless : Flawless steps) :
    begun = .ok () ∧ steps = (invocations.zipIdx position).flatMap (beforeSteps joinPoint) := by
  induction course with
  | done => exact ⟨rfl, rfl⟩
  | @fails position invocation rest failure =>
      cases flawless (.beforeEnds position (.error failure)) (by simp)
  | goes _ ih =>
      obtain ⟨begins, rfl⟩ := ih fun moment member => flawless moment (by simp [member])
      refine ⟨begins, ?_⟩
      rw [List.zipIdx_cons, List.flatMap_cons]
      rfl

/-- If no after handler fails, all of them run. -/
theorem AfterCourse.complete {position : Nat} {given : Value}
    {invocations : List (Invocation (AfterHandler S))} {steps : List Moment} {outcome : Outcome}
    (course : AfterCourse joinPoint position given invocations steps outcome)
    (flawless : Flawless steps) :
    ∃ results : List Value, results.length = invocations.length ∧
      outcome = .ok (results.getLastD given) ∧
      steps = afterSteps joinPoint position given invocations results := by
  induction course with
  | done => exact ⟨[], rfl, rfl, rfl⟩
  | @fails position given invocation rest failure =>
      cases flawless (.afterEnds position (.error failure)) (by simp)
  | @goes position given result invocation rest steps outcome _ ih =>
      obtain ⟨results, complete, last, rfl⟩ :=
        ih fun moment member => flawless moment (by simp [member])
      refine ⟨result :: results, congrArg (· + 1) complete, ?_, rfl⟩
      rw [last, List.getLastD_cons]

/-- The steps of the original body are its beginning and its end. -/
theorem steps_callOriginal {original : Body S} {receiver : Receiver} {passed : List Value}
    {steps : List Moment} {outcome : Outcome}
    (runs : Layer.Steps (callOriginal (recordBody original) receiver passed) steps outcome) :
    ∃ arguments left, steps = [.bodyBegins receiver arguments, .bodyEnds outcome left] := by
  obtain ⟨params, record, absorbed, records, rfl⟩ := runs
  rw [callOriginal_eq, recordBody_eq] at records
  obtain ⟨first, second, ended, rfl, ran, absorbs⟩ := Program.records_bind_iff.mp records
  obtain ⟨rfl, same⟩ := Program.records_done_iff.mp absorbs
  obtain ⟨within, rfl, handled⟩ := Program.records_between ran
  cases same
  rw [Program.records_unrecorded handled]
  exact ⟨params.overlay passed, ended.2, rfl⟩

/-- The steps of a layer in an around handler. -/
theorem steps_wrap {inner : Layer (Recording S) Outcome} {position : Nat}
    {invocation : Invocation (AroundHandler S)} {steps : List Moment} {outcome : Outcome}
    (runs : Layer.Steps (wrap joinPoint inner
      { invocation with handler := recordAround position invocation.handler }) steps outcome) :
    ∃ runs : List (List Moment × Outcome), (∀ run ∈ runs, inner.Steps run.1 run.2) ∧
      steps = .aroundBegins position joinPoint invocation.options ::
        (runs.flatMap (fun run => .proceeds position :: run.1) ++
          [.aroundEnds position outcome]) ∧
      (invocation.handler joinPoint invocation.options).Returns (runs.map Prod.snd) outcome := by
  obtain ⟨params, record, left, records, rfl⟩ := runs
  rw [wrap, recordAround_withProceed] at records
  obtain ⟨within, rfl, handled⟩ := Program.records_between records
  obtain ⟨runs, each, steps, returns⟩ := steps_withProceed handled
  refine ⟨runs, each, ?_, returns⟩
  rw [← steps]
  exact congrArg (List.cons _) (stepsOf_append within _)

/-! ### Around handlers that proceed once -/

/-- A layer in which no around handler from a number on has a part, and which returns a value if
nothing fails in it. -/
structure Settled (position : Nat) (layer : Layer (Recording S) Outcome) : Prop where
  below {steps : List Moment} {outcome : Outcome} (runs : layer.Steps steps outcome) :
    ∀ moment ∈ steps, ¬ moment.FromOn position
  returns {steps : List Moment} {outcome : Outcome} (runs : layer.Steps steps outcome)
    (flawless : Flawless steps) : ∃ value, outcome = .ok value

/-- In such a layer none of these handlers proceeds. -/
theorem Settled.proceedsOf_eq_zero {position later : Nat} {layer : Layer (Recording S) Outcome}
    (settled : Settled position layer) {steps : List Moment} {outcome : Outcome}
    (runs : layer.Steps steps outcome) (from_here : position ≤ later) :
    proceedsOf later steps = 0 :=
  List.countP_eq_zero.mpr fun moment member proceeds =>
    settled.below runs moment member (Moment.fromOn_of_isProceedOf proceeds from_here)

theorem settled_callOriginal (original : Body S) (receiver : Receiver) (passed : List Value) :
    Settled 0 (callOriginal (recordBody original) receiver passed) where
  below runs := by
    obtain ⟨arguments, left, rfl⟩ := steps_callOriginal runs
    rintro moment member ⟨number, own, _⟩
    rcases List.mem_cons.mp member with rfl | last
    · cases own
    · rw [List.mem_singleton.mp last] at own
      cases own
  returns {steps outcome} runs flawless := by
    obtain ⟨arguments, left, rfl⟩ := steps_callOriginal runs
    cases outcome with
    | error failure => cases flawless (.bodyEnds (.error failure) left) (by simp)
    | ok value => exact ⟨value, rfl⟩

/-- How often a later handler proceeds in runs of a layer: never. -/
theorem proceedsOf_runs {inner : Layer (Recording S) Outcome} {position later : Nat}
    (settled : Settled position inner) {runs : List (List Moment × Outcome)}
    (each : ∀ run ∈ runs, inner.Steps run.1 run.2) (from_here : position ≤ later) :
    proceedsOf later (runs.flatMap fun run => .proceeds position :: run.1) =
      if later = position then runs.length else 0 := by
  induction runs with
  | nil => simp [proceedsOf]
  | cons run rest ih =>
      obtain ⟨first, others⟩ := List.forall_mem_cons.mp each
      rw [List.flatMap_cons, proceedsOf_append, ih others]
      have inside := settled.proceedsOf_eq_zero first from_here
      by_cases same : later = position
      · subst same
        simp only [proceedsOf] at inside
        simp [proceedsOf, Moment.isProceedOf, inside, Nat.add_comm]
      · simp only [proceedsOf] at inside
        simp [proceedsOf, Moment.isProceedOf, inside, same, Ne.symm same]

theorem settled_wrap {inner : Layer (Recording S) Outcome} {position : Nat}
    (settled : Settled position inner) (invocation : Invocation (AroundHandler S)) :
    Settled (position + 1) (wrap joinPoint inner
      { invocation with handler := recordAround position invocation.handler }) where
  below runs := by
    obtain ⟨runs, each, rfl, _⟩ := steps_wrap runs
    have mine {moment : Moment} (own : moment.around? = some position) :
        ¬ moment.FromOn (position + 1) := by
      rintro ⟨number, same, bound⟩
      rw [own] at same
      cases same
      exact absurd bound (Nat.not_succ_le_self position)
    intro moment member
    rcases List.mem_cons.mp member with rfl | member
    · exact mine rfl
    rcases List.mem_append.mp member with within | last
    · obtain ⟨run, ran, step⟩ := List.mem_flatMap.mp within
      rcases List.mem_cons.mp step with rfl | inside
      · exact mine rfl
      · exact fun later => settled.below (each run ran) moment inside later.earlier
    · rw [List.mem_singleton.mp last]
      exact mine rfl
  returns {steps outcome} runs flawless := by
    obtain ⟨runs, each, rfl, _⟩ := steps_wrap runs
    cases outcome with
    | error failure => cases flawless (.aroundEnds position (.error failure)) (by simp)
    | ok value => exact ⟨value, rfl⟩

/-- Around handlers around a layer have no part in those of later numbers. -/
theorem settled_surround {inner : Layer (Recording S) Outcome} {position : Nat}
    (settled : Settled position inner) (arounds : List (Invocation (AroundHandler S))) :
    Settled (position + arounds.length)
      (surround joinPoint (recordFrom recordAround position arounds) inner) := by
  induction arounds generalizing position inner with
  | nil => exact settled
  | cons invocation rest ih =>
      have shift : position + (rest.length + 1) = position + 1 + rest.length := by omega
      rw [List.length_cons, shift]
      exact ih (settled_wrap settled invocation)

/-- Before a layer is entered only later handlers proceed. -/
theorem proceedsOf_entering (arounds : List (Invocation (AroundHandler S))) (position : Nat) :
    proceedsOf position
      ((arounds.zipIdx (position + 1)).reverse.flatMap (enteringSteps joinPoint)) = 0 := by
  refine List.countP_eq_zero.mpr fun moment member => ?_
  obtain ⟨invocation, inside, step⟩ := List.mem_flatMap.mp member
  have later := List.le_snd_of_mem_zipIdx (List.mem_reverse.mp inside)
  rcases List.mem_cons.mp step with rfl | step
  · simp [Moment.isProceedOf]
  · rw [List.mem_singleton.mp step]
    simp only [Moment.isProceedOf, beq_iff_eq]
    omega

/-- While handlers are left none proceeds. -/
theorem proceedsOf_leaving (returned : List Value) (start position : Nat) :
    proceedsOf position ((returned.zipIdx start).map leavingStep) = 0 := by
  refine List.countP_eq_zero.mpr fun moment member => ?_
  obtain ⟨value, _, rfl⟩ := List.mem_map.mp member
  simp [leavingStep, Moment.isProceedOf]

/-- **Around handlers nest.** If each proceeds once they are entered from the last to the first,
then the layer inside runs once, and they are left from the first to the last. -/
theorem steps_surround {arounds : List (Invocation (AroundHandler S))} {position : Nat}
    {inner : Layer (Recording S) Outcome} (settled : Settled position inner) {steps : List Moment}
    {outcome : Outcome}
    (runs : Layer.Steps (surround joinPoint (recordFrom recordAround position arounds) inner) steps
      outcome) (flawless : Flawless steps)
    (once : ∀ number, position ≤ number → number < position + arounds.length →
      proceedsOf number steps = 1) :
    ∃ (inside : List Moment) (value : Value) (returned : List Value),
      inner.Steps inside (.ok value) ∧ returned.length = arounds.length ∧
      outcome = .ok (returned.getLastD value) ∧
      steps = (arounds.zipIdx position).reverse.flatMap (enteringSteps joinPoint) ++ inside ++
        (returned.zipIdx position).map leavingStep := by
  induction arounds generalizing position inner with
  | nil =>
      obtain ⟨value, rfl⟩ := settled.returns runs flawless
      exact ⟨steps, value, [], runs, rfl, rfl, (List.append_nil steps).symm⟩
  | cons invocation rest ih =>
      -- the rest surrounds this handler, so the rest is entered before it and left after it
      obtain ⟨wrapped, result, returned, ran, complete, last, shape⟩ :=
        ih (settled_wrap settled invocation) runs fun number from_here bound => by
          refine once number (Nat.le_of_succ_le from_here) ?_
          rw [List.length_cons]
          omega
      obtain ⟨inners, each, within, _⟩ := steps_wrap ran
      have single : inners.length = 1 := by
        have here := once position (Nat.le_refl _) (by simp)
        rw [shape, proceedsOf_append, proceedsOf_append, proceedsOf_entering, proceedsOf_leaving,
          within, ← List.singleton_append, proceedsOf_append, proceedsOf_append,
          proceedsOf_runs settled each (Nat.le_refl _), if_pos rfl] at here
        simpa [proceedsOf, Moment.isProceedOf] using here
      obtain ⟨run, rfl⟩ := List.length_eq_one_iff.mp single
      have inside := each run List.mem_cons_self
      have calm : Flawless run.1 := by
        intro moment member
        refine flawless moment ?_
        rw [shape, within]
        simp [member]
      obtain ⟨value, same⟩ := settled.returns inside calm
      rw [same] at inside
      refine ⟨run.1, value, result :: returned, inside, congrArg (· + 1) complete, ?_, ?_⟩
      · rw [last, List.getLastD_cons]
      · rw [shape, within, List.zipIdx_cons, List.zipIdx_cons, List.reverse_cons,
          List.flatMap_append]
        simp [enteringSteps, leavingStep]

/-! ### Whole calls -/

end Layers

/-- The schedule of a call: before handlers from the first to the last; around handlers entered from
the last to the first; the original body; around handlers left from the first to the last; after
handlers from the first to the last, each on the result of the one before, and the first on what the
outermost around handler returned. -/
def Scheduled (chain : Chain S) (joinPoint : JoinPoint) (steps : List Moment) (outcome : Outcome) :
    Prop :=
  ∃ (arguments left : List Value) (value : Value) (returned results : List Value),
    returned.length = chain.around.length ∧ results.length = chain.after.length ∧
    steps =
      chain.before.zipIdx.flatMap (beforeSteps joinPoint) ++
        (chain.around.zipIdx.reverse.flatMap (enteringSteps joinPoint) ++
          [.bodyBegins joinPoint.receiver arguments, .bodyEnds (.ok value) left] ++
            returned.zipIdx.map leavingStep) ++
          afterSteps joinPoint 0 (returned.getLastD value) chain.after results ∧
    outcome = .ok (results.getLastD (returned.getLastD value))

theorem proceedsOf_before (joinPoint : JoinPoint)
    (invocations : List (Invocation (BeforeHandler S) × Nat)) (position : Nat) :
    proceedsOf position (invocations.flatMap (beforeSteps joinPoint)) = 0 := by
  refine List.countP_eq_zero.mpr fun moment member => ?_
  obtain ⟨invocation, _, step⟩ := List.mem_flatMap.mp member
  rcases List.mem_cons.mp step with rfl | step
  · simp [Moment.isProceedOf]
  · rw [List.mem_singleton.mp step]
    simp [Moment.isProceedOf]

theorem proceedsOf_after (joinPoint : JoinPoint) (start : Nat) (given : Value)
    (invocations : List (Invocation (AfterHandler S))) (results : List Value) (position : Nat) :
    proceedsOf position (afterSteps joinPoint start given invocations results) = 0 := by
  induction invocations generalizing start given results with
  | nil => cases results <;> rfl
  | cons invocation rest ih =>
      cases results with
      | nil => rfl
      | cons result results => exact ih (start + 1) result results

/-- The layers of a call in which nothing fails: the before handlers, the around handlers around the
original body, and the after handlers, the first on what the layer before returned. -/
theorem layers_of_records {woven : WovenMethod S} {receiver : Receiver}
    {passed left : List Value} {outcome : Outcome} {record : List Moment}
    (records : (woven.recorded.body receiver passed).Records record (outcome, left))
    (flawless : Flawless record) :
    ∃ (middle : List Moment) (value : Value) (results : List Value),
      Layer.Steps (surround ⟨woven.target, receiver⟩
        (recordFrom recordAround 0 woven.chain.around)
        (callOriginal (recordBody woven.original) receiver passed)) middle (.ok value) ∧
      Flawless middle ∧ results.length = woven.chain.after.length ∧
      stepsOf record =
        woven.chain.before.zipIdx.flatMap (beforeSteps ⟨woven.target, receiver⟩) ++ middle ++
          afterSteps ⟨woven.target, receiver⟩ 0 value woven.chain.after results ∧
      outcome = .ok (results.getLastD value) := by
  obtain ⟨params, ran, _⟩ := records_body_iff.mp records
  rw [run_eq] at ran
  obtain ⟨first, rest, begun, rfl, before, continues⟩ := Program.records_bind_iff.mp ran
  obtain ⟨calm, others⟩ := flawless_append_iff.mp flawless
  obtain ⟨begins, firstSteps⟩ := (course_runBefore before).complete calm.stepsOf
  obtain ⟨_, slots⟩ := begun
  cases begins
  obtain ⟨middle, last, ended, rfl, surrounds, finishes⟩ := Program.records_bind_iff.mp continues
  obtain ⟨calmMiddle, calmLast⟩ := flawless_append_iff.mp others
  obtain ⟨outcomeInside, slots⟩ := ended
  let layer : Layer (Recording S) Outcome := surround ⟨woven.target, receiver⟩
    (recordFrom recordAround 0 woven.chain.around)
    (callOriginal (recordBody woven.original) receiver passed)
  have settled : Settled _ layer :=
    settled_surround (settled_callOriginal woven.original receiver passed) woven.chain.around
  have runs : layer.Steps (stepsOf middle) outcomeInside := ⟨_, middle, _, surrounds, rfl⟩
  obtain ⟨value, rfl⟩ := settled.returns runs calmMiddle.stepsOf
  obtain ⟨results, finished, lastResult, lastSteps⟩ :=
    (course_runAfter finishes).complete calmLast.stepsOf
  refine ⟨stepsOf middle, value, results, runs, calmMiddle.stepsOf, finished, ?_, lastResult⟩
  rw [stepsOf_append, stepsOf_append, firstSteps, lastSteps]
  exact (List.append_assoc _ _ _).symm

/-- **A call goes by its schedule**, if nothing fails and each around handler proceeds once. -/
theorem scheduled_of_records {woven : WovenMethod S} {receiver : Receiver}
    {passed left : List Value} {outcome : Outcome} {record : List Moment}
    (records : (woven.recorded.body receiver passed).Records record (outcome, left))
    (flawless : Flawless record)
    (once : ∀ number < woven.chain.around.length, proceedsOf number record = 1) :
    Scheduled woven.chain ⟨woven.target, receiver⟩ (stepsOf record) outcome := by
  obtain ⟨middle, result, results, runs, calm, finished, steps, last⟩ :=
    layers_of_records records flawless
  have counted : ∀ number, 0 ≤ number → number < 0 + woven.chain.around.length →
      proceedsOf number middle = 1 := by
    intro number _ bound
    have total := once number (by omega)
    rwa [← proceedsOf_stepsOf, steps, proceedsOf_append, proceedsOf_append, proceedsOf_before,
      proceedsOf_after, Nat.zero_add] at total
  have settled := settled_callOriginal woven.original receiver passed
  obtain ⟨inside, value, returned, ran, complete, same, middleSteps⟩ :=
    steps_surround settled runs calm counted
  cases same
  obtain ⟨arguments, written, rfl⟩ := steps_callOriginal ran
  refine ⟨arguments, written, value, returned, results, complete, finished, ?_, last⟩
  rw [steps, middleSteps]

end WovenMethod

end AspectWeaver
