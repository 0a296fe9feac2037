/-
**How often each layer of a woven call runs.**

An around handler may proceed any number of times, and each time all that is inside it runs once
more. So the runs multiply: the original body runs as often as the product of the numbers says, and
an around handler as often as the product of the numbers of those outside it.

* `executions`, `aroundRuns` — how often a part of a call begins, and what stands in a record
  between each beginning of an around handler and its end.
* `Proceeding` — in each of its runs an around handler proceeds as often as is given for it.
* `Encloses` — **steps in which runs of a layer stand in order**, with nothing but moments of other
  layers around them.
* `encloses_wrap`, `encloses_surround` — **one around handler, and around handlers that nest**.
* **`body_tally`** — **how often each part of a call runs**, and what the first after handler gets.
-/

import AspectWeaver.Proofs.Schedule
import Mathlib.Algebra.BigOperators.Ring.List
import Mathlib.Algebra.GroupWithZero.Nat

namespace AspectWeaver

variable {S : Interface}

/-! ### Parts of a call -/

/-- What can begin in a call: a handler of a number in its list, or the original body. -/
inductive Part where
  | before (number : Nat)
  | around (number : Nat)
  | body
  | after (number : Nat)
  deriving DecidableEq

/-- What begins in this moment, if something does. -/
def Moment.begins? : Moment → Option Part
  | .beforeBegins number _ _ => some (.before number)
  | .aroundBegins number _ _ => some (.around number)
  | .bodyBegins _ _ => some .body
  | .afterBegins number _ _ _ => some (.after number)
  | _ => none

/-- Whether the around handler of a number ends in this moment. -/
def Moment.isEndOf (number : Nat) : Moment → Bool
  | .aroundEnds here _ => here == number
  | _ => false

/-- How often a part of the call begins. -/
def executions (part : Part) (record : List Moment) : Nat :=
  record.countP fun moment => moment.begins? == some part

/-- The runs of the around handler of a number: what stands between each of its beginnings and the
end that follows. -/
def aroundRuns (number : Nat) : List Moment → List (List Moment)
  | [] => []
  | moment :: later =>
      if moment.begins? = some (.around number) then
        later.takeWhile (fun moment => !moment.isEndOf number) :: aroundRuns number later
      else aroundRuns number later

/-- In each of its runs each around handler from a number on proceeds as often as is given for
it. -/
def Proceeding (position : Nat) (counts : List Nat) (record : List Moment) : Prop :=
  ∀ offset < counts.length, ∀ run ∈ aroundRuns (position + offset) record,
    counts[offset]? = some (proceedsOf (position + offset) run)

instance (position : Nat) (counts : List Nat) (record : List Moment) :
    Decidable (Proceeding position counts record) :=
  inferInstanceAs (Decidable (∀ offset < counts.length,
    ∀ run ∈ aroundRuns (position + offset) record,
      counts[offset]? = some (proceedsOf (position + offset) run)))

theorem executions_append (part : Part) (first second : List Moment) :
    executions part (first ++ second) = executions part first + executions part second :=
  List.countP_append

/-- To begin is a step. -/
theorem executions_stepsOf (part : Part) (record : List Moment) :
    executions part (stepsOf record) = executions part record := by
  rw [executions, stepsOf, List.countP_filter]
  refine List.countP_congr fun moment _ => ?_
  cases moment <;> simp [Moment.begins?, Moment.isStep]

/-- Where a part of the call does not begin, it does not run. -/
theorem executions_eq_zero {part : Part} {record : List Moment}
    (never : ∀ moment ∈ record, moment.begins? ≠ some part) : executions part record = 0 :=
  List.countP_eq_zero.mpr fun moment member begins =>
    never moment member (eq_of_beq begins)

/-- The runs of an around handler among the steps are the steps of its runs. -/
theorem aroundRuns_stepsOf (number : Nat) (record : List Moment) :
    aroundRuns number (stepsOf record) = (aroundRuns number record).map stepsOf := by
  induction record with
  | nil => rfl
  | cons moment later ih =>
      have within : (stepsOf later).takeWhile (fun moment => !moment.isEndOf number) =
          stepsOf (later.takeWhile fun moment => !moment.isEndOf number) := by
        rw [stepsOf, List.takeWhile_filter, stepsOf]
        congr 2
        funext moment
        cases moment <;> rfl
      cases step : moment.isStep with
      | true =>
          have kept : stepsOf (moment :: later) = moment :: stepsOf later :=
            List.filter_cons_of_pos step
          rw [kept, aroundRuns, aroundRuns, within, ih]
          split <;> rfl
      | false =>
          have dropped : stepsOf (moment :: later) = stepsOf later :=
            List.filter_cons_of_neg (by simp [step])
          have other : moment.begins? ≠ some (.around number) := by
            cases moment <;> simp_all [Moment.begins?, Moment.isStep]
          rw [dropped, aroundRuns, if_neg other, ih]

theorem Proceeding.stepsOf {position : Nat} {counts : List Nat} {record : List Moment}
    (proceeding : Proceeding position counts record) :
    Proceeding position counts (stepsOf record) := by
  intro offset bound run member
  rw [aroundRuns_stepsOf] at member
  obtain ⟨within, inside, rfl⟩ := List.mem_map.mp member
  rw [proceedsOf_stepsOf]
  exact proceeding offset bound within inside

/-- What stands between a beginning of an around handler and its next end is a run of it. -/
theorem mem_aroundRuns {number : Nat} {joinPoint : JoinPoint} {options : List String}
    {outcome : Outcome} {within record : List Moment}
    (stands : .aroundBegins number joinPoint options ::
      (within ++ [.aroundEnds number outcome]) <:+: record)
    (lasts : ∀ moment ∈ within, moment.isEndOf number = false) :
    within ∈ aroundRuns number record := by
  obtain ⟨earlier, later, rfl⟩ := stands
  have ends : (within ++ [Moment.aroundEnds number outcome] ++ later).takeWhile
      (fun moment => !moment.isEndOf number) = within := by
    have still : ∀ moment ∈ within, (!moment.isEndOf number) = true := by
      intro moment member
      rw [lasts moment member]
      rfl
    rw [List.append_assoc, List.takeWhile_append_of_pos still]
    simp [Moment.isEndOf]
  have begins : (Moment.aroundBegins number joinPoint options).begins? =
      some (.around number) := rfl
  induction earlier with
  | nil =>
      rw [List.nil_append, List.cons_append, aroundRuns, if_pos begins, ends]
      exact List.mem_cons_self
  | cons moment earlier ih =>
      rw [List.cons_append, List.cons_append, aroundRuns]
      split
      · exact List.mem_cons_of_mem _ ih
      · exact ih

/-- The first around handler, and those after it. -/
theorem proceeding_cons_iff {position count : Nat} {counts : List Nat} {record : List Moment} :
    Proceeding position (count :: counts) record ↔
      (∀ run ∈ aroundRuns position record, proceedsOf position run = count) ∧
        Proceeding (position + 1) counts record := by
  constructor
  · intro proceeding
    refine ⟨fun run member => ?_, fun offset bound run member => ?_⟩
    · exact (Option.some.inj (proceeding 0 (Nat.zero_lt_succ _) run member)).symm
    · have shift : position + 1 + offset = position + (offset + 1) := by omega
      rw [shift] at member ⊢
      exact proceeding (offset + 1) (Nat.succ_lt_succ bound) run member
  · rintro ⟨first, others⟩ offset bound run member
    cases offset with
    | zero => exact congrArg some (first run member).symm
    | succ offset =>
        have shift : position + (offset + 1) = position + 1 + offset := by omega
        rw [shift] at member ⊢
        exact others offset (Nat.lt_of_succ_lt_succ bound) run member

/-! ### Runs that stand in other steps -/

/-- Steps in which these runs stand in order, with nothing but moments of another sort before,
between and after them. -/
inductive Encloses (own : Moment → Prop) : List (List Moment) → List Moment → Prop where
  | nil : Encloses own [] []
  | own {moment : Moment} {runs : List (List Moment)} {steps : List Moment} (mine : own moment)
      (rest : Encloses own runs steps) : Encloses own runs (moment :: steps)
  | run {steps : List Moment} {runs : List (List Moment)} (run : List Moment)
      (rest : Encloses own runs steps) : Encloses own (run :: runs) (run ++ steps)

namespace Encloses

variable {own : Moment → Prop} {runs others : List (List Moment)} {steps later : List Moment}

theorem single (own : Moment → Prop) (run : List Moment) : Encloses own [run] run := by
  have alone : Encloses own [run] (run ++ []) := .run run .nil
  rwa [List.append_nil] at alone

theorem mono {wider : Moment → Prop} (grows : ∀ moment, own moment → wider moment)
    (encloses : Encloses own runs steps) : Encloses wider runs steps := by
  induction encloses with
  | nil => exact .nil
  | own mine _ ih => exact .own (grows _ mine) ih
  | run first _ ih => exact .run first ih

theorem append (first : Encloses own runs steps) (second : Encloses own others later) :
    Encloses own (runs ++ others) (steps ++ later) := by
  induction first with
  | nil => exact second
  | own mine _ ih => exact .own mine ih
  | run first _ ih =>
      rw [List.append_assoc]
      exact .run first ih

/-- Each of the runs stands in the steps. -/
theorem stands (encloses : Encloses own runs steps) : ∀ run ∈ runs, run <:+: steps := by
  induction encloses with
  | nil => exact List.forall_mem_nil _
  | own _ _ ih => exact fun run member => (ih run member).trans (List.suffix_cons _ _).isInfix
  | run first _ ih =>
      refine List.forall_mem_cons.mpr ⟨(List.prefix_append _ _).isInfix, fun run member => ?_⟩
      exact (ih run member).trans (List.suffix_append _ _).isInfix

/-- A part that begins in none of the other moments runs as often as it does in each of the
runs. -/
theorem executions_eq {part : Part} {count : Nat} (encloses : Encloses own runs steps)
    (spared : ∀ moment, own moment → moment.begins? ≠ some part)
    (each : ∀ run ∈ runs, executions part run = count) :
    executions part steps = runs.length * count := by
  induction encloses with
  | nil => exact (Nat.zero_mul count).symm
  | @own moment _ _ mine _ ih =>
      have other : (moment.begins? == some part) = false := by
        simpa using spared moment mine
      rw [executions, List.countP_cons_of_neg (by simp [other])]
      exact ih each
  | run first _ ih =>
      obtain ⟨here, there⟩ := List.forall_mem_cons.mp each
      rw [executions_append, here, ih there, List.length_cons, Nat.succ_mul, Nat.add_comm]

/-- If each of the runs encloses as many others, so many times more stand in the steps. -/
theorem flatten {P : List Moment → Prop} {count : Nat} (encloses : Encloses own runs steps)
    (each : ∀ run ∈ runs, ∃ inners, (∀ inner ∈ inners, P inner) ∧ inners.length = count ∧
      Encloses own inners run) :
    ∃ inners, (∀ inner ∈ inners, P inner) ∧ inners.length = runs.length * count ∧
      Encloses own inners steps := by
  induction encloses with
  | nil => exact ⟨[], List.forall_mem_nil _, (Nat.zero_mul count).symm, .nil⟩
  | own mine _ ih =>
      obtain ⟨inners, all, number, stand⟩ := ih each
      exact ⟨inners, all, number, .own mine stand⟩
  | run first _ ih =>
      obtain ⟨⟨here, each, number, stand⟩, there⟩ := List.forall_mem_cons.mp each
      obtain ⟨inners, all, total, rest⟩ := ih there
      refine ⟨here ++ inners, List.forall_mem_append.mpr ⟨each, all⟩, ?_, stand.append rest⟩
      rw [List.length_append, number, total, List.length_cons, Nat.succ_mul, Nat.add_comm]

end Encloses

namespace WovenMethod

section Layers

variable {joinPoint : JoinPoint} {position : Nat} {inner : Layer (Recording S) Outcome}
  {steps whole : List Moment} {outcome : Outcome}

/-! ### Around handlers -/

/-- In a layer without part in the around handlers from a number on, the first of them neither
begins nor ends. -/
theorem Settled.spared (settled : Settled position inner) (runs : inner.Steps steps outcome) :
    ∀ moment ∈ steps,
      moment.begins? ≠ some (.around position) ∧ moment.isEndOf position = false := by
  intro moment member
  have never := settled.below runs moment member
  constructor
  · intro begins
    cases moment <;> cases begins
    exact never ⟨position, rfl, Nat.le_refl _⟩
  · refine Bool.eq_false_iff.mpr fun ends => never ?_
    cases moment with
    | aroundEnds here outcome => exact ⟨here, rfl, by rw [eq_of_beq ends]⟩
    | _ => cases ends

/-- What is inside an around handler stands in its steps once for each time it proceeds. -/
theorem encloses_proceeds (position : Nat) (runs : List (List Moment × Outcome)) :
    Encloses (Moment.FromOn position) (runs.map Prod.fst)
      (runs.flatMap fun run => .proceeds position :: run.1) := by
  induction runs with
  | nil => exact .nil
  | cons run rest ih =>
      rw [List.flatMap_cons, List.cons_append]
      exact .own ⟨position, rfl, Nat.le_refl _⟩ (.run run.1 ih)

/-- **One around handler**: it begins once, and the layer inside runs as often as it proceeds. -/
theorem encloses_wrap (settled : Settled position inner)
    {invocation : Invocation (AroundHandler S)}
    (runs : Layer.Steps (wrap joinPoint inner
      { invocation with handler := recordAround position invocation.handler }) steps outcome)
    {count : Nat} (inside : steps <:+: whole)
    (proceeds : ∀ run ∈ aroundRuns position whole, proceedsOf position run = count) :
    executions (.around position) steps = 1 ∧
      ∃ inners, (∀ run ∈ inners, ∃ outcome, inner.Steps run outcome) ∧ inners.length = count ∧
        Encloses (Moment.FromOn position) inners steps := by
  obtain ⟨ran, each, rfl, _⟩ := steps_wrap runs
  have mine : ∀ moment ∈ ran.flatMap (fun run => Moment.proceeds position :: run.1),
      moment.begins? ≠ some (.around position) ∧ moment.isEndOf position = false := by
    intro moment member
    obtain ⟨run, taken, step⟩ := List.mem_flatMap.mp member
    rcases List.mem_cons.mp step with rfl | step
    · exact ⟨nofun, rfl⟩
    · exact settled.spared (each run taken) moment step
  constructor
  · have silent : executions (.around position)
        (ran.flatMap fun run => .proceeds position :: run.1) = 0 :=
      executions_eq_zero fun moment member => (mine moment member).1
    have last : executions (.around position) [.aroundEnds position outcome] = 0 := rfl
    rw [executions, List.countP_cons_of_pos (by simp [Moment.begins?])]
    rw [← executions, executions_append, silent, last]
  · have run := mem_aroundRuns inside fun moment member => (mine moment member).2
    have number := proceeds _ run
    rw [proceedsOf_runs settled each (Nat.le_refl _), if_pos rfl] at number
    refine ⟨ran.map Prod.fst, ?_, (List.length_map _).trans number, ?_⟩
    · intro run member
      obtain ⟨taken, there, rfl⟩ := List.mem_map.mp member
      exact ⟨taken.2, each taken there⟩
    · have own {moment : Moment} (here : moment.around? = some position) :
          moment.FromOn position := ⟨position, here, Nat.le_refl _⟩
      have ends : Encloses (Moment.FromOn position) [] [.aroundEnds position outcome] :=
        .own (own rfl) .nil
      have all := (encloses_proceeds position ran).append ends
      rw [List.append_nil] at all
      exact .own (own rfl) all

/-- **Around handlers nest**, and so their numbers multiply: the layer inside runs as often as the
product of all says, and each of them as often as the product of those after it, which are outside
it. -/
theorem encloses_surround {arounds : List (Invocation (AroundHandler S))} {counts : List Nat}
    (settled : Settled position inner) (complete : counts.length = arounds.length)
    (runs : Layer.Steps (surround joinPoint (recordFrom recordAround position arounds) inner) steps
      outcome) (inside : steps <:+: whole) (proceeding : Proceeding position counts whole) :
    (∃ inners, (∀ run ∈ inners, ∃ outcome, inner.Steps run outcome) ∧
        inners.length = counts.prod ∧ Encloses (Moment.FromOn position) inners steps) ∧
      ∀ offset < arounds.length,
        executions (.around (position + offset)) steps = (counts.drop (offset + 1)).prod := by
  induction arounds generalizing position inner counts with
  | nil =>
      obtain rfl := List.length_eq_zero_iff.mp complete
      exact ⟨⟨[steps], List.forall_mem_singleton.mpr ⟨outcome, runs⟩, rfl, .single _ steps⟩, nofun⟩
  | cons invocation rest ih =>
      obtain ⟨count, counts, rfl⟩ := List.exists_cons_of_length_eq_add_one complete
      obtain ⟨proceeds, others⟩ := proceeding_cons_iff.mp proceeding
      -- the rest is outside this handler, so that each run of what it surrounds is a run of this
      obtain ⟨⟨wraps, each, number, encloses⟩, outer⟩ :=
        ih (settled_wrap settled invocation) (Nat.succ.inj complete) runs others
      have wrapped : ∀ run ∈ wraps, executions (.around position) run = 1 ∧
          ∃ inners, (∀ run ∈ inners, ∃ outcome, inner.Steps run outcome) ∧
            inners.length = count ∧ Encloses (Moment.FromOn position) inners run := by
        intro run member
        obtain ⟨result, ran⟩ := each run member
        exact encloses_wrap settled ran ((encloses.stands run member).trans inside) proceeds
      have widened := encloses.mono fun _ => Moment.FromOn.earlier
      obtain ⟨inners, all, total, stand⟩ :=
        widened.flatten fun run member => (wrapped run member).2
      refine ⟨⟨inners, all, ?_, stand⟩, fun offset bound => ?_⟩
      · rw [total, number, List.prod_cons, Nat.mul_comm]
      · cases offset with
        | zero =>
            have spared : ∀ moment : Moment, moment.FromOn (position + 1) →
                moment.begins? ≠ some (.around position) := by
              rintro moment ⟨later, own, bound⟩ begins
              cases moment <;> cases begins
              cases own
              exact absurd bound (Nat.not_succ_le_self position)
            exact (encloses.executions_eq spared fun run member => (wrapped run member).1).trans
              ((Nat.mul_one _).trans number)
        | succ offset =>
            have shift : position + (offset + 1) = position + 1 + offset := by omega
            rw [shift]
            exact outer offset (Nat.lt_of_succ_lt_succ bound)

/-- The last step of around handlers is the end of the last one, which is the outermost. -/
theorem getLast?_surround {arounds : List (Invocation (AroundHandler S))}
    (some_around : arounds ≠ [])
    (runs : Layer.Steps (surround joinPoint (recordFrom recordAround position arounds) inner) steps
      outcome) :
    steps.getLast? = some (.aroundEnds (position + (arounds.length - 1)) outcome) := by
  induction arounds generalizing position inner with
  | nil => exact absurd rfl some_around
  | cons invocation rest ih =>
      cases rest with
      | nil =>
          obtain ⟨_, _, rfl, _⟩ := steps_wrap runs
          rw [← List.cons_append]
          exact List.getLast?_concat
      | cons next rest =>
          have last := ih (List.cons_ne_nil next rest) runs
          have shift : position + (rest.length + 1) = position + 1 + rest.length := by omega
          rw [last]
          simp [shift]

/-! ### Before and after handlers -/

/-- In before handlers nothing else begins. -/
theorem begins_before {invocations : List (Invocation (BeforeHandler S) × Nat)} {moment : Moment}
    (member : moment ∈ invocations.flatMap (beforeSteps joinPoint)) {part : Part}
    (begins : moment.begins? = some part) : ∃ number, part = .before number := by
  obtain ⟨invocation, _, step⟩ := List.mem_flatMap.mp member
  rcases List.mem_cons.mp step with rfl | step
  · cases begins
    exact ⟨_, rfl⟩
  · rw [List.mem_singleton.mp step] at begins
    cases begins

/-- In after handlers nothing else begins. -/
theorem begins_after {invocations : List (Invocation (AfterHandler S))} {given : Value}
    {results : List Value} {moment : Moment}
    (member : moment ∈ afterSteps joinPoint position given invocations results) {part : Part}
    (begins : moment.begins? = some part) : ∃ number, part = .after number := by
  induction invocations generalizing position given results with
  | nil => cases results <;> cases member
  | cons invocation rest ih =>
      cases results with
      | nil => cases member
      | cons result results =>
          rw [afterSteps, List.mem_cons, List.mem_cons] at member
          rcases member with rfl | rfl | later
          · cases begins
            exact ⟨_, rfl⟩
          · cases begins
          · exact ih later

/-- Each before handler begins once. -/
theorem executions_before (invocations : List (Invocation (BeforeHandler S)))
    (position number : Nat) :
    executions (.before number)
        ((invocations.zipIdx position).flatMap (beforeSteps joinPoint)) =
      if position ≤ number ∧ number < position + invocations.length then 1 else 0 := by
  induction invocations generalizing position with
  | nil =>
      rw [if_neg (by simp)]
      rfl
  | cons invocation rest ih =>
      rw [List.zipIdx_cons, List.flatMap_cons, executions_append, ih (position + 1)]
      have first : executions (.before number) (beforeSteps joinPoint (invocation, position)) =
          if position = number then 1 else 0 := by
        by_cases here : position = number <;>
          simp [executions, beforeSteps, Moment.begins?, here]
      rw [first, List.length_cons]
      split <;> split <;> split <;> omega

/-- Each after handler begins once. -/
theorem executions_after {invocations : List (Invocation (AfterHandler S))} {results : List Value}
    (complete : results.length = invocations.length) (position number : Nat) (given : Value) :
    executions (.after number) (afterSteps joinPoint position given invocations results) =
      if position ≤ number ∧ number < position + invocations.length then 1 else 0 := by
  induction invocations generalizing position given results with
  | nil =>
      rw [if_neg (by simp)]
      cases results <;> rfl
  | cons invocation rest ih =>
      obtain ⟨result, results, rfl⟩ := List.exists_cons_of_length_eq_add_one complete
      have first : executions (.after number)
          [.afterBegins position joinPoint invocation.options given,
            .afterEnds position (.ok result)] = if position = number then 1 else 0 := by
        by_cases here : position = number <;> simp [executions, Moment.begins?, here]
      have parts := executions_append (.after number)
        [.afterBegins position joinPoint invocation.options given,
          .afterEnds position (.ok result)]
        (afterSteps joinPoint (position + 1) result rest results)
      rw [ih (Nat.succ.inj complete), first] at parts
      refine parts.trans ?_
      rw [List.length_cons]
      split <;> split <;> split <;> omega

/-- What begins in the around handlers around the original body: the body as often as the product of
all numbers says, each around handler as often as the product of those outside it, and nothing
else. -/
theorem executions_surround {arounds : List (Invocation (AroundHandler S))} {counts : List Nat}
    {original : Body S} {receiver : Receiver} {passed : List Value}
    (complete : counts.length = arounds.length)
    (runs : Layer.Steps (surround joinPoint (recordFrom recordAround 0 arounds)
      (callOriginal (recordBody original) receiver passed)) steps outcome)
    (inside : steps <:+: whole) (proceeding : Proceeding 0 counts whole) :
    executions .body steps = counts.prod ∧
      (∀ number < arounds.length,
        executions (.around number) steps = (counts.drop (number + 1)).prod) ∧
      ∀ number, executions (.before number) steps = 0 ∧ executions (.after number) steps = 0 := by
  have settled := settled_callOriginal original receiver passed
  obtain ⟨⟨inners, each, number, encloses⟩, outer⟩ :=
    encloses_surround settled complete runs inside proceeding
  -- in a run of the body the body begins once, and nothing else
  have within (part : Part) {count : Nat} (other : ∀ number, part ≠ .around number)
      (here : ∀ arguments outcome left, executions part
        [.bodyBegins receiver arguments, .bodyEnds outcome left] = count) :
      executions part steps = counts.prod * count := by
    rw [← number]
    refine encloses.executions_eq ?_ fun run member => ?_
    · rintro moment ⟨number, own, _⟩ begins
      cases moment <;> cases own
      all_goals cases begins
      exact other number rfl
    · obtain ⟨outcome, ran⟩ := each run member
      obtain ⟨arguments, left, rfl⟩ := steps_callOriginal ran
      exact here arguments outcome left
  refine ⟨?_, fun number bound => ?_, fun number => ⟨?_, ?_⟩⟩
  · exact (within .body nofun fun _ _ _ => rfl).trans (Nat.mul_one _)
  · rw [← outer number bound, Nat.zero_add]
  · exact (within (.before number) nofun fun _ _ _ => rfl).trans (Nat.mul_zero _)
  · exact (within (.after number) nofun fun _ _ _ => rfl).trans (Nat.mul_zero _)

end Layers

/-! ### Whole calls -/

/-- How often the parts of a call run, when the around handler of each number proceeds as often as
`counts` says. -/
structure Tally (chain : Chain S) (joinPoint : JoinPoint) (counts : List Nat)
    (record : List Moment) (outcome : Outcome) : Prop where
  body : executions .body record = counts.prod
  /-- An around handler runs as often as the product of the numbers of those outside it says, and
  so the outermost runs once. -/
  around : ∀ number < chain.around.length,
    executions (.around number) record = (counts.drop (number + 1)).prod
  before : ∀ number < chain.before.length, executions (.before number) record = 1
  after : ∀ number < chain.after.length, executions (.after number) record = 1
  /-- Inside an around handler that does not proceed nothing runs. -/
  cut : ∀ number, counts[number]? = some 0 →
    executions .body record = 0 ∧ ∀ within < number, executions (.around within) record = 0
  /-- An around handler is reached if all those outside it proceed. -/
  reached : ∀ number < chain.around.length,
    (∀ outside, number < outside → counts[outside]? ≠ some 0) →
      0 < executions (.around number) record
  /-- The before handlers come first and the after handlers last. The first after handler gets what
  the outermost around handler returned, or the body if there is none. -/
  receives : ∃ (middle : List Moment) (value : Value) (results : List Value),
    stepsOf record = chain.before.zipIdx.flatMap (beforeSteps joinPoint) ++ middle ++
      afterSteps joinPoint 0 value chain.after results ∧
    results.length = chain.after.length ∧ outcome = .ok (results.getLastD value) ∧
    (chain.around ≠ [] → middle.getLast? =
      some (.aroundEnds (chain.around.length - 1) (.ok value))) ∧
    (chain.around = [] → ∃ arguments left, middle =
      [.bodyBegins joinPoint.receiver arguments, .bodyEnds (.ok value) left])

/-- Inside a number that is 0 the product is 0. -/
theorem prod_drop_eq_zero {counts : List Nat} {number within : Nat}
    (never : counts[number]? = some 0) (deeper : within < number) :
    (counts.drop (within + 1)).prod = 0 := by
  have here : (counts.drop (within + 1))[number - (within + 1)]? = some 0 := by
    rw [List.getElem?_drop, Nat.add_sub_cancel' deeper]
    exact never
  exact List.prod_eq_zero_iff.mpr (List.mem_of_getElem? here)

/-- If no number outside is 0 the product is not 0. -/
theorem prod_drop_pos {counts : List Nat} {number : Nat}
    (proceed : ∀ outside, number < outside → counts[outside]? ≠ some 0) :
    0 < (counts.drop (number + 1)).prod := by
  rw [Nat.pos_iff_ne_zero, ne_eq, List.prod_eq_zero_iff]
  intro member
  obtain ⟨offset, here⟩ := List.mem_iff_getElem?.mp member
  rw [List.getElem?_drop] at here
  exact proceed _ (by omega) here

section Groups

variable {joinPoint : JoinPoint} {befores : List (Invocation (BeforeHandler S))}
  {afters : List (Invocation (AfterHandler S))} {middle : List Moment} {value : Value}
  {results : List Value}

/-- What is neither a before nor an after handler begins between them only. -/
theorem executions_between (part : Part) (no_before : ∀ number, part ≠ .before number)
    (no_after : ∀ number, part ≠ .after number) :
    executions part (befores.zipIdx.flatMap (beforeSteps joinPoint) ++ middle ++
      afterSteps joinPoint 0 value afters results) = executions part middle := by
  have first : executions part (befores.zipIdx.flatMap (beforeSteps joinPoint)) = 0 :=
    executions_eq_zero fun moment member begins => (begins_before member begins).elim no_before
  have last : executions part (afterSteps joinPoint 0 value afters results) = 0 :=
    executions_eq_zero fun moment member begins => (begins_after member begins).elim no_after
  rw [executions_append, executions_append, first, last, Nat.zero_add, Nat.add_zero]

/-- If no before or after handler begins between them, each begins once. -/
theorem executions_once (joinPoint : JoinPoint) (befores : List (Invocation (BeforeHandler S)))
    (value : Value) (complete : results.length = afters.length)
    (others : ∀ number,
      executions (.before number) middle = 0 ∧ executions (.after number) middle = 0) :
    (∀ number < befores.length, executions (.before number)
        (befores.zipIdx.flatMap (beforeSteps joinPoint) ++ middle ++
          afterSteps joinPoint 0 value afters results) = 1) ∧
      ∀ number < afters.length, executions (.after number)
        (befores.zipIdx.flatMap (beforeSteps joinPoint) ++ middle ++
          afterSteps joinPoint 0 value afters results) = 1 := by
  constructor
  · intro number bound
    have last : executions (.before number)
        (afterSteps joinPoint 0 value afters results) = 0 := by
      refine executions_eq_zero fun moment member begins => ?_
      obtain ⟨_, same⟩ := begins_after member begins
      cases same
    rw [executions_append, executions_append, executions_before, (others number).1, last,
      if_pos (by omega)]
  · intro number bound
    have first : executions (.after number)
        (befores.zipIdx.flatMap (beforeSteps joinPoint)) = 0 := by
      refine executions_eq_zero fun moment member begins => ?_
      obtain ⟨_, same⟩ := begins_before member begins
      cases same
    rw [executions_append, executions_append, executions_after complete, (others number).2, first,
      if_pos (by omega)]

end Groups

/-- A call in which nothing fails, and in which each around handler proceeds as often as is given
for it. -/
theorem tally_of_records {woven : WovenMethod S} {receiver : Receiver} {passed left : List Value}
    {counts : List Nat} {outcome : Outcome} {record : List Moment}
    (complete : counts.length = woven.chain.around.length)
    (records : (woven.recorded.body receiver passed).Records record (outcome, left))
    (flawless : Flawless record) (proceeding : Proceeding 0 counts record) :
    Tally woven.chain ⟨woven.target, receiver⟩ counts record outcome := by
  obtain ⟨middle, value, results, runs, _, finished, steps, last⟩ :=
    layers_of_records records flawless
  have inside : middle <:+: stepsOf record := by
    rw [steps, List.append_assoc]
    exact ⟨_, _, List.append_assoc _ _ _⟩
  obtain ⟨body, arounds, others⟩ :=
    executions_surround complete runs inside proceeding.stepsOf
  obtain ⟨before, after⟩ := executions_once ⟨woven.target, receiver⟩
    woven.chain.before value finished others
  have inner : executions .body record = counts.prod := by
    rw [← executions_stepsOf, steps, executions_between .body nofun nofun, body]
  have each : ∀ number < woven.chain.around.length,
      executions (.around number) record = (counts.drop (number + 1)).prod := by
    intro number bound
    rw [← executions_stepsOf, steps, executions_between (.around number) nofun nofun,
      arounds number bound]
  constructor
  case body => exact inner
  case around => exact each
  case before =>
    intro number bound
    rw [← executions_stepsOf, steps]
    exact before number bound
  case after =>
    intro number bound
    rw [← executions_stepsOf, steps]
    exact after number bound
  case cut =>
    intro number never
    have bound := (List.getElem?_eq_some_iff.mp never).1
    refine ⟨?_, fun within deeper => ?_⟩
    · rw [inner]
      exact List.prod_eq_zero_iff.mpr (List.mem_of_getElem? never)
    · rw [each within (by omega), prod_drop_eq_zero never deeper]
  case reached =>
    intro number bound proceed
    rw [each number bound]
    exact prod_drop_pos proceed
  case receives =>
    refine ⟨middle, value, results, steps, finished, last, fun some_around => ?_, fun none => ?_⟩
    · rw [getLast?_surround some_around runs, Nat.zero_add]
    · rw [none] at runs
      exact steps_callOriginal runs

/-- **How often each part of a call runs.** A call that ends has a record. If nothing fails in it,
and each run of an around handler proceeds as often as is given for the handler, the original body
runs as often as the product of these numbers says, an around handler as often as the product of
those for the handlers outside it, and each before and after handler once. -/
theorem body_tally (woven : WovenMethod S) (receiver : Receiver) (passed : List Value)
    {counts : List Nat} (complete : counts.length = woven.chain.around.length) :
    (woven.recorded.body receiver passed).forget = woven.body receiver passed ∧
    (∀ history result, (woven.body receiver passed).Ends history result →
      ∃ record, (woven.recorded.body receiver passed).Records record result) ∧
    ∀ record outcome left, (woven.recorded.body receiver passed).Records record (outcome, left) →
      Flawless record → Proceeding 0 counts record →
      Tally woven.chain ⟨woven.target, receiver⟩ counts record outcome := by
  refine ⟨woven.forget_body receiver passed, fun history result ends => ?_,
    fun record outcome left records flawless proceeding =>
      tally_of_records complete records flawless proceeding⟩
  rw [← woven.forget_body] at ends
  exact Program.exists_records_of_ends_forget ends

/-! ### A call in which the body runs six times -/

/-- An around handler that proceeds so many times and returns what came of the last. -/
def proceedTimes : Nat → AroundHandler Interface.idle
  | 0, _, _ => .done (.ok .null)
  | 1, _, _ => Surrounding.proceed
  | number + 1, joinPoint, options =>
      Surrounding.proceed.bind fun _ => proceedTimes number joinPoint options

/-- A method with a handler that proceeds twice inside one that proceeds three times. -/
def sixTimes : WovenMethod Interface.idle where
  className := "Account"
  method := { name := "add", isStatic := true }
  chain :=
    { before := [⟨"before", fun _ _ => .done (.ok ()), []⟩]
      around := [⟨"around", proceedTimes 2, []⟩, ⟨"around", proceedTimes 3, []⟩]
      after := [⟨"after", fun _ _ given => .done (.ok given), []⟩] }
  original := fun _ arguments => .done (.ok .null, arguments)

/-- The inner handler runs three times and the body six times. -/
theorem body_tally_sixTimes :
    [2, 3].length = sixTimes.chain.around.length ∧
      ∃ record, (sixTimes.recorded.body .static []).Records record (.ok .null, []) ∧
        Flawless record ∧ Proceeding 0 [2, 3] record ∧
        Tally sixTimes.chain ⟨sixTimes.target, .static⟩ [2, 3] record (.ok .null) ∧
        executions (.around 1) record = 1 ∧ executions (.around 0) record = 3 ∧
        executions .body record = 6 := by
  let call := sixTimes.recorded.body .static []
  have records : call.Records call.replay.1 (.ok .null, []) := call.records_replay
  have flawless : Flawless call.replay.1 := by decide +kernel
  have proceeding : Proceeding 0 [2, 3] call.replay.1 := by decide +kernel
  have tally := (body_tally sixTimes .static [] rfl).2.2 _ _ _ records flawless proceeding
  refine ⟨rfl, _, records, flawless, proceeding, tally, ?_, ?_, ?_⟩
  · exact tally.around 1 (by decide)
  · exact tally.around 0 (by decide)
  · exact tally.body

end WovenMethod

end AspectWeaver
