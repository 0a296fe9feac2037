/-
**Histories: what can happen while a program runs, whoever answers it.**

A history is the list of requests a program has made so far, each with its reply. Nothing is assumed
of the replies, so a statement about all histories holds for every host and in every world.

* `ends_bind_iff`, `reaches_bind_iff` — **histories compose**: a history of a sequence is a history
  of its first part, followed, once that has ended, by a history of the rest.
* `exists_ends_of_run` — every run by a host has a history.
-/

import AspectWeaver.World

namespace AspectWeaver

/-- A request with the reply it got. -/
abbrev Exchange (I : Interface) := (request : I.Request) × I.Reply request

/-- A surrounding program without services. -/
abbrev Interface.idle : Interface := ⟨Empty, nofun⟩

/-- Its host, which never has anything to answer. -/
def Host.idle {σ : Type} : Host Interface.idle σ := nofun

namespace Program

variable {I S : Interface} {σ α β : Type}

/-- With this history a program comes to its end, with this result. -/
inductive Ends : Program I α → List (Exchange I) → α → Prop where
  | done (result : α) : Ends (.done result) [] result
  | ask {request : I.Request} {resume : I.Reply request → Program I α} (reply : I.Reply request)
      {later : List (Exchange I)} {result : α} (rest : Ends (resume reply) later result) :
      Ends (.ask request resume) (⟨request, reply⟩ :: later) result

/-- This history can happen while a program runs, whether or not it is at its end then. -/
inductive Reaches : Program I α → List (Exchange I) → Prop where
  | start (program : Program I α) : Reaches program []
  | ask {request : I.Request} {resume : I.Reply request → Program I α} (reply : I.Reply request)
      {later : List (Exchange I)} (rest : Reaches (resume reply) later) :
      Reaches (.ask request resume) (⟨request, reply⟩ :: later)

/-! ### Single steps -/

@[simp] theorem ends_done_iff {result ended : α} {history : List (Exchange I)} :
    (done result : Program I α).Ends history ended ↔ history = [] ∧ ended = result := by
  constructor
  · intro ends
    cases ends
    exact ⟨rfl, rfl⟩
  · rintro ⟨rfl, rfl⟩
    exact .done ended

theorem ends_ask_iff {request : I.Request} {resume : I.Reply request → Program I α}
    {history : List (Exchange I)} {result : α} :
    (ask request resume).Ends history result ↔
      ∃ reply later, history = ⟨request, reply⟩ :: later ∧ (resume reply).Ends later result := by
  constructor
  · intro ends
    cases ends with
    | ask reply rest => exact ⟨reply, _, rfl, rest⟩
  · rintro ⟨reply, later, rfl, rest⟩
    exact .ask reply rest

@[simp] theorem reaches_done_iff {result : α} {history : List (Exchange I)} :
    (done result : Program I α).Reaches history ↔ history = [] := by
  constructor
  · intro reaches
    cases reaches
    rfl
  · rintro rfl
    exact .start _

theorem reaches_ask_iff {request : I.Request} {resume : I.Reply request → Program I α}
    {history : List (Exchange I)} :
    (ask request resume).Reaches history ↔
      history = [] ∨
        ∃ reply later, history = ⟨request, reply⟩ :: later ∧ (resume reply).Reaches later := by
  constructor
  · intro reaches
    cases reaches with
    | start => exact .inl rfl
    | ask reply rest => exact .inr ⟨reply, _, rfl, rest⟩
  · rintro (rfl | ⟨reply, later, rfl, rest⟩)
    · exact .start _
    · exact .ask reply rest

/-- What comes to its end happens. -/
theorem Ends.reaches {program : Program I α} {history : List (Exchange I)} {result : α}
    (ends : program.Ends history result) : program.Reaches history := by
  induction ends with
  | done result => exact .start _
  | ask reply _ ih => exact .ask reply ih

/-! ### Sequences -/

/-- **A sequence ends as its second part does, after its first part has ended.** -/
theorem ends_bind_iff {program : Program I α} {next : α → Program I β}
    {history : List (Exchange I)} {result : β} :
    (program.bind next).Ends history result ↔
      ∃ first second middle, history = first ++ second ∧ program.Ends first middle ∧
        (next middle).Ends second result := by
  induction program generalizing history with
  | done value =>
      constructor
      · intro ends
        exact ⟨[], history, value, rfl, .done value, ends⟩
      · rintro ⟨first, second, middle, rfl, ended, rest⟩
        obtain ⟨rfl, rfl⟩ := ends_done_iff.mp ended
        exact rest
  | ask request resume ih =>
      rw [ask_bind, ends_ask_iff]
      constructor
      · rintro ⟨reply, later, rfl, rest⟩
        obtain ⟨first, second, middle, rfl, ended, rest⟩ := (ih reply).mp rest
        exact ⟨_, second, middle, rfl, .ask reply ended, rest⟩
      · rintro ⟨first, second, middle, rfl, ended, rest⟩
        obtain ⟨reply, later, rfl, ends⟩ := ends_ask_iff.mp ended
        exact ⟨reply, later ++ second, rfl, (ih reply).mpr ⟨later, second, middle, rfl, ends, rest⟩⟩

/-- **What happens in a sequence** happens in its first part, or in its second after the first has
ended. -/
theorem reaches_bind_iff {program : Program I α} {next : α → Program I β}
    {history : List (Exchange I)} :
    (program.bind next).Reaches history ↔
      program.Reaches history ∨
        ∃ first second middle, history = first ++ second ∧ program.Ends first middle ∧
          (next middle).Reaches second := by
  induction program generalizing history with
  | done value =>
      constructor
      · intro reaches
        exact .inr ⟨[], history, value, rfl, .done value, reaches⟩
      · rintro (reaches | ⟨first, second, middle, rfl, ended, rest⟩)
        · rw [reaches_done_iff.mp reaches]
          exact .start _
        · obtain ⟨rfl, rfl⟩ := ends_done_iff.mp ended
          exact rest
  | ask request resume ih =>
      rw [ask_bind, reaches_ask_iff]
      constructor
      · rintro (rfl | ⟨reply, later, rfl, rest⟩)
        · exact .inl (.start _)
        · rcases (ih reply).mp rest with reaches | ⟨first, second, middle, rfl, ended, rest⟩
          · exact .inl (.ask reply reaches)
          · exact .inr ⟨_, second, middle, rfl, .ask reply ended, rest⟩
      · rintro (reaches | ⟨first, second, middle, rfl, ended, rest⟩)
        · rcases reaches_ask_iff.mp reaches with rfl | ⟨reply, later, rfl, rest⟩
          · exact .inl rfl
          · exact .inr ⟨reply, later, rfl, (ih reply).mpr (.inl rest)⟩
        · obtain ⟨reply, later, rfl, ends⟩ := ends_ask_iff.mp ended
          exact .inr ⟨reply, later ++ second, rfl,
            (ih reply).mpr (.inr ⟨later, second, middle, rfl, ends, rest⟩)⟩

/-! ### Runs by a host -/

/-- Every run by a host has a history. -/
theorem exists_ends_of_run {host : Host S σ} {program : Program (Hosted S) α}
    {world later : World S σ} {result : α}
    (runs : program.run host world = some (result, later)) :
    ∃ history, program.Ends history result := by
  induction program generalizing world with
  | done value =>
      cases runs
      exact ⟨[], .done result⟩
  | ask request resume ih =>
      match request with
      | .log event =>
          obtain ⟨history, ends⟩ := ih () runs
          exact ⟨_, ends_ask_iff.mpr ⟨(), history, rfl, ends⟩⟩
      | .clock =>
          obtain ⟨history, ends⟩ := ih world.clock runs
          exact ⟨_, ends_ask_iff.mpr ⟨world.clock, history, rfl, ends⟩⟩
      | .service request =>
          simp only [run] at runs
          cases answered : host request world with
          | none =>
              rw [answered] at runs
              cases runs
          | some answer =>
              rw [answered] at runs
              obtain ⟨history, ends⟩ := ih answer.1 runs
              exact ⟨_, ends_ask_iff.mpr ⟨answer.1, history, rfl, ends⟩⟩

end Program

end AspectWeaver
