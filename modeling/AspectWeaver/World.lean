/-
**Worlds and hosts: running a program.**

A world holds what programs act on: the table of classes, the clock, the log, and the state of the
surrounding program. A host answers the requests for services; it may give up, and then the run has
no answer at all, which is not the same as a failure.

* `run_bind` — **runs compose**: running a program and then going on is running the whole.
-/

import AspectWeaver.ClassTable

namespace AspectWeaver

/-- What programs act on. -/
structure World (S : Interface) (σ : Type) where
  classes : ClassTable S
  /-- In milliseconds. -/
  clock : Nat
  /-- The lines written so far, in order. -/
  log : List Event
  /-- What the surrounding program keeps for itself. -/
  state : σ

/-- A run: it changes a world and ends with a result, or gives up. -/
abbrev Run (S : Interface) (σ α : Type) := StateT (World S σ) Option α

/-- Answers the requests for services. -/
abbrev Host (S : Interface) (σ : Type) := (request : S.Request) → Run S σ (S.Reply request)

variable {S : Interface} {σ α β : Type}

namespace World

/-- The world with one more line in the log. -/
def write (event : Event) (world : World S σ) : World S σ :=
  { world with log := world.log ++ [event] }

/-- A line in the log changes no class. -/
@[simp] theorem write_classes (event : Event) (world : World S σ) :
    (world.write event).classes = world.classes := rfl

end World

namespace Run

/-- Writes a line to the log. -/
def write (event : Event) : Run S σ Unit := modify (World.write event)

/-- Writes lines to the log. -/
def writeAll (events : List Event) : Run S σ Unit :=
  modify fun world => { world with log := world.log ++ events }

/-- The table of classes. -/
def classes : Run S σ (ClassTable S) := do
  let world ← get
  pure world.classes

/-- Puts another table of classes in the place of the present one. -/
def setClasses (classes : ClassTable S) : Run S σ Unit :=
  modify fun world => { world with classes := classes }

end Run

namespace Program

/-- Runs a program in a world: the host answers what the world itself does not. -/
def run (host : Host S σ) : Program (Hosted S) α → Run S σ α
  | .done result => fun world => some (result, world)
  | .ask (.log event) resume => fun world => (resume ()).run host (world.write event)
  | .ask .clock resume => fun world => (resume world.clock).run host world
  | .ask (.service request) resume => fun world =>
      match host request world with
      | none => none
      | some (reply, later) => (resume reply).run host later

/-- Running a program and then going on is running the whole. -/
theorem run_bind (host : Host S σ) (program : Program (Hosted S) α)
    (next : α → Program (Hosted S) β) (world : World S σ) :
    (program.bind next).run host world =
      match program.run host world with
      | none => none
      | some (result, later) => (next result).run host later := by
  induction program generalizing world with
  | done result => rfl
  | ask request resume ih =>
      match request with
      | .log event => exact ih () _
      | .clock => exact ih world.clock world
      | .service request =>
          simp only [ask_bind, run]
          cases host request world with
          | none => rfl
          | some answer => exact ih answer.1 answer.2

end Program

end AspectWeaver
