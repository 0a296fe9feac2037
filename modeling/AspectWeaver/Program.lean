/-
**Programs: computations that make requests and go on with the replies.**

Handlers and method bodies are programs. A program is a tree: it is done with a result, or it makes
a request and has one continuation for each possible reply. What a request means is for others to
say, so a statement about all programs is a statement about every behaviour of a handler.

* `bind_assoc`, `bind_done` — **sequencing** is associative and has `done` as its unit on the right,
  so programs form a lawful monad.
-/

namespace AspectWeaver

/-- A set of requests, each with the type of its replies. -/
structure Interface where
  Request : Type
  Reply : Request → Type

/-- A computation over the requests of an interface. -/
inductive Program (I : Interface) (α : Type) where
  | done (result : α)
  | ask (request : I.Request) (resume : I.Reply request → Program I α)

namespace Program

variable {I : Interface} {α β γ : Type}

/-- Goes on with the result of a program. -/
def bind : Program I α → (α → Program I β) → Program I β
  | .done result, next => next result
  | .ask request resume, next => .ask request fun reply => (resume reply).bind next

instance : Monad (Program I) where
  pure := done
  bind := bind

/-- Makes one request. -/
def perform (request : I.Request) : Program I (I.Reply request) := .ask request .done

/-- Going on from `done` is going on with its result. -/
@[simp] theorem done_bind (result : α) (next : α → Program I β) :
    (done result).bind next = next result := rfl

/-- Going on from a request is going on from each of its replies. -/
@[simp] theorem ask_bind (request : I.Request) (resume : I.Reply request → Program I α)
    (next : α → Program I β) :
    (ask request resume).bind next = ask request fun reply => (resume reply).bind next := rfl

/-- Going on with `done` changes nothing. -/
@[simp] theorem bind_done (program : Program I α) : program.bind done = program := by
  induction program with
  | done result => rfl
  | ask request resume ih => simp [ih]

/-- Sequencing is associative. -/
theorem bind_assoc (program : Program I α) (next : α → Program I β) (last : β → Program I γ) :
    (program.bind next).bind last = program.bind fun result => (next result).bind last := by
  induction program with
  | done result => rfl
  | ask request resume ih => simp [ih]

/-- In `do` notation sequencing is `bind`. -/
theorem bind_eq (program : Program I α) (next : α → Program I β) :
    (program >>= next) = program.bind next := rfl

instance : LawfulMonad (Program I) :=
  LawfulMonad.mk' _ (fun program => bind_done program) (fun _ _ => rfl)
    (fun program next last => bind_assoc program next last)

end Program

end AspectWeaver
