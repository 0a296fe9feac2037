/-
**Sequences of operations on the table of classes, weavings among them.**

An operation leaves a table whether it is carried out or refused. A weaving may change the table in
more ways than by what it installs: its `info` handlers may use services of the surrounding program,
and by them carry out any operation on the table, and weave in turn.

* `Operation.perform_refused` — **an operation that is refused leaves the table as it was**.
* `Leads` — from one table to another by operations and weavings, in any order and nesting.
* `weave_preserves` — what neither the services nor a mark nor a woven body can break holds after a
  weaving, whether it succeeds or fails.
* `Leads.reachable` — operations and weavings lead from reachable tables to reachable tables.
* **`Leads.sound`** — **in every table that operations and weavings lead to** from the empty one,
  classes are stored under their names, names of methods differ, signatures are well formed, and
  what is woven is processed.
-/

import AspectWeaver.Proofs.Signature
import AspectWeaver.Proofs.Weaving

namespace AspectWeaver

variable {S : Interface} {σ : Type}

namespace ClassTable

/-! ### Operations -/

/-- An operation on the table of classes. -/
inductive Operation (S : Interface) where
  /-- Defines a class with these methods and bodies. -/
  | define (className : String) (methods : List (Method × Body S))
  | rename (target : MethodId) (name : String)
  | install (className : String) (method : Method) (body : Body S)
  | replace (target : MethodId) (body : Body S)
  | markProcessed (target : MethodId)

namespace Operation

/-- How an operation ends, and the table that it leaves. -/
def perform : Operation S → ClassTable S → Except Refusal Unit × ClassTable S
  | .define className methods, table =>
      table.define
        ⟨className, methods.map fun declared => { method := declared.1, body := declared.2 }⟩
  | .rename target name, table => table.rename target name
  | .install className method body, table => table.install className method body
  | .replace target body, table => table.replace target body
  | .markProcessed target, table => table.markProcessed target

/-- The table after an operation, whether it was carried out or refused. -/
def leaves (operation : Operation S) (table : ClassTable S) : ClassTable S :=
  (operation.perform table).2

/-- **An operation that is refused leaves the table as it was.** -/
theorem perform_refused {operation : Operation S} {table left : ClassTable S} {cause : Refusal}
    (refused : operation.perform table = (.error cause, left)) : left = table := by
  cases operation with
  | define className methods => exact define_refused refused
  | rename target name => exact rename_refused refused
  | install className method body => exact install_refused refused
  | replace target body => exact alter_refused refused
  | markProcessed target => exact alter_refused refused

/-- Every operation, refused or not, leads from a reachable table to a reachable one. -/
theorem reachable_leaves (operation : Operation S) {table : ClassTable S}
    (reachable : table.Reachable) : (operation.leaves table).Reachable := by
  unfold leaves
  rcases performed : operation.perform table with ⟨⟨cause⟩ | ⟨⟩, left⟩
  · obtain rfl := perform_refused performed
    exact reachable
  · cases operation with
    | define className methods =>
        refine .define reachable (fun entry member => ?_) performed
        obtain ⟨declared, _, rfl⟩ := List.mem_map.mp member
        exact ⟨rfl, rfl⟩
    | rename target name => exact .rename reachable performed
    | install className method body => exact .install reachable performed
    | replace target body => exact .replace reachable performed
    | markProcessed target => exact .markProcessed reachable performed

end Operation

/-- Operations and weavings lead from the first table to the second. -/
inductive Leads : ClassTable S → ClassTable S → Prop where
  | nothing (table : ClassTable S) : Leads table table
  | operation {before table : ClassTable S} (leads : Leads before table)
      (operation : Operation S) : Leads before (operation.leaves table)
  /-- A weaving, successful or not, by a host of which each service does no more to the table than
  operations and weavings do. -/
  | weave {σ : Type} {before : ClassTable S} {world later : World S σ} {weaver : Weaver S}
      {host : Host S σ} {className : String} {result : Except Refusal WeaveReport}
      (leads : Leads before world.classes)
      (services : ∀ request start reply finish, host request start = some (reply, finish) →
        Leads start.classes finish.classes)
      (runs : weaver.weave host className world = some (result, later)) :
      Leads before later.classes

end ClassTable

/-! ### What weavings cannot break -/

/-- The property of tables is not broken by the services of the host, by a mark, or by a body that
takes the place of another. -/
structure Host.Preserves (host : Host S σ) (holds : ClassTable S → Prop) : Prop where
  services : ∀ request world reply later, host request world = some (reply, later) →
    holds world.classes → holds later.classes
  marks : ∀ table target marked, table.markProcessed target = (.ok (), marked) →
    holds table → holds marked
  replaces : ∀ table target body replaced, table.replace target body = (.ok (), replaced) →
    holds table → holds replaced

variable {host : Host S σ} {holds : ClassTable S → Prop} {world later : World S σ}

/-- The property holds after every program, if it holds before. -/
theorem Program.run_preserves (preserves : host.Preserves holds) {α : Type}
    {program : Program (Hosted S) α} {result : α}
    (runs : program.run host world = some (result, later)) (before : holds world.classes) :
    holds later.classes := by
  induction program generalizing world with
  | done value =>
      cases runs
      exact before
  | ask request resume ih =>
      match request with
      | .log event => exact ih () runs before
      | .clock => exact ih world.clock runs before
      | .service request =>
          simp only [Program.run] at runs
          cases answered : host request world with
          | none =>
              rw [answered] at runs
              cases runs
          | some answer =>
              obtain ⟨reply, middle⟩ := answer
              rw [answered] at runs
              have kept := preserves.services request world reply middle answered before
              exact ih reply runs kept

namespace Weaver

variable {weaver : Weaver S} {className : String} {result : Except Refusal WeaveReport}

/-- The property holds after a chain was installed. -/
theorem apply_preserves (preserves : host.Preserves holds) {method : Method} {chain : Chain S}
    {report : WeaveReport} (applied : apply className method chain report world = (result, later))
    (before : holds world.classes) : holds later.classes := by
  rcases apply_cases applied with ⟨_, _, same, _⟩ | ⟨_, installs⟩
  · rw [same]
    exact before
  · cases installs with
    | mark _ marked => exact preserves.marks _ _ _ marked before
    | wrap _ _ replaced => exact preserves.replaces _ _ _ _ replaced before

/-- The property holds after a method was woven, or failed to be. -/
theorem weaveMethod_preserves (preserves : host.Preserves holds) {method : Method}
    {report : WeaveReport}
    (runs : weaver.weaveMethod host className method report world = some (result, later))
    (before : holds world.classes) : holds later.classes := by
  rcases weaveMethod_cases runs with
    ⟨_, logged⟩ | ⟨_, ⟨cause, _, built⟩ | ⟨chain, middle, built, applied⟩⟩
  · rw [logged.classes]
    exact before
  · exact Program.run_preserves preserves built before
  · exact apply_preserves preserves applied (Program.run_preserves preserves built before)

/-- The property holds after methods were woven in order. -/
theorem weaveAll_preserves (preserves : host.Preserves holds) {methods : List Method}
    {report : WeaveReport}
    (runs : weaver.weaveAll host className methods report world = some (result, later))
    (before : holds world.classes) : holds later.classes := by
  induction methods generalizing report world with
  | nil =>
      cases runs
      exact before
  | cons method rest ih =>
      rcases weaveAll_cases runs with ⟨cause, _, woven⟩ | ⟨told, middle, woven, others⟩
      · exact weaveMethod_preserves preserves woven before
      · exact ih others (weaveMethod_preserves preserves woven before)

/-- **What holds before a weaving holds after it**, whether it succeeds or fails. -/
theorem weave_preserves (preserves : host.Preserves holds)
    (runs : weaver.weave host className world = some (result, later))
    (before : holds world.classes) : holds later.classes := by
  rcases weave_cases runs with ⟨_, _, rfl⟩ | ⟨methods, last, _, all, logged⟩
  · exact before
  · rw [logged.classes]
    exact weaveAll_preserves preserves all before

end Weaver

/-! ### Tables that operations and weavings lead to -/

namespace ClassTable

/-- **Operations and weavings lead from reachable tables to reachable tables.** -/
theorem Leads.reachable {before after : ClassTable S} (leads : Leads before after)
    (reachable : before.Reachable) : after.Reachable := by
  induction leads with
  | nothing => exact reachable
  | operation _ operation ih => exact operation.reachable_leaves (ih reachable)
  | weave _ _ runs ih services =>
      refine Weaver.weave_preserves ⟨?_, ?_, ?_⟩ runs (ih reachable)
      · exact services
      · intro table target marked accepted reached
        exact .markProcessed reached accepted
      · intro table target body replaced accepted reached
        exact .replace reached accepted

/-- What the rest of the library relies on in a table. -/
structure Sound (table : ClassTable S) : Prop where
  /-- What is found under a name is what is stored under it; so no name is used twice. -/
  stored : ∀ className definition, table.find? className = some definition ↔
    (className, definition) ∈ table.classes
  /-- Every class is stored under its own name. -/
  named : ∀ stored ∈ table.classes, stored.2.name = stored.1
  /-- The names of the methods of a class differ. -/
  distinct : ∀ stored ∈ table.classes, (stored.2.entries.map Entry.name).Nodup
  /-- Signatures are accepted, and keep the rules. -/
  signatures : ∀ stored ∈ table.classes, ∀ entry ∈ stored.2.entries,
    entry.method.signatureFault? = none ∧ entry.method.Orderly
  /-- A method with a woven body is processed. -/
  marks : ∀ stored ∈ table.classes, ∀ entry ∈ stored.2.entries,
    entry.woven = true → entry.processed = true

/-- A table in good order can be relied on. -/
theorem sound_of_wellFormed {table : ClassTable S} (wellFormed : table.WellFormed) :
    table.Sound where
  stored _ _ := Named.lookup?_eq_some_iff_mem wellFormed.distinct
  named := wellFormed.named
  distinct stored member := (wellFormed.classes stored member).distinct
  signatures stored member entry inside := by
    have faultless := (wellFormed.classes stored member).signatures entry inside
    exact ⟨faultless, Method.signatureFault?_eq_none_iff.mp faultless⟩
  marks stored member := (wellFormed.classes stored member).marks

/-- **Every table that operations and weavings lead to can be relied on**, whatever `info` handlers
do meanwhile, and whatever is refused or fails. -/
theorem Leads.sound {table : ClassTable S} (leads : Leads {} table) : table.Sound :=
  sound_of_wellFormed (leads.reachable .empty).wellFormed

/-! ### A handler that renames the method it runs for -/

/-- A surrounding program with one service. -/
abbrev oneService : Interface := ⟨Unit, fun _ => Unit⟩

/-- The service renames a method. -/
def renamer : Host oneService Unit := fun _ world =>
  some ((), { world with
    classes := (Operation.rename ⟨"Job", "run"⟩ "ran").leaves world.classes })

/-- An annotation that asks for the service, and an advice function. -/
def meddling : Registry oneService where
  bindings := [("note", ⟨"note", .info, .info fun _ _ =>
    .ask (.service ()) fun _ => .done (.ok ())⟩)]
  functions := [⟨"stamp", .before fun _ _ => .done (.ok ())⟩]

/-- A class with one method, which asks for both. -/
def meddled : Operation oneService :=
  .define "Job" [({ name := "run", documentation := some "@note\n@before stamp" },
    fun _ arguments => .done (.ok .null, arguments))]

/-- The method is gone when its body is looked for, so the weaving fails; and another method of its
new name is refused. -/
theorem sound_meddled :
    ∃ later : World oneService Unit,
      Weaver.weave ⟨meddling, .skip⟩ renamer "Job" ⟨meddled.leaves {}, 0, [], ()⟩ =
        some (.error (.methodNotFound ⟨"Job", "run"⟩), later) ∧
      ∀ body : Body oneService,
        Leads {} ((Operation.install "Job" { name := "ran" } body).leaves later.classes) ∧
        Sound ((Operation.install "Job" { name := "ran" } body).leaves later.classes) := by
  obtain ⟨later, runs⟩ := Weaver.refused?_eq_some_iff.mp
    (show Weaver.refused? ⟨meddling, .skip⟩ renamer "Job" ⟨meddled.leaves {}, 0, [], ()⟩ =
      some (.methodNotFound ⟨"Job", "run"⟩) by decide +kernel)
  refine ⟨later, runs, fun body => ?_⟩
  have defined : Leads {} (meddled.leaves ({} : ClassTable oneService)) :=
    .operation (.nothing _) meddled
  have services : ∀ request start reply finish,
      renamer request start = some (reply, finish) → Leads start.classes finish.classes := by
    rintro request start reply finish ⟨⟩
    exact .operation (.nothing _) _
  have woven : Leads {} later.classes := .weave defined services runs
  have leads := woven.operation (.install "Job" { name := "ran" } body)
  exact ⟨leads, leads.sound⟩

end ClassTable

end AspectWeaver
