/-
**The table of classes.**

A class is an ordered list of methods, each with its body and two marks: woven, if a woven body is
installed, and processed, if weaving is through with it. The table stores each class under a name.
An operation on the table ends with the table that it leaves, whether it was carried out or refused.

* `find?_define` — a definition replaces the class of its name and no other.
* `withClass_of_find?`, `withClass_of_unknown` — what work on a class comes to: the class is
  changed, or there is none.
* `alter_eq`, `rename_eq` — **an operation checks before it writes**: it changes its class or leaves
  everything as it was.
* `withClass_refused` — work that fails without a change to its class changes nothing; so do
  `define_refused`, `alter_refused`, `rename_refused`, `install_refused`.
* `find?_alter` — **local writes**: a change to one method leaves every other class as it was.
-/

import AspectWeaver.Advice
import AspectWeaver.Calling
import AspectWeaver.Named

namespace AspectWeaver

variable {S : Interface}

/-- A method of a class, with its body. -/
structure Entry (S : Interface) where
  method : Method
  body : Body S
  /-- A woven body is installed. -/
  woven : Bool := false
  /-- Weaving is through with the method, whether or not it was wrapped. -/
  processed : Bool := false

/-- The name of the method of an entry. -/
def Entry.name (entry : Entry S) : String := entry.method.name

/-- A class: its methods in the order of definition. -/
structure ClassDefinition (S : Interface) where
  name : String
  entries : List (Entry S)

/-- All classes, each stored under a name. -/
structure ClassTable (S : Interface) where
  classes : List (String × ClassDefinition S) := []

namespace ClassDefinition

/-- The entry of a method. -/
def find? (definition : ClassDefinition S) (method : String) : Option (Entry S) :=
  Named.find? Entry.name method definition.entries

/-- The earliest offence among entries, after methods of the names `seen`: a name that occurs twice,
or a malformed signature. -/
def firstOffence? (className : String) (seen : List String) : List (Entry S) → Option Refusal
  | [] => none
  | entry :: rest =>
      if seen.contains entry.name then some (.methodExists ⟨className, entry.name⟩)
      else match entry.method.signatureFault? with
        | some fault => some (.malformedSignature ⟨className, entry.name⟩ fault)
        | none => firstOffence? className (entry.name :: seen) rest

/-- The earliest offence in a class. -/
def offence? (definition : ClassDefinition S) : Option Refusal :=
  firstOffence? definition.name [] definition.entries

/-- Changes the entry of a method of a class. -/
def alter (method : String) (change : Entry S → Entry S) (definition : ClassDefinition S) :
    ClassDefinition S :=
  { definition with entries := Named.update Entry.name method change definition.entries }

/-- The class with one method more, behind the others. -/
def add (method : Method) (body : Body S) (definition : ClassDefinition S) : ClassDefinition S :=
  { definition with entries := definition.entries ++ [{ method := method, body := body }] }

/-- Changes the entry of a method of a class, if there is one. -/
def revise (target : MethodId) (change : Entry S → Entry S) (definition : ClassDefinition S) :
    Except Refusal Unit × ClassDefinition S :=
  match definition.find? target.method with
  | none => (.error (.methodNotFound target), definition)
  | some _ => (.ok (), definition.alter target.method change)

/-- A change to a method that is not there leaves the class as it was. -/
theorem revise_refused {target : MethodId} {change : Entry S → Entry S}
    {definition left : ClassDefinition S} {cause : Refusal}
    (refused : definition.revise target change = (.error cause, left)) : left = definition := by
  unfold revise at refused
  split at refused
  · cases refused
    rfl
  · cases refused

end ClassDefinition

namespace ClassTable

/-! ### Looking -/

/-- The class of a name. -/
def find? (table : ClassTable S) (className : String) : Option (ClassDefinition S) :=
  Named.lookup? className table.classes

/-- Whether there is a class of this name. -/
def contains (table : ClassTable S) (className : String) : Bool := (table.find? className).isSome

/-- The methods of a class, in order. -/
def methods? (table : ClassTable S) (className : String) : Option (List Method) :=
  (table.find? className).map fun definition => definition.entries.map Entry.method

/-- The entry of a method. -/
def entry? (table : ClassTable S) (target : MethodId) : Option (Entry S) :=
  (table.find? target.className).bind fun definition => definition.find? target.method

/-- The entry of a method, or why there is none. -/
def entry (table : ClassTable S) (target : MethodId) : Except Refusal (Entry S) :=
  match table.find? target.className with
  | none => .error (.classNotFound target.className)
  | some definition =>
      match definition.find? target.method with
      | none => .error (.methodNotFound target)
      | some entry => .ok entry

/-- The body that a method has now. -/
def body (table : ClassTable S) (target : MethodId) : Except Refusal (Body S) :=
  (table.entry target).map Entry.body

/-- Whether a method has a woven body. -/
def isWoven (table : ClassTable S) (target : MethodId) : Bool :=
  (table.entry? target).any Entry.woven

/-- Whether weaving is through with a method. -/
def isProcessed (table : ClassTable S) (target : MethodId) : Bool :=
  (table.entry? target).any Entry.processed

/-! ### Changing -/

/-- Defines a class, in the place of one of its name if there is one. -/
def define (table : ClassTable S) (definition : ClassDefinition S) :
    Except Refusal Unit × ClassTable S :=
  match definition.offence? with
  | some cause => (.error cause, table)
  | none => (.ok (), ⟨Named.store definition.name definition table.classes⟩)

/-- Works on a class in its place. What the work leaves of the class stays, also if it fails. -/
def withClass (table : ClassTable S) (className : String)
    (work : ClassDefinition S → Except Refusal Unit × ClassDefinition S) :
    Except Refusal Unit × ClassTable S :=
  match table.find? className with
  | none => (.error (.classNotFound className), table)
  | some definition =>
      let (outcome, left) := work definition
      (outcome, ⟨Named.store className left table.classes⟩)

/-- Changes the entry of a method. -/
def alter (table : ClassTable S) (target : MethodId) (change : Entry S → Entry S) :
    Except Refusal Unit × ClassTable S :=
  table.withClass target.className (ClassDefinition.revise target change)

/-- Gives a method another name. -/
def rename (table : ClassTable S) (target : MethodId) (name : String) :
    Except Refusal Unit × ClassTable S :=
  table.withClass target.className fun definition =>
    if (definition.find? name).isSome then
      (.error (.methodExists ⟨target.className, name⟩), definition)
    else
      definition.revise target fun entry =>
        { entry with method := { entry.method with name := name } }

/-- Adds a method at the end of a class. -/
def install (table : ClassTable S) (className : String) (method : Method) (body : Body S) :
    Except Refusal Unit × ClassTable S :=
  match method.checkSignature className with
  | .error cause => (.error cause, table)
  | .ok () =>
      table.withClass className fun definition =>
        if (definition.find? method.name).isSome then
          (.error (.methodExists ⟨className, method.name⟩), definition)
        else (.ok (), definition.add method body)

/-- Installs a woven body; the declaration stays. -/
def replace (table : ClassTable S) (target : MethodId) (body : Body S) :
    Except Refusal Unit × ClassTable S :=
  table.alter target fun entry => { entry with body := body, woven := true, processed := true }

/-- Marks a method as one that weaving is through with. -/
def markProcessed (table : ClassTable S) (target : MethodId) :
    Except Refusal Unit × ClassTable S :=
  table.alter target fun entry => { entry with processed := true }

/-! ### Calling -/

/-- Calls a method. The checks come in the order: class, method, visibility, receiver, arguments;
the first that fails ends the call before the body runs. -/
def invoke (table : ClassTable S) (target : MethodId) (receiver : Receiver) (site : CallSite)
    (arguments : List Value) : Program (Hosted S) (Outcome × List Value) :=
  match table.entry target with
  | .error cause => .done (.error (.refused cause), arguments)
  | .ok entry =>
      if entry.method.visibility.allows site then
        match entry.method.acceptReceiver target.className receiver with
        | .error cause => .done (.error (.refused cause), arguments)
        | .ok accepted =>
            match entry.method.bindArguments target.className arguments with
            | (bound, some cause) => .done (.error (.refused cause), bound)
            | (bound, none) => entry.body accepted bound
      else
        .done (.error (.refused (.notAccessible target entry.method.visibility site)), arguments)

/-! ### What operations come to -/

/-- The table with one class changed. -/
def rework (table : ClassTable S) (className : String)
    (change : ClassDefinition S → ClassDefinition S) : ClassTable S :=
  ⟨Named.revise className change table.classes⟩

section Laws

variable {table : ClassTable S} {className : String} {definition : ClassDefinition S}

theorem find?_rework (change : ClassDefinition S → ClassDefinition S) (wanted : String) :
    (table.rework className change).find? wanted =
      if wanted = className then (table.find? className).map change else table.find? wanted :=
  Named.lookup?_revise className change wanted table.classes

/-- Two changes of a class are one. -/
theorem rework_rework {first second : ClassDefinition S → ClassDefinition S} :
    (table.rework className first).rework className second =
      table.rework className fun definition => second (first definition) :=
  congrArg ClassTable.mk
    (Named.update_update Prod.fst
      (fun stored : String × ClassDefinition S => (stored.1, first stored.2)) _ (fun _ => rfl)
      className table.classes)

/-- To change a class into itself changes nothing. -/
theorem rework_id (table : ClassTable S) (className : String) :
    table.rework className id = table :=
  congrArg ClassTable.mk (Named.update_id Prod.fst className table.classes)

/-- The entry of a method is there exactly if asking for it is not refused. -/
theorem entry_eq_ok_iff {target : MethodId} {entry : Entry S} :
    table.entry target = .ok entry ↔ table.entry? target = some entry := by
  unfold ClassTable.entry ClassTable.entry?
  cases table.find? target.className with
  | none => simp
  | some definition =>
      cases found : definition.find? target.method with
      | none => simp [found]
      | some entry => simp [found]

/-- A method whose entry is refused has none. -/
theorem entry?_of_refused {target : MethodId} {cause : Refusal}
    (refused : table.entry target = .error cause) : table.entry? target = none := by
  refine Option.eq_none_iff_forall_ne_some.mpr fun entry present => ?_
  rw [entry_eq_ok_iff.mpr present] at refused
  cases refused

variable {work : ClassDefinition S → Except Refusal Unit × ClassDefinition S}

/-- Work on a class ends as the work does, and changes the class in its place. -/
theorem withClass_of_find? (found : table.find? className = some definition)
    {outcome : Except Refusal Unit} {change : ClassDefinition S → ClassDefinition S}
    (worked : work definition = (outcome, change definition)) :
    table.withClass className work = (outcome, table.rework className change) := by
  rw [withClass, found]
  dsimp only
  rw [worked, Named.store_eq_revise found rfl]
  rfl

/-- On a class that is not there nothing can be done. -/
theorem withClass_of_unknown (unknown : table.find? className = none) :
    table.withClass className work = (.error (.classNotFound className), table) := by
  rw [withClass, unknown]

/-- Work on a class that fails and leaves the class as it was leaves the table as it was. -/
theorem withClass_of_refused (found : table.find? className = some definition) {cause : Refusal}
    (refused : work definition = (.error cause, definition)) :
    table.withClass className work = (.error cause, table) := by
  rw [withClass_of_find? found (show work definition = (_, id definition) from refused), rework_id]

/-- **A change to a method changes its class**, or the method is not there and everything stays. -/
theorem alter_eq (table : ClassTable S) (target : MethodId) (change : Entry S → Entry S) :
    table.alter target change =
      match table.entry target with
      | .error cause => (.error cause, table)
      | .ok _ =>
          (.ok (), table.rework target.className (ClassDefinition.alter target.method change)) := by
  unfold alter ClassTable.entry
  cases found : table.find? target.className with
  | none => exact withClass_of_unknown found
  | some definition =>
      cases inside : definition.find? target.method with
      | none =>
          have refused : definition.revise target change =
              (.error (.methodNotFound target), definition) := by
            rw [ClassDefinition.revise, inside]
          rw [withClass_of_refused found refused]
          dsimp only
          rw [inside]
      | some entry =>
          have revised : definition.revise target change =
              (.ok (), definition.alter target.method change) := by
            rw [ClassDefinition.revise, inside]
          rw [withClass_of_find? found revised]
          dsimp only
          rw [inside]

/-- What a change to a method does when it is accepted. -/
theorem alter_eq_ok {altered : ClassTable S} {target : MethodId} {change : Entry S → Entry S}
    (accepted : table.alter target change = (.ok (), altered)) :
    (∃ entry, table.entry? target = some entry) ∧
      altered = table.rework target.className (ClassDefinition.alter target.method change) := by
  rw [alter_eq] at accepted
  cases found : table.entry target with
  | error cause =>
      rw [found] at accepted
      cases accepted
  | ok entry =>
      rw [found] at accepted
      cases accepted
      exact ⟨⟨entry, entry_eq_ok_iff.mp found⟩, rfl⟩

/-- **A method is renamed by a change to its entry**, but to a name that is taken it is not. -/
theorem rename_eq (table : ClassTable S) (target : MethodId) (name : String) :
    table.rename target name =
      if (table.entry? ⟨target.className, name⟩).isSome then
        (.error (.methodExists ⟨target.className, name⟩), table)
      else
        table.alter target fun entry =>
          { entry with method := { entry.method with name := name } } := by
  unfold rename alter entry?
  cases found : table.find? target.className with
  | none =>
      rw [withClass_of_unknown found, withClass_of_unknown found]
      rfl
  | some definition =>
      dsimp only [Option.bind_some]
      split
      · rename_i taken
        exact withClass_of_refused found (if_pos taken)
      · rename_i free
        rw [withClass, withClass, found]
        dsimp only
        rw [if_neg free]

/-! ### What is refused leaves everything as it was -/

section Refused

variable {left : ClassTable S} {cause : Refusal}

/-- If work that fails leaves each class as it was, it leaves the table as it was. -/
theorem withClass_refused
    (keeps : ∀ definition cause left, work definition = (.error cause, left) → left = definition)
    (refused : table.withClass className work = (.error cause, left)) : left = table := by
  cases found : table.find? className with
  | none =>
      rw [withClass_of_unknown found] at refused
      cases refused
      rfl
  | some definition =>
      rcases worked : work definition with ⟨outcome, kept⟩
      rw [withClass, found] at refused
      dsimp only at refused
      rw [worked] at refused
      cases refused
      obtain rfl := keeps definition cause kept worked
      exact congrArg ClassTable.mk (Named.store_self found)

theorem define_refused (refused : table.define definition = (.error cause, left)) :
    left = table := by
  unfold define at refused
  split at refused
  · cases refused
    rfl
  · cases refused

theorem alter_refused {target : MethodId} {change : Entry S → Entry S}
    (refused : table.alter target change = (.error cause, left)) : left = table :=
  withClass_refused (fun _ _ _ => ClassDefinition.revise_refused) refused

theorem rename_refused {target : MethodId} {name : String}
    (refused : table.rename target name = (.error cause, left)) : left = table := by
  refine withClass_refused (fun definition because kept failed => ?_) refused
  split at failed
  · cases failed
    rfl
  · exact ClassDefinition.revise_refused failed

theorem install_refused {method : Method} {body : Body S}
    (refused : table.install className method body = (.error cause, left)) : left = table := by
  unfold install at refused
  split at refused
  · cases refused
    rfl
  · refine withClass_refused (fun definition because kept failed => ?_) refused
    split at failed
    · cases failed
      rfl
    · cases failed

end Refused

/-! ### What changes, and what stays -/

/-- A definition replaces the class of its name and no other. -/
theorem find?_define {defined : ClassTable S}
    (accepted : table.define definition = (.ok (), defined)) (className : String) :
    defined.find? className =
      if className = definition.name then some definition else table.find? className := by
  unfold define at accepted
  split at accepted
  · cases accepted
  · cases accepted
    exact Named.lookup?_store definition.name definition className table.classes

/-- A change to one method leaves every other class as it was. -/
theorem find?_alter {altered : ClassTable S} {target : MethodId} {change : Entry S → Entry S}
    (accepted : table.alter target change = (.ok (), altered)) (className : String) :
    altered.find? className =
      if className = target.className then
        (table.find? className).map (ClassDefinition.alter target.method change)
      else table.find? className := by
  obtain ⟨_, rfl⟩ := alter_eq_ok accepted
  rw [find?_rework]
  split
  · rename_i named
    rw [named]
  · rfl

end Laws

end ClassTable

end AspectWeaver
