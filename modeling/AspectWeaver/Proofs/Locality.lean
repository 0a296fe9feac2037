/-
**An operation on the table of classes is carried out or refused, and changes one class.**

All that an operation has to check it checks before it writes. What it writes is said here method by
method, with the place of each.

* `Refused` — an operation on a table is refused, and why: the earliest of the causes there are.
* `Edits` — what an operation makes of the methods of its class.
* `perform_eq_error_iff` — an operation is refused exactly for its cause, and for no other, and then
  the table is as it was.
* `edits_of_perform` — an operation that is carried out edits its class.
* `find?_perform` — every other class stays.
* `rename_back` — a method that was renamed can be renamed back, and nothing has changed.
* **`Reachable.atomic`** — **in every reachable table**, those that weavings lead to among them, a
  refused operation leaves everything as it was, one that is carried out edits its class and leaves
  every other class as it was, and renaming a method back restores the table.
-/

import AspectWeaver.Proofs.Entries
import AspectWeaver.Proofs.Operations

namespace AspectWeaver

variable {S : Interface}

/-! ### A method among the others -/

/-- The method between others is the only one of the name. -/
structure Entry.Alone (name : String) (before : List (Entry S)) (entry : Entry S)
    (after : List (Entry S)) : Prop where
  named : entry.name = name
  others : name ∉ (before ++ after).map Entry.name

/-- A name is free exactly if neither the method between others nor one of these has it. -/
theorem Entry.not_mem_middle_iff {name : String} {before after : List (Entry S)}
    {entry : Entry S} :
    name ∉ (before ++ entry :: after).map Entry.name ↔
      entry.name ≠ name ∧ name ∉ (before ++ after).map Entry.name := by
  rw [(List.perm_middle.map Entry.name).mem_iff, List.map_cons, List.mem_cons, not_or, ne_comm]

namespace ClassDefinition

/-- A method that is looked up has its place, and is the only one of its name. -/
theorem WellFormed.exists_alone {definition : ClassDefinition S}
    (orderly : definition.WellFormed) {method : String} {entry : Entry S}
    (found : definition.find? method = some entry) :
    ∃ before after, definition.entries = before ++ entry :: after ∧
      Entry.Alone method before entry after := by
  obtain ⟨before, after, whole⟩ := List.append_of_mem (Named.mem_of_find? Entry.name found)
  have named := Named.key_of_find? Entry.name found
  have distinct := orderly.distinct
  rw [whole, (List.perm_middle.map Entry.name).nodup_iff, List.map_cons, List.nodup_cons,
    named] at distinct
  exact ⟨before, after, whole, named, distinct.1⟩

end ClassDefinition

/-- The only method of a name is the one that is looked up. -/
theorem Entry.Alone.find? {name : String} {before after : List (Entry S)} {entry : Entry S}
    (alone : Alone name before entry after) :
    Named.find? Entry.name name (before ++ entry :: after) = some entry := by
  obtain ⟨rfl, others⟩ := alone
  rw [List.map_append] at others
  exact Named.find?_middle Entry.name (fun inside => others (List.mem_append_left _ inside)) after

/-- To change the only method of a name is to put another in its place. -/
theorem Entry.Alone.update {name : String} {before after : List (Entry S)} {entry : Entry S}
    (alone : Alone name before entry after) (change : Entry S → Entry S) :
    Named.update Entry.name name change (before ++ entry :: after) =
      before ++ change entry :: after := by
  obtain ⟨rfl, others⟩ := alone
  rw [List.map_append] at others
  exact Named.update_middle Entry.name (fun inside => others (List.mem_append_left _ inside))
    change after

namespace ClassTable

/-- The methods of a class with their bodies and marks, in order. -/
def entries? (table : ClassTable S) (className : String) : Option (List (Entry S)) :=
  (table.find? className).map ClassDefinition.entries

section Entries

variable {table : ClassTable S} {className : String} {definition : ClassDefinition S}
  {entries : List (Entry S)}

theorem entries?_of_find? (found : table.find? className = some definition)
    (whole : definition.entries = entries) : table.entries? className = some entries := by
  rw [entries?, found, ← whole]
  rfl

theorem entries?_setEntries (found : table.find? className = some definition)
    (entries : List (Entry S)) :
    (table.setEntries className entries).entries? className = some entries :=
  entries?_of_find? (find?_setEntries_self found) rfl

end Entries

/-- A method is not there, for want of the class or of the method. -/
inductive Absent (table : ClassTable S) (target : MethodId) : Refusal → Prop where
  | noClass (unknown : table.find? target.className = none) :
      Absent table target (.classNotFound target.className)
  | noMethod {definition : ClassDefinition S}
      (found : table.find? target.className = some definition)
      (unknown : definition.find? target.method = none) :
      Absent table target (.methodNotFound target)

/-- The entry of a method is refused exactly if the method is not there. -/
theorem entry_eq_error_iff {table : ClassTable S} {target : MethodId} {cause : Refusal} :
    table.entry target = .error cause ↔ table.Absent target cause := by
  constructor
  · intro refused
    unfold ClassTable.entry at refused
    split at refused
    · rename_i unknown
      cases refused
      exact .noClass unknown
    · rename_i definition found
      split at refused
      · rename_i unknown
        cases refused
        exact .noMethod found unknown
      · cases refused
  · rintro (unknown | ⟨found, unknown⟩)
    · rw [ClassTable.entry, unknown]
    · rw [ClassTable.entry, found]
      dsimp only
      rw [unknown]

/-- A change to a method is refused exactly if the method is not there. -/
theorem alter_eq_error_iff {table : ClassTable S} {target : MethodId}
    {change : Entry S → Entry S} {cause : Refusal} :
    table.alter target change = (.error cause, table) ↔ table.Absent target cause := by
  rw [← entry_eq_error_iff, alter_eq]
  cases table.entry target <;> simp

namespace Operation

/-! ### What an operation does -/

/-- The class that an operation is for. -/
def className : Operation S → String
  | .define className _ => className
  | .rename target _ => target.className
  | .install className _ _ => className
  | .replace target _ => target.className
  | .markProcessed target => target.className

/-- Methods as a definition gives them, with both marks clear. -/
def declared (methods : List (Method × Body S)) : List (Entry S) :=
  methods.map fun declared => ⟨declared.1, declared.2, false, false⟩

/-- An operation on a table is refused, and why. -/
inductive Refused (table : ClassTable S) : Operation S → Refusal → Prop where
  | define {className : String} {methods : List (Method × Body S)} {cause : Refusal}
      (earliest : ClassDefinition.offence? ⟨className, declared methods⟩ = some cause) :
      Refused table (.define className methods) cause
  | renameTaken {target : MethodId} {name : String} {entry : Entry S}
      (taken : table.entry? ⟨target.className, name⟩ = some entry) :
      Refused table (.rename target name) (.methodExists ⟨target.className, name⟩)
  | renameAbsent {target : MethodId} {name : String} {cause : Refusal}
      (free : table.entry? ⟨target.className, name⟩ = none)
      (absent : table.Absent target cause) : Refused table (.rename target name) cause
  | installMalformed {className : String} {method : Method} {body : Body S}
      {fault : SignatureFault} (malformed : method.signatureFault? = some fault) :
      Refused table (.install className method body)
        (.malformedSignature ⟨className, method.name⟩ fault)
  | installAbsent {className : String} {method : Method} {body : Body S}
      (faultless : method.signatureFault? = none) (unknown : table.find? className = none) :
      Refused table (.install className method body) (.classNotFound className)
  | installTaken {className : String} {method : Method} {body : Body S} {entry : Entry S}
      (faultless : method.signatureFault? = none)
      (taken : table.entry? ⟨className, method.name⟩ = some entry) :
      Refused table (.install className method body) (.methodExists ⟨className, method.name⟩)
  | replace {target : MethodId} {body : Body S} {cause : Refusal}
      (absent : table.Absent target cause) : Refused table (.replace target body) cause
  | markProcessed {target : MethodId} {cause : Refusal}
      (absent : table.Absent target cause) : Refused table (.markProcessed target) cause

/-- What an operation makes of the methods of its class, which has none before it is defined. -/
inductive Edits : Operation S → Option (List (Entry S)) → List (Entry S) → Prop where
  /-- The class is the one that is given, whatever it was. -/
  | define {className : String} {methods : List (Method × Body S)}
      {former? : Option (List (Entry S))} :
      Edits (.define className methods) former? (declared methods)
  /-- The method gets the name in its place, and nothing else. -/
  | rename {target : MethodId} {name : String} {before after : List (Entry S)} {entry : Entry S}
      (alone : Entry.Alone target.method before entry after)
      (free : name ∉ (before ++ entry :: after).map Entry.name) :
      Edits (.rename target name) (some (before ++ entry :: after))
        (before ++ ⟨{ entry.method with name := name }, entry.body, entry.woven,
          entry.processed⟩ :: after)
  /-- The method comes last. -/
  | install {className : String} {method : Method} {body : Body S} {former : List (Entry S)}
      (free : method.name ∉ former.map Entry.name) :
      Edits (.install className method body) (some former)
        (former ++ [⟨method, body, false, false⟩])
  /-- The method keeps its declaration. -/
  | replace {target : MethodId} {body : Body S} {before after : List (Entry S)} {entry : Entry S}
      (alone : Entry.Alone target.method before entry after) :
      Edits (.replace target body) (some (before ++ entry :: after))
        (before ++ ⟨entry.method, body, true, true⟩ :: after)
  /-- The method gets the mark, and nothing else. -/
  | markProcessed {target : MethodId} {before after : List (Entry S)} {entry : Entry S}
      (alone : Entry.Alone target.method before entry after) :
      Edits (.markProcessed target) (some (before ++ entry :: after))
        (before ++ ⟨entry.method, entry.body, entry.woven, true⟩ :: after)

/-! ### When an operation is refused -/

variable {table changed : ClassTable S}

/-- A method is installed exactly if its signature is well formed, there is the class, and the name
is free. -/
theorem install_eq_error_iff {className : String} {method : Method} {body : Body S}
    {cause : Refusal} :
    table.install className method body = (.error cause, table) ↔
      Refused table (.install className method body) cause := by
  constructor
  · intro refused
    unfold ClassTable.install Method.checkSignature at refused
    cases signature : method.signatureFault? with
    | some fault =>
        rw [signature] at refused
        cases refused
        exact .installMalformed signature
    | none =>
        rw [signature] at refused
        dsimp only at refused
        cases found : table.find? className with
        | none =>
            rw [withClass_of_unknown found] at refused
            cases refused
            exact .installAbsent signature found
        | some definition =>
            cases inside : definition.find? method.name with
            | none =>
                rw [withClass_of_find? found (if_neg (by simp [inside]))] at refused
                cases refused
            | some entry =>
                rw [withClass_of_refused found (if_pos (by simp [inside]))] at refused
                cases refused
                have present : table.entry? ⟨className, method.name⟩ = some entry := by
                  rw [ClassTable.entry?, found]
                  exact inside
                exact .installTaken signature present
  · intro refused
    unfold ClassTable.install Method.checkSignature
    cases refused with
    | installMalformed malformed => rw [malformed]
    | installAbsent faultless unknown =>
        rw [faultless]
        exact withClass_of_unknown unknown
    | installTaken faultless taken =>
        obtain ⟨definition, found, inside⟩ := Option.bind_eq_some_iff.mp taken
        have occupied : (definition.find? method.name).isSome = true :=
          Option.isSome_iff_exists.mpr ⟨_, inside⟩
        rw [faultless]
        exact withClass_of_refused found (if_pos occupied)

/-- An operation is refused exactly for its cause, and then the table is as it was. -/
theorem perform_eq_error_iff {operation : Operation S} {cause : Refusal} :
    operation.perform table = (.error cause, table) ↔ operation.Refused table cause := by
  cases operation with
  | define className methods =>
      change table.define ⟨className, declared methods⟩ = _ ↔ _
      unfold ClassTable.define
      constructor
      · intro refused
        split at refused
        · rename_i earliest
          cases refused
          exact .define earliest
        · cases refused
      · rintro ⟨earliest⟩
        rw [earliest]
  | rename target name =>
      change table.rename target name = _ ↔ _
      rw [rename_eq]
      cases taken : table.entry? ⟨target.className, name⟩ with
      | some entry =>
          rw [if_pos (Option.isSome_some)]
          constructor
          · intro refused
            cases refused
            exact .renameTaken taken
          · intro refused
            cases refused with
            | renameTaken _ => rfl
            | renameAbsent free _ => exact nomatch taken.symm.trans free
      | none =>
          rw [if_neg (by simp), alter_eq_error_iff]
          constructor
          · exact .renameAbsent taken
          · intro refused
            cases refused with
            | renameTaken present => exact nomatch present.symm.trans taken
            | renameAbsent _ absent => exact absent
  | install className method body => exact install_eq_error_iff
  | replace target body =>
      refine alter_eq_error_iff.trans ⟨.replace, fun refused => ?_⟩
      cases refused with
      | replace absent => exact absent
  | markProcessed target =>
      refine alter_eq_error_iff.trans ⟨.markProcessed, fun refused => ?_⟩
      cases refused with
      | markProcessed absent => exact absent

/-! ### What an operation changes -/

/-- A change to the only method of its name in a class. -/
theorem alter_setEntries_alone {className method : String} {definition : ClassDefinition S}
    (found : table.find? className = some definition) {before after : List (Entry S)}
    {entry : Entry S} (alone : Entry.Alone method before entry after)
    (change : Entry S → Entry S) :
    (table.setEntries className (before ++ entry :: after)).alter ⟨className, method⟩ change =
      (.ok (), table.setEntries className (before ++ change entry :: after)) := by
  rw [alter_setEntries found alone.find? change, alone.update change]

/-- A change that is accepted is one to the only method of its name in the class. -/
theorem alter_eq_setEntries (orderly : table.WellFormed) {target : MethodId}
    {change : Entry S → Entry S} (accepted : table.alter target change = (.ok (), changed)) :
    ∃ definition before entry after, table.find? target.className = some definition ∧
      definition.entries = before ++ entry :: after ∧
      Entry.Alone target.method before entry after ∧
      changed = table.setEntries target.className (before ++ change entry :: after) := by
  obtain ⟨⟨entry, present⟩, _⟩ := alter_eq_ok accepted
  obtain ⟨definition, found, inside⟩ := Option.bind_eq_some_iff.mp present
  obtain ⟨before, after, whole, alone⟩ := (orderly.of_find? found).exists_alone inside
  refine ⟨definition, before, entry, after, found, whole, alone, ?_⟩
  have made := alter_setEntries_alone found alone change
  rw [← whole, setEntries_self found] at made
  exact congrArg Prod.snd (accepted.symm.trans made)

/-- A method that is renamed is the only one of its name, and the new name is free. -/
theorem rename_eq_setEntries (orderly : table.WellFormed) {target : MethodId} {name : String}
    (accepted : table.rename target name = (.ok (), changed)) :
    ∃ definition before entry after, table.find? target.className = some definition ∧
      definition.entries = before ++ entry :: after ∧
      Entry.Alone target.method before entry after ∧
      name ∉ (before ++ entry :: after).map Entry.name ∧
      changed = table.setEntries target.className
        (before ++ { entry with method := { entry.method with name := name } } :: after) := by
  rw [rename_eq] at accepted
  split at accepted
  · cases accepted
  rename_i taken
  obtain ⟨definition, before, entry, after, found, whole, alone, made⟩ :=
    alter_eq_setEntries orderly accepted
  have free : definition.find? name = none := by simpa [ClassTable.entry?, found] using taken
  refine ⟨definition, before, entry, after, found, whole, alone, ?_, made⟩
  rw [← whole]
  exact (Named.find?_eq_none_iff Entry.name).mp free

/-- An operation that is carried out edits its class. -/
theorem edits_of_perform (orderly : table.WellFormed) {operation : Operation S}
    (performed : operation.perform table = (.ok (), changed)) :
    ∃ former? entries, table.entries? operation.className = former? ∧
      changed.entries? operation.className = some entries ∧ operation.Edits former? entries := by
  cases operation with
  | define className methods =>
      have stands := (find?_define performed className).trans (if_pos rfl)
      exact ⟨_, _, rfl, entries?_of_find? stands rfl, .define⟩
  | rename target name =>
      obtain ⟨definition, before, entry, after, found, whole, alone, free, rfl⟩ :=
        rename_eq_setEntries orderly performed
      exact ⟨_, _, entries?_of_find? found whole, entries?_setEntries found _, .rename alone free⟩
  | install className method body =>
      obtain ⟨_, definition, found, free, rfl⟩ := install_eq_ok performed
      have stands : (table.rework className (.add method body)).find? className =
          some (definition.add method body) := by
        rw [find?_rework, if_pos rfl, found]
        rfl
      exact ⟨_, _, entries?_of_find? found rfl, entries?_of_find? stands rfl,
        .install ((Named.find?_eq_none_iff Entry.name).mp free)⟩
  | replace target body =>
      obtain ⟨definition, before, entry, after, found, whole, alone, rfl⟩ :=
        alter_eq_setEntries orderly performed
      exact ⟨_, _, entries?_of_find? found whole, entries?_setEntries found _, .replace alone⟩
  | markProcessed target =>
      obtain ⟨definition, before, entry, after, found, whole, alone, rfl⟩ :=
        alter_eq_setEntries orderly performed
      exact ⟨_, _, entries?_of_find? found whole, entries?_setEntries found _, .markProcessed alone⟩

/-- An operation leaves every other class as it was. -/
theorem find?_perform {operation : Operation S}
    (performed : operation.perform table = (.ok (), changed)) {other : String}
    (different : other ≠ operation.className) : changed.find? other = table.find? other := by
  cases operation with
  | define className methods => exact (find?_define performed other).trans (if_neg different)
  | rename target name =>
      change table.rename target name = _ at performed
      rw [rename_eq] at performed
      split at performed
      · cases performed
      · exact (find?_alter performed other).trans (if_neg different)
  | install className method body =>
      obtain ⟨_, definition, found, _, rfl⟩ := install_eq_ok performed
      exact (find?_rework _ other).trans (if_neg different)
  | replace target body => exact (find?_alter performed other).trans (if_neg different)
  | markProcessed target => exact (find?_alter performed other).trans (if_neg different)

/-- A method that was renamed can be renamed back, and then everything is as it was. -/
theorem rename_back (orderly : table.WellFormed) {target : MethodId} {name : String}
    (accepted : table.rename target name = (.ok (), changed)) :
    changed.rename ⟨target.className, name⟩ target.method = (.ok (), table) := by
  obtain ⟨definition, before, entry, after, found, whole, alone, free, rfl⟩ :=
    rename_eq_setEntries orderly accepted
  obtain ⟨different, others⟩ := Entry.not_mem_middle_iff.mp free
  let renamed : Entry S := { entry with method := { entry.method with name := name } }
  -- the old name is free again, and the new one has taken its place
  have vacated : ClassTable.entry?
      (table.setEntries target.className (before ++ renamed :: after)) target = none := by
    refine (entry_setEntries found target.method).trans ((Named.find?_eq_none_iff _).mpr ?_)
    refine Entry.not_mem_middle_iff.mpr ⟨fun same => different ?_, alone.others⟩
    exact alone.named.trans same.symm
  have again : Entry.Alone name before renamed after := ⟨rfl, others⟩
  rw [rename_eq, vacated, if_neg (by simp), alter_setEntries_alone found again, ← alone.named]
  exact congrArg (Prod.mk _) (whole ▸ setEntries_self found)

/-- What an operation does to a table, and all it does. -/
structure Atomic (operation : Operation S) (table : ClassTable S) : Prop where
  /-- It is refused exactly for its cause. -/
  refused : ∀ cause, (operation.perform table).1 = .error cause ↔ operation.Refused table cause
  /-- If it is refused, everything stays. -/
  kept : ∀ cause, (operation.perform table).1 = .error cause → operation.leaves table = table
  /-- If it is not, its class is edited. -/
  edited : ∀ changed, operation.perform table = (.ok (), changed) →
    ∃ former? entries, table.entries? operation.className = former? ∧
      changed.entries? operation.className = some entries ∧ operation.Edits former? entries
  /-- And every other class stays. -/
  others : ∀ changed, operation.perform table = (.ok (), changed) →
    ∀ other, other ≠ operation.className → changed.find? other = table.find? other

/-- In a table in good order every operation is carried out or refused, and changes one class. -/
theorem atomic_of_wellFormed (orderly : table.WellFormed) (operation : Operation S) :
    operation.Atomic table where
  refused cause := by
    rw [← perform_eq_error_iff]
    constructor
    · intro refused
      have kept : (operation.perform table).2 = table := perform_refused (Prod.ext refused rfl)
      exact Prod.ext refused kept
    · exact congrArg Prod.fst
  kept _ refused := perform_refused (Prod.ext refused rfl)
  edited _ performed := edits_of_perform orderly performed
  others _ performed _ different := find?_perform performed different

end Operation

/-- **In every reachable table an operation is carried out or refused, and changes one class**; and
a method that was renamed can be renamed back, and then the table is as it was. -/
theorem Reachable.atomic {table : ClassTable S} (reachable : table.Reachable) :
    (∀ operation : Operation S, operation.Atomic table) ∧
      ∀ target name renamed,
        (Operation.rename target name).perform table = (.ok (), renamed) →
          (Operation.rename ⟨target.className, name⟩ target.method).perform renamed =
            (.ok (), table) :=
  ⟨Operation.atomic_of_wellFormed reachable.wellFormed, fun _ _ _ accepted =>
    Operation.rename_back reachable.wellFormed accepted⟩

/-- A class of three methods. -/
def counter : ClassDefinition Interface.idle where
  name := "Counter"
  entries := Operation.declared
    [({ name := "add", isStatic := true, parameters := [{ name := "a" }, { name := "b" }] },
        fun _ arguments => .done (.ok .null, arguments)),
      ({ name := "bump", documentation := some "Adds one." },
        fun _ arguments => .done (.ok (.bool true), arguments)),
      ({ name := "secret", visibility := .owner },
        fun _ arguments => .done (.ok (.text "hidden"), arguments))]

/-- A table of this class. -/
def counted : ClassTable Interface.idle := ⟨[("Counter", counter)]⟩

/-- The method in the middle is renamed in its place; to rename it to `add` is refused. -/
theorem atomic_counter :
    counted.Reachable ∧
      (∃ renamed, (Operation.rename ⟨"Counter", "bump"⟩ "step").perform counted =
          (.ok (), renamed) ∧
        (renamed.methods? "Counter").map (List.map Method.name) =
          some ["add", "step", "secret"] ∧
        (Operation.rename ⟨"Counter", "step"⟩ "bump").perform renamed = (.ok (), counted)) ∧
      (Operation.rename ⟨"Counter", "bump"⟩ "add").leaves counted = counted := by
  have reachable : counted.Reachable := .single (by decide) (by decide)
  obtain ⟨atomic, back⟩ := reachable.atomic
  refine ⟨reachable, ⟨_, rfl, rfl, back ⟨"Counter", "bump"⟩ "step" _ rfl⟩, ?_⟩
  exact (atomic (.rename ⟨"Counter", "bump"⟩ "add")).kept _ rfl

end ClassTable

end AspectWeaver
