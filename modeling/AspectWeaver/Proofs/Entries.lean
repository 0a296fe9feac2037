/-
**The entries of one class: looking methods up, and putting other entries in their place.**

* `entry?_of_mem`, `mem_of_entry?`, `map_method_of_mem` — where names differ, a method is looked up
  exactly by its name.
* `entry?_alter`, `methods?_alter`, `isProcessed_alter` — a change to a method changes its entry and
  no other; `entry?_define`, `entry?_install`, `entry?_rename` say the same of the other operations.
* `setEntries` — a table with other entries in one class, and what is looked up there
  (`find?_setEntries`, `entry_setEntries`, `methods_setEntries`); a change to a method of the class
  is a change to the list of its entries (`alter_setEntries`).
-/

import AspectWeaver.Proofs.Reachable

namespace AspectWeaver

variable {S : Interface}

/-- Entries of the same methods have the same names. -/
theorem Entry.map_name_congr {first second : List (Entry S)}
    (same : first.map Entry.method = second.map Entry.method) :
    first.map Entry.name = second.map Entry.name := by
  have names := congrArg (List.map Method.name) same
  rw [List.map_map, List.map_map] at names
  exact names

/-- The class with other entries. -/
def ClassDefinition.withEntries (entries : List (Entry S)) (definition : ClassDefinition S) :
    ClassDefinition S := { definition with entries := entries }

namespace ClassTable

/-! ### Looking methods up -/

section Looking

variable {table : ClassTable S} {className : String} {definition : ClassDefinition S}
  {entry : Entry S} {method : String}

/-- A method of a class is looked up by its name, if names differ. -/
theorem entry?_of_mem (found : table.find? className = some definition)
    (distinct : (definition.entries.map Entry.name).Nodup) (member : entry ∈ definition.entries) :
    table.entry? ⟨className, entry.name⟩ = some entry := by
  rw [ClassTable.entry?, found]
  exact Named.find?_of_mem Entry.name distinct member

/-- What is looked up is in the class and has the name. -/
theorem mem_of_entry? (found : table.find? className = some definition)
    (present : table.entry? ⟨className, method⟩ = some entry) :
    entry ∈ definition.entries ∧ entry.name = method := by
  rw [ClassTable.entry?, found] at present
  exact ⟨Named.mem_of_find? Entry.name present, Named.key_of_find? Entry.name present⟩

/-- Only the class of a method is looked at. -/
theorem entry?_congr {other : ClassTable S}
    (same : table.find? className = other.find? className) (method : String) :
    table.entry? ⟨className, method⟩ = other.entry? ⟨className, method⟩ := by
  rw [ClassTable.entry?, same]
  rfl

/-- The methods of a class are those of its entries. -/
theorem methods?_of_find? (found : table.find? className = some definition) :
    table.methods? className = some (definition.entries.map Entry.method) := by
  rw [methods?, found]
  rfl

/-- In a table in good order a method of a class is found by its name. -/
theorem map_method_of_mem {methods : List Method} {declared : Method}
    (wellFormed : table.WellFormed) (listed : table.methods? className = some methods)
    (member : declared ∈ methods) :
    (table.entry? ⟨className, declared.name⟩).map Entry.method = some declared := by
  obtain ⟨definition, found, rfl⟩ := Option.map_eq_some_iff.mp listed
  obtain ⟨entry, inside, rfl⟩ := List.mem_map.mp member
  have present := entry?_of_mem found (wellFormed.of_find? found).distinct inside
  exact congrArg (Option.map Entry.method) present

/-- The body of a method is the body of its entry. -/
theorem body_of_entry? {target : MethodId} (present : table.entry? target = some entry) :
    table.body target = .ok entry.body := by
  rw [body, entry_eq_ok_iff.mpr present]
  rfl

/-- The mark of a method is the mark of its entry. -/
theorem isProcessed_of_entry? {target : MethodId} (present : table.entry? target = some entry) :
    table.isProcessed target = entry.processed := by
  rw [isProcessed, present]
  rfl

theorem isProcessed_congr {other : ClassTable S}
    (same : table.find? className = other.find? className) (method : String) :
    table.isProcessed ⟨className, method⟩ = other.isProcessed ⟨className, method⟩ := by
  rw [isProcessed, isProcessed, entry?_congr same]

/-- A method is processed exactly if it has an entry with the mark. -/
theorem isProcessed_eq_true_iff {target : MethodId} :
    table.isProcessed target = true ↔
      ∃ entry, table.entry? target = some entry ∧ entry.processed = true := by
  rw [isProcessed]
  cases table.entry? target <;> simp

/-- A method is woven exactly if it has an entry with the mark. -/
theorem isWoven_eq_true_iff {target : MethodId} :
    table.isWoven target = true ↔
      ∃ entry, table.entry? target = some entry ∧ entry.woven = true := by
  rw [isWoven]
  cases table.entry? target <;> simp

end Looking

/-- A change to a method that keeps its name changes its entry and no other. -/
theorem entry?_alter {table altered : ClassTable S} {target : MethodId}
    {change : Entry S → Entry S} (accepted : table.alter target change = (.ok (), altered))
    (keeps : ∀ entry, (change entry).name = entry.name) (wanted : MethodId) :
    altered.entry? wanted =
      if wanted = target then (table.entry? wanted).map change else table.entry? wanted := by
  obtain ⟨wantedClass, wantedMethod⟩ := wanted
  obtain ⟨className, method⟩ := target
  rw [ClassTable.entry?, ClassTable.entry?, find?_alter accepted]
  dsimp only
  by_cases inside : wantedClass = className
  · subst inside
    rw [if_pos rfl]
    cases table.find? wantedClass with
    | none => split <;> rfl
    | some definition =>
        have law := Named.find?_update Entry.name change keeps method wantedMethod
          definition.entries
        by_cases same : wantedMethod = method
        · subst same
          rw [if_pos rfl] at law ⊢
          exact law
        · rw [if_neg same] at law
          rw [if_neg (fun equal => same (congrArg MethodId.method equal))]
          exact law
  · rw [if_neg inside, if_neg (fun equal => inside (congrArg MethodId.className equal))]

/-- A definition brings the methods of its class, and no others change. -/
theorem entry?_define {table defined : ClassTable S} {definition : ClassDefinition S}
    (accepted : table.define definition = (.ok (), defined)) (wanted : MethodId) :
    defined.entry? wanted =
      if wanted.className = definition.name then definition.find? wanted.method
      else table.entry? wanted := by
  rw [ClassTable.entry?, find?_define accepted]
  split <;> rfl

/-- A method that is installed has a new entry, and no other changes. -/
theorem entry?_install {table installed : ClassTable S} {className : String} {method : Method}
    {body : Body S} (accepted : table.install className method body = (.ok (), installed))
    (wanted : MethodId) :
    installed.entry? wanted =
      if wanted = ⟨className, method.name⟩ then some { method := method, body := body }
      else table.entry? wanted := by
  obtain ⟨_, definition, found, free, rfl⟩ := install_eq_ok accepted
  obtain ⟨wantedClass, wantedMethod⟩ := wanted
  rw [ClassTable.entry?, find?_rework]
  dsimp only
  by_cases inside : wantedClass = className
  · subst inside
    rw [if_pos rfl, ClassTable.entry?, found, Option.map_some, Option.bind_some, Option.bind_some]
    refine (Named.find?_append_one Entry.name definition.entries _ wantedMethod).trans ?_
    by_cases same : wantedMethod = method.name
    · subst same
      have absent : Named.find? Entry.name method.name definition.entries = none := free
      rw [absent, Option.none_or, if_pos rfl]
      exact if_pos rfl
    · rw [if_neg (fun equal => same (congrArg MethodId.method equal)),
        if_neg (fun equal => same equal.symm), Option.or_none]
      rfl
  · rw [if_neg inside, if_neg (fun equal => inside (congrArg MethodId.className equal))]
    rfl

/-- A method that is renamed has its entry under the new name, and no other changes. -/
theorem entry?_rename {table renamed : ClassTable S} (orderly : table.WellFormed)
    {target : MethodId} {name : String} (accepted : table.rename target name = (.ok (), renamed))
    (wanted : MethodId) :
    renamed.entry? wanted =
      if wanted = ⟨target.className, name⟩ then
        (table.entry? target).map fun entry =>
          { entry with method := { entry.method with name := name } }
      else if wanted = target then none else table.entry? wanted := by
  rw [rename_eq] at accepted
  split at accepted
  · cases accepted
  rename_i free
  obtain ⟨wantedClass, wantedMethod⟩ := wanted
  obtain ⟨className, method⟩ := target
  rw [ClassTable.entry?, find?_alter accepted]
  dsimp only at free ⊢
  by_cases inside : wantedClass = className
  · subst inside
    rw [if_pos rfl]
    cases found : table.find? wantedClass with
    | none => simp [ClassTable.entry?, found]
    | some definition =>
        have unknown : definition.find? name = none := by
          simpa [ClassTable.entry?, found] using free
        have absent := (Named.find?_eq_none_iff Entry.name).mp unknown
        have law : Named.find? Entry.name wantedMethod
            (Named.update Entry.name method _ definition.entries) = _ :=
          Named.find?_rename Entry.name (orderly.of_find? found).distinct absent
            (fun entry => show Entry.name
              { entry with method := { entry.method with name := name } } = name from rfl)
            wantedMethod
        simp only [MethodId.mk.injEq, true_and, ClassTable.entry?, found]
        exact law
  · rw [if_neg inside, if_neg (fun equal => inside (congrArg MethodId.className equal)),
      if_neg (fun equal => inside (congrArg MethodId.className equal))]
    rfl

/-- A change to a method that keeps its declaration changes no declaration. -/
theorem methods?_alter {table altered : ClassTable S} {target : MethodId}
    {change : Entry S → Entry S} (accepted : table.alter target change = (.ok (), altered))
    (keeps : ∀ entry, (change entry).method = entry.method) (className : String) :
    altered.methods? className = table.methods? className := by
  rw [methods?, methods?, find?_alter accepted]
  split
  · cases table.find? className with
    | none => rfl
    | some definition =>
        exact congrArg some (Named.map_update Entry.name Entry.method change keeps target.method
          definition.entries)
  · rfl

/-- A change that marks a method as processed marks it and no other. -/
theorem isProcessed_alter {table altered : ClassTable S} {target : MethodId}
    {change : Entry S → Entry S} (accepted : table.alter target change = (.ok (), altered))
    (keeps : ∀ entry, (change entry).name = entry.name)
    (marks : ∀ entry, (change entry).processed = true) (wanted : MethodId) :
    altered.isProcessed wanted = true ↔ wanted = target ∨ table.isProcessed wanted = true := by
  rw [isProcessed, entry?_alter accepted keeps]
  by_cases same : wanted = target
  · obtain ⟨⟨entry, present⟩, _⟩ := alter_eq_ok accepted
    rw [if_pos same, same, present]
    simp [marks]
  · rw [if_neg same, ← isProcessed, or_iff_right same]

/-! ### Other entries in one class -/

/-- The table with other entries in one class. -/
def setEntries (table : ClassTable S) (className : String) (entries : List (Entry S)) :
    ClassTable S :=
  table.rework className (.withEntries entries)

section SetEntries

variable {table : ClassTable S} {className : String} {definition : ClassDefinition S}
  {entries : List (Entry S)}

theorem find?_setEntries (wanted : String) :
    (table.setEntries className entries).find? wanted =
      if wanted = className then
        (table.find? className).map (.withEntries entries)
      else table.find? wanted :=
  find?_rework (.withEntries entries) wanted

/-- The class with the other entries. -/
theorem find?_setEntries_self (found : table.find? className = some definition) :
    (table.setEntries className entries).find? className =
      some (definition.withEntries entries) := by
  rw [find?_setEntries, if_pos rfl, found]
  rfl

/-- A class with its own entries is as it was. -/
theorem setEntries_self (found : table.find? className = some definition) :
    table.setEntries className definition.entries = table := by
  have stands := Named.lookup?_eq_some_iff.mp found
  rw [setEntries, rework, Named.revise, Named.update_self Prod.fst stands rfl]

/-- The entry of a method of the class. -/
theorem entry_setEntries (found : table.find? className = some definition) (method : String) :
    ClassTable.entry? (table.setEntries className entries) ⟨className, method⟩ =
      Named.find? Entry.name method entries := by
  rw [ClassTable.entry?, find?_setEntries, if_pos rfl, found]
  rfl

/-- The entry of a method is the one of its name, if names differ. -/
theorem entry_of_mem_entries (found : table.find? className = some definition)
    (distinct : (entries.map Entry.name).Nodup) {entry : Entry S} (member : entry ∈ entries) :
    ClassTable.entry? (table.setEntries className entries) ⟨className, entry.name⟩ =
      some entry :=
  (entry_setEntries found entry.name).trans (Named.find?_of_mem Entry.name distinct member)

/-- Entries of the same methods in the same order change no declaration. -/
theorem methods_setEntries (found : table.find? className = some definition)
    (same : entries.map Entry.method = definition.entries.map Entry.method) (other : String) :
    (table.setEntries className entries).methods? other = table.methods? other := by
  rw [methods?, methods?, find?_setEntries]
  by_cases here : other = className
  · rw [if_pos here, here, found]
    exact congrArg some same
  · rw [if_neg here]

/-- Changing a method of the class is changing its entry. -/
theorem alter_setEntries (found : table.find? className = some definition) {method : String}
    {entry : Entry S} (inside : Named.find? Entry.name method entries = some entry)
    (change : Entry S → Entry S) :
    (table.setEntries className entries).alter ⟨className, method⟩ change =
      (.ok (), table.setEntries className (Named.update Entry.name method change entries)) := by
  have here : ClassTable.entry? (table.setEntries className entries) ⟨className, method⟩ = _ :=
    entry_setEntries found method
  rw [inside] at here
  rw [alter_eq, entry_eq_ok_iff.mpr here]
  exact congrArg (Prod.mk _) rework_rework

end SetEntries

end ClassTable

end AspectWeaver
