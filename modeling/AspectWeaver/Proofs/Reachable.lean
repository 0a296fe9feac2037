/-
**Reachable tables: what holds of every table of classes that operations lead to.**

* `firstOffence?_eq_none_iff` — a definition is accepted exactly if its names differ and its
  signatures are well formed.
* `WellFormed.define`, `WellFormed.rename`, `WellFormed.install`, `WellFormed.alter` — every
  operation keeps a table in good order.
* **`Reachable.wellFormed`** — **in every reachable table** each class is stored under its own name
  and once, method names differ within a class, every signature is well formed, and what is woven is
  processed.
-/

import AspectWeaver.ClassTable

namespace AspectWeaver

variable {S : Interface}

/-- A class in good order. -/
structure ClassDefinition.WellFormed (definition : ClassDefinition S) : Prop where
  distinct : (definition.entries.map Entry.name).Nodup
  signatures : ∀ entry ∈ definition.entries, entry.method.signatureFault? = none
  marks : ∀ entry ∈ definition.entries, entry.woven = true → entry.processed = true

/-- A table in good order. -/
structure ClassTable.WellFormed (table : ClassTable S) : Prop where
  distinct : (table.classes.map Prod.fst).Nodup
  named : ∀ stored ∈ table.classes, stored.2.name = stored.1
  classes : ∀ stored ∈ table.classes, stored.2.WellFormed

namespace ClassDefinition

/-! ### Definitions -/

/-- A definition is accepted exactly if its names differ and its signatures are well formed. -/
theorem firstOffence?_eq_none_iff {className : String} {seen : List String}
    {entries : List (Entry S)} :
    firstOffence? className seen entries = none ↔
      (entries.map Entry.name).Nodup ∧ (∀ entry ∈ entries, entry.name ∉ seen) ∧
        ∀ entry ∈ entries, entry.method.signatureFault? = none := by
  induction entries generalizing seen with
  | nil => simp [firstOffence?]
  | cons entry rest ih =>
      unfold firstOffence?
      rw [List.map_cons, List.nodup_cons, List.forall_mem_cons, List.forall_mem_cons]
      split
      · rename_i known
        exact iff_of_false nofun fun ⟨_, apart, _⟩ => apart.1 (by simpa using known)
      · rename_i fresh
        cases fault : entry.method.signatureFault? with
        | some fault => exact iff_of_false nofun fun ⟨_, _, signature, _⟩ => nomatch signature
        | none =>
            rw [ih, Named.apart_cons_iff Entry.name]
            constructor
            · rintro ⟨distinct, ⟨different, apart⟩, signatures⟩
              exact ⟨⟨different, distinct⟩, ⟨by simpa using fresh, apart⟩, rfl, signatures⟩
            · rintro ⟨⟨different, distinct⟩, ⟨_, apart⟩, _, signatures⟩
              exact ⟨distinct, ⟨different, apart⟩, signatures⟩

/-- An accepted definition of methods that are new is in good order. -/
theorem wellFormed_of_offence? {definition : ClassDefinition S}
    (accepted : definition.offence? = none)
    (new : ∀ entry ∈ definition.entries, entry.woven = false ∧ entry.processed = false) :
    definition.WellFormed := by
  obtain ⟨distinct, _, signatures⟩ := firstOffence?_eq_none_iff.mp accepted
  refine ⟨distinct, signatures, fun entry member woven => ?_⟩
  rw [(new entry member).1] at woven
  cases woven

/-! ### Changes to a method -/

/-- A change that keeps names and signatures, and marks what it weaves, keeps a class in order. -/
theorem WellFormed.alter {definition : ClassDefinition S} (wellFormed : definition.WellFormed)
    (method : String) {change : Entry S → Entry S}
    (keeps : ∀ entry, (change entry).method = entry.method)
    (marks : ∀ entry, (entry.woven = true → entry.processed = true) →
      (change entry).woven = true → (change entry).processed = true) :
    (definition.alter method change).WellFormed where
  distinct := by
    have same := Named.map_key_update Entry.name change
      (fun entry => congrArg Method.name (keeps entry)) method definition.entries
    rw [ClassDefinition.alter, same]
    exact wellFormed.distinct
  signatures entry member := by
    rcases Named.mem_update Entry.name member with unchanged | ⟨former, inside, _, rfl⟩
    · exact wellFormed.signatures entry unchanged
    · rw [keeps]
      exact wellFormed.signatures former inside
  marks entry member := by
    rcases Named.mem_update Entry.name member with unchanged | ⟨former, inside, _, rfl⟩
    · exact wellFormed.marks entry unchanged
    · exact marks former (wellFormed.marks former inside)

/-- A method may be given a name that is free. -/
theorem WellFormed.rename {definition : ClassDefinition S} (wellFormed : definition.WellFormed)
    (method : String) {name : String} (free : definition.find? name = none) :
    (definition.alter method fun entry =>
      { entry with method := { entry.method with name := name } }).WellFormed where
  distinct := Named.nodup_update Entry.name (fun _ => rfl)
    ((Named.find?_eq_none_iff Entry.name).mp free) wellFormed.distinct
  signatures entry member := by
    rcases Named.mem_update Entry.name member with unchanged | ⟨former, inside, _, rfl⟩
    · exact wellFormed.signatures entry unchanged
    · exact wellFormed.signatures former inside
  marks entry member := by
    rcases Named.mem_update Entry.name member with unchanged | ⟨former, inside, _, rfl⟩
    · exact wellFormed.marks entry unchanged
    · exact wellFormed.marks former inside

/-- A method of a free name may be added. -/
theorem WellFormed.add {definition : ClassDefinition S} (wellFormed : definition.WellFormed)
    {method : Method} (free : definition.find? method.name = none)
    (signature : method.signatureFault? = none) (body : Body S) :
    (definition.add method body).WellFormed where
  distinct := Named.nodup_append_one Entry.name wellFormed.distinct
    ((Named.find?_eq_none_iff Entry.name).mp free)
  signatures entry member := by
    rcases List.mem_append.mp member with inside | last
    · exact wellFormed.signatures entry inside
    · rw [List.mem_singleton.mp last]
      exact signature
  marks entry member woven := by
    rcases List.mem_append.mp member with inside | last
    · exact wellFormed.marks entry inside woven
    · rw [List.mem_singleton.mp last] at woven
      cases woven

end ClassDefinition

namespace ClassTable

/-! ### Operations -/

/-- The entry of a method has its name. -/
theorem name_of_entry? {table : ClassTable S} {target : MethodId} {entry : Entry S}
    (present : table.entry? target = some entry) : entry.method.name = target.method := by
  obtain ⟨definition, _, inside⟩ := Option.bind_eq_some_iff.mp present
  exact Named.key_of_find? Entry.name inside

/-- A table stays in order if a change to a class leaves that class in order, under its name. -/
theorem WellFormed.rework {table : ClassTable S} (wellFormed : table.WellFormed)
    (className : String) {change : ClassDefinition S → ClassDefinition S}
    (keeps : ∀ definition, (change definition).name = definition.name)
    (orderly : ∀ definition, (className, definition) ∈ table.classes →
      (change definition).WellFormed) : (table.rework className change).WellFormed where
  distinct := by
    have same := Named.map_key_update Prod.fst
      (fun stored : String × ClassDefinition S => (stored.1, change stored.2)) (fun _ => rfl)
      className table.classes
    rw [ClassTable.rework, Named.revise, same]
    exact wellFormed.distinct
  named stored member := by
    rcases Named.mem_update Prod.fst member with unchanged | ⟨former, inside, _, rfl⟩
    · exact wellFormed.named stored unchanged
    · exact (keeps former.2).trans (wellFormed.named former inside)
  classes stored member := by
    rcases Named.mem_update Prod.fst member with unchanged | ⟨former, inside, rfl, rfl⟩
    · exact wellFormed.classes stored unchanged
    · exact orderly former.2 inside

/-- A table stays in order if a class in order is stored in it under its name. -/
theorem WellFormed.store {table : ClassTable S} (wellFormed : table.WellFormed)
    {definition : ClassDefinition S} (orderly : definition.WellFormed) :
    WellFormed ⟨Named.store definition.name definition table.classes⟩ where
  distinct := Named.nodup_put Prod.fst wellFormed.distinct (definition.name, definition)
  named stored member := by
    rcases Named.mem_put Prod.fst member with rfl | inside
    · rfl
    · exact wellFormed.named stored inside
  classes stored member := by
    rcases Named.mem_put Prod.fst member with rfl | inside
    · exact orderly
    · exact wellFormed.classes stored inside

/-- The class of a name is in order. -/
theorem WellFormed.of_find? {table : ClassTable S} (wellFormed : table.WellFormed)
    {className : String} {definition : ClassDefinition S}
    (found : table.find? className = some definition) : definition.WellFormed :=
  wellFormed.classes (className, definition) (Named.mem_of_lookup? found)

/-- A table that operations lead to, starting from the empty table. -/
inductive Reachable : ClassTable S → Prop where
  | empty : Reachable {}
  | define {table defined : ClassTable S} {definition : ClassDefinition S}
      (reachable : Reachable table)
      (new : ∀ entry ∈ definition.entries, entry.woven = false ∧ entry.processed = false)
      (accepted : table.define definition = (.ok (), defined)) : Reachable defined
  | rename {table renamed : ClassTable S} {target : MethodId} {name : String}
      (reachable : Reachable table) (accepted : table.rename target name = (.ok (), renamed)) :
      Reachable renamed
  | install {table installed : ClassTable S} {className : String} {method : Method}
      {body : Body S} (reachable : Reachable table)
      (accepted : table.install className method body = (.ok (), installed)) : Reachable installed
  | replace {table replaced : ClassTable S} {target : MethodId} {body : Body S}
      (reachable : Reachable table) (accepted : table.replace target body = (.ok (), replaced)) :
      Reachable replaced
  | markProcessed {table marked : ClassTable S} {target : MethodId} (reachable : Reachable table)
      (accepted : table.markProcessed target = (.ok (), marked)) : Reachable marked

/-- What holds when a definition is accepted. -/
theorem define_eq_ok {table defined : ClassTable S} {definition : ClassDefinition S}
    (accepted : table.define definition = (.ok (), defined)) :
    definition.offence? = none ∧
      defined = ⟨Named.store definition.name definition table.classes⟩ := by
  unfold define at accepted
  split at accepted
  · cases accepted
  · rename_i faultless
    cases accepted
    exact ⟨faultless, rfl⟩

/-- What holds when a method is installed. -/
theorem install_eq_ok {table installed : ClassTable S} {className : String} {method : Method}
    {body : Body S} (accepted : table.install className method body = (.ok (), installed)) :
    method.signatureFault? = none ∧ ∃ definition, table.find? className = some definition ∧
      definition.find? method.name = none ∧
      installed = table.rework className (ClassDefinition.add method body) := by
  unfold install Method.checkSignature at accepted
  cases signature : method.signatureFault? with
  | some fault =>
      rw [signature] at accepted
      cases accepted
  | none =>
      rw [signature] at accepted
      dsimp only at accepted
      cases found : table.find? className with
      | none =>
          rw [withClass_of_unknown found] at accepted
          cases accepted
      | some definition =>
          by_cases taken : (definition.find? method.name).isSome = true
          · rw [withClass_of_refused found (if_pos taken)] at accepted
            cases accepted
          · rw [withClass_of_find? found (if_neg taken)] at accepted
            cases accepted
            exact ⟨rfl, definition, rfl, Option.not_isSome_iff_eq_none.mp taken, rfl⟩

/-- A table of one class, as it is defined first. -/
theorem Reachable.single {className : String} {entries : List (Entry S)}
    (new : ∀ entry ∈ entries, entry.woven = false ∧ entry.processed = false)
    (accepted : (ClassDefinition.mk className entries).offence? = none) :
    Reachable ⟨[(className, ⟨className, entries⟩)]⟩ := by
  have added : ClassTable.define {} (.mk className entries) =
      (.ok (), ⟨[(className, ⟨className, entries⟩)]⟩) := by
    rw [ClassTable.define, accepted]
    rfl
  exact Reachable.define .empty new added

namespace WellFormed

variable {table changed : ClassTable S}

theorem define (wellFormed : table.WellFormed) {definition : ClassDefinition S}
    (new : ∀ entry ∈ definition.entries, entry.woven = false ∧ entry.processed = false)
    (accepted : table.define definition = (.ok (), changed)) : changed.WellFormed := by
  obtain ⟨faultless, rfl⟩ := define_eq_ok accepted
  exact wellFormed.store (ClassDefinition.wellFormed_of_offence? faultless new)

theorem rename (wellFormed : table.WellFormed) {target : MethodId} {name : String}
    (accepted : table.rename target name = (.ok (), changed)) : changed.WellFormed := by
  rw [rename_eq] at accepted
  split at accepted
  · cases accepted
  · rename_i free
    obtain ⟨⟨entry, present⟩, rfl⟩ := alter_eq_ok accepted
    refine wellFormed.rework _ (fun _ => rfl) fun definition member => ?_
    refine (wellFormed.classes _ member).rename _ ?_
    -- the class that is changed is the one in which the new name was looked for
    have here : table.find? target.className = some definition :=
      (Named.lookup?_eq_some_iff_mem wellFormed.distinct).mpr member
    simpa [ClassTable.entry?, here] using free

theorem install (wellFormed : table.WellFormed) {className : String} {method : Method}
    {body : Body S} (accepted : table.install className method body = (.ok (), changed)) :
    changed.WellFormed := by
  obtain ⟨signature, definition, found, free, rfl⟩ := install_eq_ok accepted
  refine wellFormed.rework _ (fun _ => rfl) fun other member => ?_
  have here := (Named.lookup?_eq_some_iff_mem wellFormed.distinct).mpr member
  obtain rfl : definition = other := Option.some.inj (found.symm.trans here)
  exact (wellFormed.of_find? found).add free signature body

/-- A change to a method that keeps its declaration, and marks what it weaves, is in order. -/
theorem alter (wellFormed : table.WellFormed) {target : MethodId} {change : Entry S → Entry S}
    (accepted : table.alter target change = (.ok (), changed))
    (keeps : ∀ entry, (change entry).method = entry.method)
    (marks : ∀ entry, (entry.woven = true → entry.processed = true) →
      (change entry).woven = true → (change entry).processed = true) : changed.WellFormed := by
  obtain ⟨_, rfl⟩ := alter_eq_ok accepted
  exact wellFormed.rework _ (fun _ => rfl) fun definition member =>
    (wellFormed.classes _ member).alter _ keeps marks

end WellFormed

/-- **Every reachable table is in good order.** -/
theorem Reachable.wellFormed {table : ClassTable S} (reachable : table.Reachable) :
    table.WellFormed := by
  induction reachable with
  | empty => exact ⟨.nil, nofun, nofun⟩
  | define _ new accepted ih => exact ih.define new accepted
  | rename _ accepted ih => exact ih.rename accepted
  | install _ accepted ih => exact ih.install accepted
  | replace _ accepted ih => exact ih.alter accepted (fun _ => rfl) fun _ _ _ => rfl
  | markProcessed _ accepted ih => exact ih.alter accepted (fun _ => rfl) fun _ _ _ => rfl

/-- In a table in good order a method that is woven is processed. -/
theorem WellFormed.processed_of_woven {table : ClassTable S} (orderly : table.WellFormed)
    {target : MethodId} {entry : Entry S} (found : table.entry? target = some entry)
    (woven : entry.woven = true) : entry.processed = true := by
  obtain ⟨definition, here, inside⟩ := Option.bind_eq_some_iff.mp found
  exact (orderly.of_find? here).marks entry (Named.mem_of_find? Entry.name inside) woven

/-- In a reachable table the entry of a method has a well-formed signature. -/
theorem Reachable.signature {table : ClassTable S} (reachable : table.Reachable)
    {target : MethodId} {entry : Entry S} (found : table.entry? target = some entry) :
    entry.method.signatureFault? = none := by
  obtain ⟨definition, here, inside⟩ := Option.bind_eq_some_iff.mp found
  have orderly := reachable.wellFormed.of_find? here
  exact orderly.signatures entry (Named.mem_of_find? Entry.name inside)

end ClassTable

end AspectWeaver
