/-
**Ordered lists of named things: methods of a class, parameters of a call; and things stored under
names: classes of a table, entries of a registry.**

`key` gives the name of a thing. The first thing of a name stands for the name; a new name goes to
the end, so the order is the order of arrival. Where things are stored under names, the name is kept
beside the thing and need not be one that the thing has itself.

* `find?_update`, `getElem?_update` — an update changes what stands for its name and nothing else.
* `find?_rename` — under a change to a free name a thing is found under this name only.
* `find?_put` — **read after write** for a whole thing.
* `map_key_update` — an update that keeps names keeps their order.
* `find?_of_mem`, `find?_perm`, `mem_filter_iff`, `update_eq_map` — where names differ, the first
  thing of a name is the only one.
* `update_comm` — **updates of two names** can be made in either order.
* `nodup_update`, `nodup_put`, `nodup_append_one` — **names stay distinct** under a change to a new
  name, when a thing is put, and when one of a new name is added.
* `lookup?_store`, `lookup?_revise` — **read after write** for what is stored under a name;
  `lookup?_concat_iff`, each thing is still stored under its name when one of a new name is added;
  `store_eq_revise`, to store a thing in the place of another is to change that one.
-/

namespace AspectWeaver.Named

variable {α : Type} (key : α → String)

/-- What stands for a name. -/
def find? (wanted : String) : List α → Option α
  | [] => none
  | item :: rest => if key item = wanted then some item else find? wanted rest

/-- Changes what stands for a name. -/
def update (name : String) (change : α → α) : List α → List α
  | [] => []
  | item :: rest => if key item = name then change item :: rest else item :: update name change rest

/-- Puts a thing in the place of the one of its name, or at the end. -/
def put (new : α) : List α → List α
  | [] => [new]
  | item :: rest => if key item = key new then new :: rest else item :: put new rest

/-- What stands for a name has the name. -/
theorem key_of_find? {wanted : String} {items : List α} {item : α}
    (found : find? key wanted items = some item) : key item = wanted := by
  induction items with
  | nil => simp [find?] at found
  | cons first rest ih =>
      unfold find? at found
      split at found
      · rename_i named
        cases found
        exact named
      · exact ih found

/-- What stands for a name is in the list. -/
theorem mem_of_find? {wanted : String} {items : List α} {item : α}
    (found : find? key wanted items = some item) : item ∈ items := by
  induction items with
  | nil => simp [find?] at found
  | cons first rest ih =>
      unfold find? at found
      split at found
      · cases found
        exact List.mem_cons_self
      · exact List.mem_cons_of_mem _ (ih found)

/-- Things have other names than one and those seen exactly if the one does not occur among their
names, and they have other names than those seen. -/
theorem apart_cons_iff {name : String} {seen : List String} {items : List α} :
    (∀ item ∈ items, key item ∉ name :: seen) ↔
      name ∉ items.map key ∧ ∀ item ∈ items, key item ∉ seen := by
  constructor
  · intro apart
    refine ⟨fun member => ?_, fun item inside inSeen => ?_⟩
    · obtain ⟨item, inside, same⟩ := List.mem_map.mp member
      exact apart item inside (same ▸ List.mem_cons_self)
    · exact apart item inside (List.mem_cons_of_mem _ inSeen)
  · rintro ⟨different, fresh⟩ item inside member
    rcases List.mem_cons.mp member with same | inSeen
    · exact different (same ▸ List.mem_map_of_mem inside)
    · exact fresh item inside inSeen

/-- Nothing stands for a name exactly when the name does not occur. -/
theorem find?_eq_none_iff {wanted : String} {items : List α} :
    find? key wanted items = none ↔ wanted ∉ items.map key := by
  induction items with
  | nil => simp [find?]
  | cons first rest ih =>
      by_cases named : key first = wanted
      · simp [find?, named]
      · simp [find?, named, ih, Ne.symm named]

/-- An update changes what stands for its name and nothing else. -/
theorem find?_update (change : α → α) (keeps : ∀ item, key (change item) = key item)
    (name wanted : String) (items : List α) :
    find? key wanted (update key name change items) =
      if wanted = name then (find? key name items).map change else find? key wanted items := by
  induction items with
  | nil => simp [find?, update]
  | cons first rest ih =>
      by_cases here : key first = name
      · subst here
        by_cases asked : wanted = key first
        · simp [find?, update, asked, keeps]
        · simp [find?, update, asked, keeps, Ne.symm asked]
      · by_cases asked : key first = wanted
        · subst asked
          simp [find?, update, here]
        · simp [find?, update, here, asked, ih]

/-- What an update keeps of each thing it keeps of the list. -/
theorem map_update {β : Type} (view : α → β) (change : α → α)
    (keeps : ∀ item, view (change item) = view item) (name : String) (items : List α) :
    (update key name change items).map view = items.map view := by
  induction items with
  | nil => rfl
  | cons first rest ih =>
      by_cases here : key first = name
      · simp [update, here, keeps]
      · simp [update, here, ih]

/-- An update that keeps names keeps their order. -/
theorem map_key_update (change : α → α) (keeps : ∀ item, key (change item) = key item)
    (name : String) (items : List α) : (update key name change items).map key = items.map key :=
  map_update key key change keeps name items

/-- What stands for a name among other things that are made of these and keep their names. -/
theorem find?_map {β : Type} {other : β → String} {change : α → β}
    (keeps : ∀ item, other (change item) = key item) (wanted : String) (items : List α) :
    find? other wanted (items.map change) = (find? key wanted items).map change := by
  induction items with
  | nil => rfl
  | cons first rest ih =>
      by_cases named : key first = wanted
      · simp [find?, keeps, named]
      · simp [find?, keeps, named, ih]

/-- An update of a name that does not occur changes nothing. -/
theorem update_of_not_mem {name : String} {items : List α} (absent : name ∉ items.map key)
    (change : α → α) : update key name change items = items := by
  induction items with
  | nil => rfl
  | cons first rest ih =>
      rw [List.map_cons, List.mem_cons, not_or] at absent
      rw [update, if_neg (Ne.symm absent.1), ih absent.2]

/-- If names differ, what is in the list stands for its name. -/
theorem find?_of_mem {items : List α} (distinct : (items.map key).Nodup) {item : α}
    (member : item ∈ items) : find? key (key item) items = some item := by
  induction items with
  | nil => cases member
  | cons first rest ih =>
      rw [List.map_cons, List.nodup_cons] at distinct
      rcases List.mem_cons.mp member with rfl | inside
      · simp [find?]
      · have other : key first ≠ key item :=
          fun same => distinct.1 (same ▸ List.mem_map_of_mem inside)
        simp [find?, other, ih distinct.2 inside]

/-- If names differ, it does not matter in which order things are. -/
theorem find?_perm {items others : List α} (distinct : (items.map key).Nodup)
    (same : items.Perm others) (wanted : String) :
    find? key wanted others = find? key wanted items := by
  cases found : find? key wanted items with
  | none =>
      rw [find?_eq_none_iff] at found ⊢
      exact fun inside => found ((same.map key).mem_iff.mpr inside)
  | some item =>
      obtain rfl := key_of_find? key found
      exact find?_of_mem key ((same.map key).nodup_iff.mp distinct)
        (same.mem_iff.mp (mem_of_find? key found))

/-- If names differ, the name of a thing is among those of the things that are kept exactly if the
thing is kept. -/
theorem mem_filter_iff {items : List α} (distinct : (items.map key).Nodup) {keep : α → Bool}
    {item : α} (member : item ∈ items) :
    key item ∈ (items.filter keep).map key ↔ keep item = true := by
  constructor
  · intro named
    obtain ⟨other, inside, same⟩ := List.mem_map.mp named
    obtain ⟨there, kept⟩ := List.mem_filter.mp inside
    -- what stands for the name is both
    have stands := find?_of_mem key distinct there
    rw [same, find?_of_mem key distinct member] at stands
    exact Option.some.inj stands ▸ kept
  · intro kept
    exact List.mem_map_of_mem (List.mem_filter.mpr ⟨member, kept⟩)

/-- If names differ, an update changes each thing of its name. -/
theorem update_eq_map {items : List α} (distinct : (items.map key).Nodup) (name : String)
    (change : α → α) :
    update key name change items =
      items.map fun item => if key item = name then change item else item := by
  induction items with
  | nil => rfl
  | cons first rest ih =>
      rw [List.map_cons, List.nodup_cons] at distinct
      by_cases here : key first = name
      · subst here
        have others : ∀ item ∈ rest,
            (if key item = key first then change item else item) = item := by
          intro item inside
          refine if_neg ?_
          intro same
          rw [← same] at distinct
          exact distinct.1 (List.mem_map_of_mem inside)
        simp only [update, if_pos, List.map_cons]
        rw [List.map_congr_left others, List.map_id']
      · simp [update, here, ih distinct.2]

/-- What is in a list after an update was there before, or was changed. -/
theorem mem_update {name : String} {change : α → α} {items : List α} {item : α}
    (member : item ∈ update key name change items) :
    item ∈ items ∨ ∃ former ∈ items, key former = name ∧ item = change former := by
  induction items with
  | nil => cases member
  | cons first rest ih =>
      unfold update at member
      split at member
      · rename_i named
        rcases List.mem_cons.mp member with rfl | inside
        · exact .inr ⟨first, List.mem_cons_self, named, rfl⟩
        · exact .inl (List.mem_cons_of_mem _ inside)
      · rcases List.mem_cons.mp member with rfl | inside
        · exact .inl List.mem_cons_self
        · rcases ih inside with unchanged | ⟨former, there, named, changed⟩
          · exact .inl (List.mem_cons_of_mem _ unchanged)
          · exact .inr ⟨former, List.mem_cons_of_mem _ there, named, changed⟩

/-- A thing that gets a new name leaves names distinct. -/
theorem nodup_update {name new : String} {change : α → α} {items : List α}
    (renames : ∀ item, key (change item) = new) (fresh : new ∉ items.map key)
    (distinct : (items.map key).Nodup) : ((update key name change items).map key).Nodup := by
  induction items with
  | nil => exact .nil
  | cons first rest ih =>
      rw [List.map_cons, List.mem_cons, not_or] at fresh
      rw [List.map_cons, List.nodup_cons] at distinct
      unfold update
      split
      · rw [List.map_cons, renames, List.nodup_cons]
        exact ⟨fresh.2, distinct.2⟩
      · rw [List.map_cons, List.nodup_cons]
        refine ⟨fun member => ?_, ih fresh.2 distinct.2⟩
        obtain ⟨item, inside, same⟩ := List.mem_map.mp member
        rcases mem_update key inside with unchanged | ⟨former, _, _, rfl⟩
        · rw [← same] at distinct
          exact distinct.1 (List.mem_map_of_mem unchanged)
        · rw [renames] at same
          exact fresh.1 same

/-- Two updates of a name are one. -/
theorem update_update (first second : α → α) (keeps : ∀ item, key (first item) = key item)
    (name : String) (items : List α) :
    update key name second (update key name first items) =
      update key name (fun item => second (first item)) items := by
  induction items with
  | nil => rfl
  | cons item rest ih =>
      by_cases here : key item = name
      · simp [update, here, keeps]
      · simp [update, here, ih]

/-- An update changes the thing at the first position of its name. -/
theorem getElem?_update (name : String) (change : α → α) (items : List α) (position : Nat) :
    (update key name change items)[position]? =
      items[position]?.map fun item =>
        if (items.map key).idxOf? name = some position then change item else item := by
  induction items generalizing position with
  | nil => rfl
  | cons item rest ih =>
      by_cases here : key item = name
      · cases position with
        | zero => simp [update, here, List.idxOf?_cons]
        | succ position => simp [update, here, List.idxOf?_cons]
      · cases position with
        | zero => simp [update, here, List.idxOf?_cons]
        | succ position => simp [update, here, List.idxOf?_cons, ih]

/-- What stands for each name after a thing got a new name that was free. -/
theorem find?_rename {items : List α} (distinct : (items.map key).Nodup) {name new : String}
    (free : new ∉ items.map key) {change : α → α} (renames : ∀ item, key (change item) = new)
    (wanted : String) :
    find? key wanted (update key name change items) =
      if wanted = new then (find? key name items).map change
      else if wanted = name then none else find? key wanted items := by
  induction items with
  | nil => simp [find?, update]
  | cons first rest ih =>
      rw [List.map_cons, List.nodup_cons] at distinct
      rw [List.map_cons, List.mem_cons, not_or] at free
      obtain ⟨apart, others⟩ := distinct
      rw [update, find?]
      by_cases named : key first = name
      · subst named
        rw [if_pos rfl, if_pos rfl, find?, renames]
        by_cases fresh : wanted = new
        · rw [if_pos fresh.symm, if_pos fresh]
          rfl
        rw [if_neg (Ne.symm fresh), if_neg fresh]
        by_cases same : wanted = key first
        · rw [if_pos same, same]
          exact (find?_eq_none_iff key).mpr apart
        · rw [if_neg same, find?, if_neg (Ne.symm same)]
      · rw [if_neg named, if_neg named, find?]
        by_cases here : key first = wanted
        · subst here
          rw [if_pos rfl, if_neg (Ne.symm free.1), if_neg named, find?, if_pos rfl]
        · rw [if_neg here, ih others free.2, find?, if_neg here]

/-- Updates of two names can be made in either order. -/
theorem update_comm {first second : α → α} (keeps : ∀ item, key (first item) = key item)
    (again : ∀ item, key (second item) = key item) {name other : String} (different : name ≠ other)
    (items : List α) :
    update key name first (update key other second items) =
      update key other second (update key name first items) := by
  induction items with
  | nil => rfl
  | cons item rest ih =>
      by_cases here : key item = name
      · subst here
        simp [update, keeps, different]
      · by_cases there : key item = other
        · subst there
          simp [update, again, here]
        · simp [update, here, there, ih]

/-- To change nothing changes nothing. -/
theorem update_id (name : String) (items : List α) : update key name id items = items := by
  induction items with
  | nil => rfl
  | cons item rest ih => simp [update, ih]

/-- To change a thing into itself changes nothing. -/
theorem update_self {name : String} {change : α → α} {items : List α} {item : α}
    (found : find? key name items = some item) (same : change item = item) :
    update key name change items = items := by
  induction items with
  | nil => rfl
  | cons first rest ih =>
      unfold find? at found
      split at found
      · rename_i named
        cases found
        rw [update, if_pos named, same]
      · rename_i other
        rw [update, if_neg other, ih found]

/-- Where names differ, a thing has none of the names before it. -/
theorem absent_of_nodup {before after : List α} {item : α}
    (distinct : ((before ++ item :: after).map key).Nodup) : key item ∉ before.map key := by
  rw [List.map_append, List.map_cons, List.nodup_append] at distinct
  intro member
  exact distinct.2.2 (key item) member (key item) List.mem_cons_self rfl

/-- A thing after others of other names stands for its name. -/
theorem find?_middle {before : List α} {item : α} (absent : key item ∉ before.map key)
    (after : List α) : find? key (key item) (before ++ item :: after) = some item := by
  induction before with
  | nil => exact if_pos rfl
  | cons first rest ih =>
      rw [List.map_cons, List.mem_cons, not_or] at absent
      rw [List.cons_append, find?, if_neg (Ne.symm absent.1)]
      exact ih absent.2

/-- An update of a thing after others of other names changes it and no other. -/
theorem update_middle {before : List α} {item : α} (absent : key item ∉ before.map key)
    (change : α → α) (after : List α) :
    update key (key item) change (before ++ item :: after) = before ++ change item :: after := by
  induction before with
  | nil => exact if_pos rfl
  | cons first rest ih =>
      rw [List.map_cons, List.mem_cons, not_or] at absent
      rw [List.cons_append, update, if_neg (Ne.symm absent.1), ih absent.2]
      rfl

theorem mem_put {new : α} {items : List α} {item : α} (member : item ∈ put key new items) :
    item = new ∨ item ∈ items := by
  induction items with
  | nil => exact .inl (List.mem_singleton.mp member)
  | cons first rest ih =>
      unfold put at member
      split at member
      · rcases List.mem_cons.mp member with rfl | inside
        · exact .inl rfl
        · exact .inr (List.mem_cons_of_mem _ inside)
      · rcases List.mem_cons.mp member with rfl | inside
        · exact .inr List.mem_cons_self
        · exact (ih inside).imp_right (List.mem_cons_of_mem _)

/-- To put a thing leaves names distinct. -/
theorem nodup_put {items : List α} (distinct : (items.map key).Nodup) (new : α) :
    ((put key new items).map key).Nodup := by
  induction items with
  | nil => exact List.pairwise_singleton _ _
  | cons first rest ih =>
      rw [List.map_cons, List.nodup_cons] at distinct
      unfold put
      split
      · rename_i same
        rw [List.map_cons, List.nodup_cons, ← same]
        exact distinct
      · rename_i other
        rw [List.map_cons, List.nodup_cons]
        refine ⟨fun member => ?_, ih distinct.2⟩
        obtain ⟨item, inside, same⟩ := List.mem_map.mp member
        rcases mem_put key inside with rfl | unchanged
        · exact other same.symm
        · rw [← same] at distinct
          exact distinct.1 (List.mem_map_of_mem unchanged)

/-- A thing that was put stands for its name; other names stand as before. -/
theorem find?_put (new : α) (wanted : String) (items : List α) :
    find? key wanted (put key new items) =
      if wanted = key new then some new else find? key wanted items := by
  induction items with
  | nil =>
      by_cases asked : wanted = key new
      · simp [find?, put, asked]
      · simp [find?, put, asked, Ne.symm asked]
  | cons first rest ih =>
      by_cases here : key first = key new
      · by_cases asked : wanted = key new
        · simp [find?, put, here, asked]
        · simp [find?, put, here, asked, Ne.symm asked]
      · by_cases asked : key first = wanted
        · subst asked
          simp [find?, put, here]
        · simp [find?, put, here, asked, ih]

/-- What comes after has no part in what stands for a name that there is already. -/
theorem find?_append_left {wanted : String} {first : List α} (inside : wanted ∈ first.map key)
    (second : List α) : find? key wanted (first ++ second) = find? key wanted first := by
  induction first with
  | nil => cases inside
  | cons item rest ih =>
      rw [List.map_cons, List.mem_cons] at inside
      rw [List.cons_append, find?, find?]
      by_cases here : key item = wanted
      · rw [if_pos here, if_pos here]
      · rw [if_neg here, if_neg here]
        exact ih (inside.resolve_left (Ne.symm here))

/-- A thing at the end stands for its name only if nothing did before. -/
theorem find?_append_one (items : List α) (last : α) (wanted : String) :
    find? key wanted (items ++ [last]) =
      (find? key wanted items).or (if key last = wanted then some last else none) := by
  induction items with
  | nil => simp [find?]
  | cons first rest ih =>
      by_cases here : key first = wanted
      · simp [find?, here]
      · simp [find?, here, ih]

/-- A thing of a new name at the end leaves names distinct. -/
theorem nodup_append_one {items : List α} (distinct : (items.map key).Nodup) {last : α}
    (fresh : key last ∉ items.map key) : ((items ++ [last]).map key).Nodup := by
  rw [List.map_append, List.nodup_append]
  refine ⟨distinct, List.pairwise_singleton _ _, ?_⟩
  intro name inside other member same
  rw [same, List.mem_singleton.mp member] at inside
  exact fresh inside

/-! ### Things stored under names -/

section Stored

variable {items : List (String × α)} {name : String} {value : α}

/-- What is stored under a name. -/
def lookup? (wanted : String) (items : List (String × α)) : Option α :=
  (find? Prod.fst wanted items).map Prod.snd

/-- Stores a thing under a name, in the place of the one that was there, or at the end. -/
def store (name : String) (value : α) (items : List (String × α)) : List (String × α) :=
  put Prod.fst (name, value) items

/-- Changes what is stored under a name. -/
def revise (name : String) (change : α → α) (items : List (String × α)) : List (String × α) :=
  update Prod.fst name (fun stored => (stored.1, change stored.2)) items

/-- What is stored under a name stands for it, beside the name. -/
theorem lookup?_eq_some_iff :
    lookup? name items = some value ↔ find? Prod.fst name items = some (name, value) := by
  constructor
  · intro found
    obtain ⟨⟨stored, _⟩, stands, rfl⟩ := Option.map_eq_some_iff.mp found
    obtain rfl : stored = name := key_of_find? Prod.fst stands
    exact stands
  · intro stands
    rw [lookup?, stands]
    rfl

theorem mem_of_lookup? (found : lookup? name items = some value) : (name, value) ∈ items :=
  mem_of_find? Prod.fst (lookup?_eq_some_iff.mp found)

/-- Nothing is stored under a name exactly when the name does not occur. -/
theorem lookup?_eq_none_iff : lookup? name items = none ↔ name ∉ items.map Prod.fst := by
  rw [lookup?, Option.map_eq_none_iff, find?_eq_none_iff]

/-- If names differ, what is in the list is stored under its name. -/
theorem lookup?_eq_some_iff_mem (distinct : (items.map Prod.fst).Nodup) :
    lookup? name items = some value ↔ (name, value) ∈ items := by
  refine ⟨mem_of_lookup?, fun member => lookup?_eq_some_iff.mpr ?_⟩
  exact find?_of_mem Prod.fst distinct member

/-- If names differ, it does not matter in which order things are stored. -/
theorem lookup?_perm {others : List (String × α)} (distinct : (items.map Prod.fst).Nodup)
    (same : items.Perm others) (wanted : String) : lookup? wanted others = lookup? wanted items :=
  congrArg (Option.map Prod.snd) (find?_perm Prod.fst distinct same wanted)

/-- What is stored under a name can be read; what is stored under others stays. -/
theorem lookup?_store (name : String) (value : α) (wanted : String) (items : List (String × α)) :
    lookup? wanted (store name value items) =
      if wanted = name then some value else lookup? wanted items := by
  rw [lookup?, store, find?_put]
  split <;> rfl

/-- A change to what is stored under a name changes this and nothing else. -/
theorem lookup?_revise (name : String) (change : α → α) (wanted : String)
    (items : List (String × α)) :
    lookup? wanted (revise name change items) =
      if wanted = name then (lookup? name items).map change else lookup? wanted items := by
  have law := find?_update Prod.fst (fun stored : String × α => (stored.1, change stored.2))
    (fun _ => rfl) name wanted items
  rw [lookup?, revise, law]
  split
  · rw [lookup?, Option.map_map, Option.map_map]
    rfl
  · rfl

/-- Changes of two names can be made in either order. -/
theorem revise_comm {other : String} (first second : α → α) (different : name ≠ other)
    (items : List (String × α)) :
    revise name first (revise other second items) =
      revise other second (revise name first items) := by
  have keeps (change : α → α) (stored : String × α) :
      Prod.fst (stored.1, change stored.2) = Prod.fst stored := rfl
  exact update_comm Prod.fst (keeps first) (keeps second) different items

/-- What is stored at the end is found only if nothing was stored under its name before. -/
theorem lookup?_append_one (items : List (String × α)) (name : String) (value : α)
    (wanted : String) :
    lookup? wanted (items ++ [(name, value)]) =
      (lookup? wanted items).or (if name = wanted then some value else none) := by
  rw [lookup?, find?_append_one, Option.map_or, lookup?]
  split <;> rfl

/-- Of two things of new names either can be stored first. -/
theorem lookup?_exchange {other : String} {another : α} (free : lookup? name items = none)
    (again : lookup? other (items ++ [(name, value)]) = none) :
    lookup? other items = none ∧ lookup? name (items ++ [(other, another)]) = none := by
  rw [lookup?_append_one, Option.or_eq_none_iff] at again
  obtain ⟨absent, apart⟩ := again
  have different : other ≠ name := by
    rintro rfl
    cases (if_pos rfl).symm.trans apart
  rw [lookup?_append_one, free, if_neg different]
  exact ⟨absent, rfl⟩

/-- If what is in the list is stored under its name, so it is with a thing of a new name at the
end. -/
theorem lookup?_concat_iff
    (stands : ∀ {wanted : String} {item : α}, lookup? wanted items = some item ↔
      (wanted, item) ∈ items)
    (fresh : lookup? name items = none) {wanted : String} {item : α} :
    lookup? wanted (items ++ [(name, value)]) = some item ↔
      (wanted, item) ∈ items ++ [(name, value)] := by
  refine ⟨mem_of_lookup?, fun member => ?_⟩
  rw [lookup?_append_one]
  rcases List.mem_append.mp member with former | last
  · rw [stands.mpr former]
    rfl
  · cases List.mem_singleton.mp last
    rw [fresh, if_pos rfl]
    rfl

/-- To store a thing in the place of another is to change that one. -/
theorem store_eq_revise (found : lookup? name items = some value) {change : α → α} {new : α}
    (made : change value = new) : store name new items = revise name change items := by
  subst made
  have stands := lookup?_eq_some_iff.mp found
  rw [store, revise]
  clear found
  induction items with
  | nil => cases stands
  | cons first rest ih =>
      rw [find?] at stands
      rw [put, update]
      split at stands
      · rename_i here
        cases stands
        rw [if_pos here, if_pos here]
      · rename_i other
        rw [if_neg other, if_neg other, ih stands]

/-- To store again what is stored changes nothing. -/
theorem store_self (found : lookup? name items = some value) : store name value items = items := by
  have stands := lookup?_eq_some_iff.mp found
  exact (store_eq_revise found (show id value = value from rfl)).trans
    (update_self Prod.fst stands rfl)

end Stored

end AspectWeaver.Named
