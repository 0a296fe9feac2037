/-
**Loading entries that wait: all of them, or those before the first that is refused.**

Functions are loaded before annotations, each in the order in which they were submitted. The first
entry that the registry refuses ends the loading; those before it are in the registry by then, and
stay.

* `plus`, `TakesAll` — a registry with entries behind its own, and when it takes in all of them.
* `Rejects` — the checks of an entry that comes behind others, each with its refusal.
* `accepts_plus_iff` — **one entry more**: it is accepted behind others exactly if it is accepted
  without them and none of them is of its sort and name.
* `addTo_plus_eq_error_iff` — **an entry is refused** behind others for the first check that fails.
* `takesAll_or_rejects` — all entries are taken in, or one of them is the first that is refused.
* `load_of_takesAll`, `load_of_rejects` — what loading leaves in the one case and in the other.
* **`autoLoad_exact`** — **loading counts all entries or ends at the first that is refused**, with
  its refusal and with exactly the entries before it; nothing that was there is changed, and what
  was loaded is not loaded again.
-/

import AspectWeaver.Proofs.History
import AspectWeaver.Proofs.Requests
import Mathlib.Data.List.Induction

namespace AspectWeaver

variable {S : Interface}

namespace Submission

/-- The name of an entry. -/
def name : Submission S → String
  | .function name _ => name
  | .binding name _ _ => name

/-- The function that waits to be loaded, under its name. -/
def function? : Submission S → Option (String × Handler S)
  | .function name handler => some (name, handler)
  | .binding _ _ _ => none

/-- The annotation that waits to be loaded, under its name. -/
def binding? : Submission S → Option (String × Binding S)
  | .function _ _ => none
  | .binding name kind handler => some (name, ⟨name, kind, handler⟩)

/-- The entries are of different sorts, or have different names. -/
def Apart : Submission S → Submission S → Prop
  | .function name _, .function other _ => name ≠ other
  | .binding name _ _, .binding other _ _ => name ≠ other
  | .function _ _, .binding _ _ _ => True
  | .binding _ _ _, .function _ _ => True

end Submission

namespace Registry

/-! ### Entries behind those of a registry -/

/-- The registry with entries behind its own, each sort in its order. -/
def plus (registry : Registry S) (entries : List (Submission S)) : Registry S where
  bindings := registry.bindings ++ entries.filterMap Submission.binding?
  functions := registry.functions ++ entries.filterMap Submission.function?

/-- Each entry would be accepted alone, and no two of a sort have the same name. -/
structure TakesAll (registry : Registry S) (entries : List (Submission S)) : Prop where
  accepted : ∀ entry ∈ entries, registry.Accepts entry
  apart : entries.Pairwise Submission.Apart

/-- An entry that comes behind others is refused with this cause: the check fails, and those before
it do not. -/
inductive Rejects (registry : Registry S) (before : List (Submission S)) :
    Submission S → Refusal → Prop where
  | functionName {name : String} {handler : Handler S} (unfit : isFunctionName name = false) :
      Rejects registry before (.function name handler) (.invalidName name)
  | functionTaken {name : String} {handler : Handler S} (fit : isFunctionName name = true)
      (taken : registry.function? name ≠ none ∨ ∃ other, .function name other ∈ before) :
      Rejects registry before (.function name handler) (.duplicateName name)
  | annotationName {name : String} {kind : Kind} {handler : Handler S}
      (unfit : isAnnotationName name = false) :
      Rejects registry before (.binding name kind handler) (.invalidName name)
  | annotationReserved {name : String} {kind : Kind} {handler : Handler S}
      (fit : isAnnotationName name = true) (reserved : isReservedName name = true) :
      Rejects registry before (.binding name kind handler) (.reservedName name)
  | annotationTaken {name : String} {kind : Kind} {handler : Handler S}
      (fit : isAnnotationName name = true) (unreserved : isReservedName name = false)
      (taken : registry.find? name ≠ none ∨ ∃ other another, .binding name other another ∈ before) :
      Rejects registry before (.binding name kind handler) (.duplicateName name)
  | annotationKind {name : String} {kind : Kind} {handler : Handler S}
      (fit : isAnnotationName name = true) (unreserved : isReservedName name = false)
      (new : registry.find? name = none)
      (apart : ∀ other another, .binding name other another ∉ before)
      (mismatch : handler.kind ≠ kind) :
      Rejects registry before (.binding name kind handler) (.notInvocable name kind)

section Plus

variable {registry : Registry S} {before : List (Submission S)}

theorem plus_nil (registry : Registry S) : registry.plus [] = registry := by
  simp [plus]

/-- One entry more is one behind all others. -/
theorem plus_append_one (registry : Registry S) (before : List (Submission S))
    (entry : Submission S) :
    registry.plus (before ++ [entry]) = (registry.plus before).extend entry := by
  cases entry with
  | function name handler => simp [plus, extend, Submission.binding?, Submission.function?]
  | binding name kind handler => simp [plus, extend, Submission.binding?, Submission.function?]

/-- A function is unknown behind entries exactly if it was before and is none of them. -/
theorem function?_plus_eq_none_iff {name : String} :
    (registry.plus before).function? name = none ↔
      registry.function? name = none ∧ ∀ handler, .function name handler ∉ before := by
  have among : name ∈ (before.filterMap Submission.function?).map Prod.fst ↔
      ∃ handler, .function name handler ∈ before := by
    constructor
    · intro member
      obtain ⟨function, inside, rfl⟩ := List.mem_map.mp member
      obtain ⟨entry, there, same⟩ := List.mem_filterMap.mp inside
      cases entry <;> cases same
      exact ⟨_, there⟩
    · rintro ⟨handler, there⟩
      have inside : (name, handler) ∈ before.filterMap Submission.function? :=
        List.mem_filterMap.mpr ⟨_, there, rfl⟩
      exact List.mem_map.mpr ⟨_, inside, rfl⟩
  rw [function?, function?, Named.lookup?_eq_none_iff, Named.lookup?_eq_none_iff, plus,
    List.map_append, List.mem_append, not_or, among, not_exists]

/-- An annotation is unknown behind entries exactly if it was before and is none of them. -/
theorem find?_plus_eq_none_iff {name : String} :
    (registry.plus before).find? name = none ↔
      registry.find? name = none ∧ ∀ kind handler, .binding name kind handler ∉ before := by
  have among : name ∈ (before.filterMap Submission.binding?).map Prod.fst ↔
      ∃ kind handler, .binding name kind handler ∈ before := by
    constructor
    · intro member
      obtain ⟨binding, inside, rfl⟩ := List.mem_map.mp member
      obtain ⟨entry, there, same⟩ := List.mem_filterMap.mp inside
      cases entry <;> cases same
      exact ⟨_, _, there⟩
    · rintro ⟨kind, handler, there⟩
      have inside : (name, ⟨name, kind, handler⟩) ∈ before.filterMap Submission.binding? :=
        List.mem_filterMap.mpr ⟨_, there, rfl⟩
      exact List.mem_map.mpr ⟨_, inside, rfl⟩
  rw [find?, find?, Named.lookup?_eq_none_iff, Named.lookup?_eq_none_iff, plus,
    List.map_append, List.mem_append, not_or, among, not_exists]
  simp only [not_exists]

/-- **An entry is accepted behind others** exactly if it is accepted without them and none of them
is of its sort and name. -/
theorem accepts_plus_iff {entry : Submission S} :
    (registry.plus before).Accepts entry ↔
      registry.Accepts entry ∧ ∀ earlier ∈ before, earlier.Apart entry := by
  cases entry with
  | function name handler =>
      have apart : (∀ earlier ∈ before, earlier.Apart (.function name handler)) ↔
          ∀ handler, .function name handler ∉ before := by
        constructor
        · exact fun apart other there => apart _ there rfl
        · intro absent earlier there
          cases earlier with
          | function other another => exact fun same => absent another (same ▸ there)
          | binding other kind another => trivial
      rw [Accepts, Accepts, function?_plus_eq_none_iff, apart, and_assoc]
  | binding name kind handler =>
      have apart : (∀ earlier ∈ before, earlier.Apart (.binding name kind handler)) ↔
          ∀ kind handler, .binding name kind handler ∉ before := by
        constructor
        · exact fun apart other another there => apart _ there rfl
        · intro absent earlier there
          cases earlier with
          | function other another => trivial
          | binding other second another => exact fun same => absent second another (same ▸ there)
      rw [Accepts, Accepts, find?_plus_eq_none_iff, apart]
      constructor
      · rintro ⟨fit, unreserved, ⟨new, absent⟩, suits⟩
        exact ⟨⟨fit, unreserved, new, suits⟩, absent⟩
      · rintro ⟨⟨fit, unreserved, new, suits⟩, absent⟩
        exact ⟨fit, unreserved, ⟨new, absent⟩, suits⟩

/-- Entries are taken in with one more exactly if they are, and the one is accepted behind them. -/
theorem takesAll_append_one_iff {entry : Submission S} :
    registry.TakesAll (before ++ [entry]) ↔
      registry.TakesAll before ∧ (registry.plus before).Accepts entry := by
  rw [accepts_plus_iff]
  constructor
  · rintro ⟨accepted, apart⟩
    obtain ⟨others, last⟩ := List.forall_mem_append.mp accepted
    obtain ⟨pairs, _, different⟩ := List.pairwise_append.mp apart
    exact ⟨⟨others, pairs⟩, last entry List.mem_cons_self,
      fun earlier there => different earlier there entry List.mem_cons_self⟩
  · rintro ⟨⟨others, pairs⟩, last, different⟩
    refine ⟨List.forall_mem_append.mpr ⟨others, List.forall_mem_singleton.mpr last⟩, ?_⟩
    refine List.pairwise_append.mpr ⟨pairs, List.pairwise_singleton _ _, ?_⟩
    exact fun earlier there => List.forall_mem_singleton.mpr (different earlier there)

/-- A function is refused for its name, or because the name is taken. -/
theorem defineFunction_eq_error_iff {name : String} {handler : Handler S} {cause : Refusal} :
    registry.defineFunction name handler = (.error cause, registry) ↔
      (isFunctionName name = false ∧ cause = .invalidName name) ∨
        (isFunctionName name = true ∧ registry.function? name ≠ none ∧
          cause = .duplicateName name) := by
  rw [defineFunction]
  cases isFunctionName name
  · simp [@eq_comm _ cause]
  · cases registry.function? name <;> simp [@eq_comm _ cause]

/-- An annotation is refused for its name, or because the name is reserved or taken, or because the
handler is of another kind. -/
theorem register_eq_error_iff {name : String} {kind : Kind} {handler : Handler S}
    {cause : Refusal} :
    registry.register name handler kind = (.error cause, registry) ↔
      (isAnnotationName name = false ∧ cause = .invalidName name) ∨
        (isAnnotationName name = true ∧ isReservedName name = true ∧
          cause = .reservedName name) ∨
        (isAnnotationName name = true ∧ isReservedName name = false ∧
          registry.find? name ≠ none ∧ cause = .duplicateName name) ∨
        (isAnnotationName name = true ∧ isReservedName name = false ∧
          registry.find? name = none ∧ handler.kind ≠ kind ∧ cause = .notInvocable name kind) := by
  rw [register, registerWithCode, Kind.ofCode?_code, contains]
  cases isAnnotationName name
  · simp [@eq_comm _ cause]
  cases isReservedName name
  · cases registry.find? name
    · by_cases suits : handler.kind = kind <;> simp [suits, @eq_comm _ cause]
    · simp [@eq_comm _ cause]
  · simp [@eq_comm _ cause]

/-- A registry refuses an entry behind others with the cause of the first check that fails. -/
theorem addTo_plus_eq_error_iff {entry : Submission S} {cause : Refusal} :
    entry.addTo (registry.plus before) = (.error cause, registry.plus before) ↔
      registry.Rejects before entry cause := by
  cases entry with
  | function name handler =>
      have taken : (registry.plus before).function? name ≠ none ↔
          registry.function? name ≠ none ∨ ∃ other, .function name other ∈ before := by
        rw [ne_eq, function?_plus_eq_none_iff, Classical.not_and_iff_not_or_not,
          Classical.not_forall_not]
      rw [Submission.addTo, defineFunction_eq_error_iff, taken]
      constructor
      · rintro (⟨unfit, rfl⟩ | ⟨fit, known, rfl⟩)
        · exact .functionName unfit
        · exact .functionTaken fit known
      · intro rejects
        cases rejects with
        | functionName unfit => exact .inl ⟨unfit, rfl⟩
        | functionTaken fit known => exact .inr ⟨fit, known, rfl⟩
  | binding name kind handler =>
      have taken : (registry.plus before).find? name ≠ none ↔
          registry.find? name ≠ none ∨ ∃ other another, .binding name other another ∈ before := by
        rw [ne_eq, find?_plus_eq_none_iff, Classical.not_and_iff_not_or_not]
        simp only [Classical.not_forall, Classical.not_not]
      rw [Submission.addTo, register_eq_error_iff, taken, find?_plus_eq_none_iff]
      constructor
      · rintro (⟨unfit, rfl⟩ | ⟨fit, reserved, rfl⟩ | ⟨fit, unreserved, known, rfl⟩ |
          ⟨fit, unreserved, ⟨new, apart⟩, mismatch, rfl⟩)
        · exact .annotationName unfit
        · exact .annotationReserved fit reserved
        · exact .annotationTaken fit unreserved known
        · exact .annotationKind fit unreserved new apart mismatch
      · intro rejects
        cases rejects with
        | annotationName unfit => exact .inl ⟨unfit, rfl⟩
        | annotationReserved fit reserved => exact .inr (.inl ⟨fit, reserved, rfl⟩)
        | annotationTaken fit unreserved known =>
            exact .inr (.inr (.inl ⟨fit, unreserved, known, rfl⟩))
        | annotationKind fit unreserved new apart mismatch =>
            exact .inr (.inr (.inr ⟨fit, unreserved, ⟨new, apart⟩, mismatch, rfl⟩))

end Plus

/-! ### The two ways of loading -/

section Load

variable {registry : Registry S} {entries before after : List (Submission S)}
  {entry : Submission S} {cause : Refusal}

/-- What comes behind entries that are all loaded is loaded after them. -/
theorem load_behind (unstopped : (registry.load before).stopped = none)
    (rest : List (Submission S)) :
    (registry.load (before ++ rest)).registry =
        ((registry.load before).registry.load rest).registry ∧
      (registry.load (before ++ rest)).stopped =
        ((registry.load before).registry.load rest).stopped := by
  rw [load_append]
  dsimp only
  rw [unstopped]
  exact ⟨rfl, rfl⟩

/-- Entries that the registry takes in are all loaded. -/
theorem load_of_takesAll (taken : registry.TakesAll entries) :
    (registry.load entries).registry = registry.plus entries ∧
      (registry.load entries).stopped = none := by
  induction entries using List.reverseRecOn with
  | nil => exact ⟨(plus_nil registry).symm, rfl⟩
  | append_singleton before entry ih =>
      obtain ⟨others, accepts⟩ := takesAll_append_one_iff.mp taken
      obtain ⟨reached, unstopped⟩ := ih others
      have added := addTo_eq_ok_iff.mpr ⟨accepts, rfl⟩
      rw [(load_behind unstopped [entry]).1, (load_behind unstopped [entry]).2, reached, load,
        added, plus_append_one]
      exact ⟨rfl, rfl⟩

/-- The first entry that the registry refuses ends the loading. -/
theorem load_of_rejects (taken : registry.TakesAll before)
    (rejects : registry.Rejects before entry cause) (after : List (Submission S)) :
    (registry.load (before ++ entry :: after)).registry = registry.plus before ∧
      (registry.load (before ++ entry :: after)).stopped = some cause := by
  obtain ⟨reached, unstopped⟩ := load_of_takesAll taken
  have refused := addTo_plus_eq_error_iff.mpr rejects
  rw [(load_behind unstopped _).1, (load_behind unstopped _).2, reached, load, refused]
  exact ⟨rfl, rfl⟩

/-- **All entries are taken in, or one of them is the first that is refused.** -/
theorem takesAll_or_rejects (registry : Registry S) (entries : List (Submission S)) :
    registry.TakesAll entries ∨ ∃ before entry after cause, entries = before ++ entry :: after ∧
      registry.TakesAll before ∧ registry.Rejects before entry cause := by
  induction entries using List.reverseRecOn with
  | nil => exact .inl ⟨List.forall_mem_nil _, .nil⟩
  | append_singleton entries last ih =>
      rcases ih with taken | ⟨before, entry, after, cause, rfl, taken, rejects⟩
      · rcases added : last.addTo (registry.plus entries) with ⟨⟨cause⟩ | ⟨⟩, left⟩
        · obtain rfl := addTo_refused added
          exact .inr ⟨entries, last, [], cause, rfl, taken, addTo_plus_eq_error_iff.mp added⟩
        · obtain ⟨accepts, _⟩ := addTo_eq_ok_iff.mp added
          exact .inl (takesAll_append_one_iff.mpr ⟨taken, accepts⟩)
      · exact .inr ⟨before, entry, after ++ [last], cause, by simp, taken, rejects⟩

end Load

/-! ### What comes of loading -/

/-- What can come of loading entries: how it ends, and the registry then. -/
inductive Loads (registry : Registry S) (entries : List (Submission S)) :
    Except Refusal Nat → Registry S → Prop where
  /-- All of them are taken in, and counted. -/
  | all (taken : registry.TakesAll entries) :
      Loads registry entries (.ok entries.length) (registry.plus entries)
  /-- Those before the first that is refused are taken in, and it is reported. -/
  | stopped {before after : List (Submission S)} {entry : Submission S} {cause : Refusal}
      (order : entries = before ++ entry :: after) (taken : registry.TakesAll before)
      (rejects : registry.Rejects before entry cause) :
      Loads registry entries (.error cause) (registry.plus before)

section AutoLoad

variable {registry : Registry S}

theorem length_inOrder (functions : List (String × Handler S)) (bindings : List (Binding S)) :
    (Submission.inOrder functions bindings).length = functions.length + bindings.length := by
  rw [Submission.inOrder, List.length_append, List.length_map, List.length_map]

/-- What comes of loading is what can come of it. -/
theorem autoLoad_iff {functions : List (String × Handler S)} {bindings : List (Binding S)}
    {outcome : Except Refusal Nat} {later : Registry S} :
    (registry.autoLoad functions bindings).1 = outcome ∧
        (registry.autoLoad functions bindings).2.registry = later ↔
      registry.Loads (Submission.inOrder functions bindings) outcome later := by
  rw [autoLoad_registry, autoLoad_outcome, ← length_inOrder]
  generalize Submission.inOrder functions bindings = entries
  constructor
  · rintro ⟨rfl, rfl⟩
    rcases registry.takesAll_or_rejects entries with
      taken | ⟨before, entry, after, cause, rfl, taken, rejects⟩
    · obtain ⟨reached, unstopped⟩ := load_of_takesAll taken
      rw [reached, unstopped]
      exact .all taken
    · obtain ⟨reached, stopped⟩ := load_of_rejects taken rejects after
      rw [reached, stopped]
      exact .stopped rfl taken rejects
  · intro loads
    cases loads with
    | all taken =>
        obtain ⟨reached, unstopped⟩ := load_of_takesAll taken
        rw [reached, unstopped]
        exact ⟨rfl, rfl⟩
    | stopped order taken rejects =>
        subst order
        obtain ⟨reached, stopped⟩ := load_of_rejects taken rejects _
        rw [reached, stopped]
        exact ⟨rfl, rfl⟩

/-- All entries are counted exactly if all can be taken in. -/
theorem loads_ok_iff {entries : List (Submission S)} {number : Nat} {later : Registry S} :
    registry.Loads entries (.ok number) later ↔
      registry.TakesAll entries ∧ number = entries.length ∧ later = registry.plus entries := by
  constructor
  · intro loads
    cases loads with
    | all taken => exact ⟨taken, rfl, rfl⟩
  · rintro ⟨taken, rfl, rfl⟩
    exact .all taken

/-- An entry that was taken in is refused as one whose name is taken. -/
theorem rejects_taken {entries : List (Submission S)} {entry : Submission S}
    (accepts : registry.Accepts entry) (there : entry ∈ entries) :
    (registry.plus entries).Rejects [] entry (.duplicateName entry.name) := by
  cases entry with
  | function name handler =>
      refine .functionTaken accepts.1 (.inl fun unknown => ?_)
      exact (function?_plus_eq_none_iff.mp unknown).2 handler there
  | binding name kind handler =>
      obtain ⟨fit, unreserved, _⟩ := accepts
      refine .annotationTaken fit unreserved (.inl fun unknown => ?_)
      exact (find?_plus_eq_none_iff.mp unknown).2 kind handler there

/-- What was loaded is not loaded again: the first of the entries is refused. -/
theorem loads_again {first : Submission S} {rest : List (Submission S)}
    (taken : registry.TakesAll (first :: rest)) :
    (registry.plus (first :: rest)).Loads (first :: rest) (.error (.duplicateName first.name))
      (registry.plus (first :: rest)) := by
  have rejects : (registry.plus (first :: rest)).Rejects [] first (.duplicateName first.name) :=
    rejects_taken (taken.accepted first List.mem_cons_self) List.mem_cons_self
  have nothing : (registry.plus (first :: rest)).TakesAll [] := ⟨List.forall_mem_nil _, .nil⟩
  have loads : Loads _ (first :: rest) _ _ := .stopped rfl nothing rejects
  rwa [plus_nil] at loads

end AutoLoad

/-- What can be relied on when functions and annotations are loaded into a registry. -/
structure AutoLoads (registry : Registry S) (functions : List (String × Handler S))
    (bindings : List (Binding S)) : Prop where
  /-- Loading ends in one of the two ways, and the entries, functions first, settle in which: all of
  them are counted exactly if all can be taken in; else the first that is refused is reported, and
  the registry is the former one with exactly the entries before it. -/
  ends {outcome : Except Refusal Nat} {later : Registry S} :
    (registry.autoLoad functions bindings).1 = outcome ∧
        (registry.autoLoad functions bindings).2.registry = later ↔
      registry.Loads (Submission.inOrder functions bindings) outcome later
  /-- Whatever is found in the registry is found under the same name afterwards. -/
  lasting : registry.Grows (registry.autoLoad functions bindings).2.registry
  /-- If all entries were loaded, and there are any, the first of them is refused the next time, and
  the registry stays as it is. -/
  again {number : Nat} {first : Submission S} {rest : List (Submission S)}
    (loaded : (registry.autoLoad functions bindings).1 = .ok number)
    (order : Submission.inOrder functions bindings = first :: rest) :
    let later := (registry.autoLoad functions bindings).2.registry
    (later.autoLoad functions bindings).1 = .error (.duplicateName first.name) ∧
      (later.autoLoad functions bindings).2.registry = later

/-- **Loading counts all entries, or ends at the first that is refused** and keeps those before
it. -/
theorem autoLoad_exact (registry : Registry S) (functions : List (String × Handler S))
    (bindings : List (Binding S)) :
    registry.AutoLoads functions bindings ∧
      (Submission.inOrder functions bindings).length = functions.length + bindings.length ∧
      registry.plus (Submission.inOrder functions bindings) =
        ⟨registry.bindings ++ bindings.map fun binding => (binding.name, binding),
          registry.functions ++ functions⟩ := by
  refine ⟨⟨autoLoad_iff, ?_, ?_⟩, length_inOrder functions bindings, ?_⟩
  · rw [autoLoad_registry]
    exact .of_takes (takes_load registry _)
  · intro number first rest loaded order
    obtain ⟨taken, _, reached⟩ := loads_ok_iff.mp (autoLoad_iff.mp ⟨loaded, rfl⟩)
    dsimp only
    rw [reached, autoLoad_iff, order]
    rw [order] at taken
    exact loads_again taken
  · simp [plus, Submission.inOrder, List.filterMap_append, List.filterMap_map, Function.comp_def,
      Submission.binding?, Submission.function?]

/-- A handler that does nothing. -/
def passing : Handler Interface.idle := .before fun _ _ => .done (.ok ())

/-- A registry with one annotation. -/
def stamped : Registry Interface.idle where
  bindings := [("stamp", ⟨"stamp", .before, passing⟩)]

/-- The second annotation has a name that is taken, so the third is not loaded; the function and the
first annotation are, and would be refused the next time. -/
theorem autoLoad_exact_clash :
    let functions : List (String × Handler Interface.idle) := [("trace", passing)]
    let clashing : List (Binding Interface.idle) :=
      [⟨"note", .before, passing⟩, ⟨"stamp", .before, passing⟩, ⟨"check", .before, passing⟩]
    let loaded := stamped.autoLoad functions clashing
    loaded.1 = .error (.duplicateName "stamp") ∧
      loaded.2.registry =
        ⟨stamped.bindings ++ [("note", ⟨"note", .before, passing⟩)], functions⟩ ∧
      (stamped.autoLoad functions []).1 = .ok 1 ∧
      ((stamped.autoLoad functions []).2.registry.autoLoad functions []).1 =
        .error (.duplicateName "trace") := by
  intro functions clashing loaded
  obtain ⟨stops, _⟩ := autoLoad_exact stamped functions clashing
  let before : List (Submission Interface.idle) :=
    [.function "trace" passing, .binding "note" .before passing]
  have order : Submission.inOrder functions clashing =
      before ++ .binding "stamp" .before passing :: [.binding "check" .before passing] := rfl
  have first : stamped.TakesAll before := by
    refine ⟨List.forall_mem_cons.mpr ⟨⟨rfl, rfl⟩, List.forall_mem_singleton.mpr ?_⟩, ?_⟩
    · exact ⟨rfl, rfl, rfl, rfl⟩
    · exact .cons (List.forall_mem_singleton.mpr trivial) (List.pairwise_singleton _ _)
  have taken : stamped.find? "stamp" ≠ none := Option.isSome_iff_ne_none.mp rfl
  obtain ⟨refused, reached⟩ :=
    stops.ends.mpr (.stopped order first (.annotationTaken rfl rfl (.inl taken)))
  obtain ⟨counts, _⟩ := autoLoad_exact stamped functions []
  have alone : stamped.TakesAll (Submission.inOrder functions []) :=
    ⟨List.forall_mem_singleton.mpr ⟨rfl, rfl⟩, List.pairwise_singleton _ _⟩
  obtain ⟨counted, _⟩ := counts.ends.mpr (.all alone)
  exact ⟨refused, reached, counted, (counts.again counted rfl).1⟩

end Registry

end AspectWeaver
