/-
**Requests to a registry, in any number and order.**

Whoever fills a registry makes requests: to register an annotation, to define a function, or to load
many entries at once. A request for one entry leaves a registry whether it is accepted or refused;
loading stops at the first entry that is refused and keeps those before it. Whatever is requested,
the registry changes by entries that it takes in one at a time.

* `Accepts`, `Registry.extend` — which entries a registry takes in, and what it is with one more.
* `answer?_eq_ok_iff` — a request for one entry succeeds exactly if the entry is accepted;
  `answer?_refused`, one that is refused leaves the registry as it was.
* `autoLoad_registry` — loading goes through the functions, and then through the annotations.
* `takes_after` — **requests come down to entries that are taken in**, one after the other.
* `Grows`, `Orderly` — what is kept of the entries that are there, and what holds of each of them.
  One entry keeps to it, and so requests do.
* `grows_after` — requests take nothing away and bind no name anew, whether they are accepted or
  refused.
* **`after_upheld`** — **a registry that requests have filled is in order**, and stays so.
* `mem_knownNames_iff` — the names that are known are those of the built-in directives and of the
  annotations.
-/

import AspectWeaver.Registry.Loading
import Mathlib.Logic.Relation

namespace AspectWeaver

variable {S : Interface}

/-- Functions and annotations that wait to be loaded, in the order in which they are. -/
def Submission.inOrder (functions : List (String × Handler S)) (bindings : List (Binding S)) :
    List (Submission S) :=
  functions.map (fun (name, handler) => .function name handler) ++
    bindings.map fun binding => .binding binding.name binding.kind binding.handler

namespace Registry

/-! ### One entry more -/

/-- What has to hold of an entry for a registry to take it in. -/
def Accepts (registry : Registry S) : Submission S → Prop
  | .function name _ => isFunctionName name = true ∧ registry.function? name = none
  | .binding name kind handler =>
      isAnnotationName name = true ∧ isReservedName name = false ∧ registry.find? name = none ∧
        handler.kind = kind

/-- The registry with one entry more, behind the others of its sort. -/
def extend (registry : Registry S) : Submission S → Registry S
  | .function name handler =>
      { registry with functions := registry.functions ++ [(name, handler)] }
  | .binding name kind handler =>
      { registry with bindings := registry.bindings ++ [(name, ⟨name, kind, handler⟩)] }

/-- A registry and what it is when it has taken in an entry. -/
inductive Takes (registry : Registry S) : Registry S → Prop where
  | entry {entry : Submission S} (accepts : registry.Accepts entry) :
      Takes registry (registry.extend entry)

section Entry

variable {registry extended : Registry S} {name : String} {handler : Handler S} {code : Int}

/-- An annotation is registered exactly if its code is that of a kind and it is accepted with it. -/
theorem registerWithCode_eq_ok_iff :
    registry.registerWithCode name handler code = (.ok (), extended) ↔
      ∃ kind, Kind.ofCode? code = some kind ∧ registry.Accepts (.binding name kind handler) ∧
        extended = registry.extend (.binding name kind handler) := by
  constructor
  · intro accepted
    obtain ⟨named, free, new, decoded, rfl⟩ := registerWithCode_eq_ok accepted
    exact ⟨handler.kind, decoded, ⟨named, free, new, rfl⟩, rfl⟩
  · rintro ⟨kind, decoded, ⟨named, free, new, rfl⟩, rfl⟩
    simp [registerWithCode, named, free, contains, new, decoded, extend]

/-- A function is defined exactly if it is accepted. -/
theorem defineFunction_eq_ok_iff :
    registry.defineFunction name handler = (.ok (), extended) ↔
      registry.Accepts (.function name handler) ∧
        extended = registry.extend (.function name handler) := by
  constructor
  · intro accepted
    obtain ⟨named, new, rfl⟩ := defineFunction_eq_ok accepted
    exact ⟨⟨named, new⟩, rfl⟩
  · rintro ⟨⟨named, new⟩, rfl⟩
    simp [defineFunction, named, new, extend]

/-- A submission is added exactly if it is accepted. -/
theorem addTo_eq_ok_iff {submission : Submission S} :
    submission.addTo registry = (.ok (), extended) ↔
      registry.Accepts submission ∧ extended = registry.extend submission := by
  cases submission with
  | function name handler => exact defineFunction_eq_ok_iff
  | binding name kind handler =>
      rw [Submission.addTo, register, registerWithCode_eq_ok_iff, Kind.ofCode?_code]
      simp

/-- A submission that is refused leaves everything as it was. -/
theorem addTo_refused {submission : Submission S} {cause : Refusal} {left : Registry S}
    (refused : submission.addTo registry = (.error cause, left)) : left = registry := by
  cases submission with
  | function name handler => exact defineFunction_refused refused
  | binding name kind handler => exact registerWithCode_refused refused

end Entry

/-! ### Requests -/

/-- A request to a registry. -/
inductive Request (S : Interface) where
  | register (name : String) (handler : Handler S) (kind : Kind)
  | registerWithCode (name : String) (handler : Handler S) (code : Int)
  | define (name : String) (handler : Handler S)
  | load (functions : List (String × Handler S)) (bindings : List (Binding S))
  | addStandard (functions : List (String × Handler S))

/-- The registry after a request, whether it was accepted or refused. -/
def Request.leaves (registry : Registry S) : Request S → Registry S
  | .register name handler kind => (registry.register name handler kind).2
  | .registerWithCode name handler code => (registry.registerWithCode name handler code).2
  | .define name handler => (registry.defineFunction name handler).2
  | .load functions bindings => (registry.autoLoad functions bindings).2.registry
  | .addStandard functions => (registry.addStandard functions).1

/-- The registry after requests, made in order. -/
def after (registry : Registry S) (requests : List (Request S)) : Registry S :=
  requests.foldl Request.leaves registry

/-! ### Requests for one entry -/

/-- How a request for one entry ends, and the registry that it leaves; to load entries is no such
request. -/
def Request.answer? (registry : Registry S) :
    Request S → Option (Except Refusal Unit × Registry S)
  | .register name handler kind => some (registry.register name handler kind)
  | .registerWithCode name handler code => some (registry.registerWithCode name handler code)
  | .define name handler => some (registry.defineFunction name handler)
  | .load _ _ | .addStandard _ => none

/-- The entry that is asked for, if there is a kind of the code. -/
def Request.entry? : Request S → Option (Submission S)
  | .register name handler kind => some (.binding name kind handler)
  | .registerWithCode name handler code =>
      (Kind.ofCode? code).map fun kind => .binding name kind handler
  | .define name handler => some (.function name handler)
  | .load _ _ | .addStandard _ => none

section Answer

variable {registry extended left : Registry S} {request : Request S} {cause : Refusal}

/-- What a request for one entry leaves is what its answer says. -/
theorem leaves_of_answer? {outcome : Except Refusal Unit}
    (answered : request.answer? registry = some (outcome, left)) :
    request.leaves registry = left := by
  cases request with
  | register | registerWithCode | define => exact congrArg Prod.snd (Option.some.inj answered)
  | load | addStandard => cases answered

/-- **A request for one entry that is refused leaves the registry as it was.** -/
theorem answer?_refused (answered : request.answer? registry = some (.error cause, left)) :
    left = registry := by
  cases request with
  | register | registerWithCode =>
      exact registerWithCode_refused (Option.some.inj answered)
  | define => exact defineFunction_refused (Option.some.inj answered)
  | load | addStandard => cases answered

/-- **A request for one entry succeeds exactly if the entry is accepted**, and then this entry is
added and no other. -/
theorem answer?_eq_ok_iff :
    request.answer? registry = some (.ok (), extended) ↔
      ∃ entry, request.entry? = some entry ∧ registry.Accepts entry ∧
        extended = registry.extend entry := by
  cases request with
  | register name handler kind =>
      rw [Request.answer?, Option.some_inj, register, registerWithCode_eq_ok_iff,
        Kind.ofCode?_code]
      simp [Request.entry?]
  | registerWithCode name handler code =>
      rw [Request.answer?, Option.some_inj, registerWithCode_eq_ok_iff]
      simp only [Request.entry?, Option.map_eq_some_iff]
      constructor
      · rintro ⟨kind, decoded, accepts, grown⟩
        exact ⟨_, ⟨kind, decoded, rfl⟩, accepts, grown⟩
      · rintro ⟨_, ⟨kind, decoded, rfl⟩, accepts, grown⟩
        exact ⟨kind, decoded, accepts, grown⟩
  | define name handler =>
      rw [Request.answer?, Option.some_inj, defineFunction_eq_ok_iff]
      simp [Request.entry?]
  | load functions bindings => simp [Request.answer?, Request.entry?]
  | addStandard functions => simp [Request.answer?, Request.entry?]

end Answer

/-! ### Loading -/

section Load

variable (registry : Registry S) (functions : List (String × Handler S))
  (bindings : List (Binding S))

/-- Loading leaves what the functions, and then the annotations, leave when they are loaded in
order. -/
theorem autoLoad_registry :
    (registry.autoLoad functions bindings).2.registry =
      (registry.load (Submission.inOrder functions bindings)).registry := by
  rw [autoLoad, Submission.inOrder, load_append]
  dsimp only
  split
  · rfl
  · split <;> rfl

/-- Loading ends with the first refusal, or with the number of the functions and annotations. -/
theorem autoLoad_outcome :
    (registry.autoLoad functions bindings).1 =
      match (registry.load (Submission.inOrder functions bindings)).stopped with
      | some cause => .error cause
      | none => .ok (functions.length + bindings.length) := by
  rw [autoLoad, Submission.inOrder, load_append]
  dsimp only
  split
  · rename_i stopped
    simp only [stopped]
  · split
    · rename_i stopped
      simp only [stopped]
    · rename_i unstopped
      simp only [unstopped]

end Load

/-! ### Requests, entry by entry -/

/-- Submissions that are loaded are taken in one after the other, up to one that is refused. -/
theorem takes_load (registry : Registry S) (submissions : List (Submission S)) :
    Relation.ReflTransGen Takes registry (registry.load submissions).registry := by
  induction submissions generalizing registry with
  | nil => exact .refl
  | cons submission rest ih =>
      rw [load]
      rcases added : submission.addTo registry with ⟨⟨cause⟩ | ⟨⟩, left⟩
      · obtain rfl := addTo_refused added
        exact .refl
      · obtain ⟨accepts, rfl⟩ := addTo_eq_ok_iff.mp added
        exact (ih _).head (.entry accepts)

/-- Standard functions are taken in one after the other, without those that are refused. -/
theorem takes_addStandard (registry : Registry S) (functions : List (String × Handler S)) :
    Relation.ReflTransGen Takes registry (registry.addStandard functions).1 := by
  induction functions generalizing registry with
  | nil => exact .refl
  | cons function rest ih =>
      rw [addStandard]
      rcases added : registry.defineFunction function.1 function.2 with ⟨⟨cause⟩ | ⟨⟩, left⟩
      · obtain rfl := defineFunction_refused added
        exact ih left
      · obtain ⟨accepts, rfl⟩ := defineFunction_eq_ok_iff.mp added
        exact (ih _).head (.entry accepts)

/-- A request comes down to entries that are taken in. -/
theorem takes_leaves (registry : Registry S) (request : Request S) :
    Relation.ReflTransGen Takes registry (request.leaves registry) := by
  cases answered : request.answer? registry with
  | some answer =>
      obtain ⟨outcome, left⟩ := answer
      rw [leaves_of_answer? answered]
      cases outcome with
      | error cause => exact answer?_refused answered ▸ .refl
      | ok _ =>
          obtain ⟨entry, _, accepts, rfl⟩ := answer?_eq_ok_iff.mp answered
          exact .single (.entry accepts)
  | none =>
      cases request with
      | register | registerWithCode | define => cases answered
      | load functions bindings =>
          rw [Request.leaves, autoLoad_registry]
          exact takes_load registry _
      | addStandard functions => exact takes_addStandard registry functions

/-- **Requests come down to entries that are taken in**, one after the other. -/
theorem takes_after (registry : Registry S) (requests : List (Request S)) :
    Relation.ReflTransGen Takes registry (registry.after requests) := by
  induction requests generalizing registry with
  | nil => exact .refl
  | cons request rest ih => exact (takes_leaves registry request).trans (ih _)

/-! ### More than before -/

/-- What is in the first registry is in the second, under the same name. -/
structure Grows (registry extended : Registry S) : Prop where
  bindings {name : String} {binding : Binding S} (found : registry.find? name = some binding) :
    extended.find? name = some binding
  functions {name : String} {handler : Handler S}
    (found : registry.function? name = some handler) : extended.function? name = some handler

theorem Grows.refl (registry : Registry S) : registry.Grows registry := ⟨id, id⟩

theorem Grows.trans {first second third : Registry S} (grows : first.Grows second)
    (again : second.Grows third) : first.Grows third :=
  ⟨fun found => again.bindings (grows.bindings found),
    fun found => again.functions (grows.functions found)⟩

/-- To take in an entry takes nothing away. -/
theorem Takes.grows {registry extended : Registry S} (takes : registry.Takes extended) :
    registry.Grows extended := by
  cases takes with
  | @entry entry accepts =>
      cases entry with
      | function name handler =>
          refine ⟨id, fun {wanted function} found => ?_⟩
          rw [function?, extend, Named.lookup?_append_one]
          rw [function?] at found
          rw [found]
          rfl
      | binding name kind handler =>
          refine ⟨fun {wanted binding} found => ?_, id⟩
          rw [find?, extend, Named.lookup?_append_one]
          rw [find?] at found
          rw [found]
          rfl

/-- What is taken in takes nothing away. -/
theorem Grows.of_takes {registry later : Registry S}
    (taken : Relation.ReflTransGen Takes registry later) : registry.Grows later := by
  induction taken with
  | refl => exact .refl registry
  | tail _ takes ih => exact ih.trans takes.grows

/-- Requests take nothing away and bind no name anew. -/
theorem grows_after (registry : Registry S) (requests : List (Request S)) :
    registry.Grows (registry.after requests) :=
  .of_takes (takes_after registry requests)

/-! ### Entries in order -/

/-- Every entry of a registry is stored under its name, and is what may be asked for. -/
structure Orderly (registry : Registry S) : Prop where
  /-- What is found under a name is the binding that is stored under it; so no name is used
  twice. -/
  stored {name : String} {binding : Binding S} :
    registry.find? name = some binding ↔ (name, binding) ∈ registry.bindings
  /-- Every binding is stored under its own name. -/
  named : ∀ stored ∈ registry.bindings, stored.2.name = stored.1
  /-- No binding has the name of a built-in directive that takes part in calls. -/
  free : ∀ stored ∈ registry.bindings,
    stored.1 ≠ "before" ∧ stored.1 ≠ "after" ∧ stored.1 ≠ "around"
  /-- The handler of a binding is of the kind that is declared. -/
  fits : ∀ stored ∈ registry.bindings, stored.2.handler.kind = stored.2.kind
  /-- What is found under a name is the function that is stored under it; so no name is used
  twice. -/
  defined {name : String} {handler : Handler S} :
    registry.function? name = some handler ↔ (name, handler) ∈ registry.functions
  /-- The name of a function is not empty and holds no blank. -/
  visible : ∀ stored ∈ registry.functions,
    stored.1 ≠ "" ∧ ∀ c ∈ stored.1.toList, Text.isBlank c = false

/-- An empty registry is in order. -/
theorem orderly_empty : ({} : Registry S).Orderly where
  stored := ⟨nofun, nofun⟩
  named := nofun
  free := nofun
  fits := nofun
  defined := ⟨nofun, nofun⟩
  visible := nofun

/-- To take in an entry leaves a registry in order. -/
theorem Orderly.takes {registry extended : Registry S} (orderly : registry.Orderly)
    (takes : registry.Takes extended) : extended.Orderly := by
  cases takes with
  | @entry entry accepts =>
      cases entry with
      | function name handler =>
          obtain ⟨named, new⟩ := accepts
          refine { orderly with
            defined := Named.lookup?_concat_iff orderly.defined new, visible := ?_ }
          refine List.forall_mem_append.mpr ⟨orderly.visible, List.forall_mem_singleton.mpr ?_⟩
          simpa [isFunctionName] using named
      | binding name kind handler =>
          obtain ⟨_, unreserved, new, fits⟩ := accepts
          refine { orderly with
            stored := Named.lookup?_concat_iff orderly.stored new
            named := ?_, free := ?_, fits := ?_ }
          · exact List.forall_mem_append.mpr ⟨orderly.named, List.forall_mem_singleton.mpr rfl⟩
          · refine List.forall_mem_append.mpr ⟨orderly.free, List.forall_mem_singleton.mpr ?_⟩
            simpa [isReservedName, reservedNames] using unreserved
          · exact List.forall_mem_append.mpr ⟨orderly.fits, List.forall_mem_singleton.mpr fits⟩

/-- Requests leave a registry in order. -/
theorem Orderly.after {registry : Registry S} (orderly : registry.Orderly)
    (requests : List (Request S)) : (registry.after requests).Orderly := by
  have taken := takes_after registry requests
  generalize registry.after requests = later at taken
  induction taken with
  | refl => exact orderly
  | tail _ takes ih => exact ih.takes takes

/-! ### Any requests to an empty registry -/

/-- What holds of a registry that requests have filled, whatever is asked for next. -/
structure Upheld (registry : Registry S) : Prop where
  /-- Its entries are in order. -/
  orderly : registry.Orderly
  /-- A request for one entry that is refused leaves it as it was. -/
  refused {request : Request S} {cause : Refusal} {left : Registry S}
    (answered : request.answer? registry = some (.error cause, left)) :
    left = registry ∧ request.leaves registry = registry
  /-- One that succeeds leaves it with the entry that was asked for behind the others, and no other
  entry; and one succeeds exactly if the entry is accepted. -/
  accepted {request : Request S} {extended : Registry S} :
    request.answer? registry = some (.ok (), extended) ↔
      ∃ entry, request.entry? = some entry ∧ registry.Accepts entry ∧
        extended = registry.extend entry ∧ request.leaves registry = extended
  /-- To load entries is to add the functions, and then the annotations, up to the first that is
  refused. -/
  loaded (functions : List (String × Handler S)) (bindings : List (Binding S)) :
    (Request.load functions bindings).leaves registry =
      (registry.load (Submission.inOrder functions bindings)).registry
  /-- Whatever is found in it is found under the same name after any other requests. -/
  lasting (requests : List (Request S)) : registry.Grows (registry.after requests)

/-- **A registry that requests have filled is in order**, whatever they asked for and whether they
were accepted or refused, and the next request upholds it. -/
theorem after_upheld (requests : List (Request S)) :
    (({} : Registry S).after requests).Upheld := by
  constructor
  case orderly => exact orderly_empty.after requests
  case refused =>
    intro request cause left answered
    have same := answer?_refused answered
    exact ⟨same, (leaves_of_answer? answered).trans same⟩
  case accepted =>
    intro request extended
    constructor
    · intro answered
      obtain ⟨entry, asked, accepts, grown⟩ := answer?_eq_ok_iff.mp answered
      exact ⟨entry, asked, accepts, grown, leaves_of_answer? answered⟩
    · rintro ⟨entry, asked, accepts, grown, _⟩
      exact answer?_eq_ok_iff.mpr ⟨entry, asked, accepts, grown⟩
  case loaded => exact autoLoad_registry _
  case lasting => exact grows_after _

/-! ### Known names -/

/-- The names that are known are those of the built-in directives and of the annotations. -/
theorem mem_knownNames_iff {registry : Registry S} {name : String} :
    name ∈ registry.knownNames ↔ isBuiltinName name = true ∨ registry.contains name = true := by
  have registered : registry.contains name = true ↔ name ∈ registry.bindings.map Prod.fst := by
    rw [contains, Option.isSome_iff_ne_none, find?, ne_eq, Named.lookup?_eq_none_iff,
      Decidable.not_not]
  rw [knownNames, List.mem_append, List.mem_mergeSort, registered, isBuiltinName,
    List.contains_iff_mem]

end Registry

end AspectWeaver
