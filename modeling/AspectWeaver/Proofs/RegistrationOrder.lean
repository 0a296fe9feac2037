/-
**The order of registrations does not matter.**

A list of requests is fulfilled if each of them succeeds, one after the other. Two of them that
stand next to each other can be fulfilled in the other order as well, and whatever comes next cannot
tell.

* `Fulfils` — all requests succeed, from one registry to another.
* `Shuffled` — two registries with the same entries, in any order, of which names differ.
* `Shuffled.accepts`, `Shuffled.extend` — shuffled registries take in the same entries and stay
  shuffled.
* `exchange` — two entries that are taken in one after the other are taken in the other way round.
* `Fulfils.shuffled` — **the same requests in any order** lead to shuffled registries.
* `Shuffled.agrees` — shuffled registries cannot be told apart: `Agrees` lists all that is asked of
  them.
* `Fulfils.lists` — **known names are listed in byte order**, behind the built-in ones.
* **`fulfils_perm`** — **requests that are fulfilled are fulfilled in every order**, and the
  registries that they fill cannot be told apart.
-/

import AspectWeaver.Chain
import AspectWeaver.Proofs.ByteOrder
import AspectWeaver.Proofs.History
import AspectWeaver.Proofs.Requests
import Mathlib.Data.List.Sort

namespace AspectWeaver

variable {S : Interface}

namespace Registry

/-! ### Requests that all succeed -/

/-- Requests for single entries succeed one after the other, and make the second registry of the
first. -/
inductive Fulfils : Registry S → List (Request S) → Registry S → Prop where
  | nothing (registry : Registry S) : Fulfils registry [] registry
  | next {registry extended filled : Registry S} {request : Request S} {rest : List (Request S)}
      (succeeds : request.answer? registry = some (.ok (), extended))
      (others : Fulfils extended rest filled) : Fulfils registry (request :: rest) filled

/-- The annotation that a request asks to register. -/
def Request.annotation? : Request S → Option String
  | .register name _ _ => some name
  | .registerWithCode name _ _ => some name
  | .define _ _ | .load _ _ | .addStandard _ => none

/-! ### The same entries in any order -/

/-- The names of annotations differ, and so do those of functions. -/
structure Distinct (registry : Registry S) : Prop where
  bindings : (registry.bindings.map Prod.fst).Nodup
  functions : (registry.functions.map Prod.fst).Nodup

theorem distinct_empty : ({} : Registry S).Distinct := ⟨.nil, .nil⟩

/-- Names differ after an entry was taken in. -/
theorem Distinct.extend {registry : Registry S} (distinct : registry.Distinct)
    {entry : Submission S} (accepts : registry.Accepts entry) :
    (registry.extend entry).Distinct := by
  cases entry with
  | function name handler =>
      exact ⟨distinct.bindings,
        Named.nodup_append_one Prod.fst distinct.functions (Named.lookup?_eq_none_iff.mp accepts.2)⟩
  | binding name kind handler =>
      obtain ⟨_, _, new, _⟩ := accepts
      exact ⟨Named.nodup_append_one Prod.fst distinct.bindings (Named.lookup?_eq_none_iff.mp new),
        distinct.functions⟩

/-- The registries have the same entries, perhaps in another order. -/
structure Shuffled (registry other : Registry S) : Prop where
  bindings : registry.bindings.Perm other.bindings
  functions : registry.functions.Perm other.functions
  distinct : registry.Distinct

namespace Shuffled

variable {registry other third : Registry S}

theorem refl (distinct : registry.Distinct) : registry.Shuffled registry :=
  ⟨.refl _, .refl _, distinct⟩

theorem trans (shuffled : registry.Shuffled other) (again : other.Shuffled third) :
    registry.Shuffled third :=
  ⟨shuffled.bindings.trans again.bindings, shuffled.functions.trans again.functions,
    shuffled.distinct⟩

theorem distinct_other (shuffled : registry.Shuffled other) : other.Distinct :=
  ⟨(shuffled.bindings.map Prod.fst).nodup_iff.mp shuffled.distinct.bindings,
    (shuffled.functions.map Prod.fst).nodup_iff.mp shuffled.distinct.functions⟩

theorem find? (shuffled : registry.Shuffled other) (name : String) :
    other.find? name = registry.find? name :=
  Named.lookup?_perm shuffled.distinct.bindings shuffled.bindings name

theorem function? (shuffled : registry.Shuffled other) (name : String) :
    other.function? name = registry.function? name :=
  Named.lookup?_perm shuffled.distinct.functions shuffled.functions name

/-- Shuffled registries take in the same entries. -/
theorem accepts (shuffled : registry.Shuffled other) {entry : Submission S}
    (accepts : registry.Accepts entry) : other.Accepts entry := by
  cases entry with
  | function name handler => exact ⟨accepts.1, (shuffled.function? name).trans accepts.2⟩
  | binding name kind handler =>
      obtain ⟨named, free, new, fits⟩ := accepts
      exact ⟨named, free, (shuffled.find? name).trans new, fits⟩

/-- Shuffled registries with one entry more are shuffled. -/
theorem extend (shuffled : registry.Shuffled other) {entry : Submission S}
    (accepts : registry.Accepts entry) :
    (registry.extend entry).Shuffled (other.extend entry) := by
  refine ⟨?_, ?_, shuffled.distinct.extend accepts⟩
  · cases entry with
    | function name handler => exact shuffled.bindings
    | binding name kind handler => exact shuffled.bindings.append_right _
  · cases entry with
    | function name handler => exact shuffled.functions.append_right _
    | binding name kind handler => exact shuffled.functions

end Shuffled

/-! ### The other way round -/

/-- Two entries that are taken in one after the other are taken in the other way round. -/
theorem exchange {registry : Registry S} (distinct : registry.Distinct)
    {first second : Submission S} (accepts : registry.Accepts first)
    (again : (registry.extend first).Accepts second) :
    registry.Accepts second ∧ (registry.extend second).Accepts first ∧
      ((registry.extend first).extend second).Shuffled
        ((registry.extend second).extend first) := by
  have distinct := (distinct.extend accepts).extend again
  cases first with
  | function name handler =>
      cases second with
      | function other another =>
          obtain ⟨absent, apart⟩ := Named.lookup?_exchange accepts.2 again.2
          refine ⟨⟨again.1, absent⟩, ⟨accepts.1, apart⟩, .refl _, ?_, distinct⟩
          simpa [extend] using .append_left _ (.swap _ _ [])
      | binding other kind another => exact ⟨again, accepts, .refl _, .refl _, distinct⟩
  | binding name kind handler =>
      cases second with
      | function other another => exact ⟨again, accepts, .refl _, .refl _, distinct⟩
      | binding other second another =>
          obtain ⟨named, free, new, fits⟩ := accepts
          obtain ⟨otherNamed, otherFree, otherNew, otherFits⟩ := again
          obtain ⟨absent, apart⟩ := Named.lookup?_exchange new otherNew
          refine ⟨⟨otherNamed, otherFree, absent, otherFits⟩, ⟨named, free, apart, fits⟩, ?_,
            .refl _, distinct⟩
          simpa [extend] using .append_left _ (.swap _ _ [])

/-- **The same requests in any order** lead from shuffled registries to shuffled registries. -/
theorem Fulfils.shuffled {requests permuted : List (Request S)}
    (permutes : requests.Perm permuted) {registry other filled : Registry S}
    (shuffled : registry.Shuffled other) (fulfilled : Fulfils registry requests filled) :
    ∃ refilled, Fulfils other permuted refilled ∧ filled.Shuffled refilled := by
  induction permutes using List.Perm.recOnSwap' generalizing registry other filled with
  | nil =>
      cases fulfilled
      exact ⟨other, .nothing other, shuffled⟩
  | cons request _ ih =>
      cases fulfilled with
      | next succeeds others =>
          obtain ⟨entry, asked, accepts, rfl⟩ := answer?_eq_ok_iff.mp succeeds
          have here := answer?_eq_ok_iff.mpr ⟨entry, asked, shuffled.accepts accepts, rfl⟩
          obtain ⟨refilled, fulfilled, same⟩ := ih (shuffled.extend accepts) others
          exact ⟨refilled, .next here fulfilled, same⟩
  | swap' second first _ ih =>
      cases fulfilled with
      | next succeeds others =>
          cases others with
          | next again others =>
              obtain ⟨entry, asked, accepts, rfl⟩ := answer?_eq_ok_iff.mp succeeds
              obtain ⟨another, wanted, allows, rfl⟩ := answer?_eq_ok_iff.mp again
              obtain ⟨sooner, later, exchanged⟩ := exchange shuffled.distinct accepts allows
              have moved := shuffled.extend sooner
              have here := answer?_eq_ok_iff.mpr ⟨another, wanted, shuffled.accepts sooner, rfl⟩
              have next := answer?_eq_ok_iff.mpr ⟨entry, asked, moved.accepts later, rfl⟩
              obtain ⟨refilled, fulfilled, same⟩ :=
                ih (exchanged.trans (moved.extend later)) others
              exact ⟨refilled, .next here (.next next fulfilled), same⟩
  | trans _ _ ih again =>
      obtain ⟨middle, fulfilled, same⟩ := ih shuffled fulfilled
      obtain ⟨refilled, last, equal⟩ := again (.refl shuffled.distinct_other) fulfilled
      exact ⟨refilled, last, same.trans equal⟩

/-! ### What is asked of registries -/

/-- Names in byte order, each of them once. -/
def InByteOrder (names : List String) : Prop :=
  names.Pairwise fun left right => Text.bytes left < Text.bytes right

/-- Sorted names that differ are in byte order. -/
theorem inByteOrder_mergeSort {names : List String} (distinct : names.Nodup) :
    InByteOrder (names.mergeSort fun left right => left ≤ right) := by
  have sorted := List.pairwise_mergeSort' (· ≤ ·) names
  have apart := (List.mergeSort_perm names fun left right => left ≤ right).nodup_iff.mpr distinct
  refine sorted.imp₂ (fun left right below different => ?_) apart
  exact Text.bytes_lt (lt_of_le_of_ne below different)

/-- Known names are the built-in ones and then those of the annotations, in whatever way they are
put in order. -/
theorem knownNames_eq_of_perm {registry : Registry S} {names : List String}
    (sorted : names.Pairwise (· ≤ ·)) (same : names.Perm (registry.bindings.map Prod.fst)) :
    registry.knownNames = builtinNames ++ names := by
  have permuted := (List.mergeSort_perm _ fun left right => left ≤ right).trans same.symm
  exact congrArg (builtinNames ++ ·)
    (permuted.eq_of_pairwise' (List.pairwise_mergeSort' (· ≤ ·) _) sorted)

/-- Nothing that is asked of the registries tells them apart. -/
structure Agrees (registry other : Registry S) : Prop where
  known : other.knownNames = registry.knownNames
  size : other.size = registry.size
  empty : other.bindings.isEmpty = registry.bindings.isEmpty
  found (name : String) : other.find? name = registry.find? name
  contained (name : String) : other.contains name = registry.contains name
  defined (name : String) : other.function? name = registry.function? name
  parsed (text : String) :
    Directive.parse other.knownNames text = Directive.parse registry.knownNames text
  read (documentation : Option String) :
    Directive.parseDocumentation other.knownNames documentation =
      Directive.parseDocumentation registry.knownNames documentation
  built (target : MethodId) (directives : List Directive) :
    Chain.build other target directives = Chain.build registry target directives

/-- Where every name is looked up to the same, every directive resolves to the same. -/
theorem chainResolve_congr {registry other : Registry S}
    (found : ∀ name, other.find? name = registry.find? name)
    (defined : ∀ name, other.function? name = registry.function? name) (target : MethodId)
    (directive : Directive) :
    Chain.resolve other target directive = Chain.resolve registry target directive := by
  simp only [Chain.resolve, found, defined]

/-- Where every directive resolves to the same, every chain is built to the same. -/
theorem chainExtend_congr {registry other : Registry S} {target : MethodId}
    (same : ∀ directive,
      Chain.resolve other target directive = Chain.resolve registry target directive)
    (directives : List Directive) (chain : Chain S) :
    Chain.extend other target directives chain = Chain.extend registry target directives chain := by
  induction directives generalizing chain with
  | nil => rfl
  | cons directive rest ih => simp only [Chain.extend, same, ih]

/-- Shuffled registries cannot be told apart. -/
theorem Shuffled.agrees {registry other : Registry S} (shuffled : registry.Shuffled other) :
    registry.Agrees other := by
  have known : other.knownNames = registry.knownNames :=
    knownNames_eq_of_perm (List.pairwise_mergeSort' (· ≤ ·) _)
      ((List.mergeSort_perm _ _).trans (shuffled.bindings.map Prod.fst))
  have size : other.size = registry.size := shuffled.bindings.length_eq.symm
  exact {
    known, size
    empty := shuffled.bindings.isEmpty_eq.symm
    found := shuffled.find?
    contained := fun name => by rw [contains, contains, shuffled.find?]
    defined := shuffled.function?
    parsed := fun text => by rw [known]
    read := fun documentation => by rw [known]
    built := fun target directives =>
      chainExtend_congr (chainResolve_congr shuffled.find? shuffled.function? target) directives {} }

/-! ### What is listed -/

/-- A request that succeeds adds the name of the annotation it asks for, and no other. -/
theorem map_name_of_answer? {registry extended : Registry S} {request : Request S}
    (succeeds : request.answer? registry = some (.ok (), extended)) :
    extended.bindings.map Prod.fst =
      registry.bindings.map Prod.fst ++ request.annotation?.toList := by
  obtain ⟨entry, asked, _, rfl⟩ := answer?_eq_ok_iff.mp succeeds
  cases request with
  | register name handler kind =>
      cases asked
      exact List.map_append
  | registerWithCode name handler code =>
      obtain ⟨kind, _, rfl⟩ := Option.map_eq_some_iff.mp asked
      exact List.map_append
  | define name handler =>
      cases asked
      exact (List.append_nil _).symm
  | load _ _ | addStandard _ => cases asked

/-- Requests that succeed add the names of the annotations they ask for, in order. -/
theorem Fulfils.map_name {registry filled : Registry S} {requests : List (Request S)}
    (fulfilled : Fulfils registry requests filled) :
    filled.bindings.map Prod.fst =
      registry.bindings.map Prod.fst ++ requests.filterMap Request.annotation? := by
  induction fulfilled with
  | nothing => exact (List.append_nil _).symm
  | @next _ _ _ request rest succeeds _ ih =>
      have first : (request :: rest).filterMap Request.annotation? =
          request.annotation?.toList ++ rest.filterMap Request.annotation? := by
        cases asked : request.annotation? <;> simp [asked]
      rw [ih, map_name_of_answer? succeeds, first, List.append_assoc]

/-- The names that the requests register are those the registry lists behind the built-in ones, in
byte order. -/
structure Lists (registry : Registry S) (requests : List (Request S)) : Prop where
  known : ∃ names, registry.knownNames = builtinNames ++ names ∧ InByteOrder names ∧
    names.Perm (requests.filterMap Request.annotation?)
  size : registry.size = (requests.filterMap Request.annotation?).length

/-- **Known names are listed in byte order**, whatever the order of the requests. -/
theorem Fulfils.lists {requests : List (Request S)} {filled : Registry S}
    (fulfilled : Fulfils {} requests filled) : filled.Lists requests := by
  obtain ⟨_, _, shuffled⟩ := fulfilled.shuffled (.refl requests) (.refl distinct_empty)
  have names : filled.bindings.map Prod.fst = requests.filterMap Request.annotation? :=
    fulfilled.map_name
  constructor
  · refine ⟨_, rfl, inByteOrder_mergeSort shuffled.distinct.bindings, ?_⟩
    exact names ▸ List.mergeSort_perm _ _
  · rw [← names, List.length_map]
    rfl

/-- **Requests that are fulfilled are fulfilled in every order**, and nothing that is asked of the
registries that they fill tells them apart. -/
theorem fulfils_perm {requests permuted : List (Request S)} {filled : Registry S}
    (fulfilled : Fulfils {} requests filled) (permutes : requests.Perm permuted) :
    filled.Lists requests ∧ ∃ refilled, Fulfils {} permuted refilled ∧ filled.Agrees refilled := by
  obtain ⟨refilled, again, shuffled⟩ := fulfilled.shuffled permutes (.refl distinct_empty)
  exact ⟨fulfilled.lists, refilled, again, shuffled.agrees⟩

/-- Requests for three annotations and a function. -/
def mixed : List (Request Interface.idle) :=
  let note : Handler Interface.idle := .info fun _ _ => .done (.ok ())
  let check : Handler Interface.idle := .before fun _ _ => .done (.ok ())
  [.register "zip" check .before, .registerWithCode "\u017fet" note 0, .define "stamp" check,
    .register "Audit" note .info]

/-- The long s comes behind all other letters. -/
theorem fulfils_reverse_mixed : ∃ filled refilled,
    Fulfils {} mixed filled ∧ Fulfils {} mixed.reverse refilled ∧ filled.Agrees refilled ∧
      refilled.knownNames = builtinNames ++ ["Audit", "zip", "\u017fet"] := by
  have fulfilled : Fulfils {} mixed _ :=
    .next rfl (.next rfl (.next rfl (.next rfl (.nothing _))))
  obtain ⟨_, refilled, again, agrees⟩ := fulfils_perm fulfilled mixed.reverse_perm.symm
  refine ⟨_, refilled, fulfilled, again, agrees, agrees.known.trans ?_⟩
  exact knownNames_eq_of_perm (by decide) (by decide)

end Registry

end AspectWeaver
