/-
**Captures: the bodies that weavings of a class take to put woven bodies around them.**

The mark of a method is looked at before its `info` handlers run, but the body that is wrapped is
the one that the method has afterwards. The handlers may weave the class too, so weavings happen one
after the other and one inside another.

* `Layers`, `Entry.Wrapped` — a body with a number of woven bodies around it, and what becomes of a
  method that is wrapped so often.
* `Weavings` — what weavings of a class, in any order and nesting, do to the table, and what they
  capture.
* `Effect.next`, `Effect.mark`, `Effect.wrap` — what each step keeps.
* **`Weavings.effect`** — **a method has one woven body more for each capture of it**; only methods
  that are not processed are captured; and a capture is disturbed exactly if it is not the first one
  of its method.
-/

import AspectWeaver.Proofs.Entries
import AspectWeaver.Woven

namespace AspectWeaver

variable {S : Interface}

/-! ### Woven bodies around a body -/

/-- The second body is the first with a number of woven bodies around it. -/
inductive Layers (original : Body S) : Nat → Body S → Prop where
  | none : Layers original 0 original
  | more {count : Nat} {inner : Body S} (layers : Layers original count inner)
      (className : String) (method : Method) (chain : Chain S) :
      Layers original (count + 1) (WovenMethod.mk className method chain inner).body

theorem Layers.trans {original middle body : Body S} {inside outside : Nat}
    (inner : Layers original inside middle) (outer : Layers middle outside body) :
    Layers original (inside + outside) body := by
  induction outer with
  | none => exact inner
  | more _ className method chain ih => exact .more ih className method chain

/-! ### Captures -/

/-- The body of a method, taken by a weaving to put a woven body around it. -/
structure Capture (S : Interface) where
  /-- The entry of the method at that moment. -/
  entry : Entry S
  /-- Another weaving has wrapped the method since this one looked at its mark. -/
  disturbed : Bool

namespace Capture

/-- The method that is wrapped. -/
def name (capture : Capture S) : String := capture.entry.name

/-- How often a method is wrapped. -/
def times (captures : List (Capture S)) (method : String) : Nat :=
  (captures.map name).count method

/-- The capture of an entry, after these other ones since its mark was looked at. -/
def since (captures : List (Capture S)) (entry : Entry S) : Capture S :=
  ⟨entry, captures.any fun capture => capture.name == entry.name⟩

theorem times_append (first second : List (Capture S)) (method : String) :
    times (first ++ second) method = times first method + times second method := by
  rw [times, List.map_append, List.count_append, times, times]

theorem times_cons (capture : Capture S) (rest : List (Capture S)) (method : String) :
    times (capture :: rest) method =
      times rest method + if capture.name = method then 1 else 0 := by
  simp [times, List.count_cons]

theorem times_pos_iff {captures : List (Capture S)} {method : String} :
    0 < times captures method ↔ ∃ capture ∈ captures, capture.name = method := by
  rw [times, List.count_pos_iff, List.mem_map]

/-- A method is disturbed by the captures of it. -/
theorem disturbed_since_iff {captures : List (Capture S)} {entry : Entry S} :
    (since captures entry).disturbed = true ↔ 0 < times captures entry.name := by
  rw [times_pos_iff, since, List.any_eq_true]
  simp

/-- A method that is wrapped twice is captured after it was captured before. -/
theorem exists_again {captures : List (Capture S)} {method : String}
    (twice : 1 < times captures method) :
    ∃ earlier capture later, captures = earlier ++ capture :: later ∧ capture.name = method ∧
      0 < times earlier method := by
  induction captures with
  | nil => cases twice
  | cons first rest ih =>
      rw [times_cons] at twice
      by_cases here : first.name = method
      · rw [if_pos here] at twice
        obtain ⟨capture, member, named⟩ := times_pos_iff.mp (by omega : 0 < times rest method)
        obtain ⟨between, later, rfl⟩ := List.append_of_mem member
        refine ⟨first :: between, capture, later, rfl, named, ?_⟩
        rw [times_cons, if_pos here]
        omega
      · rw [if_neg here] at twice
        obtain ⟨earlier, capture, later, rfl, named, before⟩ := ih (by omega)
        refine ⟨first :: earlier, capture, later, rfl, named, ?_⟩
        rw [times_cons]
        omega

/-- A capture of two lists is one of the first or one of the second. -/
theorem split_append {first second sooner behind : List (Capture S)} {capture : Capture S}
    (split : first ++ second = sooner ++ capture :: behind) :
    (∃ between, first = sooner ++ capture :: between) ∨
      ∃ between, sooner = first ++ between ∧ second = between ++ capture :: behind := by
  rcases List.append_eq_append_iff.mp split with ⟨between, start, rest⟩ | ⟨between, start, rest⟩
  · exact .inr ⟨between, start, rest⟩
  · cases between with
    | nil =>
        rw [List.append_nil] at start
        exact .inr ⟨[], by rw [start, List.append_nil], rest.symm⟩
    | cons _ between =>
        cases rest
        exact .inl ⟨between, start⟩

end Capture

/-! ### Weavings one inside another -/

/-- What weavings of a class, one after the other and one inside another, do to the table, and what
they capture, in order. -/
inductive Weavings (className : String) :
    ClassTable S → List (Capture S) → ClassTable S → Prop where
  /-- Nothing is done to the class. -/
  | elsewhere {before after : ClassTable S}
      (same : after.find? className = before.find? className) :
      Weavings className before [] after
  | next {before middle after : ClassTable S} {first second : List (Capture S)}
      (earlier : Weavings className before first middle)
      (later : Weavings className middle second after) :
      Weavings className before (first ++ second) after
  /-- A method that is not processed is marked, after its `info` handlers have run. -/
  | mark {before middle after : ClassTable S} {captures : List (Capture S)} {method : String}
      (free : before.isProcessed ⟨className, method⟩ = false)
      (meanwhile : Weavings className before captures middle)
      (marked : middle.markProcessed ⟨className, method⟩ = (.ok (), after)) :
      Weavings className before captures after
  /-- A method that is not processed is wrapped, after its `info` handlers have run. -/
  | wrap {before middle after : ClassTable S} {captures : List (Capture S)} {method : Method}
      {chain : Chain S} {entry : Entry S}
      (free : before.isProcessed ⟨className, method.name⟩ = false)
      (meanwhile : Weavings className before captures middle)
      (present : middle.entry? ⟨className, method.name⟩ = some entry)
      (replaced : middle.replace ⟨className, method.name⟩
        (WovenMethod.mk className method chain entry.body).body = (.ok (), after)) :
      Weavings className before (captures ++ [.since captures entry]) after

/-! ### What weavings do to a method -/

/-- The second entry is what the first has become when the method has been wrapped a number of
times. -/
structure Entry.Wrapped (entry : Entry S) (count : Nat) (now : Entry S) : Prop where
  method : now.method = entry.method
  layers : Layers entry.body count now.body
  woven : now.woven = true ↔ entry.woven = true ∨ 0 < count
  processed : entry.processed = true ∨ 0 < count → now.processed = true

namespace Entry.Wrapped

variable {entry middle now : Entry S} {count more : Nat}

theorem refl (entry : Entry S) : entry.Wrapped 0 entry where
  method := rfl
  layers := .none
  woven := by simp
  processed := by simp

theorem trans (first : entry.Wrapped count middle) (second : middle.Wrapped more now) :
    entry.Wrapped (count + more) now where
  method := second.method.trans first.method
  layers := first.layers.trans second.layers
  woven := by
    rw [second.woven, first.woven, or_assoc]
    refine or_congr_right ?_
    omega
  processed marked := by
    apply second.processed
    rcases marked with before | counted
    · exact .inl (first.processed (.inl before))
    · by_cases zero : count = 0
      · exact .inr (by omega)
      · exact .inl (first.processed (.inr (by omega)))

/-- A mark is no woven body. -/
theorem mark (wrapped : entry.Wrapped count now) :
    entry.Wrapped count { now with processed := true } where
  method := wrapped.method
  layers := wrapped.layers
  woven := wrapped.woven
  processed _ := rfl

/-- To wrap a method adds a woven body. -/
theorem wrap (wrapped : entry.Wrapped count now) (className : String) (method : Method)
    (chain : Chain S) :
    entry.Wrapped (count + 1)
      { now with
        body := (WovenMethod.mk className method chain now.body).body
        woven := true
        processed := true } where
  method := wrapped.method
  layers := .more wrapped.layers className method chain
  woven := by simp
  processed _ := rfl

end Entry.Wrapped

/-- What weavings of a class do to its methods, and what they capture. -/
structure Weavings.Effect (className : String) (before : ClassTable S)
    (captures : List (Capture S)) (after : ClassTable S) : Prop where
  absent : ∀ method, before.entry? ⟨className, method⟩ = none →
    after.entry? ⟨className, method⟩ = none
  /-- A method has one woven body more for each time it was captured. -/
  entries : ∀ method entry, before.entry? ⟨className, method⟩ = some entry →
    ∃ now, after.entry? ⟨className, method⟩ = some now ∧
      entry.Wrapped (Capture.times captures method) now
  /-- Only methods that are not processed are captured. -/
  fresh : ∀ capture ∈ captures, before.isProcessed ⟨className, capture.name⟩ = false
  /-- A capture is of the body that the earlier captures have left, and it is disturbed exactly if
  there are any of the same method. -/
  seen : ∀ earlier capture later, captures = earlier ++ capture :: later →
    ∃ entry, before.entry? ⟨className, capture.name⟩ = some entry ∧
      entry.Wrapped (Capture.times earlier capture.name) capture.entry ∧
      (capture.disturbed = true ↔ 0 < Capture.times earlier capture.name)

namespace Weavings

variable {className : String} {before middle after : ClassTable S}
  {captures first second : List (Capture S)}

namespace Effect

theorem elsewhere (same : after.find? className = before.find? className) :
    Effect className before [] after := by
  have entries := ClassTable.entry?_congr same
  constructor
  case absent =>
    intro method missing
    exact (entries method).trans missing
  case entries =>
    intro method entry present
    exact ⟨entry, (entries method).trans present, .refl entry⟩
  case fresh => exact List.forall_mem_nil _
  case seen =>
    intro earlier capture later split
    simp at split

/-- A method that was there after is what one has become that was there before. -/
theorem exists_before (effect : Effect className before captures after) {method : String}
    {now : Entry S} (present : after.entry? ⟨className, method⟩ = some now) :
    ∃ entry, before.entry? ⟨className, method⟩ = some entry ∧
      entry.Wrapped (Capture.times captures method) now := by
  cases there : before.entry? ⟨className, method⟩ with
  | none =>
      rw [effect.absent method there] at present
      cases present
  | some entry =>
      obtain ⟨other, here, wrapped⟩ := effect.entries method entry there
      cases present.symm.trans here
      exact ⟨entry, rfl, wrapped⟩

/-- What is processed stays so. -/
theorem keeps (effect : Effect className before captures after) {method : String}
    (marked : before.isProcessed ⟨className, method⟩ = true) :
    after.isProcessed ⟨className, method⟩ = true := by
  obtain ⟨entry, present, processed⟩ := ClassTable.isProcessed_eq_true_iff.mp marked
  obtain ⟨now, here, wrapped⟩ := effect.entries method entry present
  exact ClassTable.isProcessed_eq_true_iff.mpr ⟨now, here, wrapped.processed (.inl processed)⟩

/-- What is captured later was not captured before. -/
theorem times_eq_zero (earlier : Effect className before first middle)
    (later : Effect className middle second after) {capture : Capture S}
    (member : capture ∈ second) : Capture.times first capture.name = 0 := by
  obtain ⟨sooner, behind, split⟩ := List.append_of_mem member
  obtain ⟨entry, present, _⟩ := later.seen sooner capture behind split
  obtain ⟨former, _, wrapped⟩ := earlier.exists_before present
  refine Nat.eq_zero_of_not_pos fun captured => ?_
  have unmarked := later.fresh capture member
  have marked : middle.isProcessed ⟨className, capture.name⟩ = true :=
    ClassTable.isProcessed_eq_true_iff.mpr ⟨entry, present, wrapped.processed (.inr captured)⟩
  rw [marked] at unmarked
  cases unmarked

/-- A later capture, seen from before the earlier ones. -/
theorem seen_later (earlier : Effect className before first middle)
    (later : Effect className middle second after) {between behind : List (Capture S)}
    {capture : Capture S} (split : second = between ++ capture :: behind) :
    ∃ entry, before.entry? ⟨className, capture.name⟩ = some entry ∧
      entry.Wrapped (Capture.times (first ++ between) capture.name) capture.entry ∧
      (capture.disturbed = true ↔ 0 < Capture.times (first ++ between) capture.name) := by
  obtain ⟨entry, there, wrapped, disturbed⟩ := later.seen between capture behind split
  have member : capture ∈ second := by
    rw [split]
    exact List.mem_append_right _ List.mem_cons_self
  have never := times_eq_zero earlier later member
  obtain ⟨former, present, inside⟩ := earlier.exists_before there
  rw [Capture.times_append]
  refine ⟨former, present, inside.trans wrapped, ?_⟩
  rw [never, Nat.zero_add]
  exact disturbed

theorem next (earlier : Effect className before first middle)
    (later : Effect className middle second after) :
    Effect className before (first ++ second) after := by
  constructor
  case absent =>
    intro method missing
    exact later.absent method (earlier.absent method missing)
  case entries =>
    intro method entry present
    obtain ⟨between, there, inside⟩ := earlier.entries method entry present
    obtain ⟨now, here, outside⟩ := later.entries method between there
    refine ⟨now, here, ?_⟩
    rw [Capture.times_append]
    exact inside.trans outside
  case fresh =>
    intro capture member
    rcases List.mem_append.mp member with sooner | behind
    · exact earlier.fresh capture sooner
    · have unmarked := later.fresh capture behind
      refine Bool.eq_false_iff.mpr fun marked => ?_
      rw [earlier.keeps marked] at unmarked
      cases unmarked
  case seen =>
    intro sooner capture behind split
    rcases Capture.split_append split with ⟨between, inside⟩ | ⟨between, rfl, inside⟩
    · exact earlier.seen sooner capture between inside
    · exact seen_later earlier later inside

/-- To mark a method wraps nothing. -/
theorem mark (effect : Effect className before captures middle) {method : String}
    (marked : middle.markProcessed ⟨className, method⟩ = (.ok (), after)) :
    Effect className before captures after := by
  have changed := ClassTable.entry?_alter marked fun _ => rfl
  constructor
  case absent =>
    intro other missing
    rw [changed, effect.absent other missing]
    split <;> rfl
  case entries =>
    intro other entry present
    obtain ⟨now, here, wrapped⟩ := effect.entries other entry present
    rw [changed, here]
    split
    · exact ⟨_, rfl, wrapped.mark⟩
    · exact ⟨now, rfl, wrapped⟩
  case fresh => exact effect.fresh
  case seen => exact effect.seen

/-- To wrap a method that was not processed before captures it once more. -/
theorem wrap (effect : Effect className before captures middle) {method : Method}
    {chain : Chain S} {entry : Entry S}
    (free : before.isProcessed ⟨className, method.name⟩ = false)
    (present : middle.entry? ⟨className, method.name⟩ = some entry)
    (replaced : middle.replace ⟨className, method.name⟩
      (WovenMethod.mk className method chain entry.body).body = (.ok (), after)) :
    Effect className before (captures ++ [.since captures entry]) after := by
  have changed := ClassTable.entry?_alter replaced fun _ => rfl
  have named : entry.name = method.name := ClassTable.name_of_entry? present
  have once (other : String) : Capture.times [Capture.since captures entry] other =
      if method.name = other then 1 else 0 := by
    rw [Capture.times_cons, ← named]
    exact Nat.zero_add _
  constructor
  case absent =>
    intro other missing
    rw [changed, effect.absent other missing]
    split <;> rfl
  case entries =>
    intro other former there
    obtain ⟨now, here, wrapped⟩ := effect.entries other former there
    rw [changed, Capture.times_append, once]
    by_cases same : method.name = other
    · subst same
      rw [if_pos rfl, if_pos rfl, here]
      cases present.symm.trans here
      exact ⟨_, rfl, wrapped.wrap className method chain⟩
    · rw [if_neg same, if_neg (fun equal => same (congrArg MethodId.method equal).symm)]
      exact ⟨now, here, wrapped⟩
  case fresh =>
    intro capture member
    rcases List.mem_append.mp member with sooner | last
    · exact effect.fresh capture sooner
    · rw [List.mem_singleton.mp last, Capture.name, Capture.since, named]
      exact free
  case seen =>
    intro sooner capture behind split
    rcases Capture.split_append split with ⟨between, inside⟩ | ⟨between, rfl, inside⟩
    · exact effect.seen sooner capture between inside
    · -- the last capture is of what the captures before it have left
      obtain ⟨rfl, rfl, rfl⟩ : between = [] ∧ capture = .since captures entry ∧ behind = [] := by
        cases between with
        | nil =>
            cases inside
            exact ⟨rfl, rfl, rfl⟩
        | cons other between => simp at inside
      rw [List.append_nil]
      have here : middle.entry? ⟨className, entry.name⟩ = some entry := named.symm ▸ present
      obtain ⟨former, there, wrapped⟩ := effect.exists_before here
      exact ⟨former, there, wrapped, Capture.disturbed_since_iff⟩

end Effect

/-- **What any weavings of a class do to its methods**, one after the other and one inside
another. -/
theorem effect (weavings : Weavings className before captures after) :
    Effect className before captures after := by
  induction weavings with
  | elsewhere same => exact .elsewhere same
  | next _ _ earlier later => exact earlier.next later
  | mark _ _ marked meanwhile => exact meanwhile.mark marked
  | wrap free _ present replaced meanwhile => exact meanwhile.wrap free present replaced

end Weavings

end AspectWeaver
