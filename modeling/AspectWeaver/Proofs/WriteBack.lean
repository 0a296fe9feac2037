/-
**Write-back: what a caller finds in its arguments after a woven call.**

A call may end with a result or with the failure of a handler or of the body. In any case the
arguments passed by reference hold what was written last to their parameters, and all other
arguments are what the caller passed.

Advice writes by name. Where several parameters have one name, the name stands for the first of
them, so nothing is assumed of the declaration of the method or of the number of arguments.

* `lastWritten?` — what was written last to a parameter, read off a record.
* `getElem?_after_written` — **a slot holds what was written last** to its parameter.
* **`body_writes_back`** — **the write-back is exact on every exit.**
-/

import AspectWeaver.Proofs.Notes
import AspectWeaver.Proofs.Tracking
import Mathlib.Data.List.Induction

namespace AspectWeaver

variable {S : Interface}

/-! ### What is written to a parameter -/

/-- What the moment writes to the parameter at a position. A run of the body that is over, whether
or not it has failed, writes what it leaves to the parameters passed by reference. -/
def Moment.written? (declared : List Parameter) (position : Nat) : Moment → Option Value
  | .writes name value =>
      if (declared.map Parameter.name).idxOf? name = some position then some value else none
  | .bodyEnds _ left =>
      if declared[position]?.any Parameter.byReference then left[position]? else none
  | _ => none

/-- What was written last to the parameter at a position, if anything was. -/
def lastWritten? (declared : List Parameter) (position : Nat) (record : List Moment) :
    Option Value :=
  (record.filterMap (Moment.written? declared position)).getLast?

theorem lastWritten?_append (declared : List Parameter) (position : Nat)
    (first second : List Moment) :
    lastWritten? declared position (first ++ second) =
      (lastWritten? declared position second).or (lastWritten? declared position first) := by
  rw [lastWritten?, List.filterMap_append, List.getLast?_append]
  rfl

theorem lastWritten?_single (declared : List Parameter) (position : Nat) (moment : Moment) :
    lastWritten? declared position [moment] = moment.written? declared position := by
  rw [lastWritten?, List.filterMap_cons]
  cases moment.written? declared position <;> rfl

namespace Parameters

/-- The slots are those of the first parameters that are declared. -/
structure Stand (declared : List Parameter) (params : Parameters) : Prop where
  names : names params = (declared.take params.length).map Parameter.name
  modes : params.map Slot.byReference = (declared.take params.length).map Parameter.byReference

theorem length_effect (params : Parameters) (moment : Moment) :
    (moment.effect params).length = params.length := by
  have same := congrArg List.length (names_effect params moment)
  simpa [Parameters.names] using same

theorem Stand.effect {declared : List Parameter} {params : Parameters}
    (stand : Stand declared params) (moment : Moment) : Stand declared (moment.effect params) where
  names := by
    rw [names_effect, length_effect]
    exact stand.names
  modes := by
    rw [byReference_effect, length_effect]
    exact stand.modes

/-- The slots of a call are those of its first parameters. -/
theorem stand_ofCall (declared : List Parameter) (passed : List Value) :
    Stand declared (ofCall declared passed) := by
  have length : (ofCall declared passed).length = min passed.length declared.length := by
    have same := congrArg List.length (names_ofCall declared passed)
    simpa [Parameters.names] using same
  have first : declared.take (ofCall declared passed).length = declared.take passed.length := by
    rw [length, List.take_eq_take_iff]
    omega
  constructor
  · rw [first]
    exact names_ofCall declared passed
  · rw [first]
    exact byReference_ofCall declared passed

/-- A moment leaves in a slot what it writes to the parameter, or what was there. -/
theorem getElem?_effect {declared : List Parameter} {params : Parameters}
    (stand : Stand declared params) {position : Nat} {slot : Slot}
    (here : params[position]? = some slot) (moment : Moment) :
    (moment.effect params)[position]? =
      some { slot with value := (moment.written? declared position).getD slot.value } := by
  obtain ⟨inside, _⟩ := List.getElem?_eq_some_iff.mp here
  cases moment with
  | writes name value =>
      -- a name that stands for this slot stands for its parameter
      have first : (names params).idxOf? name = some position ↔
          (declared.map Parameter.name).idxOf? name = some position := by
        unfold List.idxOf?
        rw [stand.names, List.map_take, List.findIdx?_take]
        simp only [Option.bind_eq_some_iff, Option.guard_eq_some_iff, decide_eq_true_eq]
        constructor
        · rintro ⟨found, same, rfl, _⟩
          exact same
        · intro found
          exact ⟨position, found, rfl, inside⟩
      rw [Moment.effect, getElem?_set_first, here, Option.map_some, Moment.written?]
      by_cases named : (declared.map Parameter.name).idxOf? name = some position
      · rw [if_pos (first.mpr named), if_pos named]
        rfl
      · rw [if_neg (fun same => named (first.mp same)), if_neg named]
        rfl
  | bodyEnds outcome left =>
      have mode := congrArg (·[position]?) stand.modes
      simp only [List.getElem?_map, here, Option.map_some] at mode
      rw [List.getElem?_take_of_lt inside] at mode
      rw [Moment.effect, getElem?_absorb, here, Option.map_some, Moment.written?]
      cases declares : declared[position]? with
      | none =>
          rw [declares] at mode
          cases mode
      | some parameter =>
          rw [declares, Option.map_some, Option.some.injEq] at mode
          obtain ⟨name, shared, value⟩ := slot
          rw [Option.any_some, ← mode]
          cases shared <;> cases left[position]? <;> rfl
  | _ => exact here

/-- **A slot holds what was written last** to its parameter, or what was there at the start. -/
theorem getElem?_after_written {declared : List Parameter} {params : Parameters}
    (stand : Stand declared params) {position : Nat} {slot : Slot}
    (here : params[position]? = some slot) (record : List Moment) :
    (params.after record)[position]? =
      some { slot with value := (lastWritten? declared position record).getD slot.value } := by
  induction record generalizing params slot with
  | nil => exact here
  | cons moment later ih =>
      refine (ih (stand.effect moment) (getElem?_effect stand here moment)).trans ?_
      rw [← List.singleton_append, lastWritten?_append, lastWritten?_single]
      cases lastWritten? declared position later <;> rfl

end Parameters

namespace WovenMethod

/-! ### Calls that are over -/

/-- What a caller finds in its arguments, when a call has left this record. -/
structure WritesBack (woven : WovenMethod S) (passed : List Value) (record : List Moment)
    (left : List Value) : Prop where
  length : left.length = passed.length
  /-- An argument passed by reference is what was written last to its parameter, and what was
  passed if nothing was written. -/
  byReference {position : Nat} {parameter : Parameter} {start : Value}
    (here : woven.method.parameters[position]? = some parameter)
    (shared : parameter.byReference = true) (given : passed[position]? = some start) :
    left[position]? =
      some ((lastWritten? woven.method.parameters position record).getD start)
  byValue {position : Nat} {parameter : Parameter}
    (here : woven.method.parameters[position]? = some parameter)
    (isolated : parameter.byReference = false) : left[position]? = passed[position]?
  surplus {position : Nat} (beyond : woven.method.parameters.length ≤ position) :
    left[position]? = passed[position]?
  /-- To leave an argument as the body has got it is as good as not to write it: if no more is done
  to a parameter, the caller finds what it passed. -/
  untouched {position : Nat}
    (advice : ∀ name value, .writes name value ∈ record →
      (woven.method.parameters.map Parameter.name).idxOf? name ≠ some position)
    (body : ∀ earlier receiver arguments outcome kept later,
      record = earlier ++ .bodyBegins receiver arguments :: .bodyEnds outcome kept :: later →
        kept[position]? = arguments[position]?) :
    left[position]? = passed[position]?

section Call

variable {woven : WovenMethod S} {passed : List Value} {position : Nat}

/-- What the overlay of the slots makes of an argument at any time: what was written last to a
parameter passed by reference, and otherwise what was passed. -/
theorem getElem?_overlay_after (declared : List Parameter) {passed : List Value} {position : Nat}
    {start : Value} (given : passed[position]? = some start) (record : List Moment) :
    (((Parameters.ofCall declared passed).after record).overlay passed)[position]? =
      some (if declared[position]?.any Parameter.byReference then
        (lastWritten? declared position record).getD start else start) := by
  rw [Parameters.getElem?_overlay, given, Option.map_some]
  cases here : declared[position]? with
  | none =>
      have absent : ((Parameters.ofCall declared passed).after record)[position]? = none := by
        have names := congrArg (·[position]?)
          ((Parameters.names_after (Parameters.ofCall declared passed) record).trans
            (Parameters.names_ofCall declared passed))
        simpa [Parameters.names, List.getElem?_take, here] using names
      rw [absent]
      rfl
  | some parameter =>
      rw [Parameters.getElem?_after_written (Parameters.stand_ofCall declared passed)
        (Parameters.getElem?_ofCall here given) record]
      rfl

/-- Where advice writes nothing and the body leaves what it gets, nothing new is written. -/
theorem lastWritten?_of_untouched {declared : List Parameter} {record : List Moment}
    {start : Value} (given : passed[position]? = some start)
    (faithful : Faithful passed (Parameters.ofCall declared passed) record)
    (paired : ∀ earlier outcome left later, record = earlier ++ .bodyEnds outcome left :: later →
      ∃ before receiver arguments, earlier = before ++ [.bodyBegins receiver arguments])
    (advice : ∀ name value, .writes name value ∈ record →
      (declared.map Parameter.name).idxOf? name ≠ some position)
    (body : ∀ earlier receiver arguments outcome kept later,
      record = earlier ++ .bodyBegins receiver arguments :: .bodyEnds outcome kept :: later →
        kept[position]? = arguments[position]?) {first second : List Moment}
    (split : record = first ++ second) :
    (lastWritten? declared position first).getD start = start := by
  induction first using List.reverseRecOn generalizing second with
  | nil => rfl
  | append_singleton earlier moment ih =>
      rw [List.append_assoc, List.singleton_append] at split
      have before := ih split
      rw [lastWritten?_append, lastWritten?_single]
      cases moment with
      | writes name value =>
          have other := advice name value (split ▸ List.mem_append_right _ List.mem_cons_self)
          rw [Moment.written?, if_neg other]
          exact before
      | bodyEnds outcome left =>
          obtain ⟨sooner, receiver, arguments, rfl⟩ := paired _ _ _ _ split
          rw [List.append_assoc, List.singleton_append] at split
          have kept := body _ _ _ _ _ _ split
          subst split
          have begins : arguments = _ := faithful.fits
          rw [begins, getElem?_overlay_after declared given] at kept
          rw [Moment.written?]
          by_cases shared : declared[position]?.any Parameter.byReference = true
          · rw [if_pos shared] at kept ⊢
            rw [kept]
            rw [lastWritten?_append, lastWritten?_single] at before
            exact before
          · rw [if_neg shared]
            exact before
      | _ => exact before

/-- **The write-back is exact on every exit.** A call that ends, with whatever outcome, has a
record, and leaves in the arguments of the caller what the record says was written last. -/
theorem body_writes_back (woven : WovenMethod S) (receiver : Receiver) (passed : List Value) :
    (woven.recorded.body receiver passed).forget = woven.body receiver passed ∧
    (∀ history outcome left, (woven.body receiver passed).Ends history (outcome, left) →
      ∃ record, (woven.recorded.body receiver passed).Records record (outcome, left)) ∧
    ∀ record outcome left, (woven.recorded.body receiver passed).Records record (outcome, left) →
      woven.WritesBack passed record left := by
  refine ⟨woven.forget_body receiver passed, fun _ _ _ => exists_records_body,
    fun record outcome left records => ?_⟩
  obtain ⟨params, ran, rfl⟩ := records_body_iff.mp records
  have tracked : Tracks passed (Parameters.ofCall woven.method.parameters passed) _ :=
    tracks_run woven.chain woven.original ⟨woven.target, receiver⟩ _
  have final : params = (Parameters.ofCall woven.method.parameters passed).after record :=
    tracked.ended ran
  -- what the caller finds where it has passed an argument
  have found {position : Nat} {start : Value} (given : passed[position]? = some start) :
      (params.overlay passed)[position]? =
        some (if woven.method.parameters[position]?.any Parameter.byReference then
          (lastWritten? woven.method.parameters position record).getD start else start) := by
    rw [final]
    exact getElem?_overlay_after woven.method.parameters given record
  have missing {position : Nat} (absent : passed[position]? = none) :
      (params.overlay passed)[position]? = none := by
    rw [Parameters.getElem?_overlay, absent]
    rfl
  constructor
  case length => exact Parameters.length_overlay _ _
  case byReference =>
    intro position parameter start here shared given
    rw [found given, here, Option.any_some, if_pos shared]
  case byValue =>
    intro position parameter here isolated
    cases given : passed[position]? with
    | none => exact missing given
    | some start =>
        rw [found given, here, Option.any_some, isolated]
        rfl
  case surplus =>
    intro position beyond
    cases given : passed[position]? with
    | none => exact missing given
    | some start =>
        rw [found given, List.getElem?_eq_none beyond]
        rfl
  case untouched =>
    intro position advice body
    cases given : passed[position]? with
    | none => exact missing given
    | some start =>
        have notes := notes_run woven.chain woven.original ⟨woven.target, receiver⟩ passed
          (Parameters.ofCall woven.method.parameters passed)
        have same := lastWritten?_of_untouched given (tracked.faithful ran.shows)
          (fun _ _ _ _ => notes.paired ran) advice body (List.append_nil record).symm
        rw [found given, same, ite_self]

end Call

/-! ### A call that fails after two runs of its body -/

/-- Adds five to its second argument, clears the others, and fails. -/
def bookAndFail : Body Interface.idle := fun _ arguments =>
  match arguments with
  | [_, .int total, _] =>
      .done (.error (.raised "rejected" none), [.null, .int (total + 5), .null])
  | arguments => .done (.ok .null, arguments)

/-- A method whose total is passed by reference. Its amount and its total are changed before the
call, and the body is run again when it has failed. -/
def rejectedBooking : WovenMethod Interface.idle where
  className := "Account"
  method :=
    { name := "book", isStatic := true
      parameters := [{ name := "amount" }, { name := "total", byReference := true }] }
  chain :=
    { before := [⟨"before", fun _ _ => do
        let _ ← Advising.write "amount" (.int 0)
        let _ ← Advising.write "total" (.int 10)
        pure (.ok ()), []⟩]
      around := [⟨"around", fun _ _ => Surrounding.proceed.bind fun _ => Surrounding.proceed, []⟩] }
  original := bookAndFail

/-- The call fails, and the caller finds the total of the second run; its amount and the argument
that is not declared are as they were. -/
theorem body_writes_back_rejectedBooking :
    ∃ record,
      (rejectedBooking.recorded.body .static [.int 1, .int 5, .int 3]).Records record
        (.error (.raised "rejected" none), [.int 1, .int 20, .int 3]) ∧
      lastWritten? rejectedBooking.method.parameters 1 record = some (.int 20) ∧
      rejectedBooking.WritesBack [.int 1, .int 5, .int 3] record [.int 1, .int 20, .int 3] := by
  let call := rejectedBooking.recorded.body .static [.int 1, .int 5, .int 3]
  have records : call.Records call.replay.1
      (.error (.raised "rejected" none), [.int 1, .int 20, .int 3]) := call.records_replay
  have last : lastWritten? rejectedBooking.method.parameters 1 call.replay.1 = some (.int 20) := by
    decide +kernel
  exact ⟨_, records, last, (body_writes_back rejectedBooking .static _).2.2 _ _ _ records⟩

end WovenMethod

end AspectWeaver
