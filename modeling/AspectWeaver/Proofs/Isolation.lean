/-
**Isolation: what the original body gets, each time it runs in a woven call.**

Around handlers may run the original body any number of times, and parameters are written in
between. At a position passed by value the body still gets what the caller passed; at a position
passed by reference it gets the present value of the parameter.

* `get_slotsAfter` — the present value of a parameter is what was written last.
* **`body_isolated`** — **every run of the body is isolated**, at every moment of every call, with
  whatever handlers around it.
-/

import AspectWeaver.Proofs.Tracking

namespace AspectWeaver

variable {S : Interface}

/-! ### Writes to a parameter -/

/-- The moment writes this parameter. -/
def Moment.Writes (parameter : Parameter) : Moment → Prop
  | .writes name _ => name = parameter.name
  | .bodyEnds _ _ => parameter.byReference = true
  | _ => False

/-- A parameter that is not written keeps its value. -/
theorem Parameter.valueAfter_of_forall_not_writes {parameter : Parameter} {record : List Moment}
    (untouched : ∀ moment ∈ record, ¬ moment.Writes parameter) (position : Nat) (value : Value) :
    parameter.valueAfter position value record = value := by
  induction record with
  | nil => rfl
  | cons moment later ih =>
      have same : parameter.valueThen position value moment = value := by
        have spared := untouched moment List.mem_cons_self
        cases moment with
        | writes name written => exact if_neg spared
        | bodyEnds outcome left => exact if_neg spared
        | _ => rfl
      show parameter.valueAfter position (parameter.valueThen position value moment) later = value
      rw [same]
      exact ih fun moment member => untouched moment (List.mem_cons_of_mem _ member)

namespace WovenMethod

/-! ### The slots of a call -/

/-- The parameters of a call, as they are after a record. -/
def slotsAfter (woven : WovenMethod S) (passed : List Value) (record : List Moment) : Parameters :=
  (Parameters.ofCall woven.method.parameters passed).after record

section Slots

variable {woven : WovenMethod S} {passed : List Value} {position : Nat} {parameter : Parameter}
  {value : Value}

theorem getElem?_slotsAfter (wellFormed : woven.method.signatureFault? = none)
    (here : woven.method.parameters[position]? = some parameter)
    (given : passed[position]? = some value) (record : List Moment) :
    (woven.slotsAfter passed record)[position]? =
      some ⟨parameter.name, parameter.byReference,
        parameter.valueAfter position value record⟩ := by
  refine Parameters.getElem?_after ?_ (Parameters.getElem?_ofCall here given) record
  rw [Parameters.names_ofCall, List.map_take]
  exact (Method.nodup_of_signatureFault? wellFormed).sublist (List.take_sublist _ _)

/-- **The present value of a parameter** is what was written last. -/
theorem get_slotsAfter (wellFormed : woven.method.signatureFault? = none)
    (here : woven.method.parameters[position]? = some parameter)
    (given : passed[position]? = some value) (record : List Moment) :
    (woven.slotsAfter passed record).get parameter.name =
      some (parameter.valueAfter position value record) := by
  have slot := getElem?_slotsAfter wellFormed here given record
  have distinct : (Parameters.names (woven.slotsAfter passed record)).Nodup := by
    rw [slotsAfter, Parameters.names_after, Parameters.names_ofCall, List.map_take]
    exact (Method.nodup_of_signatureFault? wellFormed).sublist (List.take_sublist _ _)
  have found := Named.find?_of_mem Slot.name distinct (List.mem_of_getElem? slot)
  rw [Parameters.get, Parameters.find?, found, Option.map_some]

/-- What the body gets at one position, when it begins after a record. -/
theorem getElem?_overlay_slotsAfter (wellFormed : woven.method.signatureFault? = none)
    (here : woven.method.parameters[position]? = some parameter)
    (given : passed[position]? = some value) (record : List Moment) :
    ((woven.slotsAfter passed record).overlay passed)[position]? =
      some (if parameter.byReference then parameter.valueAfter position value record
        else value) := by
  rw [Parameters.getElem?_overlay, getElem?_slotsAfter wellFormed here given, given]
  rfl

end Slots

/-! ### Isolation -/

/-- The runs of the original body that a record tells of are isolated. -/
structure Isolates (woven : WovenMethod S) (passed : List Value) (record : List Moment) : Prop where
  /-- What handlers see are the slots of the call. -/
  sees {earlier later : List Moment} {seen : Parameters}
    (split : record = earlier ++ .reads seen :: later) : seen = woven.slotsAfter passed earlier
  /-- Each time the body gets as many arguments as were passed. -/
  complete {earlier later : List Moment} {entered : Receiver} {arguments : List Value}
    (split : record = earlier ++ .bodyBegins entered arguments :: later) :
    arguments.length = passed.length
  /-- Each time the body gets what was passed by value as it was passed. -/
  byValue {earlier later : List Moment} {entered : Receiver} {arguments : List Value}
    (split : record = earlier ++ .bodyBegins entered arguments :: later)
    {position : Nat} {parameter : Parameter}
    (here : woven.method.parameters[position]? = some parameter)
    (isolated : parameter.byReference = false) : arguments[position]? = passed[position]?
  /-- Each time the body gets the present value of what was passed by reference: what its slot
  holds, which is what was written last. -/
  byReference {earlier later : List Moment} {entered : Receiver} {arguments : List Value}
    (split : record = earlier ++ .bodyBegins entered arguments :: later)
    {position : Nat} {parameter : Parameter}
    (here : woven.method.parameters[position]? = some parameter)
    (shared : parameter.byReference = true) :
    arguments[position]? = (woven.slotsAfter passed earlier).get parameter.name ∧
      arguments[position]? =
        passed[position]?.map fun start => parameter.valueAfter position start earlier
  /-- What one run leaves in a parameter passed by reference, the next run gets, if nothing else
  writes the parameter in between. -/
  carries {earlier between later : List Moment} {outcome : Outcome} {left : List Value}
    {entered : Receiver} {arguments : List Value}
    (split : record =
      (earlier ++ .bodyEnds outcome left :: between) ++ .bodyBegins entered arguments :: later)
    {position : Nat} {parameter : Parameter} {written : Value}
    (here : woven.method.parameters[position]? = some parameter)
    (shared : parameter.byReference = true) (leaves : left[position]? = some written)
    (untouched : ∀ moment ∈ between, ¬ moment.Writes parameter) :
    arguments[position]? = some written

/-- **Every run of the original body is isolated.** -/
theorem body_isolated (woven : WovenMethod S) (wellFormed : woven.method.signatureFault? = none)
    {passed : List Value} (complete : passed.length = woven.method.parameters.length)
    (receiver : Receiver) :
    (woven.recorded.body receiver passed).forget = woven.body receiver passed ∧
      ∀ record, (woven.recorded.body receiver passed).Shows record →
        woven.Isolates passed record := by
  refine ⟨woven.forget_body receiver passed, fun record shows => ?_⟩
  have faithful : Faithful passed (Parameters.ofCall woven.method.parameters passed) record :=
    (tracks_run woven.chain woven.original _ _).faithful (shows_run_of_shows_body shows)
  have begins {earlier later : List Moment} {entered : Receiver} {arguments : List Value}
      (split : record = earlier ++ .bodyBegins entered arguments :: later) :
      arguments = (woven.slotsAfter passed earlier).overlay passed := by
    subst split
    exact faithful.fits
  have given {position : Nat} {parameter : Parameter}
      (here : woven.method.parameters[position]? = some parameter) :
      ∃ value, passed[position]? = some value := by
    obtain ⟨inside, _⟩ := List.getElem?_eq_some_iff.mp here
    exact ⟨_, List.getElem?_eq_getElem (complete ▸ inside)⟩
  constructor
  case sees =>
    rintro earlier later seen rfl
    exact faithful.fits
  case complete =>
    intro earlier later entered arguments split
    rw [begins split, Parameters.length_overlay]
  case byValue =>
    intro earlier later entered arguments split position parameter here isolated
    obtain ⟨value, argument⟩ := given here
    rw [begins split, getElem?_overlay_slotsAfter wellFormed here argument, argument, isolated]
    rfl
  case byReference =>
    intro earlier later entered arguments split position parameter here shared
    obtain ⟨value, argument⟩ := given here
    rw [begins split, getElem?_overlay_slotsAfter wellFormed here argument, if_pos shared, argument]
    exact ⟨(get_slotsAfter wellFormed here argument earlier).symm, rfl⟩
  case carries =>
    intro earlier between later outcome left entered arguments split position parameter written
      here shared leaves untouched
    obtain ⟨value, argument⟩ := given here
    have last : parameter.valueAfter position value (earlier ++ .bodyEnds outcome left :: between) =
        written := by
      rw [Parameter.valueAfter, List.foldl_append, List.foldl_cons]
      refine (Parameter.valueAfter_of_forall_not_writes untouched position _).trans ?_
      rw [Parameter.valueThen, if_pos shared, leaves]
      rfl
    rw [begins split, getElem?_overlay_slotsAfter wellFormed here argument, if_pos shared, last]

/-! ### A call in which the body runs twice -/

/-- Adds an amount to a total and raises the amount. -/
def addAmount : Body Interface.idle := fun _ arguments =>
  match arguments with
  | [.int amount, .int total] =>
      .done (.ok .null, [.int (amount + 1), .int (total + amount)])
  | arguments => .done (.ok .null, arguments)

/-- A method with its amount passed by value and its total by reference, which is run twice. -/
def twiceAdded : WovenMethod Interface.idle where
  className := "Account"
  method :=
    { name := "add", isStatic := true
      parameters := [{ name := "amount" }, { name := "total", byReference := true }] }
  chain :=
    { around := [⟨"around", fun _ _ => Surrounding.proceed.bind fun _ => Surrounding.proceed, []⟩] }
  original := addAmount

/-- The first run raises the amount and the total; the second gets the new total and the old
amount. -/
theorem body_isolated_twiceAdded :
    twiceAdded.method.signatureFault? = none ∧
      [Value.int 2, .int 5].length = twiceAdded.method.parameters.length ∧
        ∃ record earlier, (twiceAdded.recorded.body .static [.int 2, .int 5]).Shows record ∧
          twiceAdded.Isolates [.int 2, .int 5] record ∧
            .bodyEnds (.ok .null) [.int 3, .int 7] ∈ earlier ∧
              record = earlier ++ [.bodyBegins .static [.int 2, .int 7]] := by
  have shows : (twiceAdded.recorded.body .static [.int 2, .int 5]).Shows
      ([.aroundBegins 0 ⟨twiceAdded.target, .static⟩ [], .proceeds 0,
        .bodyBegins .static [.int 2, .int 5], .bodyEnds (.ok .null) [.int 3, .int 7],
        .proceeds 0] ++ [.bodyBegins .static [.int 2, .int 7]]) :=
    ⟨_, .ask () (.ask () (.ask () (.ask () (.ask () (.ask () (.ask () (.start _))))))), rfl⟩
  refine ⟨by decide, rfl, _, _, shows, ?_, ?_, rfl⟩
  · exact (body_isolated twiceAdded (by decide) rfl .static).2 _ shows
  · exact List.mem_of_getElem? (i := 3) rfl

end WovenMethod

end AspectWeaver
