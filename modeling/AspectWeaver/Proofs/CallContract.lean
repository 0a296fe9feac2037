/-
**The contract of a call: it is refused by the first check that fails, or it is the body.**

* `Refuses` — the checks of a call in their order, each with the refusal that it ends in.
* `Suits` — a call with which no check finds fault.
* `invoke_of_refuses` — a call that is refused asks for nothing, and leaves its arguments as they
  were.
* `refuses_or_suits` — every call is refused or has all it needs, if the signature of the method is
  well formed.
* **`invoke_contract`** — **in every reachable table** a call is refused as a whole, or it is its
  method's body, called once, on an argument for each parameter and on a receiver that fits.
-/

import AspectWeaver.Proofs.ArgumentBinding
import AspectWeaver.Proofs.Calls
import AspectWeaver.Proofs.History

namespace AspectWeaver

variable {S : Interface}

/-! ### Checks -/

/-- The method can be called on the receiver: a static method on any, and any other on an
instance. -/
def Method.Receives (method : Method) (receiver : Receiver) : Prop :=
  method.isStatic = true ∨ receiver ≠ .static

/-- A call of the method from this place has all that it needs. -/
structure Method.Suits (method : Method) (receiver : Receiver) (site : CallSite)
    (arguments : List Value) : Prop where
  visible : method.visibility.allows site = true
  receives : method.Receives receiver
  fits : arguments.length ≤ method.parameters.length
  /-- What is left out has a default. -/
  optional : ∀ parameter ∈ method.parameters.drop arguments.length, parameter.default.isSome = true

/-- A call is refused with this cause: the check fails, and those before it do not. -/
inductive ClassTable.Refuses (table : ClassTable S) (target : MethodId) (receiver : Receiver)
    (site : CallSite) (arguments : List Value) : Refusal → Prop where
  | noClass (absent : table.find? target.className = none) :
      Refuses table target receiver site arguments (.classNotFound target.className)
  | noMethod {definition : ClassDefinition S}
      (found : table.find? target.className = some definition)
      (absent : target.method ∉ definition.entries.map Entry.name) :
      Refuses table target receiver site arguments (.methodNotFound target)
  | hidden {entry : Entry S} (present : table.entry? target = some entry)
      (invisible : entry.method.visibility.allows site = false) :
      Refuses table target receiver site arguments
        (.notAccessible target entry.method.visibility site)
  | noReceiver {entry : Entry S} (present : table.entry? target = some entry)
      (visible : entry.method.visibility.allows site = true)
      (unfit : ¬ entry.method.Receives receiver) :
      Refuses table target receiver site arguments (.missingReceiver target)
  | surplus {entry : Entry S} (present : table.entry? target = some entry)
      (visible : entry.method.visibility.allows site = true)
      (receives : entry.method.Receives receiver)
      (more : entry.method.parameters.length < arguments.length) :
      Refuses table target receiver site arguments
        (.tooManyArguments target entry.method.parameters.length arguments.length)
  | missing {entry : Entry S} {parameter : Parameter}
      (present : table.entry? target = some entry)
      (visible : entry.method.visibility.allows site = true)
      (receives : entry.method.Receives receiver)
      (first : entry.method.parameters[arguments.length]? = some parameter)
      (required : parameter.default = none) :
      Refuses table target receiver site arguments (.missingArgument target parameter.name)

namespace Method

variable {method : Method} {className : String} {receiver accepted : Receiver}

/-- A static method gets no receiver, and any other the one it is called on. -/
theorem acceptReceiver_of_receives (receives : method.Receives receiver) :
    method.acceptReceiver className receiver =
      .ok (if method.isStatic then .static else receiver) := by
  unfold acceptReceiver
  by_cases isStatic : method.isStatic = true
  · rw [if_pos isStatic, if_pos isStatic]
  · rw [if_neg isStatic, if_neg isStatic]
    cases receiver with
    | static => exact absurd rfl (receives.resolve_left isStatic)
    | on object => rfl

/-- A call on nothing of a method that is not static has no receiver. -/
theorem acceptReceiver_of_not_receives (unfit : ¬ method.Receives receiver) :
    method.acceptReceiver className receiver =
      .error (.missingReceiver ⟨className, method.name⟩) := by
  rw [Receives, not_or, Decidable.not_not] at unfit
  obtain ⟨notStatic, rfl⟩ := unfit
  rw [acceptReceiver, if_neg notStatic]

/-- The receiver that a method gets is none exactly if the method is static. -/
theorem accepted_eq_static_iff (receives : method.Receives receiver) :
    (if method.isStatic then .static else receiver) = Receiver.static ↔ method.isStatic = true := by
  by_cases isStatic : method.isStatic = true
  · rw [if_pos isStatic]
    exact iff_of_true rfl isStatic
  · rw [if_neg isStatic]
    exact iff_of_false (receives.resolve_left isStatic) isStatic

end Method

namespace ClassTable

variable {table : ClassTable S} {target : MethodId} {receiver : Receiver} {site : CallSite}
  {arguments : List Value} {entry : Entry S}

/-- **A call that is refused does nothing**: no body and no advice runs, and the arguments stay as
they are. -/
theorem invoke_of_refuses {cause : Refusal}
    (refuses : table.Refuses target receiver site arguments cause) :
    table.invoke target receiver site arguments =
      .done (.error (.refused cause), arguments) := by
  cases refuses with
  | noClass absent =>
      unfold invoke entry
      rw [absent]
  | noMethod found absent =>
      have unknown := (Named.find?_eq_none_iff Entry.name).mpr absent
      unfold invoke entry
      rw [found]
      dsimp only
      rw [ClassDefinition.find?, unknown]
  | hidden present invisible =>
      rw [invoke_of_present present, if_neg (by simp [invisible])]
  | noReceiver present visible unfit =>
      have named := name_of_entry? present
      rw [invoke_of_present present, if_pos visible,
        Method.acceptReceiver_of_not_receives unfit, named]
  | surplus present visible receives more =>
      have named := name_of_entry? present
      rw [invoke_of_present present, if_pos visible, Method.acceptReceiver_of_receives receives]
      dsimp only
      rw [Method.bindArguments_of_surplus target.className more, named]
  | missing present visible receives first required =>
      have named := name_of_entry? present
      rw [invoke_of_present present, if_pos visible, Method.acceptReceiver_of_receives receives]
      dsimp only
      rw [Method.bindArguments_of_required target.className first required, named]

/-- Only one check is the first that fails. -/
theorem Refuses.unique {cause other : Refusal}
    (first : table.Refuses target receiver site arguments cause)
    (second : table.Refuses target receiver site arguments other) : cause = other := by
  have same := (invoke_of_refuses first).symm.trans (invoke_of_refuses second)
  cases same
  rfl

/-- A call that has all it needs is not refused. -/
theorem not_refuses_of_suits (present : table.entry? target = some entry)
    (suits : entry.method.Suits receiver site arguments) (cause : Refusal) :
    ¬ table.Refuses target receiver site arguments cause := by
  intro refuses
  cases refuses with
  | noClass absent =>
      rw [ClassTable.entry?, absent] at present
      cases present
  | noMethod found absent =>
      have unknown : ClassDefinition.find? _ target.method = none :=
        (Named.find?_eq_none_iff Entry.name).mpr absent
      rw [ClassTable.entry?, found, Option.bind_some, unknown] at present
      cases present
  | hidden there invisible =>
      cases present.symm.trans there
      have visible := suits.visible
      rw [invisible] at visible
      cases visible
  | noReceiver there _ unfit =>
      cases present.symm.trans there
      exact unfit suits.receives
  | surplus there _ _ more =>
      cases present.symm.trans there
      exact Nat.not_le.mpr more suits.fits
  | missing there _ _ first required =>
      cases present.symm.trans there
      have leftOut := Method.drop_eq_cons first
      have optional := suits.optional
      rw [leftOut] at optional
      have given := (List.forall_mem_cons.mp optional).1
      rw [required] at given
      cases given

/-- **A call is refused, or it has all it needs.** -/
theorem refuses_or_suits (present : table.entry? target = some entry)
    (orderly : entry.method.Orderly) (receiver : Receiver) (site : CallSite)
    (arguments : List Value) :
    (∃ cause, table.Refuses target receiver site arguments cause) ∨
      entry.method.Suits receiver site arguments := by
  by_cases visible : entry.method.visibility.allows site = true
  case neg => exact .inl ⟨_, .hidden present (Bool.eq_false_iff.mpr visible)⟩
  by_cases receives : entry.method.Receives receiver
  case neg => exact .inl ⟨_, .noReceiver present visible receives⟩
  by_cases fits : arguments.length ≤ entry.method.parameters.length
  case neg => exact .inl ⟨_, .surplus present visible receives (Nat.not_le.mp fits)⟩
  -- the first parameter that is left out decides about all of them
  cases first : entry.method.parameters[arguments.length]? with
  | none =>
      have nothing : entry.method.parameters.drop arguments.length = [] :=
        List.drop_eq_nil_of_le (List.getElem?_eq_none_iff.mp first)
      refine .inr ⟨visible, receives, fits, ?_⟩
      rw [nothing]
      exact List.forall_mem_nil _
  | some parameter =>
      by_cases optional : parameter.default.isSome = true
      · exact .inr ⟨visible, receives, fits, orderly.optional_after first optional⟩
      · have required : parameter.default = none := by simpa using optional
        exact .inl ⟨_, .missing present visible receives first required⟩

/-- A call that has all it needs passes the checks, and what it leaves out is filled in. -/
theorem admits_of_suits (className : String)
    (suits : entry.method.Suits receiver site arguments) :
    ∃ filled, entry.Admits className receiver site arguments
        (if entry.method.isStatic then .static else receiver) (arguments ++ filled) ∧
      filled.map some =
        (entry.method.parameters.drop arguments.length).map Parameter.default := by
  obtain ⟨filled, binds, same⟩ :=
    Method.bindArguments_of_optional className suits.fits suits.optional
  exact ⟨filled, ⟨suits.visible, Method.acceptReceiver_of_receives suits.receives, binds⟩, same⟩

/-- **The contract of a call.** Either the call is refused by the first check that fails, and then
it asks for nothing and leaves the arguments as they were. Or it passes all checks, and is the body
of the method: called once, on the given arguments followed by the defaults of the other parameters,
without a receiver if the method is static and on the given one if not. -/
theorem invoke_contract (reachable : table.Reachable) (target : MethodId) (receiver : Receiver)
    (site : CallSite) (arguments : List Value) :
    (∃ cause, table.Refuses target receiver site arguments cause ∧
        table.invoke target receiver site arguments =
          .done (.error (.refused cause), arguments)) ∨
      ∃ (entry : Entry S) (accepted : Receiver) (filled : List Value),
        table.entry? target = some entry ∧
        (∀ cause, ¬ table.Refuses target receiver site arguments cause) ∧
        table.invoke target receiver site arguments =
          entry.body accepted (arguments ++ filled) ∧
        (arguments ++ filled).length = entry.method.parameters.length ∧
        filled.map some =
          (entry.method.parameters.drop arguments.length).map Parameter.default ∧
        (accepted = .static ↔ entry.method.isStatic = true) ∧
        (entry.method.isStatic = false → accepted = receiver) := by
  cases found : table.find? target.className with
  | none => exact .inl ⟨_, .noClass found, invoke_of_refuses (.noClass found)⟩
  | some definition =>
      cases present : table.entry? target with
      | none =>
          have unknown : definition.find? target.method = none := by
            rw [ClassTable.entry?, found] at present
            exact present
          have absent := (Named.find?_eq_none_iff Entry.name).mp unknown
          exact .inl ⟨_, .noMethod found absent, invoke_of_refuses (.noMethod found absent)⟩
      | some entry =>
          have orderly := Method.signatureFault?_eq_none_iff.mp (reachable.signature present)
          rcases refuses_or_suits present orderly receiver site arguments with
            ⟨cause, refuses⟩ | suits
          · exact .inl ⟨cause, refuses, invoke_of_refuses refuses⟩
          · obtain ⟨filled, admits, same⟩ := admits_of_suits target.className suits
            have called := invoke_eq_of_admits present admits
            refine .inr ⟨entry, _, filled, rfl, not_refuses_of_suits present suits, called,
              admits.length, same, Method.accepted_eq_static_iff suits.receives,
              fun notStatic => ?_⟩
            rw [notStatic]
            rfl

/-! ### A method with a default -/

/-- A method for subclasses, of which the second parameter has a default. -/
def counting : Entry Interface.idle where
  method :=
    { name := "add", isStatic := true, visibility := .family
      parameters := [{ name := "a" }, { name := "b", default := some (.int 10) }] }
  body := fun _ arguments => .done (.ok .null, arguments)

/-- A table with the class of this method. -/
def counters : ClassTable Interface.idle := ⟨[("Counter", ⟨"Counter", [counting]⟩)]⟩

/-- A call from outside and one without the first argument are refused; one with it is the body, on
the default too. -/
theorem invoke_contract_counter :
    counters.Reachable ∧
    counters.invoke ⟨"Counter", "add"⟩ .static .external [] =
      .done (.error (.refused (.notAccessible ⟨"Counter", "add"⟩ .family .external)), []) ∧
    counters.invoke ⟨"Counter", "add"⟩ .static .subclass [] =
      .done (.error (.refused (.missingArgument ⟨"Counter", "add"⟩ "a")), []) ∧
    counters.invoke ⟨"Counter", "add"⟩ (.on .foreign) .internal [.int 1] =
      counting.body .static [.int 1, .int 10] := by
  have reachable : counters.Reachable := by
    refine Reachable.single (fun entry member => ?_) rfl
    rw [List.mem_singleton.mp member]
    exact ⟨rfl, rfl⟩
  let target : MethodId := ⟨"Counter", "add"⟩
  have present : counters.entry? target = some counting := rfl
  have hidden : counters.Refuses target .static .external []
      (.notAccessible target .family .external) := .hidden present rfl
  have first : counting.method.parameters[([] : List Value).length]? = some { name := "a" } := rfl
  have missing : counters.Refuses target .static .subclass [] (.missingArgument target "a") :=
    .missing present rfl (.inl rfl) first rfl
  have suits : counting.method.Suits (.on .foreign) .internal [.int 1] :=
    ⟨rfl, .inl rfl, by decide, by simp [counting]⟩
  refine ⟨reachable, ?_, ?_, ?_⟩
  · rcases invoke_contract reachable target .static .external [] with
      ⟨cause, refuses, called⟩ | ⟨_, _, _, _, passes, _⟩
    · cases refuses.unique hidden
      exact called
    · exact absurd hidden (passes _)
  · rcases invoke_contract reachable target .static .subclass [] with
      ⟨cause, refuses, called⟩ | ⟨_, _, _, _, passes, _⟩
    · cases refuses.unique missing
      exact called
    · exact absurd missing (passes _)
  · rcases invoke_contract reachable target (.on .foreign) .internal [.int 1] with
      ⟨cause, refuses, _⟩ | ⟨entry, accepted, filled, there, _, called, _, defaults, statically, _⟩
    · exact absurd refuses (not_refuses_of_suits present suits cause)
    · cases present.symm.trans there
      have without : accepted = .static := statically.mpr rfl
      obtain ⟨value, rfl, same⟩ := List.map_eq_singleton_iff.mp defaults
      cases same
      rw [called, without]
      rfl

end ClassTable

end AspectWeaver
