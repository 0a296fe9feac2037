/-
**By-value arguments: which calls leave them as they were.**

A body gets the list of arguments and leaves it as it likes. A woven body works on a copy and gives
back only what is passed by reference; any other body works on the caller's arguments.

* `keepsByValue_woven` — **a woven body keeps what is passed by value**, whatever its advice and its
  original body do.
* **`invoke_keeps_iff`** — the calls of a method keep what is passed by value exactly if the body
  it has does, and after a weaving exactly the wrapped methods are sure to.
-/

import AspectWeaver.Proofs.Calls
import AspectWeaver.Proofs.Tracking
import AspectWeaver.Proofs.Weaving

namespace AspectWeaver

variable {S : Interface} {σ : Type}

/-- The arguments at the positions passed by value are the same. -/
def Method.SameByValue (method : Method) (passed left : List Value) : Prop :=
  ∀ (position : Nat) (parameter : Parameter), method.parameters[position]? = some parameter →
    parameter.byReference = false → left[position]? = passed[position]?

namespace Entry

/-- The body of the method leaves what is passed by value as it is, however it ends. -/
def KeepsByValue (entry : Entry S) (className : String) : Prop :=
  ∀ receiver passed, entry.method.acceptReceiver className receiver = .ok receiver →
    passed.length = entry.method.parameters.length →
    ∀ history outcome left, (entry.body receiver passed).Ends history (outcome, left) →
      entry.method.SameByValue passed left

/-- Every call of the method that reaches its body leaves what is passed by value as it was when the
body began. -/
def CallsKeepByValue (entry : Entry S) (className : String) (table : ClassTable S) : Prop :=
  ∀ receiver site arguments accepted bound,
    entry.Admits className receiver site arguments accepted bound →
    ∀ history outcome left,
      (table.invoke ⟨className, entry.name⟩ receiver site arguments).Ends history (outcome, left) →
        entry.method.SameByValue bound left

/-- Calls keep what is passed by value exactly if the body does. -/
theorem callsKeepByValue_iff {table : ClassTable S} {className : String} {entry : Entry S}
    (present : table.entry? ⟨className, entry.name⟩ = some entry) :
    entry.CallsKeepByValue className table ↔ entry.KeepsByValue className := by
  constructor
  · intro calls receiver passed accepts complete history outcome left ends
    have admits := admits_of_complete accepts complete
    refine calls receiver .internal passed receiver passed admits history outcome left ?_
    rw [ClassTable.invoke_eq_of_admits present admits]
    exact ends
  · intro keeps receiver site arguments accepted bound admits history outcome left ends
    rw [ClassTable.invoke_eq_of_admits present admits] at ends
    exact keeps accepted bound (Method.acceptReceiver_accepted admits.accepts) admits.length history
      outcome left ends

end Entry

namespace WovenMethod

/-- **A woven body keeps what is passed by value**, whatever its advice and its original body do. -/
theorem keepsByValue_woven (woven : WovenMethod S) (receiver : Receiver) {passed left : List Value}
    {history : List (Exchange (Hosted S))} {outcome : Outcome}
    (ends : (woven.body receiver passed).Ends history (outcome, left)) :
    woven.method.SameByValue passed left := by
  intro position parameter here isolated
  rw [← woven.forget_body receiver passed] at ends
  obtain ⟨record, records⟩ := Program.exists_records_of_ends_forget ends
  obtain ⟨params, ran, rfl⟩ := records_body_iff.mp records
  have tracked : Tracks passed (Parameters.ofCall woven.method.parameters passed) _ :=
    tracks_run woven.chain woven.original ⟨woven.target, receiver⟩ _
  have final : params = (Parameters.ofCall woven.method.parameters passed).after record :=
    tracked.ended ran
  -- no moment changes how a parameter is passed
  have modes : params.map Slot.byReference =
      (woven.method.parameters.take passed.length).map Parameter.byReference := by
    rw [final, Parameters.byReference_after, Parameters.byReference_ofCall]
  rw [Parameters.getElem?_overlay]
  cases argument : passed[position]? with
  | none => rfl
  | some value =>
      rw [Option.map_some]
      cases slot : params[position]? with
      | none => rfl
      | some slot =>
          have mode := congrArg (·[position]?) modes
          obtain ⟨inside, _⟩ := List.getElem?_eq_some_iff.mp argument
          simp only [List.getElem?_map, slot, List.getElem?_take_of_lt inside, here,
            Option.map_some, Option.some.injEq] at mode
          dsimp only
          rw [mode, isolated]
          rfl

end WovenMethod

namespace Entry

/-- After a weaving a method keeps what is passed by value exactly if it is wrapped or did so
before. -/
theorem keepsByValue_wovenEntry_iff {weaver : Weaver S} {className : String} {entry : Entry S} :
    (weaver.wovenEntry className entry).KeepsByValue className ↔
      weaver.wraps entry = true ∨ entry.KeepsByValue className := by
  rw [Weaver.wovenEntry]
  by_cases wrapped : weaver.wraps entry = true
  · rw [if_pos wrapped]
    refine iff_of_true ?_ (.inl wrapped)
    intro receiver passed _ _ history outcome left ends
    exact WovenMethod.keepsByValue_woven (weaver.wrapping className entry) receiver ends
  · rw [if_neg wrapped]
    -- a mark changes neither the body nor the declaration
    have same : (if weaver.isDue entry then { entry with processed := true } else entry :
        Entry S).KeepsByValue className ↔ entry.KeepsByValue className := by
      split <;> rfl
    rw [same]
    exact ⟨.inr, fun either => either.resolve_left wrapped⟩

/-- **Calls keep what is passed by value exactly if the body of the method does.** Every woven body
does, and a weaving gives a woven body to the methods it wraps and changes no other. -/
theorem invoke_keeps_iff (className : String) {table : ClassTable S} {entry : Entry S}
    (present : table.entry? ⟨className, entry.name⟩ = some entry) :
    (entry.CallsKeepByValue className table ↔ entry.KeepsByValue className) ∧
    (∀ (chain : Chain S) (original : Body S),
      { entry with
        body := (WovenMethod.mk className entry.method chain original).body }.KeepsByValue
          className) ∧
    ∀ (weaver : Weaver S) (host : Host S σ) (world later : World S σ) (told : WeaveReport),
      world.classes = table → table.Reachable → weaver.registry.Quiet host →
      weaver.weave host className world = some (.ok told, later) →
      ∃ woven : Entry S, later.classes.entry? ⟨className, entry.name⟩ = some woven ∧
        (woven.CallsKeepByValue className later.classes ↔
          entry.name ∈ told.wrapped ∨ entry.KeepsByValue className) := by
  refine ⟨callsKeepByValue_iff present, fun chain original => ?_, ?_⟩
  · intro receiver passed _ _ history outcome left ends
    exact WovenMethod.keepsByValue_woven ⟨className, entry.method, chain, original⟩ receiver ends
  · rintro weaver host world later told rfl reachable quiet runs
    have orderly := reachable.wellFormed
    have wraps := Weaver.mem_wrapped_iff quiet orderly runs present
    have after := Weaver.entry_of_weave quiet orderly runs entry.name
    rw [present, Option.map_some] at after
    refine ⟨_, after, ?_⟩
    rw [wraps]
    have there : later.classes.entry? ⟨className, (weaver.wovenEntry className entry).name⟩ =
        some (weaver.wovenEntry className entry) := by
      rw [Weaver.wovenEntry_name]
      exact after
    rw [callsKeepByValue_iff there, keepsByValue_wovenEntry_iff]

/-! ### A body that writes its argument -/

/-- A method whose body writes the argument that is passed by value. -/
def scribbling : Entry Interface.idle where
  method :=
    { name := "set", isStatic := true, parameters := [{ name := "value" }]
      documentation := some "@before stamp" }
  body := fun _ _ => .done (.ok .null, [.int 99])

/-- A registry with an advice function that does nothing. -/
def stamping : Registry Interface.idle :=
  { functions := [⟨"stamp", .before fun _ _ => .done (.ok ())⟩] }

/-- A world in which there is only the class of this method. -/
def scribblingWorld : World Interface.idle Unit where
  classes := ⟨[("Cell", ⟨"Cell", [scribbling]⟩)]⟩
  clock := 0
  log := []
  state := ()

/-- Before a weaving the caller sees what the body writes to its argument; after it, never. -/
theorem invoke_leaks_until_woven :
    scribblingWorld.classes.Reachable ∧
    scribblingWorld.classes.entry? ⟨"Cell", scribbling.name⟩ = some scribbling ∧
    scribblingWorld.classes.invoke ⟨"Cell", "set"⟩ .static .external [.int 1] =
      .done (.ok .null, [.int 99]) ∧
    ¬ scribbling.CallsKeepByValue "Cell" scribblingWorld.classes ∧
    ∃ (host : Host Interface.idle Unit) (told : WeaveReport) (later : World Interface.idle Unit)
      (woven : Entry Interface.idle),
      stamping.Quiet host ∧
      Weaver.weave ⟨stamping, .skip⟩ host "Cell" scribblingWorld = some (.ok told, later) ∧
      later.classes.entry? ⟨"Cell", scribbling.name⟩ = some woven ∧
      woven.CallsKeepByValue "Cell" later.classes := by
  obtain ⟨precisely, _, afterwards⟩ := invoke_keeps_iff (σ := Unit) "Cell"
    (rfl : scribblingWorld.classes.entry? ⟨"Cell", scribbling.name⟩ = some scribbling)
  have reachable : scribblingWorld.classes.Reachable := by
    refine ClassTable.Reachable.single (fun entry member => ?_) rfl
    rw [List.mem_singleton.mp member]
    exact ⟨rfl, rfl⟩
  have leaks : ¬ scribbling.KeepsByValue "Cell" := by
    intro keeps
    have same := keeps .static [.int 1] rfl rfl [] (.ok .null) [.int 99] (.done _) 0 _ rfl rfl
    exact absurd same (by decide)
  have quiet : stamping.Quiet (nofun : Host Interface.idle Unit) := by
    intro handle member
    simp [stamping, Registry.handlers] at member
  obtain ⟨told, later, runs, names⟩ := Weaver.wrapped?_eq_some_iff.mp
    (show Weaver.wrapped? ⟨stamping, .skip⟩ (nofun : Host Interface.idle Unit) "Cell"
      scribblingWorld = some ["set"] by decide +kernel)
  have wrapped : scribbling.name ∈ told.wrapped := by
    rw [names]
    exact List.mem_singleton_self _
  obtain ⟨woven, there, keeps⟩ :=
    afterwards ⟨stamping, .skip⟩ nofun scribblingWorld later told rfl reachable quiet runs
  exact ⟨reachable, rfl, rfl, (not_congr precisely).mpr leaks, nofun, told, later, woven, quiet,
    runs, there, keeps.mpr (.inl wrapped)⟩

end Entry

end AspectWeaver
