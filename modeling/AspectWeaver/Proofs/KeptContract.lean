/-
**Weaving keeps the contract of every call.**

What a caller has to know of a method is its declaration, and weaving changes none. So a call is
refused after a weaving exactly if it was before, with the same refusal; any other reaches the body
of its method as before, on the same receiver and the same arguments, and only the body may be
another one. What advice sees of the parameters in a woven body is what is declared.

* `SameMethods.refuses` — tables with the same declarations refuse the same calls.
* `presents_of_complete` — **advice sees the declared parameters**, and what was passed until
  something is written.
* `entry_left` — what a weaving leaves of a method: its entry, or the woven one.
* `wellFormed_of_weave` — a weaving leaves a table in good order.
* **`weave_keeps_contract`** — **a weaving keeps the contract of every call**, whether it succeeds
  or fails.
-/

import AspectWeaver.Proofs.CallContract
import AspectWeaver.Proofs.InfoOnce
import AspectWeaver.Proofs.Isolation

namespace AspectWeaver

variable {S : Interface} {σ : Type}

/-- What a call passes on to a body depends on the declaration alone. -/
theorem Entry.Admits.congr {entry now : Entry S} {className : String}
    {receiver accepted : Receiver} {site : CallSite} {arguments bound : List Value}
    (declared : now.method = entry.method)
    (admits : entry.Admits className receiver site arguments accepted bound) :
    now.Admits className receiver site arguments accepted bound := by
  obtain ⟨visible, accepts, binds⟩ := admits
  rw [← declared] at visible accepts binds
  exact ⟨visible, accepts, binds⟩

namespace ClassTable

/-! ### Tables with the same declarations -/

/-- Every class has the same methods in the other table, in the same order. -/
def SameMethods (table other : ClassTable S) : Prop :=
  ∀ className, other.methods? className = table.methods? className

section Same

variable {table other : ClassTable S} {target : MethodId} {receiver : Receiver} {site : CallSite}
  {arguments : List Value} {entry : Entry S} {cause : Refusal}

theorem SameMethods.symm (same : table.SameMethods other) : other.SameMethods table :=
  fun className => (same className).symm

/-- The method of an entry is the one of its name among the methods of the class. -/
theorem map_method_entry? (table : ClassTable S) (target : MethodId) :
    (table.entry? target).map Entry.method =
      (table.methods? target.className).bind (Named.find? Method.name target.method) := by
  rw [ClassTable.entry?, methods?]
  cases table.find? target.className with
  | none => rfl
  | some definition =>
      have keeps (entry : Entry S) : Method.name entry.method = Entry.name entry := rfl
      exact (Named.find?_map Entry.name keeps target.method definition.entries).symm

/-- A method that is in a table is in the other one, as it is declared. -/
theorem SameMethods.entry? (same : table.SameMethods other)
    (present : table.entry? target = some entry) :
    ∃ now, other.entry? target = some now ∧ now.method = entry.method := by
  have declared := map_method_entry? other target
  rw [same, ← map_method_entry?, present] at declared
  exact Option.map_eq_some_iff.mp declared

/-- What is refused in a table is refused in the other one, for the same reason. -/
theorem SameMethods.refuses (same : table.SameMethods other)
    (refuses : table.Refuses target receiver site arguments cause) :
    other.Refuses target receiver site arguments cause := by
  cases refuses with
  | noClass absent =>
      have unlisted := same target.className
      rw [methods?, methods?, absent] at unlisted
      exact .noClass (Option.map_eq_none_iff.mp unlisted)
  | noMethod found absent =>
      have listed := same target.className
      rw [methods?_of_find? found] at listed
      obtain ⟨definition, there, methods⟩ := Option.map_eq_some_iff.mp listed
      exact .noMethod there (by rwa [Entry.map_name_congr methods])
  | hidden present invisible =>
      obtain ⟨now, there, declared⟩ := same.entry? present
      rw [← declared] at invisible ⊢
      exact .hidden there invisible
  | noReceiver present visible unfit =>
      obtain ⟨now, there, declared⟩ := same.entry? present
      rw [← declared] at visible unfit
      exact .noReceiver there visible unfit
  | surplus present visible receives more =>
      obtain ⟨now, there, declared⟩ := same.entry? present
      rw [← declared] at visible receives more ⊢
      exact .surplus there visible receives more
  | missing present visible receives first required =>
      obtain ⟨now, there, declared⟩ := same.entry? present
      rw [← declared] at visible receives first
      exact .missing there visible receives first required

/-- A call is refused, or its method is there and it has all it needs. -/
theorem refuses_or_present (reachable : table.Reachable) (target : MethodId) (receiver : Receiver)
    (site : CallSite) (arguments : List Value) :
    (∃ cause, table.Refuses target receiver site arguments cause) ∨
      ∃ entry, table.entry? target = some entry ∧ entry.method.Suits receiver site arguments := by
  cases found : table.find? target.className with
  | none => exact .inl ⟨_, .noClass found⟩
  | some definition =>
      cases present : table.entry? target with
      | none =>
          have unknown : definition.find? target.method = none := by
            rw [ClassTable.entry?, found] at present
            exact present
          exact .inl ⟨_, .noMethod found ((Named.find?_eq_none_iff Entry.name).mp unknown)⟩
      | some entry =>
          have orderly := Method.signatureFault?_eq_none_iff.mp (reachable.signature present)
          rcases refuses_or_suits present orderly receiver site arguments with refuses | suits
          · exact .inl refuses
          · exact .inr ⟨entry, rfl, suits⟩

end Same

end ClassTable

/-! ### What advice sees -/

namespace WovenMethod

/-- What handlers see of the parameters in a record of a call on these arguments. -/
structure Presents (woven : WovenMethod S) (passed : List Value) (record : List Moment) :
    Prop where
  /-- The parameters have the declared names, in the order of declaration. -/
  names {earlier later : List Moment} {seen : Parameters}
    (split : record = earlier ++ .reads seen :: later) :
    Parameters.names seen = woven.method.parameters.map Parameter.name
  /-- They are marked as passed by reference as they are declared. -/
  byReference {earlier later : List Moment} {seen : Parameters}
    (split : record = earlier ++ .reads seen :: later) :
    seen.map Slot.byReference = woven.method.parameters.map Parameter.byReference
  /-- Until something writes a parameter, it has the value that was passed for it. -/
  values {earlier later : List Moment} {seen : Parameters}
    (split : record = earlier ++ .reads seen :: later) {position : Nat} {parameter : Parameter}
    {value : Value} (here : woven.method.parameters[position]? = some parameter)
    (given : passed[position]? = some value)
    (untouched : ∀ moment ∈ earlier, ¬ moment.Writes parameter) :
    seen[position]? = some ⟨parameter.name, parameter.byReference, value⟩

/-- **Advice sees the declared parameters.** -/
theorem presents_of_complete {woven : WovenMethod S}
    (wellFormed : woven.method.signatureFault? = none) {passed : List Value}
    (complete : passed.length = woven.method.parameters.length) {receiver : Receiver}
    {record : List Moment}
    (shows : (woven.recorded.body receiver passed).Shows record) :
    woven.Presents passed record := by
  have faithful : Faithful passed (Parameters.ofCall woven.method.parameters passed) record :=
    (tracks_run woven.chain woven.original _ _).faithful (shows_run_of_shows_body shows)
  have sees {earlier later : List Moment} {seen : Parameters}
      (split : record = earlier ++ .reads seen :: later) :
      seen = woven.slotsAfter passed earlier := by
    subst split
    exact faithful.fits
  constructor
  case names =>
    intro earlier later seen split
    rw [sees split, slotsAfter, Parameters.names_after, Parameters.names_ofCall, complete,
      List.take_length]
  case byReference =>
    intro earlier later seen split
    rw [sees split, slotsAfter, Parameters.byReference_after, Parameters.byReference_ofCall,
      complete, List.take_length]
  case values =>
    intro earlier later seen split position parameter value here given untouched
    rw [sees split, getElem?_slotsAfter wellFormed here given,
      Parameter.valueAfter_of_forall_not_writes untouched]

end WovenMethod

/-! ### What a weaving leaves -/

namespace Weaver

variable {weaver : Weaver S} {host : Host S σ} {className : String} {world later : World S σ}
  {result : Except Refusal WeaveReport} {target : MethodId} {entry : Entry S}

/-- What a weaving leaves: the first methods of the class are woven, the others are as they were,
and so is every other class. -/
theorem entries_left (quiet : weaver.registry.Quiet host) (orderly : world.classes.WellFormed)
    (runs : weaver.weave host className world = some (result, later)) :
    world.classes.find? className = none ∧ later = world ∨
      ∃ definition done rest, world.classes.find? className = some definition ∧
        definition.entries = done ++ rest ∧
        later.classes =
          world.classes.setEntries className (done.map (weaver.wovenEntry className) ++ rest) := by
  cases found : world.classes.find? className with
  | none =>
      rw [(weave_of_absent found).1] at runs
      cases runs
      exact .inl ⟨rfl, rfl⟩
  | some definition =>
      obtain ⟨left, classes, weaves⟩ := weave_run quiet (orderly.of_find? found) found runs
      obtain ⟨done, rest, order, rfl, _⟩ := weaves.split
      exact .inr ⟨definition, done, rest, rfl, order, classes⟩

/-- A weaving leaves a table in good order. -/
theorem wellFormed_of_weave (quiet : weaver.registry.Quiet host)
    (orderly : world.classes.WellFormed)
    (runs : weaver.weave host className world = some (result, later)) :
    later.classes.WellFormed := by
  rcases entries_left quiet orderly runs with
    ⟨_, rfl⟩ | ⟨definition, done, rest, found, order, classes⟩
  · exact orderly
  · rw [classes]
    refine orderly.rework className (fun _ => rfl) fun former member => ?_
    cases found.symm.trans ((Named.lookup?_eq_some_iff_mem orderly.distinct).mpr member)
    exact wellFormed_left (orderly.of_find? found) order

/-- A weaving changes no declaration. -/
theorem sameMethods_of_weave (quiet : weaver.registry.Quiet host)
    (orderly : world.classes.WellFormed)
    (runs : weaver.weave host className world = some (result, later)) :
    world.classes.SameMethods later.classes := by
  intro other
  rcases entries_left quiet orderly runs with
    ⟨_, rfl⟩ | ⟨definition, done, rest, found, order, classes⟩
  · rfl
  · rw [classes]
    refine ClassTable.methods_setEntries found ?_ other
    rw [methods_left, order]

/-- A weaving leaves of a method its entry, or the woven one. -/
theorem entry_left (quiet : weaver.registry.Quiet host) (orderly : world.classes.WellFormed)
    (runs : weaver.weave host className world = some (result, later))
    (present : world.classes.entry? target = some entry) :
    later.classes.entry? target = some entry ∨
      target.className = className ∧
        later.classes.entry? target = some (weaver.wovenEntry className entry) := by
  obtain ⟨wanted, method⟩ := target
  rcases entries_left quiet orderly runs with
    ⟨_, rfl⟩ | ⟨definition, done, rest, found, order, classes⟩
  · exact .inl present
  · by_cases here : wanted = className
    · subst here
      obtain ⟨member, rfl⟩ := ClassTable.mem_of_entry? found present
      have distinct : ((done.map (weaver.wovenEntry wanted) ++ rest).map Entry.name).Nodup :=
        (wellFormed_left (orderly.of_find? found) order).distinct
      rw [classes]
      rw [order] at member
      rcases List.mem_append.mp member with woven | kept
      · have inside := List.mem_append_left rest
          (List.mem_map_of_mem (f := weaver.wovenEntry wanted) woven)
        have there := ClassTable.entry_of_mem_entries found distinct inside
        rw [wovenEntry_name] at there
        exact .inr ⟨rfl, there⟩
      · exact .inl (ClassTable.entry_of_mem_entries found distinct (List.mem_append_right _ kept))
    · have same : later.classes.find? wanted = world.classes.find? wanted := by
        rw [classes, ClassTable.find?_setEntries, if_neg here]
      exact .inl ((ClassTable.entry?_congr same method).trans present)

/-- A method that a weaving has given a woven body has its advice around the body it had. -/
theorem wraps_of_woven (quiet : weaver.registry.Quiet host) (orderly : world.classes.WellFormed)
    (runs : weaver.weave host className world = some (result, later))
    (present : world.classes.entry? target = some entry)
    (unwoven : world.classes.isWoven target = false)
    (woven : later.classes.isWoven target = true) :
    target.className = className ∧ weaver.wraps entry = true ∧
      later.classes.entry? target = some { entry with
        body := (weaver.wrapping className entry).body, woven := true, processed := true } := by
  have unmarked : entry.woven = false := by
    rw [ClassTable.isWoven, present] at unwoven
    exact unwoven
  rcases entry_left quiet orderly runs present with kept | ⟨here, there⟩
  · rw [ClassTable.isWoven, kept, Option.any_some, unmarked] at woven
    cases woven
  · rcases wovenEntry_cases weaver className entry with
      ⟨wraps, same⟩ | ⟨_, _, same⟩ | ⟨_, same⟩
    · rw [same] at there
      exact ⟨here, wraps, there⟩
    · rw [ClassTable.isWoven, there, same, Option.any_some, unmarked] at woven
      cases woven
    · rw [ClassTable.isWoven, there, same, Option.any_some, unmarked] at woven
      cases woven

/-- A weaving keeps the contract of every call. -/
structure KeepsContract (weaver : Weaver S) (className : String) (world later : World S σ)
    (result : Except Refusal WeaveReport) : Prop where
  /-- Every class has the same methods as before, in the same order and as they were declared. -/
  declarations (other : String) : later.classes.methods? other = world.classes.methods? other
  /-- A call is refused exactly if it was before, with the same refusal. -/
  refuses_iff (target : MethodId) (receiver : Receiver) (site : CallSite) (arguments : List Value)
    (cause : Refusal) :
    later.classes.Refuses target receiver site arguments cause ↔
      world.classes.Refuses target receiver site arguments cause
  /-- A call that is refused reaches no body and leaves its arguments as they were, before and
  after. -/
  refused {target : MethodId} {receiver : Receiver} {site : CallSite} {arguments : List Value}
    {cause : Refusal} (refuses : world.classes.Refuses target receiver site arguments cause) :
    world.classes.invoke target receiver site arguments =
        .done (.error (.refused cause), arguments) ∧
      later.classes.invoke target receiver site arguments =
        .done (.error (.refused cause), arguments)
  /-- Any other call is the body that its method had before, and the one that it has after, on the
  same receiver and arguments. -/
  reaches {target : MethodId} {receiver : Receiver} {site : CallSite} {arguments : List Value}
    (passes : ∀ cause, ¬ world.classes.Refuses target receiver site arguments cause) :
    ∃ entry now accepted bound, world.classes.entry? target = some entry ∧
      later.classes.entry? target = some now ∧ now.method = entry.method ∧
      entry.Admits target.className receiver site arguments accepted bound ∧
      world.classes.invoke target receiver site arguments = entry.body accepted bound ∧
      later.classes.invoke target receiver site arguments = now.body accepted bound
  /-- In the body of a method that the weaving has wrapped, advice sees the parameters as they are
  declared, and what was bound to them until something is written. -/
  presents {target : MethodId} {entry now : Entry S}
    (present : world.classes.entry? target = some entry)
    (there : later.classes.entry? target = some now)
    (unwoven : world.classes.isWoven target = false)
    (woven : later.classes.isWoven target = true) {receiver accepted : Receiver} {site : CallSite}
    {arguments bound : List Value}
    (admits : entry.Admits target.className receiver site arguments accepted bound) :
    now.body accepted bound =
        ((weaver.wrapping className entry).recorded.body accepted bound).forget ∧
      ∀ record, ((weaver.wrapping className entry).recorded.body accepted bound).Shows record →
        (weaver.wrapping className entry).Presents bound record
  /-- Which methods a weaving has wrapped it reports, if it succeeds. -/
  wrapped {told : WeaveReport} (succeeds : result = .ok told) (target : MethodId) :
    target.className = className ∧ target.method ∈ told.wrapped ↔
      world.classes.isWoven target = false ∧ later.classes.isWoven target = true

/-- The methods that are reported as wrapped are those that have got a woven body. -/
theorem mem_wrapped_iff_isWoven (quiet : weaver.registry.Quiet host)
    (orderly : world.classes.WellFormed) {told : WeaveReport}
    (runs : weaver.weave host className world = some (.ok told, later)) (target : MethodId) :
    target.className = className ∧ target.method ∈ told.wrapped ↔
      world.classes.isWoven target = false ∧ later.classes.isWoven target = true := by
  constructor
  · obtain ⟨wanted, method⟩ := target
    rintro ⟨rfl, member⟩
    obtain ⟨definition, found, _, rfl, _⟩ := weave_ok quiet orderly runs
    have listed := member
    rw [foldl_reported] at listed
    obtain ⟨entry, inside, rfl⟩ := List.mem_map.mp listed
    obtain ⟨inClass, wraps⟩ := List.mem_filter.mp inside
    have good := orderly.of_find? found
    have present := ClassTable.entry?_of_mem found good.distinct inClass
    have there := entry_of_weave quiet orderly runs entry.name
    rw [present, Option.map_some, wovenEntry, if_pos wraps] at there
    have unmarked : entry.woven = false := by
      rw [Weaver.wraps, Bool.and_eq_true] at wraps
      have unprocessed := not_processed_of_isDue wraps.1
      refine Bool.eq_false_iff.mpr fun marked => ?_
      rw [good.marks entry inClass marked] at unprocessed
      cases unprocessed
    rw [ClassTable.isWoven, ClassTable.isWoven, present, there]
    exact ⟨unmarked, rfl⟩
  · rintro ⟨unwoven, woven⟩
    obtain ⟨now, there⟩ : ∃ now, later.classes.entry? target = some now := by
      cases there : later.classes.entry? target with
      | none =>
          rw [ClassTable.isWoven, there] at woven
          cases woven
      | some now => exact ⟨now, rfl⟩
    obtain ⟨entry, present, _⟩ := (sameMethods_of_weave quiet orderly runs).symm.entry? there
    obtain ⟨rfl, wraps, _⟩ := wraps_of_woven quiet orderly runs present unwoven woven
    have named : entry.name = target.method := ClassTable.name_of_entry? present
    rw [← named]
    refine ⟨rfl, (mem_wrapped_iff quiet orderly runs ?_).mpr wraps⟩
    rw [named]
    exact present

/-- **A weaving keeps the contract of every call**, whether it succeeds or fails. -/
theorem weave_keeps_contract (reachable : world.classes.Reachable)
    (quiet : weaver.registry.Quiet host)
    (runs : weaver.weave host className world = some (result, later)) :
    weaver.KeepsContract className world later result := by
  have orderly := reachable.wellFormed
  have same := sameMethods_of_weave quiet orderly runs
  constructor
  case declarations => exact same
  case refuses_iff =>
    intro target receiver site arguments cause
    exact ⟨same.symm.refuses, same.refuses⟩
  case refused =>
    intro target receiver site arguments cause refuses
    exact ⟨ClassTable.invoke_of_refuses refuses,
      ClassTable.invoke_of_refuses (same.refuses refuses)⟩
  case reaches =>
    intro target receiver site arguments passes
    rcases ClassTable.refuses_or_present reachable target receiver site arguments with
      ⟨cause, refuses⟩ | ⟨entry, present, suits⟩
    · exact absurd refuses (passes cause)
    · obtain ⟨now, there, declared⟩ := same.entry? present
      obtain ⟨filled, admits, _⟩ := ClassTable.admits_of_suits target.className suits
      exact ⟨entry, now, _, _, present, there, declared, admits,
        ClassTable.invoke_eq_of_admits present admits,
        ClassTable.invoke_eq_of_admits there (admits.congr declared)⟩
  case presents =>
    intro target entry now present there unwoven woven receiver accepted site arguments bound admits
    obtain ⟨_, _, replaced⟩ := wraps_of_woven quiet orderly runs present unwoven woven
    cases there.symm.trans replaced
    refine ⟨(WovenMethod.forget_body _ accepted bound).symm, fun record shows => ?_⟩
    exact WovenMethod.presents_of_complete (reachable.signature present) admits.length shows
  case wrapped =>
    rintro told rfl target
    exact mem_wrapped_iff_isWoven quiet orderly runs target

/-! ### A method whose parameters are looked at -/

/-- A registry with a function that looks at the parameters of a call. -/
def looking : Registry Interface.idle where
  functions := [⟨"look", .before fun _ _ => Advising.parameters.bind fun _ => .done (.ok ())⟩]

/-- A method of which the second parameter has a default and is passed by reference. -/
def looked : Entry Interface.idle where
  method :=
    { name := "add", isStatic := true, documentation := some "@before look"
      parameters :=
        [{ name := "a" }, { name := "b", default := some (.int 10), byReference := true }] }
  body := fun _ arguments => .done (.ok .null, arguments)

/-- A call without arguments is refused after the weaving too, and the handler of one with a single
argument sees both parameters. -/
theorem weave_keeps_contract_looked :
    (jobs [looked]).classes.Reachable ∧ looking.Quiet (.idle : Host Interface.idle Unit) ∧
    ∃ (told : WeaveReport) (later : World Interface.idle Unit),
      Weaver.weave ⟨looking, .skip⟩ .idle "Job" (jobs [looked]) = some (.ok told, later) ∧
      KeepsContract ⟨looking, .skip⟩ "Job" (jobs [looked]) later (.ok told) ∧
      later.classes.isWoven ⟨"Job", "add"⟩ = true ∧
      later.classes.invoke ⟨"Job", "add"⟩ .static .external [] =
        .done (.error (.refused (.missingArgument ⟨"Job", "add"⟩ "a")), []) ∧
      ∃ earlier,
        ((wrapping ⟨looking, .skip⟩ "Job" looked).recorded.body .static [.int 1, .int 10]).Shows
          (earlier ++ [.reads [⟨"a", false, .int 1⟩, ⟨"b", true, .int 10⟩]]) := by
  have reachable : (jobs [looked]).classes.Reachable := jobs_reachable (by decide) rfl
  have quiet : looking.Quiet (.idle : Host Interface.idle Unit) := by
    intro handle member
    simp [looking, Registry.handlers] at member
  obtain ⟨told, later, runs, wrapped⟩ := wrapped?_eq_some_iff.mp
    (show wrapped? ⟨looking, .skip⟩ .idle "Job" (jobs [looked]) = some ["add"] by decide +kernel)
  have keeps := weave_keeps_contract reachable quiet runs
  have first : looked.method.parameters[([] : List Value).length]? = some { name := "a" } := rfl
  have missing : (jobs [looked]).classes.Refuses ⟨"Job", "add"⟩ .static .external []
      (.missingArgument ⟨"Job", "add"⟩ "a") :=
    .missing rfl rfl (.inl rfl) first rfl
  refine ⟨reachable, quiet, told, later, runs, keeps, ?_, (keeps.refused missing).2, ?_⟩
  · exact ((keeps.wrapped rfl ⟨"Job", "add"⟩).mp ⟨rfl, by simp [wrapped]⟩).2
  · exact ⟨[.beforeBegins 0 ⟨⟨"Job", "add"⟩, .static⟩ []], _,
      .ask () (.ask () (.ask () (.start _))), rfl⟩

end Weaver

end AspectWeaver
