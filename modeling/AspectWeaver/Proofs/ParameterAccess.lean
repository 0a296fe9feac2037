/-
**What programs of reads, writes and updates do to the parameters of a call.**

A program may update a parameter by a program of its own, which gets the value that the parameter
has when the update begins, and reads, writes and updates parameters in turn, the same one among
them. What is made of the value is stored when that program is over. So all that counts for a
parameter is what was stored last: a write to it from inside an update of it is lost, one to another
parameter is kept.

* `Access` — programs of looks, writes and updates, nested in any way; `Access.program` makes such a
  program of a handler's requests.
* `Access.history` — what a program does, in order, and its result, where a look shows and an update
  begins with the values that were **stored last** (`Parameters.held`).
* `Parameters.holding` — the parameters of a call with the values that were stored last.
* `holding_store` — to store a value under a name is to write the parameter of that name.
* `Answers.program` — **a program does what its history says**, by induction on the program.
* `lawful_history` — every step of a history fits the steps before it.
* `ActsAsMap` — the laws of a map under programs of this kind; `Shows` — what can be seen of it.
* **`mapOfCall`** — **the parameters of a call are a map** from the names that are declared, under
  every program.
-/

import AspectWeaver.Advice
import AspectWeaver.Proofs.History

namespace AspectWeaver

variable {S I : Interface}

/-! ### Programs on parameters -/

/-- A program that looks at parameters, writes and updates them. -/
inductive Access where
  | done (result : Value)
  | look (resume : Parameters → Access)
  /-- Writes a parameter; the reply tells whether there is one of this name. -/
  | set (name : String) (value : Value) (resume : Bool → Access)
  /-- Updates a parameter by a program that gets its present value; the reply tells whether there is
  one of this name. -/
  | update (name : String) (change : Value → Access) (resume : Bool → Access)

namespace Access

/-- Reads a parameter. -/
def get (name : String) (resume : Option Value → Access) : Access :=
  .look fun params => resume (params.get name)

/-- The program as requests, where `read` reads all parameters and `write` writes one. -/
def program (read : Program I Parameters) (write : String → Value → Program I Bool) :
    Access → Program I Value
  | .done result => .done result
  | .look resume => read.bind fun params => (resume params).program read write
  | .set name value resume => (write name value).bind fun known => (resume known).program read write
  | .update name change resume =>
      (Program.updateParameter read write name fun value => (change value).program read write).bind
        fun known => (resume known).program read write

/-- What a program does to parameters, in order. -/
inductive Step where
  | sees (params : Parameters)
  | sets (name : String) (value : Value) (known : Bool)
  /-- An update that does not begin. -/
  | misses (name : String)
  /-- An update begins with this value. -/
  | begins (name : String) (value : Value)
  /-- An update ends by storing what was made of the value. -/
  | ends (name : String) (made : Value)

/-- What a step stores under a name, if it does. -/
def Step.stored? (wanted : String) : Step → Option Value
  | .sets name value known => if known = true ∧ wanted = name then some value else none
  | .ends name made => if wanted = name then some made else none
  | .sees _ | .misses _ | .begins _ _ => none

/-- What was stored last under a name, if anything was. -/
def lastStored? (past : List Step) (name : String) : Option Value :=
  (past.filterMap (Step.stored? name)).getLast?

end Access

open Access (Step lastStored?)

namespace Parameters

/-- The value of a parameter after these steps: what was stored last, or what was there. -/
def held (start : Parameters) (past : List Step) (name : String) : Option Value :=
  (start.get name).map fun first => (lastStored? past name).getD first

/-- The parameters with the values that were stored last. -/
def holding (start : Parameters) (past : List Step) : Parameters :=
  start.map fun slot => slot.write ((lastStored? past slot.name).getD slot.value)

end Parameters

/-- The result of a program, and what it has done after what was done before. -/
def Access.history (start : Parameters) : Access → List Step → Value × List Step
  | .done result, past => (result, past)
  | .look resume, past =>
      (resume (start.holding past)).history start (past ++ [.sees (start.holding past)])
  | .set name value resume, past =>
      let known := decide (name ∈ Parameters.names start)
      (resume known).history start (past ++ [.sets name value known])
  | .update name change resume, past =>
      match start.held past name with
      | none => (resume false).history start (past ++ [.misses name])
      | some value =>
          let inner := (change value).history start (past ++ [.begins name value])
          (resume true).history start (inner.2 ++ [.ends name inner.1])

/-! ### What was stored last -/

namespace Parameters

variable {start : Parameters} {past : List Step} {step : Step} {name : String}

theorem lastStored?_append_one (past : List Step) (step : Step) (name : String) :
    lastStored? (past ++ [step]) name = (step.stored? name).or (lastStored? past name) := by
  rw [lastStored?, List.filterMap_append, List.getLast?_append]
  cases stored : step.stored? name <;> simp [stored, lastStored?]

/-- What a step stores is held from then on, and what it does not store is held as before. -/
theorem held_append_one (start : Parameters) (past : List Step) (step : Step) (name : String) :
    start.held (past ++ [step]) name =
      (start.held past name).map fun before => (step.stored? name).getD before := by
  rw [held, held, lastStored?_append_one, Option.map_map]
  congr 1
  funext first
  cases step.stored? name <;> rfl

/-- Where a step stores nothing, what is held stays. -/
theorem held_quiet (quiet : step.stored? name = none) (past : List Step) :
    start.held (past ++ [step]) name = start.held past name := by
  rw [held_append_one, quiet]
  exact Option.map_id'

/-- There is a value exactly under the names of parameters. -/
theorem held_isSome_iff (start : Parameters) (past : List Step) (name : String) :
    (start.held past name).isSome = true ↔ name ∈ names start := by
  rw [held, Option.isSome_map, get, Option.isSome_map, ← Option.ne_none_iff_isSome, ne_eq, find?,
    Named.find?_eq_none_iff, Decidable.not_not]
  rfl

/-- Where there is no parameter, nothing is held. -/
theorem held_eq_none_iff : start.held past name = none ↔ name ∉ names start := by
  rw [← held_isSome_iff start past]
  cases start.held past name <;> simp

/-- What a step stores under the name of a parameter is held. -/
theorem held_store (declared : name ∈ names start) {value : Value}
    (stores : step.stored? name = some value) (past : List Step) :
    start.held (past ++ [step]) name = some value := by
  obtain ⟨before, present⟩ :=
    Option.isSome_iff_exists.mp ((held_isSome_iff start past name).mpr declared)
  rw [held_append_one, stores, present]
  rfl

/-! ### The parameters with these values -/

theorem find?_holding (start : Parameters) (past : List Step) (name : String) :
    (start.holding past).find? name =
      (start.find? name).map fun slot =>
        slot.write ((lastStored? past slot.name).getD slot.value) := by
  refine Named.find?_map Slot.name (fun slot => ?_) name start
  rfl

/-- Every name is read as what was stored last. -/
theorem get_holding (start : Parameters) (past : List Step) (name : String) :
    (start.holding past).get name = start.held past name := by
  rw [get, find?_holding, held, get, Option.map_map, Option.map_map]
  cases found : start.find? name with
  | none => rfl
  | some slot =>
      have named : slot.name = name := Named.key_of_find? Slot.name found
      rw [Option.map_some, Option.map_some, ← named]
      rfl

@[simp] theorem names_holding (start : Parameters) (past : List Step) :
    names (start.holding past) = names start := by
  rw [names, names, holding, List.map_map]
  rfl

theorem contains_holding (start : Parameters) (past : List Step) (name : String) :
    (start.holding past).contains name = decide (name ∈ names start) := by
  rw [Bool.eq_iff_iff, decide_eq_true_eq, ← held_isSome_iff start past, ← get_holding, get,
    Option.isSome_map]
  rfl

/-- Before anything is done the parameters are as they are. -/
theorem holding_nil (start : Parameters) : start.holding [] = start := by
  rw [holding]
  exact List.map_id' start

/-- A step that stores nothing leaves the parameters as they are. -/
theorem holding_quiet (quiet : ∀ name, step.stored? name = none) (start : Parameters)
    (past : List Step) : start.holding (past ++ [step]) = start.holding past := by
  simp only [holding, lastStored?_append_one, quiet, Option.none_or]

/-- **To store a value under a name is to write the parameter of that name.** -/
theorem holding_store (distinct : (names start).Nodup) {value : Value}
    (stores : ∀ other ∈ names start, step.stored? other = if other = name then some value else none)
    (past : List Step) : (start.holding past).set name value = start.holding (past ++ [step]) := by
  have again : (names (start.holding past)).Nodup := by
    rw [names_holding]
    exact distinct
  rw [set, Named.update_eq_map Slot.name again, holding, holding, List.map_map]
  refine List.map_congr_left fun slot inside => ?_
  rw [lastStored?_append_one, stores slot.name (List.mem_map_of_mem inside)]
  by_cases here : slot.name = name
  · rw [if_pos here]
    exact if_pos here
  · rw [if_neg here]
    exact if_neg here

end Parameters

/-! ### What a program does -/

/-- A way to run programs on the parameters of a call, where `read` reads all parameters, `write`
writes one, and the parts of a program run one after the other. -/
structure Answers (read : Program I Parameters) (write : String → Value → Program I Bool)
    (layer : {α : Type} → Program I α → Layer S α) : Prop where
  done {α : Type} (result : α) (params : Parameters) :
    layer (.done result) params = .done (result, params)
  bind {α β : Type} (program : Program I α) (next : α → Program I β) (params : Parameters) :
    layer (program.bind next) params =
      (layer program params).bind fun ended => layer (next ended.1) ended.2
  read (params : Parameters) : layer read params = .done (params, params)
  write (name : String) (value : Value) (params : Parameters) :
    layer (write name value) params = .done (params.contains name, params.set name value)

/-- Before and after handlers are run so. -/
theorem answers_withParameters :
    Answers (S := S) Advising.parameters Advising.write Program.withParameters :=
  ⟨fun _ _ => rfl, Program.withParameters_bind, fun _ => rfl, fun _ _ _ => rfl⟩

/-- Around handlers are run so, whatever they are wrapped around. -/
theorem answers_withProceed (inner : Layer S Outcome) :
    Answers (S := S) (Surrounding.advice .read)
      (fun name value => Surrounding.advice (.write name value)) (Program.withProceed inner) :=
  ⟨fun _ _ => rfl, Program.withProceed_bind inner, fun _ => rfl, fun _ _ _ => rfl⟩

section Answers

variable {read : Program I Parameters} {write : String → Value → Program I Bool}
  {layer : {α : Type} → Program I α → Layer S α} {start : Parameters}

/-- An update gets a copy of the value and stores what is made of it. -/
theorem Answers.updateParameter (answers : Answers read write layer) (name : String)
    (change : Value → Program I Value) (params : Parameters) :
    layer (Program.updateParameter read write name change) params =
      match params.get name with
      | none => .done (false, params)
      | some value =>
          (layer (change value) params).bind fun ended =>
            .done (ended.2.contains name, ended.2.set name ended.1) := by
  rw [Program.updateParameter, Program.bind_eq, answers.bind, answers.read, Program.done_bind]
  cases present : params.get name with
  | none => exact answers.done false params
  | some value =>
      refine (answers.bind (change value) (write name) params).trans ?_
      simp only [answers.write]

/-- **A program does what its history says**, and leaves the parameters with what was stored
last. -/
theorem Answers.program (answers : Answers read write layer)
    (distinct : (Parameters.names start).Nodup) (access : Access) (past : List Step) :
    layer (access.program read write) (start.holding past) =
      .done ((access.history start past).1, start.holding (access.history start past).2) := by
  induction access generalizing past with
  | done result => exact answers.done result _
  | look resume ih =>
      rw [Access.program, answers.bind, answers.read, Program.done_bind, Access.history, ← ih,
        Parameters.holding_quiet fun _ => rfl]
  | set name value resume ih =>
      rw [Access.program, answers.bind, answers.write, Program.done_bind, Access.history,
        Parameters.contains_holding, ← ih]
      have stores : ∀ other ∈ Parameters.names start,
          (Step.sets name value (decide (name ∈ Parameters.names start))).stored? other =
            if other = name then some value else none := by
        intro other declared
        by_cases same : other = name
        · subst same
          simp [Step.stored?, declared]
        · simp [Step.stored?, same]
      rw [Parameters.holding_store distinct stores]
  | update name change resume within ih =>
      rw [Access.program, answers.bind, answers.updateParameter, Parameters.get_holding,
        Access.history]
      cases here : start.held past name with
      | none =>
          dsimp only
          rw [Program.done_bind, ← ih, Parameters.holding_quiet fun _ => rfl]
      | some value =>
          have inner := within value (past ++ [.begins name value])
          rw [Parameters.holding_quiet fun _ => rfl] at inner
          have declared : name ∈ Parameters.names start :=
            (Parameters.held_isSome_iff start past name).mp (Option.isSome_of_eq_some here)
          have stores (made : Value) : ∀ other ∈ Parameters.names start,
              (Step.ends name made).stored? other = if other = name then some made else none :=
            fun _ _ => rfl
          dsimp only
          rw [inner, Program.done_bind, Program.done_bind, ← ih, Parameters.contains_holding,
            decide_eq_true declared, Parameters.holding_store distinct (stores _)]

end Answers

/-! ### The laws of a map -/

namespace Parameters

/-- What can be seen of the parameters of a call after these steps: the values that were stored
last, and nothing else has changed. -/
structure Shows (start : Parameters) (past : List Step) (params : Parameters) : Prop where
  names : names params = names start
  modes : params.map Slot.byReference = start.map Slot.byReference
  length : params.length = start.length
  get (name : String) : params.get name = start.held past name
  contains (name : String) : params.contains name = true ↔ name ∈ Parameters.names start
  isByReference (name : String) : params.isByReference name = start.isByReference name
  /-- The snapshot has the names, each of them once, and the values that are read under them. -/
  snapshot : ∃ fields, params.snapshot = .record fields ∧
    (fields.map Prod.fst).Perm (Parameters.names start) ∧
    ∀ name, Value.find? name fields = params.get name

/-- Under a name a list of pairs has what stands for the name. -/
theorem find?_map_pair (params : Parameters) (name : String) :
    Value.find? name (params.map fun slot => (slot.name, slot.value)) = params.get name := by
  induction params with
  | nil => rfl
  | cons slot rest ih =>
      rw [List.map_cons, Value.find?, ih, get, get, find?, find?, Named.find?]
      by_cases here : slot.name = name
      · rw [if_pos here.symm, if_pos here]
        rfl
      · rw [if_neg (Ne.symm here), if_neg here]

/-- The parameters with the values that were stored last show them. -/
theorem shows_holding {start : Parameters} (distinct : (names start).Nodup) (past : List Step) :
    start.Shows past (start.holding past) where
  names := names_holding start past
  modes := by
    rw [holding, List.map_map]
    rfl
  length := List.length_map _
  get := get_holding start past
  contains name := by rw [contains_holding, decide_eq_true_eq]
  isByReference name := by
    rw [isByReference, isByReference, find?_holding]
    cases start.find? name <;> rfl
  snapshot := by
    have pairs : ((start.holding past).map fun slot => (slot.name, slot.value)).map Prod.fst =
        Parameters.names start := by
      rw [List.map_map, ← names_holding start past]
      rfl
    have different := pairs.symm ▸ distinct
    refine ⟨_, rfl, ?_, fun name => ?_⟩
    · exact pairs ▸ Value.map_fst_fieldsOf_perm different
    · rw [Value.find?_fieldsOf different, find?_map_pair]

/-- The step fits the steps before it. -/
def Fits (start : Parameters) (past : List Step) : Step → Prop
  | .sees params => start.Shows past params
  | .sets name _ known => known = true ↔ name ∈ names start
  | .misses name => name ∉ names start
  | .begins name value => start.held past name = some value
  | .ends name _ => name ∈ names start

/-- Every step fits those before it. -/
def Lawful (start : Parameters) (history : List Step) : Prop :=
  ∀ past step later, history = past ++ step :: later → start.Fits past step

theorem lawful_nil (start : Parameters) : start.Lawful [] := by
  intro past step later whole
  simp at whole

theorem Lawful.append_one {start : Parameters} {past : List Step} {step : Step}
    (lawful : start.Lawful past) (fits : start.Fits past step) : start.Lawful (past ++ [step]) := by
  intro before other later whole
  rcases List.eq_nil_or_concat later with rfl | ⟨between, last, rfl⟩
  · obtain ⟨rfl, same⟩ := List.append_inj' whole rfl
    cases same
    exact fits
  · rw [List.concat_eq_append, ← List.cons_append, ← List.append_assoc] at whole
    exact lawful before other between (List.append_inj' whole rfl).1

/-- **Every step of a history fits those before it.** -/
theorem lawful_history {start : Parameters} (distinct : (names start).Nodup) (access : Access)
    {past : List Step} (lawful : start.Lawful past) :
    start.Lawful (access.history start past).2 := by
  induction access generalizing past with
  | done result => exact lawful
  | look resume ih => exact ih _ (lawful.append_one (shows_holding distinct past))
  | set name value resume ih => exact ih _ (lawful.append_one decide_eq_true_iff)
  | update name change resume within ih =>
      rw [Access.history]
      cases here : start.held past name with
      | none => exact ih false (lawful.append_one (held_eq_none_iff.mp here))
      | some value =>
          have begins : start.Fits past (.begins name value) := here
          have ends : name ∈ names start :=
            (held_isSome_iff start past name).mp (Option.isSome_of_eq_some here)
          exact ih true ((within value (lawful.append_one begins)).append_one ends)

/-- A write stores its value under its name, if there is a parameter of the name, and changes
nothing else. -/
theorem held_sets (start : Parameters) (past : List Step) (name : String) (value : Value)
    (wanted : String) :
    start.held (past ++ [.sets name value (decide (name ∈ names start))]) wanted =
      if wanted = name ∧ name ∈ names start then some value else start.held past wanted := by
  by_cases same : wanted = name ∧ name ∈ names start
  · obtain ⟨rfl, declared⟩ := same
    rw [if_pos ⟨rfl, declared⟩]
    refine held_store declared ?_ past
    exact if_pos ⟨decide_eq_true declared, rfl⟩
  · rw [if_neg same]
    refine held_quiet ?_ past
    exact if_neg fun both => same ⟨both.2, of_decide_eq_true both.1⟩

/-- What an update ends with is stored under its name, and changes nothing else. -/
theorem held_ends {name : String} (declared : name ∈ names start) (past : List Step) (made : Value)
    (wanted : String) :
    start.held (past ++ [.ends name made]) wanted =
      if wanted = name then some made else start.held past wanted := by
  by_cases same : wanted = name
  · subst same
    rw [if_pos rfl]
    refine held_store declared ?_ past
    exact if_pos rfl
  · rw [if_neg same]
    refine held_quiet ?_ past
    exact if_neg same

/-- What programs do to parameters is what they do to a map from the names: a name has the value
that was stored last under it. -/
structure ActsAsMap (S : Interface) (start : Parameters) : Prop where
  /-- A before or after handler ends with the result of its history, and leaves the values that were
  stored last. -/
  advising (access : Access) :
    Program.withParameters (S := S) (access.program Advising.parameters Advising.write) start =
      .done ((access.history start []).1, start.holding (access.history start []).2)
  /-- And so does an around handler, whatever it is wrapped around. -/
  surrounding (access : Access) (inner : Layer S Outcome) :
    (access.program (Surrounding.advice .read)
        fun name value => Surrounding.advice (.write name value)).withProceed inner start =
      .done ((access.history start []).1, start.holding (access.history start []).2)
  /-- Looks show what was stored last, and replies tell whether a name is declared. -/
  lawful (access : Access) : start.Lawful (access.history start []).2
  shown (past : List Step) : start.Shows past (start.holding past)
  /-- There is a value just under the names that are declared. -/
  defined (past : List Step) (name : String) :
    (start.held past name).isSome = true ↔ name ∈ Parameters.names start
  /-- Before anything is stored there are the arguments of the call. -/
  first (name : String) : start.held [] name = start.get name
  /-- To look changes nothing, nor does an update that begins or one that does not. -/
  unchanged (past : List Step) {step : Step} (quiet : ∀ wanted, step.stored? wanted = none)
    (wanted : String) : start.held (past ++ [step]) wanted = start.held past wanted
  /-- A write changes what is held under its name, if this is declared, and nothing else. -/
  written (past : List Step) (name : String) (value : Value) (wanted : String) :
    start.held (past ++ [.sets name value (decide (name ∈ Parameters.names start))]) wanted =
      if wanted = name ∧ name ∈ Parameters.names start then some value
      else start.held past wanted
  /-- An update of a name that is not declared does not begin. -/
  missed (past : List Step) {name : String} (undeclared : name ∉ Parameters.names start)
    (change : Value → Access) (resume : Bool → Access) :
    (Access.update name change resume).history start past =
      (resume false).history start (past ++ [.misses name])
  /-- Any other update ends with what was made of the value that the parameter had when it began.
  What was stored meanwhile under this name is lost, and what was stored under other names stays. -/
  updated (past : List Step) {name : String} {value : Value}
    (begins : start.held past name = some value) (change : Value → Access)
    (resume : Bool → Access) :
    let inner := (change value).history start (past ++ [.begins name value])
    (Access.update name change resume).history start past =
        (resume true).history start (inner.2 ++ [.ends name inner.1]) ∧
      ∀ wanted, start.held (inner.2 ++ [.ends name inner.1]) wanted =
        if wanted = name then some inner.1 else start.held inner.2 wanted

/-- Parameters of different names act as a map. -/
theorem actsAsMap (S : Interface) {start : Parameters} (distinct : (names start).Nodup) :
    start.ActsAsMap S where
  advising access := by
    have does := answers_withParameters.program (S := S) distinct access []
    rwa [holding_nil] at does
  surrounding access inner := by
    have does := (answers_withProceed inner).program distinct access []
    rwa [holding_nil] at does
  lawful access := lawful_history distinct access (lawful_nil start)
  shown := shows_holding distinct
  defined := held_isSome_iff start
  first name := by
    rw [held]
    exact Option.map_id'
  unchanged past step quiet wanted := held_quiet (quiet wanted) past
  written := held_sets start
  missed past name undeclared change resume := by
    rw [Access.history, held_eq_none_iff.mpr undeclared]
  updated past name value begins change resume := by
    refine ⟨?_, held_ends ?_ _ _⟩
    · rw [Access.history, begins]
    · exact (held_isSome_iff start past name).mp (Option.isSome_of_eq_some begins)

/-- Where names differ, every argument is first read under the name of its parameter. -/
theorem get_ofCall {declared : List Parameter} {passed : List Value}
    (distinct : (names (ofCall declared passed)).Nodup) {position : Nat} {parameter : Parameter}
    {value : Value} (here : declared[position]? = some parameter)
    (given : passed[position]? = some value) :
    (ofCall declared passed).get parameter.name = some value := by
  have slot := List.mem_of_getElem? (getElem?_ofCall here given)
  have found : (ofCall declared passed).find? parameter.name = _ :=
    Named.find?_of_mem Slot.name distinct slot
  rw [get, found]
  rfl

/-- What a call makes of its arguments: a map from the names of the parameters that are declared, as
far as there are arguments. -/
structure MapOfCall (S : Interface) (declared : List Parameter) (passed : List Value) : Prop where
  names : names (ofCall declared passed) = (declared.take passed.length).map Parameter.name
  modes : (ofCall declared passed).map Slot.byReference =
    (declared.take passed.length).map Parameter.byReference
  values {position : Nat} {parameter : Parameter} {value : Value}
    (here : declared[position]? = some parameter) (given : passed[position]? = some value) :
    (ofCall declared passed).get parameter.name = some value
  acts : (ofCall declared passed).ActsAsMap S

/-- **The parameters of a call are a map from the names that are declared**, under every program of
looks, writes and updates. -/
theorem mapOfCall (S : Interface) {declared : List Parameter}
    (distinct : (declared.map Parameter.name).Nodup) (passed : List Value) :
    MapOfCall S declared passed := by
  have different : (Parameters.names (ofCall declared passed)).Nodup := by
    rw [names_ofCall, List.map_take]
    exact distinct.sublist (List.take_sublist _ _)
  exact ⟨names_ofCall declared passed, byReference_ofCall declared passed, get_ofCall different,
    actsAsMap S different⟩

/-- A total, which is passed by reference, and a factor. -/
def sums : List Parameter := [{ name := "total", byReference := true }, { name := "factor" }]

/-- Updates the total by a program that updates the total itself, writes both parameters, and then
makes its product of what it was given and the factor it reads. -/
def nested : Access :=
  .update "total" (fun given =>
    .update "total" (fun inside => .done (.int (inside.toInt + 1))) fun _ =>
      .set "total" (.int 99) fun _ => .set "factor" (.int 7) fun _ =>
        .get "factor" fun factor =>
          .done (.int (given.toInt * (factor.getD .null).toInt)))
    fun known => .done (.bool known)

/-- The inner writes to the total are lost, the one to the factor is kept. -/
theorem mapOfCall_sums :
    MapOfCall Interface.idle sums [.int 2, .int 5] ∧
      Program.withParameters (S := Interface.idle)
          (nested.program Advising.parameters Advising.write) (ofCall sums [.int 2, .int 5]) =
        .done (.bool true, [⟨"total", true, .int 14⟩, ⟨"factor", false, .int 7⟩]) := by
  have map := mapOfCall Interface.idle (show (sums.map Parameter.name).Nodup by decide)
    [.int 2, .int 5]
  exact ⟨map, (map.acts.advising nested).trans rfl⟩

end Parameters

end AspectWeaver
