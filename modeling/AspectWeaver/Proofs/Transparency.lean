/-
**Transparent advice: a woven method that does what its body does.**

A frame is what stands around a program: what is done before it, and what is done after it with its
result at hand. A frame cannot see the program, and a filled frame runs it once. Advice is
transparent if it writes no parameter, lets the call go on, and passes every result on as it is.

* `surround_of_relays` — **around handlers that relay are a frame** around what they surround.
* `Chain.transparent_of_standard` — logging and timing are transparent.
* **`body_of_transparent`** — **transparent advice preserves meaning**: the woven body is the
  original one in a frame, with the arguments that a caller would see.
-/

import AspectWeaver.Advice.Standard
import AspectWeaver.Proofs.History
import AspectWeaver.Woven

namespace AspectWeaver

variable {S : Interface} {α β : Type}

/-! ### Programs with one result -/

namespace Program

variable {I : Interface}

/-- What follows a program matters only for the results it can end with. -/
theorem bind_congr_of_ends {program : Program I α} {next other : α → Program I β}
    (same : ∀ history result, program.Ends history result → next result = other result) :
    program.bind next = program.bind other := by
  induction program with
  | done result => exact same [] result (.done result)
  | ask request resume ih =>
      refine congrArg (ask request) (funext fun reply => ih reply fun history result ends => ?_)
      exact same _ result (.ask reply ends)

/-- However its requests are answered, the program ends with this result. -/
def Only (result : α) (program : Program I α) : Prop :=
  ∀ history ended, program.Ends history ended → ended = result

/-- The program without its result. -/
def silenced (program : Program I α) : Program I Unit := program.bind fun _ => .done ()

/-- A program with one result is what it does, and then the result. -/
theorem Only.eq_silenced {result : α} {program : Program I α} (only : program.Only result) :
    program = program.silenced.bind fun _ => .done result := by
  rw [silenced, bind_assoc]
  calc program = program.bind done := (bind_done program).symm
    _ = program.bind fun _ => .done result := by
      refine bind_congr_of_ends fun history ended ends => ?_
      rw [only history ended ends]

theorem only_done (result : α) : (done result : Program I α).Only result :=
  fun _ _ ends => (ends_done_iff.mp ends).2

theorem only_ask {result : α} {request : I.Request} {resume : I.Reply request → Program I α}
    (rest : ∀ reply, (resume reply).Only result) : (ask request resume).Only result := by
  intro history ended ends
  obtain ⟨reply, later, rfl, ended_later⟩ := ends_ask_iff.mp ends
  exact rest reply later ended ended_later

theorem only_bind {middle : α} {result : β} {program : Program I α} {next : α → Program I β}
    (first : program.Only middle) (second : (next middle).Only result) :
    (program.bind next).Only result := by
  intro history ended ends
  obtain ⟨earlier, later, passed, rfl, begun, rest⟩ := ends_bind_iff.mp ends
  rw [first earlier passed begun] at rest
  exact second later ended rest

end Program

/-! ### Frames -/

/-- What stands around a program that ends with an `α`. -/
abbrev Frame (S : Interface) (α : Type) := Program (Hosted S) (α → Program (Hosted S) Unit)

namespace Frame

/-- Runs a program in a frame, and ends as the program does. -/
def fill (frame : Frame S α) (program : Program (Hosted S) α) : Program (Hosted S) α :=
  frame.bind fun closing =>
    program.bind fun ended => (closing ended).bind fun _ => .done ended

/-- Nothing before and nothing after. -/
def empty : Frame S α := .done fun _ => .done ()

/-- Something before and nothing after. -/
def opening (program : Program (Hosted S) Unit) : Frame S α := program.bind fun _ => empty

/-- Nothing before and something after. -/
def closing (next : α → Program (Hosted S) Unit) : Frame S α := .done next

/-- One frame around another. -/
def around (outer inner : Frame S α) : Frame S α :=
  outer.bind fun closeOuter => inner.bind fun closeInner =>
    .done fun ended => (closeInner ended).bind fun _ => closeOuter ended

/-- A frame that works on a view of the result. -/
def along (view : α → β) (frame : Frame S β) : Frame S α :=
  frame.bind fun close => .done fun ended => close (view ended)

theorem fill_empty (program : Program (Hosted S) α) : (empty : Frame S α).fill program = program :=
  Program.bind_done program

theorem fill_opening (before : Program (Hosted S) Unit) (program : Program (Hosted S) α) :
    (opening before).fill program = before.bind fun _ => program := by
  rw [fill, opening, Program.bind_assoc]
  refine congrArg before.bind (funext fun _ => ?_)
  exact fill_empty program

theorem fill_closing (next : α → Program (Hosted S) Unit) (program : Program (Hosted S) α) :
    (closing next).fill program =
      program.bind fun ended => (next ended).bind fun _ => .done ended := rfl

theorem fill_around (outer inner : Frame S α) (program : Program (Hosted S) α) :
    (outer.around inner).fill program = outer.fill (inner.fill program) := by
  simp only [fill, around, Program.bind_assoc, Program.done_bind]

theorem fill_along (view : α → β) (frame : Frame S β) (program : Program (Hosted S) α) :
    frame.fill (program.bind fun ended => .done (view ended)) =
      ((frame.along view).fill program).bind fun ended => .done (view ended) := by
  simp only [fill, along, Program.bind_assoc, Program.done_bind]

/-- A filled frame ends as the program in it does. -/
theorem ends_of_ends_fill {frame : Frame S α} {program : Program (Hosted S) α}
    {history : List (Exchange (Hosted S))} {ended : α}
    (ends : (frame.fill program).Ends history ended) :
    ∃ middle, program.Ends middle ended := by
  obtain ⟨_, _, close, _, _, rest⟩ := Program.ends_bind_iff.mp ends
  obtain ⟨middle, _, result, _, ran, rest⟩ := Program.ends_bind_iff.mp rest
  obtain ⟨_, _, _, _, _, rest⟩ := Program.ends_bind_iff.mp rest
  obtain ⟨_, rfl⟩ := Program.ends_done_iff.mp rest
  exact ⟨middle, ran⟩

end Frame

/-! ### Transparent handlers -/

/-- The handler writes none of these parameters and ends with this result. -/
inductive Program.Spares (names : List String) (final : α) : Program (Advising S) α → Prop where
  | done : Spares names final (.done final)
  | host {request : HostRequest S} {resume : request.Reply → Program (Advising S) α}
      (rest : ∀ reply, Spares names final (resume reply)) :
      Spares names final (.ask (.host request) resume)
  | read {resume : Parameters → Program (Advising S) α}
      (rest : ∀ params, Parameters.names params = names → Spares names final (resume params)) :
      Spares names final (.ask .read resume)
  | write {name : String} {value : Value} {resume : Bool → Program (Advising S) α}
      (unknown : name ∉ names) (rest : Spares names final (resume false)) :
      Spares names final (.ask (.write name value) resume)

/-- The around handler writes none of these parameters, proceeds once, and ends with the outcome it
proceeded to. If it has proceeded already, that is the outcome given. -/
inductive Program.Relays (names : List String) :
    Option Outcome → Program (Surrounding S) Outcome → Prop where
  | done {outcome : Outcome} : Relays names (some outcome) (.done outcome)
  | host {proceeded : Option Outcome} {request : HostRequest S}
      {resume : request.Reply → Program (Surrounding S) Outcome}
      (rest : ∀ reply, Relays names proceeded (resume reply)) :
      Relays names proceeded (.ask (.advice (.host request)) resume)
  | read {proceeded : Option Outcome} {resume : Parameters → Program (Surrounding S) Outcome}
      (rest : ∀ params, Parameters.names params = names → Relays names proceeded (resume params)) :
      Relays names proceeded (.ask (.advice .read) resume)
  | write {proceeded : Option Outcome} {name : String} {value : Value}
      {resume : Bool → Program (Surrounding S) Outcome} (unknown : name ∉ names)
      (rest : Relays names proceeded (resume false)) :
      Relays names proceeded (.ask (.advice (.write name value)) resume)
  | proceed {resume : Outcome → Program (Surrounding S) Outcome}
      (rest : ∀ outcome, Relays names (some outcome) (resume outcome)) :
      Relays names none (.ask .proceed resume)

/-- The advice of a chain is transparent at a join point of a method with these parameters. -/
structure Chain.Transparent (chain : Chain S) (joinPoint : JoinPoint) (names : List String) :
    Prop where
  before : ∀ invocation ∈ chain.before,
    (invocation.handler joinPoint invocation.options).Spares names (.ok ())
  around : ∀ invocation ∈ chain.around,
    (invocation.handler joinPoint invocation.options).Relays names none
  after : ∀ invocation ∈ chain.after, ∀ given,
    (invocation.handler joinPoint invocation.options given).Spares names (.ok given)

/-- All advice of a chain is standard: logging before and after, and timing around. -/
structure Chain.Standard (chain : Chain S) : Prop where
  before : ∀ invocation ∈ chain.before, ∃ advice, invocation.handler = LoggingAdvice.before advice
  around : ∀ invocation ∈ chain.around, ∃ threshold, invocation.handler = timing threshold
  after : ∀ invocation ∈ chain.after, ∃ advice, invocation.handler = LoggingAdvice.after advice

/-- Logging and timing are transparent, whatever their options. -/
theorem Chain.transparent_of_standard {chain : Chain S} (standard : chain.Standard)
    (joinPoint : JoinPoint) (names : List String) : chain.Transparent joinPoint names where
  before invocation member := by
    obtain ⟨advice, same⟩ := standard.before invocation member
    rw [same]
    exact .read fun params _ => .host fun _ => .done
  around invocation member := by
    obtain ⟨threshold, same⟩ := standard.around invocation member
    rw [same]
    refine .host fun begun => .proceed fun outcome => .host fun ended => ?_
    rw [Program.done_bind]
    dsimp only
    split
    · exact .host fun _ => .done
    · exact .host fun _ => .done
  after invocation member given := by
    obtain ⟨advice, same⟩ := standard.after invocation member
    rw [same]
    exact .host fun _ => .done

/-! ### Handlers as layers -/

namespace Program

variable {names : List String} {params : Parameters}

/-- A handler that spares the parameters ends with its one result, and with the parameters it
found. -/
theorem only_of_spares {final : α} {program : Program (Advising S) α}
    (spares : program.Spares names final) (named : Parameters.names params = names) :
    (program.withParameters params).Only (final, params) := by
  induction spares with
  | done => exact only_done _
  | host _ ih => exact only_ask ih
  | read _ ih => exact ih params named
  | @write name value resume unknown _ ih =>
      obtain ⟨refused, same⟩ := Parameters.set_of_not_mem (named ▸ unknown) value
      rw [withParameters, refused, same]
      exact ih

/-- What an around handler does after it has proceeded ends with the outcome, and with the
parameters it found, whatever it is wrapped around. -/
theorem withProceed_of_relays_some {outcome : Outcome} {program : Program (Surrounding S) Outcome}
    (relays : program.Relays names (some outcome)) (named : Parameters.names params = names)
    (inner other : Layer S Outcome) :
    (program.withProceed inner params).Only (outcome, params) ∧
      program.withProceed inner params = program.withProceed other params := by
  generalize proceeded : some outcome = state at relays
  induction relays with
  | done =>
      cases proceeded
      exact ⟨only_done _, rfl⟩
  | host _ ih =>
      exact ⟨only_ask fun reply => (ih reply proceeded).1,
        congrArg (ask _) (funext fun reply => (ih reply proceeded).2)⟩
  | read _ ih => exact ih params named proceeded
  | @write _ name value resume unknown _ ih =>
      obtain ⟨refused, same⟩ := Parameters.set_of_not_mem (named ▸ unknown) value
      rw [withProceed, withProceed, refused, same]
      exact ih proceeded
  | proceed => cases proceeded

/-- The frame that an around handler puts around what it proceeds to. -/
def frame : Program (Surrounding S) Outcome → Parameters → Frame S (Outcome × Parameters)
  | .done _, _ => .empty
  | .ask (.advice (.host request)) resume, params =>
      .ask request fun reply => (resume reply).frame params
  | .ask (.advice .read) resume, params => (resume params).frame params
  | .ask (.advice (.write name value)) resume, params =>
      (resume (params.contains name)).frame (params.set name value)
  | .ask .proceed resume, _ =>
      .closing fun ended =>
        ((resume ended.1).withProceed (fun params => .done (.ok .null, params)) ended.2).silenced

end Program

/-- The layer leaves parameters of these names. -/
def Layer.Keeps (names : List String) (layer : Layer S α) : Prop :=
  ∀ params, Parameters.names params = names →
    ∀ history ended, (layer params).Ends history ended → Parameters.names ended.2 = names

/-- An around handler that relays is a frame around what it proceeds to. -/
theorem withProceed_of_relays {names : List String} {program : Program (Surrounding S) Outcome}
    (relays : program.Relays names none) {inner : Layer S Outcome} (keeps : inner.Keeps names)
    {params : Parameters} (named : Parameters.names params = names) :
    program.withProceed inner params = (program.frame params).fill (inner params) := by
  generalize proceeded : none = state at relays
  induction relays with
  | done => cases proceeded
  | host _ ih => exact congrArg (Program.ask _) (funext fun reply => ih reply proceeded)
  | read _ ih => exact ih params named proceeded
  | @write _ name value resume unknown _ ih =>
      obtain ⟨refused, same⟩ := Parameters.set_of_not_mem (named ▸ unknown) value
      rw [Program.withProceed, Program.frame, refused, same]
      exact ih proceeded
  | @proceed resume rest ih =>
      rw [Program.withProceed, Program.frame, Frame.fill_closing]
      refine Program.bind_congr_of_ends fun history ended ends => ?_
      obtain ⟨only, same⟩ := Program.withProceed_of_relays_some (rest ended.1)
        (keeps params named history ended ends) inner fun params => .done (.ok .null, params)
      rw [← same]
      exact only.eq_silenced

/-! ### The layers of a call -/

namespace WovenMethod

section Layers

variable {joinPoint : JoinPoint} {names : List String}

theorem only_runBefore {invocations : List (Invocation (BeforeHandler S))}
    (spares : ∀ invocation ∈ invocations,
      (invocation.handler joinPoint invocation.options).Spares names (.ok ()))
    {params : Parameters} (named : Parameters.names params = names) :
    (runBefore joinPoint invocations params).Only (.ok (), params) := by
  induction invocations with
  | nil => exact Program.only_done _
  | cons invocation rest ih =>
      rw [runBefore_cons]
      have first := Program.only_of_spares (spares invocation List.mem_cons_self) named
      exact Program.only_bind first
        (ih fun invocation member => spares invocation (List.mem_cons_of_mem _ member))

theorem only_runAfter {invocations : List (Invocation (AfterHandler S))}
    (spares : ∀ invocation ∈ invocations, ∀ given,
      (invocation.handler joinPoint invocation.options given).Spares names (.ok given))
    (given : Value) {params : Parameters} (named : Parameters.names params = names) :
    (runAfter joinPoint invocations given params).Only (.ok given, params) := by
  induction invocations with
  | nil => exact Program.only_done _
  | cons invocation rest ih =>
      rw [runAfter_cons]
      have first := Program.only_of_spares (spares invocation List.mem_cons_self given) named
      exact Program.only_bind first
        (ih fun invocation member => spares invocation (List.mem_cons_of_mem _ member))

/-- The original body leaves the parameters with their names. -/
theorem keeps_callOriginal (original : Body S) (receiver : Receiver) (passed : List Value) :
    Layer.Keeps names (callOriginal original receiver passed) := by
  intro params named history ended ends
  rw [callOriginal_eq] at ends
  obtain ⟨_, _, left, _, _, rest⟩ := Program.ends_bind_iff.mp ends
  obtain ⟨_, rfl⟩ := Program.ends_done_iff.mp rest
  rw [Parameters.names_absorb, named]

/-- **Around handlers that relay are a frame**, the same around everything they surround. -/
theorem surround_of_relays {invocations : List (Invocation (AroundHandler S))}
    (relays : ∀ invocation ∈ invocations,
      (invocation.handler joinPoint invocation.options).Relays names none) :
    ∃ frame : Parameters → Frame S (Outcome × Parameters),
      ∀ inner : Layer S Outcome, inner.Keeps names →
        ∀ params, Parameters.names params = names →
          surround joinPoint invocations inner params = (frame params).fill (inner params) := by
  induction invocations with
  | nil => exact ⟨fun _ => .empty, fun inner _ params _ => (Frame.fill_empty _).symm⟩
  | cons invocation rest ih =>
      obtain ⟨outer, surrounds⟩ :=
        ih fun invocation member => relays invocation (List.mem_cons_of_mem _ member)
      have relay := relays invocation List.mem_cons_self
      refine ⟨fun params => (outer params).around
        ((invocation.handler joinPoint invocation.options).frame params),
        fun inner keeps params named => ?_⟩
      have wrapped : ∀ params, Parameters.names params = names →
          wrap joinPoint inner invocation params =
            ((invocation.handler joinPoint invocation.options).frame params).fill (inner params) :=
        fun params named => withProceed_of_relays relay keeps named
      have kept : Layer.Keeps names (wrap joinPoint inner invocation) := by
        intro params named history ended ends
        rw [wrapped params named] at ends
        obtain ⟨middle, ran⟩ := Frame.ends_of_ends_fill ends
        exact keeps params named middle ended ran
      rw [Frame.fill_around, ← wrapped params named]
      exact surrounds _ kept params named

/-- A call with transparent advice is a frame around the original body. -/
theorem run_of_transparent {chain : Chain S} (transparent : chain.Transparent joinPoint names) :
    ∃ frame : Parameters → Frame S (Outcome × Parameters),
      ∀ original passed params, Parameters.names params = names →
        run chain original joinPoint passed params =
          (frame params).fill (callOriginal original joinPoint.receiver passed params) := by
  obtain ⟨middle, surrounds⟩ := surround_of_relays transparent.around
  let after (ended : Outcome × Parameters) : Program (Hosted S) Unit :=
    (finish joinPoint chain.after ended).silenced
  refine ⟨fun params => (Frame.opening (runBefore joinPoint chain.before params).silenced).around
    ((Frame.closing after).around (middle params)), fun original passed params named => ?_⟩
  have keeps : Layer.Keeps names (callOriginal original joinPoint.receiver passed) :=
    keeps_callOriginal original joinPoint.receiver passed
  rw [Frame.fill_around, Frame.fill_around, Frame.fill_opening, Frame.fill_closing,
    ← surrounds _ keeps params named, run_eq]
  have begins := (only_runBefore transparent.before named).eq_silenced
  refine (congrArg (Program.bind · _) begins).trans ?_
  rw [Program.bind_assoc]
  refine congrArg (Program.bind _) (funext fun _ => ?_)
  rw [Program.done_bind]
  refine Program.bind_congr_of_ends fun history ended ends => ?_
  rw [surrounds _ keeps params named] at ends
  obtain ⟨_, ran⟩ := Frame.ends_of_ends_fill ends
  have still := keeps params named _ ended ran
  obtain ⟨outcome, left⟩ := ended
  cases outcome with
  | error failure => rfl
  | ok result => exact (only_runAfter transparent.after result still).eq_silenced

end Layers

/-! ### Arguments after a call -/

/-- What a caller sees of its arguments, when the body has left `left`: a body writes those passed
by reference and no others. -/
structure Settles (method : Method) (passed left settled : List Value) : Prop where
  complete : settled.length = passed.length
  byValue {position : Nat} {parameter : Parameter}
    (here : method.parameters[position]? = some parameter)
    (isolated : parameter.byReference = false) : settled[position]? = passed[position]?
  byReference {position : Nat} {parameter : Parameter}
    (here : method.parameters[position]? = some parameter)
    (shared : parameter.byReference = true) :
    settled[position]? = left[position]?.or passed[position]?

/-- What the original body leaves goes back to the caller as the parameters are declared. -/
theorem settles_absorb {method : Method} {passed : List Value}
    (complete : passed.length = method.parameters.length) (left : List Value) :
    Settles method passed left
      (((Parameters.ofCall method.parameters passed).absorb left).overlay passed) := by
  have settled {position : Nat} {parameter : Parameter}
      (here : method.parameters[position]? = some parameter) :
      (((Parameters.ofCall method.parameters passed).absorb left).overlay passed)[position]? =
        if parameter.byReference then left[position]?.or passed[position]?
        else passed[position]? := by
    obtain ⟨inside, _⟩ := List.getElem?_eq_some_iff.mp here
    have given := List.getElem?_eq_getElem (complete ▸ inside : position < passed.length)
    rw [Parameters.getElem?_overlay, Parameters.getElem?_absorb,
      Parameters.getElem?_ofCall here given, given, Option.map_some, Option.map_some]
    cases parameter.byReference with
    | false => rfl
    | true => cases left[position]? <;> rfl
  constructor
  case complete => exact Parameters.length_overlay _ _
  case byValue =>
    intro position parameter here isolated
    rw [settled here, isolated]
    rfl
  case byReference =>
    intro position parameter here shared
    rw [settled here, if_pos shared]

/-! ### Transparent advice -/

/-- **Transparent advice preserves what a method does**: the woven body is the original body in a
frame that does not depend on it. Chains of standard advice are transparent. -/
theorem body_of_transparent (className : String) (method : Method) (receiver : Receiver)
    {passed : List Value} (complete : passed.length = method.parameters.length) :
    (∀ chain : Chain S,
      chain.Transparent ⟨⟨className, method.name⟩, receiver⟩
        (method.parameters.map Parameter.name) →
      ∃ (frame : Frame S (Outcome × List Value)) (settle : List Value → List Value),
        (∀ original : Body S,
          (WovenMethod.mk className method chain original).body receiver passed =
            (frame.fill (original receiver passed)).bind fun ended =>
              .done (ended.1, settle ended.2)) ∧
        ∀ left, Settles method passed left (settle left)) ∧
    ∀ chain : Chain S, chain.Standard →
      chain.Transparent ⟨⟨className, method.name⟩, receiver⟩
        (method.parameters.map Parameter.name) := by
  refine ⟨fun chain transparent => ?_, fun chain standard =>
    Chain.transparent_of_standard standard _ _⟩
  obtain ⟨frame, framed⟩ := run_of_transparent transparent
  let params := Parameters.ofCall method.parameters passed
  let target : MethodId := ⟨className, method.name⟩
  have named : Parameters.names params = method.parameters.map Parameter.name := by
    rw [Parameters.names_ofCall, complete, List.take_length]
  let outer : Frame S (Outcome × Parameters) :=
    (Frame.opening (writeLog (.callBegins target))).around
      (Frame.closing fun _ => writeLog (.callEnds target))
  refine ⟨(outer.around (frame params)).along fun ended => (ended.1, params.absorb ended.2),
    fun left => (params.absorb left).overlay passed, fun original => ?_, settles_absorb complete⟩
  have entered : callOriginal original receiver passed params =
      (original receiver passed).bind fun ended => .done (ended.1, params.absorb ended.2) := by
    rw [callOriginal_eq, Parameters.overlay_ofCall]
  have whole : (outer.around (frame params)).fill (callOriginal original receiver passed params) =
      (writeLog (.callBegins target)).bind fun _ =>
        (run chain original ⟨target, receiver⟩ passed params).bind fun ended =>
          (writeLog (.callEnds target)).bind fun _ => .done ended := by
    rw [Frame.fill_around, Frame.fill_around, Frame.fill_opening, Frame.fill_closing,
      framed original passed params named]
  rw [entered, Frame.fill_along] at whole
  calc (WovenMethod.mk className method chain original).body receiver passed
      = ((writeLog (.callBegins target)).bind fun _ =>
          (run chain original ⟨target, receiver⟩ passed params).bind fun ended =>
            (writeLog (.callEnds target)).bind fun _ => .done ended).bind fun ended =>
              .done (ended.1, ended.2.overlay passed) := by
        rw [body_eq]
        simp only [Program.bind_assoc, Program.done_bind]
        rfl
    _ = _ := by
        rw [← whole, Program.bind_assoc]
        rfl

/-- Logging and timing around a method with its amount passed by value and its total by
reference. -/
def observedAddition : WovenMethod Interface.idle where
  className := "Account"
  method :=
    { name := "add"
      parameters := [{ name := "amount" }, { name := "total", byReference := true }] }
  chain :=
    { before := [⟨"before", LoggingAdvice.before {}, ["in"]⟩]
      around := [⟨"around", timing 500, ["10"]⟩, ⟨"around", timing 500, []⟩]
      after := [⟨"after", LoggingAdvice.after { showResult := false }, ["out"]⟩] }
  original := fun _ _ => .done (.ok .null, [.int 3, .int 7])

/-- The observed method is its body in a frame; the caller sees the new total and no new amount. -/
theorem body_of_observedAddition :
    [Value.int 2, .int 5].length = observedAddition.method.parameters.length ∧
      ∃ (frame : Frame Interface.idle (Outcome × List Value)) (settle : List Value → List Value),
        observedAddition.body .static [.int 2, .int 5] =
          (frame.fill (observedAddition.original .static [.int 2, .int 5])).bind (fun ended =>
            .done (ended.1, settle ended.2)) ∧
        (settle [.int 3, .int 7])[0]? = some (.int 2) ∧
          (settle [.int 3, .int 7])[1]? = some (.int 7) := by
  have standard : observedAddition.chain.Standard := by
    constructor
    · intro invocation member
      cases List.mem_singleton.mp member
      exact ⟨_, rfl⟩
    · intro invocation member
      rcases List.mem_cons.mp member with rfl | member
      · exact ⟨500, rfl⟩
      · cases List.mem_singleton.mp member
        exact ⟨500, rfl⟩
    · intro invocation member
      cases List.mem_singleton.mp member
      exact ⟨_, rfl⟩
  obtain ⟨preserves, transparent⟩ := body_of_transparent (S := Interface.idle)
    observedAddition.className observedAddition.method .static
    (rfl : [Value.int 2, .int 5].length = observedAddition.method.parameters.length)
  obtain ⟨frame, settle, framed, settles⟩ := preserves _ (transparent _ standard)
  refine ⟨rfl, frame, settle, framed observedAddition.original, ?_, ?_⟩
  · exact (settles [.int 3, .int 7]).byValue rfl rfl
  · exact (settles [.int 3, .int 7]).byReference rfl rfl

end WovenMethod

end AspectWeaver
