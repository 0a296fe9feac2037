/-
**Performing steps, and whole scenarios.**

A scenario keeps a registry, objects and a trace of what its scripts recorded. Steps are performed
one after the other, and a step that fails does not end the scenario. Steps can be performed inside
scripts, so a bound on the nesting stands beside the steps; what does not fit gives no answer.
-/

import AspectWeaver.Registry.Loading
import AspectWeaver.Scenario.Play
import AspectWeaver.Settings

namespace AspectWeaver.Scenario

/-- What a scenario keeps. -/
structure State where
  registry : Registry Services := {}
  /-- The objects used so far, with their fields. -/
  objects : List (String × Fields) := []
  /-- What was recorded, in order. -/
  trace : List Value := []

/-- A run of a scenario. -/
abbrev Running (α : Type) := Run Services State α

/-- The advice functions that come with the library to be loaded. -/
def waitingFunctions : List (String × Handler Services) :=
  [("auto_fn", .before fun _ options =>
    pure (if options.isEmpty then .ok ()
      else .error (.raised ("auto_fn refuses " ++ String.intercalate " " options) none)))]

/-- The annotations that come with the library to be loaded. -/
def waitingBindings : List (Binding Services) :=
  [⟨"auto_note", .info, .info fun _ _ => pure (.ok ())⟩]

/-- The registry that all programs share: the standard functions, and what is loaded. -/
def sharedRegistry : Registry Services :=
  let standard := (Registry.addStandard {} standardFunctions).1
  (standard.autoLoad waitingFunctions waitingBindings).2.registry

/-! ### The state -/

/-- Changes the state of the scenario. -/
def changeState (change : State → State) : Running Unit :=
  modify fun world => { world with state := change world.state }

/-- The state of the scenario. -/
def state : Running State := do
  let world ← get
  pure world.state

/-- The fields of an object. -/
def State.fields (state : State) (id : String) : Fields := (state.objects.lookup id).getD []

/-- Gives an object fields. -/
def State.setFields (id : String) (fields : Fields) (state : State) : State :=
  { state with objects := Named.put Prod.fst (id, fields) state.objects }

/-- Makes sure that the instance a step is performed on exists. -/
def receive : Target → Running Receiver
  | .self => pure .static
  | .given (.on (.object id)) => do
      changeState fun state => state.setFields id (state.fields id)
      pure (.on (.object id))
  | .given receiver => pure receiver

/-- The arguments of a step. -/
def Arguments.values : Arguments → List Value
  | .current => []
  | .given values => values

/-! ### Answers -/

/-- The answer of a step that ended with a result. -/
def answered (result : Value) : Running Answer := pure { outcome := .ok result }

/-- The answer of a step that failed. -/
def failed (cause : Failure) : Running Answer := pure { outcome := .error cause }

/-- The answer of a step that was refused. -/
def refused (cause : Refusal) : Running Answer := failed (.refused cause)

/-- Keeps the registry that a change leaves, and writes the line if the change was accepted. -/
def changeRegistry (changed : Except Refusal Unit × Registry Services) (event : Event) :
    Running Answer := do
  let (outcome, registry) := changed
  changeState fun state => { state with registry := registry }
  match outcome with
  | .error cause => refused cause
  | .ok () =>
      Run.write event
      answered .null

/-- Keeps the table that a change leaves, and writes the lines if the change was accepted. -/
def changeClasses (changed : Except Refusal Unit × ClassTable Services) (events : List Event) :
    Running Answer := do
  let (outcome, classes) := changed
  Run.setClasses classes
  match outcome with
  | .error cause => refused cause
  | .ok () =>
      Run.writeAll events
      answered .null

/-- The lines that a definition writes. -/
def definitionEvents (classes : ClassTable Services) (className : String) (methods : Nat) :
    List Event :=
  .definingClass className methods ::
    if classes.contains className then [.classReplaced className] else []

/-! ### Steps -/

/-- Runs a call and answers with what came of it. -/
def answerCall (host : Host Services State)
    (call : Program (Hosted Services) (Outcome × List Value)) : Running Answer := do
  let (outcome, arguments) ← call.run host
  pure { outcome := outcome, arguments := some arguments }

/-- The policy that a weaving goes by: the one that is named, else the one of the document, else
the one that is given. -/
def policyFor (policy document : Option String) : Except SettingsError ReweavePolicy := do
  let settings ← match document with
    | none => pure {}
    | some text => Settings.parse text
  match policy with
  | none => pure settings.reweave
  | some text => ReweavePolicy.parse text

/-- Weaves a class. -/
def performWeave (host : Host Services State) (className : String)
    (policy document : Option String) (shared : Bool) : Running Answer := do
  let named := if shared then none else policy
  match policyFor named document with
  | .error cause => failed (.settings cause)
  | .ok policy =>
      let current ← state
      let registry := if shared then sharedRegistry else current.registry
      match ← Weaver.weave ⟨registry, policy⟩ host className with
      | .error cause => refused cause
      | .ok report => answered report.toValue

/-- What is known of a method by its name. -/
def methodFacts (classes : ClassTable Services) (target : MethodId) : Value :=
  let method := (classes.entry? target).map Entry.method
  .ofPairs [("method", .orNull (method.map Method.toValue)),
    ("documentation", .textOrNull (method.bind Method.documentation)),
    ("parameters", .orNull (method.map Method.parametersValue)),
    ("static", .boolOrNull (method.map Method.isStatic)),
    ("visibility", .textOrNull (method.map fun method => method.visibility.name)),
    ("woven", .bool (classes.isWoven target)),
    ("processed", .bool (classes.isProcessed target)),
    ("wrapped", .bool (classes.isWoven target))]

/-- The marks of the methods of a class. -/
def flagsOf (definition : ClassDefinition Services) : Value :=
  .list (definition.entries.map fun entry =>
    .list [.text entry.name, .bool entry.woven, .bool entry.processed])

/-- What a registry has under a name. -/
def lookupFacts (registry : Registry Services) (name : String) : Value :=
  .ofPairs [("contains", .bool (registry.contains name)),
    ("binding", .orNull ((registry.find? name).map fun binding =>
      .texts [binding.name, binding.kind.name, binding.handler.sketch])),
    ("function", .textOrNull ((registry.function? name).map fun handler =>
      handler.kind.name))]

/-- Performs a step. The host answers the scripts that run in it. -/
def perform (host : Host Services State) : Step Act → Running Answer
  | .register name script code => do
      let handler := script.toHandler
      let current ← state
      changeRegistry (current.registry.registerWithCode name handler code)
        (.registering name handler.kind)
  | .function name script => do
      let handler := script.toHandler
      let current ← state
      changeRegistry (current.registry.defineFunction name handler)
        (.definingFunction name handler.kind)
  | .standardFunctions => do
      let current ← state
      let (registry, events) := current.registry.addStandard standardFunctions
      Run.writeAll events
      changeState fun state => { state with registry := registry }
      answered .null
  | .autoLoad => do
      let current ← state
      let (outcome, loaded) := current.registry.autoLoad waitingFunctions waitingBindings
      Run.writeAll loaded.events
      changeState fun state => { state with registry := loaded.registry }
      match outcome with
      | .error cause => refused cause
      | .ok number => answered (.count number)
  | .registry => do
      let current ← state
      let registry := current.registry
      answered (.ofPairs [("known", .texts registry.knownNames), ("len", .count registry.size),
        ("empty", .bool (registry.size == 0))])
  | .lookup name => do
      let current ← state
      answered (lookupFacts current.registry name)
  | .parse text => do
      let current ← state
      let directives := Directive.parse current.registry.knownNames text
      answered (.list (directives.map Directive.toValue))
  | .chain target directives => do
      let current ← state
      match ← (Chain.build current.registry target directives).run host with
      | .error cause => refused cause
      | .ok chain => answered chain.toValue
  | .synthesize className script directives target arguments => do
      let current ← state
      let method := script.method
      match ← (Chain.build current.registry ⟨className, method.name⟩ directives).run host with
      | .error cause => refused cause
      | .ok chain =>
          let woven : WovenMethod Services := ⟨className, method, chain, script.body.toBody⟩
          Run.write woven.report
          let receiver ← receive target
          answerCall host (woven.body receiver arguments.values)
  | .define className methods => do
      let classes ← Run.classes
      changeClasses (classes.define ⟨className, methods.map MethodScript.toEntry⟩)
        (definitionEvents classes className methods.length)
  | .rename target name => do
      let classes ← Run.classes
      changeClasses (classes.rename target name) [.renamed target name]
  | .install className script => do
      let classes ← Run.classes
      changeClasses (classes.install className script.method script.body.toBody)
        [.installed ⟨className, script.method.name⟩]
  | .replace target body => do
      let classes ← Run.classes
      changeClasses (classes.replace target body.toBody) []
  | .mark target => do
      let classes ← Run.classes
      changeClasses (classes.markProcessed target) []
  | .alias target source => do
      let classes ← Run.classes
      match classes.body source with
      | .error cause => refused cause
      | .ok body => changeClasses (classes.replace target body) []
  | .methods className => do
      let classes ← Run.classes
      answered (.ofPairs [("contains", .bool (classes.contains className)),
        ("methods", .orNull ((classes.methods? className).map fun methods =>
          .list (methods.map Method.toValue)))])
  | .method target => do
      let classes ← Run.classes
      answered (methodFacts classes target)
  | .flags className => do
      let classes ← Run.classes
      answered (.orNull ((classes.find? className).map flagsOf))
  | .invoke called target site arguments => do
      let receiver ← receive target
      let classes ← Run.classes
      answerCall host (classes.invoke called receiver site arguments.values)
  | .call called target arguments => do
      let receiver ← receive target
      let classes ← Run.classes
      let answer ← answerCall host (classes.invoke called receiver .external arguments.values)
      pure { answer with arguments := none }
  | .callBody called target arguments => do
      let classes ← Run.classes
      match classes.body called with
      | .error cause => refused cause
      | .ok body =>
          let receiver ← receive target
          answerCall host (body receiver arguments.values)
  | .object id => do
      let current ← state
      answered (.orNull ((current.objects.lookup id).map .record))
  | .weave className policy document shared => performWeave host className policy document shared

/-! ### Scripts that perform steps -/

/-- Answers the requests of scripts; steps may be nested as deep as the bound says. -/
def serve : Nat → Host Services State
  | _, .record entry => changeState fun state => { state with trace := state.trace ++ [entry] }
  | _, .sleep duration => modify fun world => { world with clock := world.clock + duration }
  | _, .readObject id => do
      let current ← state
      pure (current.fields id)
  | _, .writeObject id fields => changeState (State.setFields id fields)
  | 0, .perform _ => fun _ => none
  | bound + 1, .perform step => perform (serve bound) step

/-- How deep steps may be nested. -/
def nestingBound : Nat := 100000

/-- The world in which a scenario begins. -/
def initialWorld : World Services State := ⟨{}, 0, [], {}⟩

/-- The answer to a step, with what was recorded meanwhile and, if asked for, the lines written. -/
def report (logs : Bool) (answer : Answer) (world : World Services State) : Value :=
  let traced :=
    if world.state.trace.isEmpty then [] else [("trace", .list world.state.trace)]
  let logged := if logs then [("logs", .list (world.log.map Event.toValue))] else []
  .ofPairs (answer.pairs ++ traced ++ logged)

/-- The world after a step, ready for the next one: nothing recorded, nothing written. -/
def refresh (world : World Services State) : World Services State :=
  { world with log := [], state := { world.state with trace := [] } }

/-- Performs steps in order and collects the answers. -/
def runSteps (logs : Bool) : List (Step Act) → World Services State → Option (List Value)
  | [], _ => some []
  | step :: rest, world => do
      let (answer, later) ← perform (serve nestingBound) step world
      let answers ← runSteps logs rest (refresh later)
      pure (report logs answer later :: answers)

/-- Runs a scenario. -/
def run (steps : List (Step Act)) (logs : Bool) : Option (List Value) :=
  runSteps logs steps initialWorld

end AspectWeaver.Scenario
