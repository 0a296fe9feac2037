/-
**Playing scripts: from acts to handlers and bodies.**

A script runs its acts in order and carries along a result and the arguments. An act may end the
script, with the result as it is then or with a failure. A script runs on a stage: what handlers and
bodies of its kind may ask for. An act that asks for what its stage does not offer ends the script,
with the result as it is.
-/

import AspectWeaver.Scenario.Render

namespace AspectWeaver.Scenario

/-! ### Stages -/

/-- How a script reaches the parameters of the call that it is part of. -/
structure Access (I : Interface) where
  read : Program I Parameters
  write : String → Value → Program I Bool

/-- What a script can ask for where it runs, and what it knows about the run. -/
structure Stage (I : Interface) where
  label : String
  options : List String
  receiver : Receiver
  host : (request : HostRequest Services) → Program I request.Reply
  parameters : Option (Access I) := none
  proceed : Option (Program I Outcome) := none
  /-- Whether there is a receiver whose fields can be asked for. -/
  offersFields : Bool := true
  /-- Whether there are arguments to ask for. -/
  offersArguments : Bool := false

namespace Stage

/-- The stage of `info` handlers. -/
def info (label : String) (options : List String) : Stage (Hosted Services) where
  label := label
  options := options
  receiver := .static
  host := fun request => Program.perform (I := Hosted Services) request
  offersFields := false

/-- The stage of bodies. -/
def body (label : String) (receiver : Receiver) : Stage (Hosted Services) where
  label := label
  options := []
  receiver := receiver
  host := fun request => Program.perform (I := Hosted Services) request
  offersArguments := true

/-- The stage of before and after handlers. -/
def advising (label : String) (receiver : Receiver) (options : List String) :
    Stage (Advising Services) where
  label := label
  options := options
  receiver := receiver
  host := Advising.host
  parameters := some ⟨Advising.parameters, Advising.write⟩

/-- The stage of around handlers. -/
def surrounding (label : String) (receiver : Receiver) (options : List String) :
    Stage (Surrounding Services) where
  label := label
  options := options
  receiver := receiver
  host := Surrounding.host
  parameters := some ⟨Surrounding.advice .read,
    fun name value => Surrounding.advice (.write name value)⟩
  proceed := some Surrounding.proceed

variable {I : Interface}

/-- Makes a request to the scenario. -/
def query (stage : Stage I) (request : Query) : Program I request.Reply :=
  stage.host (.service request)

/-- Records an entry. -/
def record (stage : Stage I) (pairs : List (String × Value)) : Program I Unit :=
  stage.query (.record (.ofPairs pairs))

end Stage

/-! ### Acts -/

/-- What a script carries along. -/
structure Moment where
  result : Value
  arguments : List Value

/-- How an act, or a list of acts, leaves the script. -/
inductive Flow where
  | goOn (moment : Moment)
  | stop (moment : Moment)
  | failed (cause : Failure) (moment : Moment)

namespace Moment

/-- The moment with another result. -/
def withResult (moment : Moment) (result : Value) : Moment := { moment with result := result }

/-- The failure of asking for an argument that is not there. -/
def noArgument (index : Nat) : Failure := .raised ("no argument " ++ toString index) none

/-- The moment with another argument. -/
def withArgument (moment : Moment) (index : Nat) (value : Value) : Moment :=
  { moment with arguments := moment.arguments.set index value }

end Moment

variable {I : Interface}

/-- The text of a value: a text is itself, all else its compact text. -/
def plainText : Value → String
  | .text content => content
  | value => value.compact

/-- The sum of a value's number and an amount, wrapped to 64 bits. -/
def plus (value : Value) (amount : Int) : Value := .int (wrap64 (value.toInt + amount))

/-- The failure of asking for fields where the receiver is no object. -/
def noObject : Failure := .raised "receiver is not an object" none

/-- A parameter with its present value. -/
def slotPair (params : Parameters) (name : String) : Value :=
  .list [.text name, .orNull (params.get name)]

/-- What is known of a parameter by its name. -/
def slotFacts (params : Parameters) (name : String) : Value :=
  .list [.text name, .orNull (params.get name), .bool (params.isByReference name),
    .bool (params.contains name)]

/-- Changes a parameter: writes another one if asked to, multiplies by a parameter if asked to, and
adds an amount. -/
def rework (access : Access I) (inner : Option (String × Value)) (times : Option String)
    (amount : Int) (value : Value) : Program I Value := do
  match inner with
  | none => pure ()
  | some (name, written) => do
      let _ ← access.write name written
  let params ← access.read
  let factor := match times with
    | none => 1
    | some name => (Value.orNull (params.get name)).toInt
  pure (.int (wrap64 (wrap64 (value.toInt * factor) + amount)))

/-- Goes on after an answer to a step. -/
def afterStep (answer : Answer) (raises keeps : Bool) (moment : Moment) : Flow :=
  match answer.outcome with
  | .ok result => if keeps then .goOn (moment.withResult result) else .goOn moment
  | .error failure =>
      if raises then .failed failure moment
      else if keeps then .goOn (moment.withResult .null)
      else .goOn moment

/-- Goes on after proceeding. -/
def afterProceed (stage : Stage I) (catches : Bool) (moment : Moment) :
    Outcome → Program I Flow
  | .ok result => do
      stage.record [("back", .text stage.label), ("ok", result)]
      pure (.goOn (moment.withResult result))
  | .error failure => do
      stage.record [("back", .text stage.label), ("failed", .text failure.message)]
      if catches then
        pure (.goOn (moment.withResult (.ofPairs [("caught", .text failure.message)])))
      else pure (.failed failure moment)

/-- Plays an act on the parameters, after which the script goes on. -/
def onParameters (stage : Stage I) (moment : Moment) (act : Access I → Program I Moment) :
    Program I Flow :=
  match stage.parameters with
  | none => pure (.stop moment)
  | some access => do
      let moment ← act access
      pure (.goOn moment)

/-- Plays an act on an argument. -/
def onArgument (stage : Stage I) (moment : Moment) (index : Nat) (act : Value → Program I Flow) :
    Program I Flow :=
  if stage.offersArguments then
    match moment.arguments[index]? with
    | none => pure (.failed (Moment.noArgument index) moment)
    | some argument => act argument
  else pure (.stop moment)

/-- Plays an act on the fields of the receiver, after which the script goes on. -/
def onObject (stage : Stage I) (moment : Moment) (act : String → Fields → Program I Moment) :
    Program I Flow :=
  if stage.offersFields then
    match stage.receiver with
    | .on (.object id) => do
        let fields ← stage.query (.readObject id)
        let moment ← act id fields
        pure (.goOn moment)
    | _ => pure (.failed noObject moment)
  else pure (.stop moment)

mutual

/-- Plays one act. -/
def Act.play (stage : Stage I) : Act → Moment → Program I Flow
  | .note text, moment => do
      stage.record [("note", .text text)]
      pure (.goOn moment)
  | .finish value, moment => pure (.stop (moment.withResult value))
  | .stop, moment => pure (.stop moment)
  | .fail message context, moment => pure (.failed (.raised message context) moment)
  | .sleep duration, moment => do
      stage.query (.sleep duration)
      pure (.goOn moment)
  | .ifOption index expected acts, moment =>
      if stage.options[index]? = some expected then Act.playAll stage acts moment
      else pure (.goOn moment)
  | .step inside raises keeps, moment => do
      let answer ← stage.query (.perform (inside.within stage.receiver moment.arguments))
      stage.record [("step", answer.toValue)]
      pure (afterStep answer raises keeps moment)
  | .suffix text, moment =>
      pure (.goOn (moment.withResult (.text (plainText moment.result ++ text))))
  | .add amount, moment => pure (.goOn (moment.withResult (plus moment.result amount)))
  | .wrap, moment => pure (.goOn (moment.withResult (.list [moment.result])))
  | .set name value, moment =>
      onParameters stage moment fun access => do
        let known ← access.write name value
        stage.record [("set", .bool known)]
        pure moment
  | .update name inner times amount, moment =>
      onParameters stage moment fun access => do
        let known ← Program.updateParameter access.read access.write name
          (rework access inner times amount)
        stage.record [("update", .bool known)]
        pure moment
  | .copy source target, moment =>
      onParameters stage moment fun access => do
        let params ← access.read
        match params.get source with
        | none =>
            stage.record [("copy", .bool false)]
            pure moment
        | some value =>
            let known ← access.write target value
            stage.record [("copy", .bool known)]
            pure moment
  | .get name, moment =>
      onParameters stage moment fun access => do
        let params ← access.read
        let value := params.get name
        stage.record [("get", .orNull value), ("found", .bool value.isSome)]
        pure (moment.withResult (.orNull value))
  | .survey asked, moment =>
      onParameters stage moment fun access => do
        let params ← access.read
        stage.record [("names", .list ((Parameters.names params).map (slotFacts params))),
          ("len", .count params.length), ("empty", .bool params.isEmpty),
          ("snapshot", params.snapshot),
          ("ask", .orNull (asked.map fun name =>
            .list [.bool (params.contains name), .bool (params.isByReference name)]))]
        pure moment
  | .proceed catches, moment =>
      match stage.proceed with
      | none => pure (.stop moment)
      | some ahead => do
          let outcome ← ahead
          afterProceed stage catches moment outcome
  | .argument index, moment =>
      onArgument stage moment index fun held => pure (.goOn (moment.withResult held))
  | .setArgument index value, moment =>
      onArgument stage moment index fun _ => pure (.goOn (moment.withArgument index value))
  | .addArgument index amount, moment =>
      onArgument stage moment index fun held =>
        pure (.goOn (moment.withArgument index (plus held amount)))
  | .ifArgument index expected acts, moment =>
      onArgument stage moment index fun held =>
        if held = expected then Act.playAll stage acts moment else pure (.goOn moment)
  | .addField name amount, moment =>
      onObject stage moment fun id fields => do
        let value := plus (.orNull (Value.find? name fields)) amount
        stage.query (.writeObject id (Value.insertField name value fields))
        pure (moment.withResult value)
  | .readField name, moment =>
      onObject stage moment fun _ fields =>
        pure (moment.withResult (.orNull (Value.find? name fields)))

/-- Plays acts in order, up to the first that ends the script. -/
def Act.playAll (stage : Stage I) : List Act → Moment → Program I Flow
  | [], moment => pure (.goOn moment)
  | act :: rest, moment => do
      match ← act.play stage moment with
      | .goOn moment => Act.playAll stage rest moment
      | ended => pure ended

end

/-! ### Handlers and bodies -/

/-- How a script that is through has ended, with the arguments as they are then. -/
def Flow.ending : Flow → Outcome × List Value
  | .goOn moment | .stop moment => (.ok moment.result, moment.arguments)
  | .failed cause moment => (.error cause, moment.arguments)

/-- The entry that records the beginning of a handler in a call. -/
def beginning (label : String) (joinPoint : JoinPoint) (options : List String)
    (params : Parameters) : List (String × Value) :=
  [("at", .text label), ("target", .text joinPoint.signature),
    ("receiver", joinPoint.receiver.toValue), ("options", .texts options),
    ("params", .list ((Parameters.names params).map (slotPair params)))]

/-- An outcome of which only the failure counts. -/
def ignoreResult (flow : Flow) : Except Failure Unit := flow.ending.1.map fun _ => ()

namespace Script

/-- The body that plays a script. -/
def toBody (script : Script Act) : Body Services := fun receiver arguments => do
  let stage := Stage.body script.label receiver
  stage.record [("body", .text script.label), ("receiver", receiver.toValue),
    ("args", .list arguments)]
  let flow ← Act.playAll stage script.acts ⟨.null, arguments⟩
  pure flow.ending

/-- The `info` handler that plays a script. -/
def toInfo (script : Script Act) : InfoHandler Services := fun target options => do
  let stage := Stage.info script.label options
  stage.record [("at", .text script.label), ("class", .text target.className),
    ("method", .text target.method), ("options", .texts options)]
  let flow ← Act.playAll stage script.acts ⟨.null, []⟩
  pure (ignoreResult flow)

/-- The before handler that plays a script. -/
def toBefore (script : Script Act) : BeforeHandler Services := fun joinPoint options => do
  let stage := Stage.advising script.label joinPoint.receiver options
  let params ← Advising.parameters
  stage.record (beginning script.label joinPoint options params)
  let flow ← Act.playAll stage script.acts ⟨.null, []⟩
  pure (ignoreResult flow)

/-- The after handler that plays a script. -/
def toAfter (script : Script Act) : AfterHandler Services := fun joinPoint options result => do
  let stage := Stage.advising script.label joinPoint.receiver options
  let params ← Advising.parameters
  stage.record (beginning script.label joinPoint options params ++ [("result", result)])
  let flow ← Act.playAll stage script.acts ⟨result, []⟩
  pure flow.ending.1

/-- The around handler that plays a script. -/
def toAround (script : Script Act) : AroundHandler Services := fun joinPoint options => do
  let stage := Stage.surrounding script.label joinPoint.receiver options
  let params ← Surrounding.advice .read
  stage.record (beginning script.label joinPoint options params)
  let flow ← Act.playAll stage script.acts ⟨.null, []⟩
  pure flow.ending.1

end Script

/-- The handler that a handler script stands for. -/
def HandlerScript.toHandler : HandlerScript Act → Handler Services
  | .info script => .info script.toInfo
  | .before script => .before script.toBefore
  | .after script => .after script.toAfter
  | .around script => .around script.toAround
  | .loggingBefore advice => .before advice.before
  | .loggingAfter advice => .after advice.after
  | .timing threshold => .around (AspectWeaver.timing threshold)

/-- The entry of a class that a method script stands for. -/
def MethodScript.toEntry (script : MethodScript Act) : Entry Services :=
  { method := script.method, body := script.body.toBody }

end AspectWeaver.Scenario
