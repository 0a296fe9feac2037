/-
**What a scenario answers, as values.**
-/

import AspectWeaver.ClassTable
import AspectWeaver.Scenario.Script
import AspectWeaver.Weave

namespace AspectWeaver

/-- A list of texts as a value. -/
def Value.texts (texts : List String) : Value := .list (texts.map .text)

/-- A value, or null. -/
def Value.orNull (value : Option Value) : Value := value.getD .null

/-- A text, or null. -/
def Value.textOrNull (text : Option String) : Value := .orNull (text.map .text)

/-- A truth value, or null. -/
def Value.boolOrNull (truth : Option Bool) : Value := .orNull (truth.map .bool)

/-- A count as a value. -/
def Value.count (number : Nat) : Value := .int number

/-- A directive as a value. -/
def Directive.toValue (directive : Directive) : Value :=
  .ofPairs [("name", .text directive.name), ("options", .texts directive.options),
    ("line", .count directive.line), ("builtin", .bool directive.isBuiltin)]

/-- A parameter as a value. -/
def Parameter.toValue (parameter : Parameter) : Value :=
  .ofPairs [("name", .text parameter.name), ("default", .orNull parameter.default),
    ("by_reference", .bool parameter.byReference)]

/-- The parameters of a method as a value. -/
def Method.parametersValue (method : Method) : Value :=
  .list (method.parameters.map Parameter.toValue)

/-- A method as a value. -/
def Method.toValue (method : Method) : Value :=
  .ofPairs [("name", .text method.name), ("is_static", .bool method.isStatic),
    ("visibility", .text method.visibility.name), ("parameters", method.parametersValue),
    ("documentation", .textOrNull method.documentation)]

/-- A report as a value. -/
def WeaveReport.toValue (report : WeaveReport) : Value :=
  .ofPairs [("class", .text report.className), ("wrapped", .texts report.wrapped),
    ("skipped", .texts report.skipped), ("info_invocations", .count report.infoRuns)]

/-- The directives of a chain with their options, as a value. -/
def Invocation.listValue {H : Type} (invocations : List (Invocation H)) : Value :=
  .list (invocations.map fun invocation =>
    .list [.text invocation.directive, .texts invocation.options])

/-- A chain as a value. -/
def Chain.toValue {S : Interface} (chain : Chain S) : Value :=
  .ofPairs [("before", Invocation.listValue chain.before),
    ("after", Invocation.listValue chain.after), ("around", Invocation.listValue chain.around),
    ("len", .count chain.size), ("empty", .bool chain.isEmpty), ("info", .count chain.infoRuns)]

/-- A handler in a debugging text, which tells only its kind. -/
def Handler.sketch {S : Interface} (handler : Handler S) : String :=
  match handler.kind with
  | .info => "Handler::Info"
  | .before => "Handler::Before"
  | .after => "Handler::After"
  | .around => "Handler::Around"

/-- A receiver as it is recorded. -/
def Receiver.toValue : Receiver → Value
  | .static => .text "static"
  | .on (.object id) => .ofPairs [("object", .text id)]
  | .on _ => .text "opaque"

/-- A failure as a value. The wording of a malformed document is left out. -/
def Failure.pairs (failure : Failure) : List (String × Value) :=
  match failure with
  | .settings .malformed => [("error", .text failure.label)]
  | _ => [("error", .text failure.label), ("message", .text failure.message)]

/-- A line of the log as a value. -/
def Event.toValue (event : Event) : Value :=
  let line := [.text event.level.mark, .text event.message]
  match event.tags? with
  | none => .list line
  | some tags => .list (line ++ [.text (Text.quoteAll tags)])

namespace Scenario

/-- The parts of an answer. -/
def Answer.pairs (answer : Answer) : List (String × Value) :=
  let outcome := match answer.outcome with
    | .ok result => [("ok", result)]
    | .error failure => failure.pairs
  match answer.arguments with
  | none => outcome
  | some arguments => outcome ++ [("args", .list arguments)]

/-- An answer as a value. -/
def Answer.toValue (answer : Answer) : Value := .ofPairs answer.pairs

end Scenario

end AspectWeaver
