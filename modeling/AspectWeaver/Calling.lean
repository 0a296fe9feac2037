/-
**What a call needs: a receiver that fits, and one argument for each parameter.**

Missing arguments at the end are filled in from the defaults. Binding stops at the first parameter
that has no default; the defaults filled in before it stay.

* `acceptReceiver_accepted` — a receiver that is accepted is accepted again as it is.
* `length_of_bound` — a bound list has one argument for each parameter.
-/

import AspectWeaver.Receiver
import AspectWeaver.Refusal

namespace AspectWeaver

namespace Method

/-- Refuses a malformed signature. -/
def checkSignature (className : String) (method : Method) : Except Refusal Unit :=
  match method.signatureFault? with
  | some fault => .error (.malformedSignature ⟨className, method.name⟩ fault)
  | none => .ok ()

/-- The receiver that the body gets: none for a static method, the instance for any other. -/
def acceptReceiver (className : String) (method : Method) (receiver : Receiver) :
    Except Refusal Receiver :=
  if method.isStatic then .ok .static
  else match receiver with
    | .static => .error (.missingReceiver ⟨className, method.name⟩)
    | .on target => .ok (.on target)

/-- The defaults of a list of parameters up to the first without one, and that one's name. -/
def defaultsOf : List Parameter → List Value × Option String
  | [] => ([], none)
  | parameter :: rest =>
      match parameter.default with
      | none => ([], some parameter.name)
      | some value =>
          let filled := defaultsOf rest
          (value :: filled.1, filled.2)

/-- The arguments after binding, and the refusal if they do not fit. -/
def bindArguments (className : String) (method : Method) (arguments : List Value) :
    List Value × Option Refusal :=
  if arguments.length > method.parameters.length then
    (arguments, some (.tooManyArguments ⟨className, method.name⟩ method.parameters.length
      arguments.length))
  else
    let filled := defaultsOf (method.parameters.drop arguments.length)
    (arguments ++ filled.1, filled.2.map (.missingArgument ⟨className, method.name⟩))

/-- A receiver that is accepted is accepted again as it is. -/
theorem acceptReceiver_accepted {method : Method} {className : String}
    {receiver accepted : Receiver}
    (accepts : method.acceptReceiver className receiver = .ok accepted) :
    method.acceptReceiver className accepted = .ok accepted := by
  unfold acceptReceiver at accepts ⊢
  split
  · rename_i isStatic
    rw [if_pos isStatic] at accepts
    exact accepts
  · rename_i isInstance
    rw [if_neg isInstance] at accepts
    cases receiver with
    | static => cases accepts
    | on target =>
        cases accepts
        rfl

/-- If no parameter is missing a default, there are as many defaults as parameters. -/
theorem length_defaultsOf {parameters : List Parameter}
    (complete : (defaultsOf parameters).2 = none) :
    (defaultsOf parameters).1.length = parameters.length := by
  induction parameters with
  | nil => rfl
  | cons parameter rest ih =>
      unfold defaultsOf at complete ⊢
      cases given : parameter.default with
      | none => simp [given] at complete
      | some value =>
          simp only [given] at complete ⊢
          simp [ih complete]

/-- A bound list has one argument for each parameter. -/
theorem length_of_bound {method : Method} {arguments : List Value} {className : String}
    (accepted : (method.bindArguments className arguments).2 = none) :
    (method.bindArguments className arguments).1.length = method.parameters.length := by
  unfold bindArguments at accepted ⊢
  split at accepted
  · simp at accepted
  · rename_i fits
    rw [if_neg fits]
    have complete : (defaultsOf (method.parameters.drop arguments.length)).2 = none := by
      simpa using accepted
    simp only [List.length_append, length_defaultsOf complete, List.length_drop]
    omega

end Method

end AspectWeaver
