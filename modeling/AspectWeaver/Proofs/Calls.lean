/-
**Calls through the table: when a call reaches a body.**

* `invoke_of_present` — a call of a method that is there, check by check.
* `Admits.isStatic` — the body gets no instance exactly if the method is static.
* `invoke_eq_of_admits` — a call that passes the checks is the body of its method.
* `admits_of_complete` — one argument for each parameter is enough for a call from inside the class.
-/

import AspectWeaver.Proofs.Reachable

namespace AspectWeaver

variable {S : Interface}

/-- A call of the method passes the checks, and its body gets this receiver and these arguments. -/
structure Entry.Admits (entry : Entry S) (className : String) (receiver : Receiver)
    (site : CallSite) (arguments : List Value) (accepted : Receiver) (bound : List Value) :
    Prop where
  visible : entry.method.visibility.allows site = true
  accepts : entry.method.acceptReceiver className receiver = .ok accepted
  binds : entry.method.bindArguments className arguments = (bound, none)

namespace Entry

/-- The body gets one argument for each parameter. -/
theorem Admits.length {entry : Entry S} {className : String} {receiver accepted : Receiver}
    {site : CallSite} {arguments bound : List Value}
    (admits : entry.Admits className receiver site arguments accepted bound) :
    bound.length = entry.method.parameters.length := by
  have filled : (entry.method.bindArguments className arguments).2 = none := by rw [admits.binds]
  have complete := Method.length_of_bound filled
  rw [admits.binds] at complete
  exact complete

/-- The body gets no instance exactly if the method is static. -/
theorem Admits.isStatic {entry : Entry S} {className : String} {receiver accepted : Receiver}
    {site : CallSite} {arguments bound : List Value}
    (admits : entry.Admits className receiver site arguments accepted bound) :
    accepted.isStatic = entry.method.isStatic := by
  have accepts := admits.accepts
  unfold Method.acceptReceiver at accepts
  cases mode : entry.method.isStatic with
  | true =>
      rw [mode, if_pos rfl] at accepts
      cases accepts
      rfl
  | false =>
      rw [mode, if_neg Bool.false_ne_true] at accepts
      cases receiver with
      | static => cases accepts
      | on target =>
          cases accepts
          rfl

/-- With one argument for each parameter a call from inside the class passes the checks, if the
receiver is accepted. -/
theorem admits_of_complete {entry : Entry S} {className : String} {receiver accepted : Receiver}
    (accepts : entry.method.acceptReceiver className receiver = .ok accepted)
    {passed : List Value} (complete : passed.length = entry.method.parameters.length) :
    entry.Admits className receiver .internal passed accepted passed where
  visible := Visibility.allows_internal _
  accepts := accepts
  binds := by
    rw [Method.bindArguments, if_neg (Nat.not_lt.mpr (Nat.le_of_eq complete)), complete,
      List.drop_length]
    simp [Method.defaultsOf]

end Entry

namespace ClassTable

variable {table : ClassTable S} {target : MethodId} {entry : Entry S}

/-- A call of a method that is there goes on to its checks. -/
theorem invoke_of_present (present : table.entry? target = some entry) (receiver : Receiver)
    (site : CallSite) (arguments : List Value) :
    table.invoke target receiver site arguments =
      if entry.method.visibility.allows site then
        match entry.method.acceptReceiver target.className receiver with
        | .error cause => .done (.error (.refused cause), arguments)
        | .ok accepted =>
            match entry.method.bindArguments target.className arguments with
            | (bound, some cause) => .done (.error (.refused cause), bound)
            | (bound, none) => entry.body accepted bound
      else
        .done (.error (.refused (.notAccessible target entry.method.visibility site)),
          arguments) := by
  have there := entry_eq_ok_iff.mpr present
  unfold invoke
  generalize table.entry target = found at there
  subst there
  rfl

/-- **A call that passes the checks is the body of its method**, on what the body gets. -/
theorem invoke_eq_of_admits (present : table.entry? target = some entry)
    {receiver accepted : Receiver} {site : CallSite} {arguments bound : List Value}
    (admits : entry.Admits target.className receiver site arguments accepted bound) :
    table.invoke target receiver site arguments = entry.body accepted bound := by
  rw [invoke_of_present present, if_pos admits.visible, admits.accepts]
  dsimp only
  rw [admits.binds]

end ClassTable

end AspectWeaver
