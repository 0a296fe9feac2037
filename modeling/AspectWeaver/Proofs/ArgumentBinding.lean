/-
**What binding does with arguments, whatever the parameters.**

Binding goes through the parameters that a call leaves out, and fills in defaults until a parameter
has none. In a signature that is not well formed it can so have filled in some and fail all the
same; in a well-formed one it never has.

* `Binds` — the three ways in which binding can end, said by the parameters alone.
* `exists_run` — the parameters that are left out begin with a longest run of such as have a
  default.
* `defaultsOf_run` — the defaults of a run come first, and then those of what follows it.
* `bindArguments_eq_iff` — **binding ends in one of the three ways**, and the parameters settle in
  which.
* `bindArguments_of_surplus`, `bindArguments_of_required`, `bindArguments_of_optional` — binding
  where there are too many arguments, where the first parameter left out has no default, and where
  all of them have one.
* **`bindArguments_exact`** — and so, under a well-formed signature, arguments that are refused stay
  as they are, and arguments that are bound are bound again as they are.
-/

import AspectWeaver.Proofs.Signature

namespace AspectWeaver.Method

/-- What binding can make of arguments: the arguments then, and the refusal if they do not fit. -/
inductive Binds (className : String) (method : Method) (arguments : List Value) :
    List Value → Option Refusal → Prop where
  /-- There are more arguments than parameters. -/
  | surplus (more : method.parameters.length < arguments.length) :
      Binds className method arguments arguments
        (some (.tooManyArguments ⟨className, method.name⟩ method.parameters.length
          arguments.length))
  /-- All parameters that are left out have a default. -/
  | complete {given run : List Parameter} {defaults : List Value}
      (order : method.parameters = given ++ run) (matched : given.length = arguments.length)
      (filled : run.map Parameter.default = defaults.map some) :
      Binds className method arguments (arguments ++ defaults) none
  /-- Those up to one that has none have a default. -/
  | missing {given run rest : List Parameter} {parameter : Parameter} {defaults : List Value}
      (order : method.parameters = given ++ (run ++ parameter :: rest))
      (matched : given.length = arguments.length)
      (filled : run.map Parameter.default = defaults.map some)
      (required : parameter.default = none) :
      Binds className method arguments (arguments ++ defaults)
        (some (.missingArgument ⟨className, method.name⟩ parameter.name))

/-! ### Defaults of a run -/

/-- Parameters begin with a longest run of such as have a default: they all have one, or the run
ends before one that has none. -/
theorem exists_run (parameters : List Parameter) :
    (∃ defaults : List Value, parameters.map Parameter.default = defaults.map some) ∨
      ∃ run parameter rest, ∃ defaults : List Value, parameters = run ++ parameter :: rest ∧
        run.map Parameter.default = defaults.map some ∧ parameter.default = none := by
  induction parameters with
  | nil => exact .inl ⟨[], rfl⟩
  | cons first others ih =>
      cases given : first.default with
      | none => exact .inr ⟨[], first, others, [], rfl, rfl, given⟩
      | some value =>
          rcases ih with ⟨defaults, filled⟩ |
            ⟨run, parameter, rest, defaults, rfl, filled, required⟩
          · refine .inl ⟨value :: defaults, ?_⟩
            rw [List.map_cons, List.map_cons, given, filled]
          · refine .inr ⟨first :: run, parameter, rest, value :: defaults, rfl, ?_, required⟩
            rw [List.map_cons, List.map_cons, given, filled]

/-- The defaults of a run come first, and then those of what follows it. -/
theorem defaultsOf_run {run : List Parameter} {defaults : List Value}
    (filled : run.map Parameter.default = defaults.map some) (rest : List Parameter) :
    defaultsOf (run ++ rest) = (defaults ++ (defaultsOf rest).1, (defaultsOf rest).2) := by
  induction run generalizing defaults with
  | nil =>
      obtain rfl := List.map_eq_nil_iff.mp filled.symm
      rfl
  | cons first run ih =>
      cases defaults with
      | nil => cases filled
      | cons value defaults =>
          rw [List.map_cons, List.map_cons, List.cons.injEq] at filled
          obtain ⟨given, filled⟩ := filled
          rw [List.cons_append, defaultsOf, given]
          dsimp only
          rw [ih filled, List.cons_append]

section Binding

variable {className : String} {method : Method} {arguments : List Value}

/-- What is left out is what follows the parameters that arguments are given for. -/
theorem drop_given {given rest : List Parameter} (order : method.parameters = given ++ rest)
    (matched : given.length = arguments.length) :
    method.parameters.drop arguments.length = rest := by
  rw [order, ← matched, List.drop_left]

/-- More arguments than parameters are refused, and stay as they are. -/
theorem bindArguments_of_surplus (className : String)
    (surplus : method.parameters.length < arguments.length) :
    method.bindArguments className arguments =
      (arguments, some (.tooManyArguments ⟨className, method.name⟩ method.parameters.length
        arguments.length)) := by
  rw [bindArguments, if_pos surplus]

/-- If there are parameters enough, binding fills in the defaults of those that are left out. -/
theorem bindArguments_of_fits {given rest : List Parameter}
    (order : method.parameters = given ++ rest) (matched : given.length = arguments.length) :
    method.bindArguments className arguments =
      (arguments ++ (defaultsOf rest).1,
        (defaultsOf rest).2.map (.missingArgument ⟨className, method.name⟩)) := by
  have fits : ¬ arguments.length > method.parameters.length := by
    rw [order, List.length_append]
    omega
  rw [bindArguments, if_neg fits, drop_given order matched]

/-- **Binding ends in one of the three ways**, and the parameters settle in which. -/
theorem bindArguments_eq_iff {left : List Value} {refusal : Option Refusal} :
    method.bindArguments className arguments = (left, refusal) ↔
      Binds className method arguments left refusal := by
  constructor
  · intro bound
    by_cases more : method.parameters.length < arguments.length
    · rw [bindArguments_of_surplus className more] at bound
      cases bound
      exact .surplus more
    · have order := (List.take_append_drop arguments.length method.parameters).symm
      have matched : (method.parameters.take arguments.length).length = arguments.length :=
        List.length_take_of_le (Nat.not_lt.mp more)
      rw [bindArguments_of_fits order matched] at bound
      rcases exists_run (method.parameters.drop arguments.length) with
        ⟨defaults, filled⟩ | ⟨run, parameter, rest, defaults, split, filled, required⟩
      · have all := defaultsOf_run filled []
        rw [List.append_nil] at all
        rw [all, defaultsOf, List.append_nil] at bound
        cases bound
        exact .complete order matched filled
      · rw [split] at order
        rw [split, defaultsOf_run filled, defaultsOf, required] at bound
        dsimp only at bound
        rw [List.append_nil] at bound
        cases bound
        exact .missing order matched filled required
  · intro binds
    cases binds with
    | surplus more => exact bindArguments_of_surplus className more
    | complete order matched filled =>
        have all := defaultsOf_run filled []
        rw [List.append_nil] at all
        rw [bindArguments_of_fits order matched, all, defaultsOf, List.append_nil]
        rfl
    | missing order matched filled required =>
        rw [bindArguments_of_fits order matched, defaultsOf_run filled, defaultsOf, required]
        dsimp only
        rw [List.append_nil]
        rfl

/-- If the first parameter that is left out has no default, it is missing, and the arguments stay as
they are. -/
theorem bindArguments_of_required (className : String) {parameter : Parameter}
    (first : method.parameters[arguments.length]? = some parameter)
    (required : parameter.default = none) :
    method.bindArguments className arguments =
      (arguments, some (.missingArgument ⟨className, method.name⟩ parameter.name)) := by
  have order := (List.take_append_drop arguments.length method.parameters).symm
  rw [drop_eq_cons first] at order
  have inside := (List.getElem?_eq_some_iff.mp first).1
  have matched := List.length_take_of_le (Nat.le_of_lt inside)
  have binds := @Binds.missing className _ _ _ [] _ _ [] order matched rfl required
  rw [List.append_nil] at binds
  exact bindArguments_eq_iff.mpr binds

/-- If all parameters that are left out have a default, the arguments are followed by these. -/
theorem bindArguments_of_optional (className : String)
    (fits : arguments.length ≤ method.parameters.length)
    (optional : ∀ parameter ∈ method.parameters.drop arguments.length,
      parameter.default.isSome = true) :
    ∃ filled, method.bindArguments className arguments = (arguments ++ filled, none) ∧
      filled.map some = (method.parameters.drop arguments.length).map Parameter.default := by
  have order := (List.take_append_drop arguments.length method.parameters).symm
  have matched := List.length_take_of_le fits
  rcases exists_run (method.parameters.drop arguments.length) with
    ⟨defaults, filled⟩ | ⟨run, parameter, rest, _, split, _, required⟩
  · exact ⟨defaults, bindArguments_eq_iff.mpr (.complete order matched filled), filled.symm⟩
  · have given := optional parameter (split ▸ List.mem_append_right _ List.mem_cons_self)
    rw [required] at given
    cases given

/-- Only more arguments than parameters are refused as too many. -/
theorem Binds.more {left : List Value} {target : MethodId} {expected given : Nat}
    (binds : Binds className method arguments left
      (some (.tooManyArguments target expected given))) :
    method.parameters.length < arguments.length := by
  cases binds with
  | surplus more => exact more

/-- Under a well-formed signature no default is filled in before a parameter that has none. -/
theorem Binds.unchanged (orderly : method.Orderly) {left : List Value} {cause : Refusal}
    (binds : Binds className method arguments left (some cause)) : left = arguments := by
  cases binds with
  | surplus more => rfl
  | @missing given run rest parameter defaults order matched filled required =>
      cases run with
      | nil =>
          obtain rfl := List.map_eq_nil_iff.mp filled.symm
          exact List.append_nil arguments
      | cons first run =>
          -- the first of the run has a default, and the parameter after it would need one
          have pairs := orderly.optionalLast
          rw [order, List.pairwise_append] at pairs
          have follows := (List.pairwise_cons.mp pairs.2.1).1 parameter
            (List.mem_append_right _ List.mem_cons_self)
          cases defaults with
          | nil => cases filled
          | cons value defaults =>
              rw [List.map_cons, List.map_cons, List.cons.injEq] at filled
              rw [filled.1, required] at follows
              cases follows rfl

/-- Where the signature is not well formed, a default stays though a later parameter is missing. -/
example : bindArguments "Cell" { name := "set", parameters :=
    [{ name := "value", default := some .null }, { name := "unit" }] } [] =
      ([.null], some (.missingArgument ⟨"Cell", "set"⟩ "unit")) :=
  rfl

/-- Arguments that are bound are bound again as they are. -/
theorem bindArguments_again {bound : List Value}
    (accepted : method.bindArguments className arguments = (bound, none)) :
    method.bindArguments className bound = (bound, none) := by
  have complete : (method.bindArguments className arguments).2 = none := by rw [accepted]
  have matched := length_of_bound complete
  rw [accepted] at matched
  have order : method.parameters = method.parameters ++ [] := (List.append_nil _).symm
  have binds := @Binds.complete className _ _ _ [] [] order matched.symm rfl
  rw [List.append_nil] at binds
  exact bindArguments_eq_iff.mpr binds

end Binding

/-- What can be relied on when arguments are bound. -/
structure Fills (className : String) (method : Method) (arguments : List Value) : Prop where
  /-- Binding ends in one of the three ways, and the parameters settle in which. -/
  ends {left : List Value} {refusal : Option Refusal} :
    method.bindArguments className arguments = (left, refusal) ↔
      Binds className method arguments left refusal
  /-- Arguments are refused as too many, and left alone, exactly if there are more of them than
  parameters. -/
  surplus : method.bindArguments className arguments =
      (arguments, some (.tooManyArguments ⟨className, method.name⟩ method.parameters.length
        arguments.length)) ↔ method.parameters.length < arguments.length
  /-- Under a well-formed signature arguments that are refused stay as they are. -/
  unchanged {left : List Value} {cause : Refusal} (wellFormed : method.signatureFault? = none)
    (refused : method.bindArguments className arguments = (left, some cause)) : left = arguments
  /-- Arguments that are bound are bound again as they are. -/
  again {bound : List Value}
    (accepted : method.bindArguments className arguments = (bound, none)) :
    method.bindArguments className bound = (bound, none)

/-- **Binding fills in the longest run of defaults**, and fails at the parameter after it. -/
theorem bindArguments_exact (className : String) (method : Method) (arguments : List Value) :
    Fills className method arguments := by
  constructor
  case ends => exact bindArguments_eq_iff
  case surplus =>
    constructor
    · exact fun refused => (bindArguments_eq_iff.mp refused).more
    · exact bindArguments_of_surplus className
  case unchanged =>
    intro left cause wellFormed refused
    exact (bindArguments_eq_iff.mp refused).unchanged (signatureFault?_eq_none_iff.mp wellFormed)
  case again => exact bindArguments_again

end AspectWeaver.Method
