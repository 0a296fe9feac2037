/-
**Refusals of a weaving, and the directives they are about.**

A refusal can be about a directive, and then it carries the place of it. Such a refusal comes from
nowhere but from a directive at that place that does not resolve, whatever handlers do meanwhile.

* `site_of_refused` — a directive that does not resolve is refused at its place.
* `extend_resolved`, `extend_append` — a directive that resolves is taken into the chain, and two
  lists of directives are taken one after the other.
* `refused_of_extend`, `refused_of_weaveMethod`, `refused_of_weaveAll` — why a chain is not built, a
  method not woven, and which of several methods it is.
* **`exists_refused_of_weave`** — **a weaving that is refused at a place has a directive there that
  does not resolve**, on a method of the class.
-/

import AspectWeaver.Proofs.Building
import AspectWeaver.Proofs.Steps

namespace AspectWeaver

variable {S : Interface} {σ : Type}

/-- The place of a directive of a method. -/
def Directive.site (target : MethodId) (directive : Directive) : DirectiveSite :=
  ⟨target, directive.name, directive.line⟩

/-- The place of the directive that a refusal is about, if it is about one that does not resolve. -/
def Refusal.site? : Refusal → Option DirectiveSite
  | .missingHandler site | .unknownHandler site _ | .handlerKindMismatch site _ _ _ => some site
  | .invalidName _ | .reservedName _ | .duplicateName _ | .notInvocable _ _ | .invalidKind _
  | .classNotFound _ | .alreadyWoven _ | .infoHandlerFailed _ _ _ | .methodNotFound _
  | .methodExists _ | .malformedSignature _ _ | .missingArgument _ _ | .tooManyArguments _ _ _
  | .missingReceiver _ | .notAccessible _ _ _ => none

namespace ClassTable

/-- To look for a method is refused without regard to directives. -/
theorem site_of_entry {table : ClassTable S} {target : MethodId} {cause : Refusal}
    (absent : table.entry target = .error cause) : cause.site? = none := by
  unfold entry at absent
  split at absent
  · cases absent
    rfl
  · split at absent
    · cases absent
      rfl
    · cases absent

end ClassTable

/-! ### Building a chain -/

namespace Chain

/-- Takes a handler with its options into a chain, on behalf of a directive, and goes on with the
directives that are left: an `info` handler runs at once, any other is added to the list of its
kind. -/
def adopt (registry : Registry S) (target : MethodId) (directive : Directive)
    (options : List String) (rest : List Directive) (chain : Chain S) :
    Handler S → Program (Hosted S) (Except Refusal (Chain S))
  | .info handle =>
      (writeLog (.runningInfo directive.name target)).bind fun _ =>
        (handle target options).bind fun
          | .error failure =>
              .done (.error (.infoHandlerFailed target directive.name failure.fullMessage))
          | .ok () => extend registry target rest { chain with infoRuns := chain.infoRuns + 1 }
  | .before handle =>
      extend registry target rest
        { chain with before := chain.before ++ [⟨directive.name, handle, options⟩] }
  | .after handle =>
      extend registry target rest
        { chain with after := chain.after ++ [⟨directive.name, handle, options⟩] }
  | .around handle =>
      extend registry target rest
        { chain with around := chain.around ++ [⟨directive.name, handle, options⟩] }

section Building

variable {registry : Registry S} {host : Host S σ} {target : MethodId} {directive : Directive}
  {handler : Handler S} {options : List String} {rest : List Directive} {chain : Chain S}
  {cause : Refusal} {result : Except Refusal (Chain S)} {world later : World S σ}

/-- A directive that does not resolve is refused at its place. -/
theorem site_of_refused (refused : resolve registry target directive = .error cause) :
    cause.site? = some (directive.site target) := by
  unfold resolve at refused
  dsimp only at refused
  split at refused
  · split at refused
    · cases refused
      rfl
    · cases refused
  · split at refused
    · cases refused
      rfl
    · split at refused
      · cases refused
        rfl
      · split at refused
        · cases refused
        · cases refused
          rfl

/-- A directive that resolves is taken into the chain. -/
theorem extend_resolved (resolved : resolve registry target directive = .ok (handler, options))
    (rest : List Directive) (chain : Chain S) :
    extend registry target (directive :: rest) chain =
      adopt registry target directive options rest chain handler := by
  rw [extend, resolved]
  cases handler <;> rfl

/-- Two lists of directives are taken into a chain one after the other, if the first one is taken as
a whole. -/
theorem extend_append (registry : Registry S) (target : MethodId) (first second : List Directive)
    (chain : Chain S) :
    extend registry target (first ++ second) chain =
      (extend registry target first chain).bind fun
        | .error cause => .done (.error cause)
        | .ok built => extend registry target second built := by
  induction first generalizing chain with
  | nil => rfl
  | cons directive rest ih =>
      rw [List.cons_append]
      cases resolved : resolve registry target directive with
      | error cause =>
          rw [extend_refused resolved, extend_refused resolved]
          rfl
      | ok asked =>
          obtain ⟨handler, options⟩ := asked
          rw [extend_resolved resolved, extend_resolved resolved]
          cases handler with
          | before handle => exact ih _
          | after handle => exact ih _
          | around handle => exact ih _
          | info handle =>
              simp only [adopt, Program.bind_assoc]
              congr 1
              funext _
              congr 1
              funext ended
              cases ended with
              | error failure => rfl
              | ok _ => exact ih _

/-- **A chain is refused at a place** for the first directive that does not resolve, and it stands
there. -/
theorem refused_of_extend {directives : List Directive}
    (runs : (extend registry target directives chain).run host world =
      some (.error cause, later)) :
    (∃ done directive rest, directives = done ++ directive :: rest ∧
        (∀ earlier ∈ done, earlier.Resolves registry) ∧
        resolve registry target directive = .error cause) ∨
      cause.site? = none := by
  rw [← extendTold_snd] at runs
  obtain ⟨told, stops⟩ : ∃ told, Stops registry target directives cause told :=
    ⟨_, (extendTold_run (Prod.ext rfl runs)).2⟩
  cases stops with
  | unresolved order resolved refused => exact .inl ⟨_, _, _, order, resolved, refused⟩
  | failed _ _ _ _ => exact .inr rfl

end Building

end Chain

/-! ### Weaving -/

namespace Weaver

variable {weaver : Weaver S} {host : Host S σ} {className : String} {method : Method}
  {chain : Chain S} {report : WeaveReport} {cause : Refusal} {world later : World S σ}

/-- To install a chain is refused only where the method is not found. -/
theorem site_of_apply
    (refused : apply className method chain report world = (.error cause, later)) :
    cause.site? = none := by
  rcases apply_cases refused with ⟨_, same, _, absent⟩ | ⟨⟨_, same⟩, _⟩
  · cases same
    exact ClassTable.site_of_entry absent
  · cases same

/-- A method is refused at a place for the first of its directives that does not resolve. -/
theorem refused_of_weaveMethod
    (runs : weaver.weaveMethod host className method report world = some (.error cause, later)) :
    (∃ done directive rest, weaver.directives method = done ++ directive :: rest ∧
        (∀ earlier ∈ done, earlier.Resolves weaver.registry) ∧
        Chain.resolve weaver.registry ⟨className, method.name⟩ directive = .error cause) ∨
      cause.site? = none := by
  rw [weaveMethod_def] at runs
  split at runs
  · cases runs
  · split at runs
    · split at runs
      · cases runs
      · cases runs
        exact .inr rfl
    · split at runs
      · cases runs
      · rename_i because middle built
        cases runs
        exact Chain.refused_of_extend built
      · exact .inr (site_of_apply (Option.some.inj runs))

/-- Methods in order are refused for one of them, and those before it are woven. -/
theorem refused_of_weaveAll {methods : List Method}
    (runs : weaver.weaveAll host className methods report world = some (.error cause, later)) :
    ∃ before method after told middle, methods = before ++ method :: after ∧
      weaver.weaveAll host className before report world = some (.ok told, middle) ∧
      weaver.weaveMethod host className method told middle = some (.error cause, later) := by
  induction methods generalizing report world with
  | nil => cases runs
  | cons method rest ih =>
      rcases weaveAll_cases runs with ⟨because, same, refused⟩ | ⟨reached, next, woven, left⟩
      · cases same
        exact ⟨[], method, rest, report, world, rfl, rfl, refused⟩
      · obtain ⟨before, other, after, told, middle, rfl, all, refused⟩ := ih left
        refine ⟨method :: before, other, after, told, middle, rfl, ?_, refused⟩
        rw [weaveAll, woven]
        exact all

/-- The weaving of a class is refused for a directive of a method: one that does not resolve, while
the directives of the method before it do, and the methods before are woven. -/
structure RefusedFor (weaver : Weaver S) (host : Host S σ) (className : String) (world : World S σ)
    (cause : Refusal) (before : List Method) (method : Method) (after : List Method)
    (directive : Directive) : Prop where
  listed : world.classes.methods? className = some (before ++ method :: after)
  woven : ∃ told middle last,
    weaver.weaveAll host className before { className := className }
      (world.write (.weaving className (before ++ method :: after).length)) =
        some (.ok told, middle) ∧
      weaver.weaveMethod host className method told middle = some (.error cause, last)
  first : ∃ done rest, weaver.directives method = done ++ directive :: rest ∧
    ∀ earlier ∈ done, earlier.Resolves weaver.registry
  refused : Chain.resolve weaver.registry ⟨className, method.name⟩ directive = .error cause

/-- **A weaving that is refused at a place has a directive there that does not resolve**, on a
method of the class as it was when the weaving began. -/
theorem exists_refused_of_weave {site : DirectiveSite}
    (runs : weaver.weave host className world = some (.error cause, later))
    (blames : cause.site? = some site) :
    ∃ before method after directive, site = directive.site ⟨className, method.name⟩ ∧
      weaver.RefusedFor host className world cause before method after directive := by
  rcases weave_cases runs with ⟨_, absent, _⟩ | ⟨methods, last, listed, all, _⟩
  · cases absent
    cases blames
  · obtain ⟨before, method, after, told, middle, rfl, woven, ended⟩ := refused_of_weaveAll all
    rcases refused_of_weaveMethod ended with
      ⟨done, directive, rest, order, resolves, refused⟩ | silent
    · have place := Chain.site_of_refused refused
      rw [blames] at place
      exact ⟨before, method, after, directive, Option.some.inj place,
        listed, ⟨told, middle, last, woven, ended⟩, ⟨done, rest, order, resolves⟩, refused⟩
    · rw [blames] at silent
      cases silent

end Weaver

end AspectWeaver
