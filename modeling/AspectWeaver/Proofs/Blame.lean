/-
**What a weaving is refused for is the first thing wrong in the class.**

A refusal that is about a directive carries the method, the name and the number of a line. There the
documentation of the method has a directive line of this name, and the directive on it is a built-in
one: a directive of any other name is read only if it names an annotation, and then it resolves.
What comes earlier, on the lines before and in the methods before, is in order.

* `exists_line_of_mem_parse`, `directives_increasing` — the directives of a method stand on lines of
  its documentation, in this order.
* `resolve_of_not_builtin` — **annotations resolve**: a directive that is not built in names an
  annotation and resolves to its handler.
* **`weave_blames`** — **a weaving that is refused at a place blames the first directive of the
  class that does not resolve**, and never one that names an annotation.
-/

import AspectWeaver.Proofs.Diagnostics
import AspectWeaver.Proofs.Grammar
import AspectWeaver.Proofs.Requests
import AspectWeaver.Proofs.Weaving

namespace AspectWeaver

variable {S : Interface} {σ : Type}

namespace Directive

variable {known : List String} {directive : Directive}

/-- A directive of a text has a known name, and stands on a directive line of this name, which has
its number. -/
theorem exists_line_of_mem_parse {text : String} (member : directive ∈ parse known text) :
    directive.name ∈ known ∧ ∃ line tail, 0 < directive.line ∧
      (text.toList.splitOn '\n')[directive.line - 1]? = some line ∧
      IsLine line directive.name.toList tail := by
  obtain ⟨index, line, here, number, gives⟩ := mem_parse_iff.mp member
  cases gives with
  | @gives name tail options _ form isKnown follow =>
      refine ⟨isKnown, line, tail, by omega, ?_, by simpa using form⟩
      rw [number, Nat.add_sub_cancel]
      exact here

end Directive

namespace Weaver

variable {weaver : Weaver S} {method : Method} {directive : Directive}

/-- A method has directives only if it has a documentation, and they are those of the text. -/
theorem mem_directives_iff :
    directive ∈ weaver.directives method ↔ ∃ text, method.documentation = some text ∧
      directive ∈ Directive.parse weaver.registry.knownNames text := by
  rw [directives]
  cases method.documentation with
  | none => simp [Directive.parseDocumentation]
  | some text => simp [Directive.parseDocumentation_some]

/-- The directives of a method come in the order of their lines. -/
theorem directives_increasing (weaver : Weaver S) (method : Method) :
    (weaver.directives method).Pairwise fun earlier later => earlier.line < later.line := by
  rw [directives]
  cases method.documentation with
  | none => exact .nil
  | some text =>
      rw [Directive.parseDocumentation_some]
      exact Directive.parse_increasing _ text

/-- A directive on an earlier line comes earlier. -/
theorem mem_of_line_lt {done rest : List Directive} {other : Directive}
    (order : weaver.directives method = done ++ directive :: rest)
    (member : other ∈ weaver.directives method) (before : other.line < directive.line) :
    other ∈ done := by
  have increasing := weaver.directives_increasing method
  rw [order, List.pairwise_append, List.pairwise_cons] at increasing
  rw [order, List.mem_append, List.mem_cons] at member
  rcases member with earlier | rfl | later
  · exact earlier
  · exact absurd before (Nat.lt_irrefl _)
  · exact absurd before (Nat.lt_asymm (increasing.2.1.1 _ later))

/-- **Annotations resolve**: a directive that is not built in names an annotation, and resolves to
its handler with all options. -/
theorem resolve_of_not_builtin (member : directive ∈ weaver.directives method)
    (custom : directive.isBuiltin = false) :
    ∃ binding, weaver.registry.find? directive.name = some binding ∧
      ∀ target, Chain.resolve weaver.registry target directive =
        .ok (binding.handler, directive.options) := by
  have other : ¬ isBuiltinName directive.name = true := by
    simpa [Directive.isBuiltin] using custom
  obtain ⟨text, _, parsed⟩ := mem_directives_iff.mp member
  have known := (Directive.exists_line_of_mem_parse parsed).1
  have registered : weaver.registry.contains directive.name = true :=
    (Registry.mem_knownNames_iff.mp known).resolve_left other
  obtain ⟨binding, found⟩ := Option.isSome_iff_exists.mp registered
  have unnamed : kindNamed? directive.name = none := by
    rwa [← Option.not_isSome_iff_eq_none, kindNamed?_isSome]
  exact ⟨binding, found, fun target => by rw [Chain.resolve, unnamed, found]⟩

/-- What a weaving blames that is refused at a place: a method of the class with methods before and
after it, and a directive of this method. -/
structure Blames (weaver : Weaver S) (host : Host S σ) (className : String) (world : World S σ)
    (cause : Refusal) (before : List Method) (method : Method) (after : List Method)
    (directive : Directive) : Prop where
  /-- The method is found by its name. -/
  listed : world.classes.methods? className = some (before ++ method :: after) ∧
    (world.classes.entry? ⟨className, method.name⟩).map Entry.method = some method
  /-- The directive is a built-in one. -/
  builtin : directive.name = "info" ∨ directive.name = "before" ∨ directive.name = "after" ∨
    directive.name = "around"
  /-- Between the line feeds of the documentation there is, at the number of the line, a directive
  line of this name. -/
  written : ∃ text line tail, method.documentation = some text ∧ 0 < directive.line ∧
    (text.toList.splitOn '\n')[directive.line - 1]? = some line ∧
    Directive.IsLine line directive.name.toList tail
  /-- The directive is read there, and it does not resolve. -/
  refused : directive ∈ weaver.directives method ∧
    Chain.resolve weaver.registry ⟨className, method.name⟩ directive = .error cause
  /-- Every directive on an earlier line of the documentation resolves. -/
  resolved : ∀ earlier ∈ weaver.directives method, earlier.line < directive.line →
    ∃ handler options,
      Chain.resolve weaver.registry ⟨className, method.name⟩ earlier = .ok (handler, options)
  /-- The methods before are woven, none of them fails, and then this one is the first that does. -/
  woven : ∃ told middle last,
    weaver.weaveAll host className before { className := className }
      (world.write (.weaving className (before ++ method :: after).length)) =
        some (.ok told, middle) ∧
      weaver.weaveMethod host className method told middle = some (.error cause, last)

/-- A directive that a weaving is refused for is a built-in one, on a line of its name. -/
theorem RefusedFor.blames {host : Host S σ} {className : String} {world : World S σ}
    {cause : Refusal} {before after : List Method} (reachable : world.classes.Reachable)
    (refused : weaver.RefusedFor host className world cause before method after directive) :
    weaver.Blames host className world cause before method after directive := by
  obtain ⟨done, rest, order, resolves⟩ := refused.first
  have member : directive ∈ weaver.directives method := by
    rw [order]
    exact List.mem_append_right _ List.mem_cons_self
  constructor
  case listed =>
    have inside : method ∈ before ++ method :: after :=
      List.mem_append_right _ List.mem_cons_self
    exact ⟨refused.listed,
      ClassTable.map_method_of_mem reachable.wellFormed refused.listed inside⟩
  case builtin =>
    by_contra other
    have custom : directive.isBuiltin = false := by
      simpa [Directive.isBuiltin, isBuiltinName, builtinNames] using other
    obtain ⟨binding, _, resolved⟩ := resolve_of_not_builtin member custom
    have failed := refused.refused
    rw [resolved] at failed
    cases failed
  case written =>
    obtain ⟨text, documented, parsed⟩ := mem_directives_iff.mp member
    obtain ⟨_, line, tail, counted, here, form⟩ := Directive.exists_line_of_mem_parse parsed
    exact ⟨text, line, tail, documented, counted, here, form⟩
  case refused => exact ⟨member, refused.refused⟩
  case resolved =>
    intro earlier inside before
    obtain ⟨handler, asks, fits⟩ := resolves earlier (mem_of_line_lt order inside before)
    exact ⟨handler, earlier.handed, Chain.resolve_eq_ok_iff.mpr ⟨asks, rfl, fits⟩⟩
  case woven => exact refused.woven

/-- **A weaving that is refused at a place blames the first directive of the class that does not
resolve**, a built-in one that stands there. A directive that names an annotation is never blamed,
for it resolves; and `@info` names the built-in directive, also where an annotation of this name is
registered. -/
theorem weave_blames {host : Host S σ} {className : String} {world later : World S σ}
    {cause : Refusal} {site : DirectiveSite} (reachable : world.classes.Reachable)
    (runs : weaver.weave host className world = some (.error cause, later))
    (blames : cause.site? = some site) :
    (∃ before method after directive, site = directive.site ⟨className, method.name⟩ ∧
        weaver.Blames host className world cause before method after directive) ∧
      ∀ method directive, directive ∈ weaver.directives method → directive.isBuiltin = false →
        ∃ binding, weaver.registry.find? directive.name = some binding ∧
          ∀ target, Chain.resolve weaver.registry target directive =
            .ok (binding.handler, directive.options) := by
  obtain ⟨before, method, after, directive, place, refused⟩ := exists_refused_of_weave runs blames
  refine ⟨⟨before, method, after, directive, place, refused.blames reachable⟩, ?_⟩
  exact fun method directive => resolve_of_not_builtin

/-- A class with a method in order and one that asks for a function that is not there, on the fifth
line of its documentation. -/
def unfinished : World Interface.idle Unit :=
  jobs [documented "index" "Finds.\r\n * @note a\r\n", documented "idle" "Does nothing.",
    documented "run" "/**\r\n * Runs.\r\n * @before log\r\n\n\t@before stamp now */\n@after log"]

/-- The second directive of the last method is blamed, by its line. -/
theorem weave_blames_stamp :
    unfinished.classes.Reachable ∧
      ∃ later, Weaver.weave ⟨noting ["log"], .skip⟩ .idle "Job" unfinished =
          some (.error (.unknownHandler ⟨⟨"Job", "run"⟩, "before", 5⟩ "stamp"), later) ∧
        ∃ before method after directive,
          (⟨⟨"Job", "run"⟩, "before", 5⟩ : DirectiveSite) = directive.site ⟨"Job", method.name⟩ ∧
            Blames ⟨noting ["log"], .skip⟩ .idle "Job" unfinished
              (.unknownHandler ⟨⟨"Job", "run"⟩, "before", 5⟩ "stamp") before method after
              directive := by
  have reachable : unfinished.classes.Reachable := jobs_reachable (by decide) rfl
  obtain ⟨later, runs⟩ := refused?_eq_some_iff.mp (show
    Weaver.refused? ⟨noting ["log"], .skip⟩ .idle "Job" unfinished =
      some (.unknownHandler ⟨⟨"Job", "run"⟩, "before", 5⟩ "stamp") by decide +kernel)
  exact ⟨reachable, later, runs, (weave_blames reachable runs rfl).1⟩

end Weaver

end AspectWeaver
