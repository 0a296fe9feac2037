/-
**More annotations and functions change nothing where they are not asked for.**

A class is woven with a registry and with one that has further entries. If no documentation of the
class has a directive line that names one of the new annotations, the directives of its methods are
the same. What they resolve to stays, so a weaving that succeeds does so with the further entries,
and does the same.

* `parse_congr` — the directives of a text depend only on which of the names on its directive lines
  are known.
* `weaveMethod_congr` — one method: the same directives and the same building give the same weaving.
* `Alike` — registries that know the same names and resolve directives alike.
* **`weave_conservative`** — **further entries are conservative**: a weaving that succeeds stays as
  it is. An annotation named `info` never changes a weaving, whether it succeeds or fails.
-/

import AspectWeaver.Proofs.Grammar
import AspectWeaver.Proofs.Growing
import AspectWeaver.Proofs.Weaving

namespace AspectWeaver

variable {S : Interface} {σ : Type}

/-! ### Names on directive lines -/

/-- The documentation of the method has a directive line of this name. -/
def Method.Mentions (method : Method) (name : String) : Prop :=
  ∃ text line tail, method.documentation = some text ∧ line ∈ text.toList.splitOn '\n' ∧
    Directive.IsLine line name.toList tail

/-- Whether a documentation has a directive line of a name is told by reading its lines. -/
theorem Method.mentions_iff {method : Method} {name : String} :
    method.Mentions name ↔
      (method.documentation.any fun text => (Text.lines text.toList).any fun line =>
        (Directive.readLine line).any fun parts => parts.1 = name.toList) = true := by
  simp only [Method.Mentions, Option.any_eq_true, List.any_eq_true, decide_eq_true_eq,
    Text.lines_eq_splitOn]
  constructor
  · rintro ⟨text, line, tail, documented, member, form⟩
    exact ⟨text, documented, line, member, _, Directive.readLine_eq_some_iff.mpr form, rfl⟩
  · rintro ⟨text, documented, line, member, ⟨_, tail⟩, read, rfl⟩
    exact ⟨text, line, tail, documented, member, Directive.readLine_eq_some_iff.mp read⟩

instance (method : Method) (name : String) : Decidable (method.Mentions name) :=
  decidable_of_iff _ Method.mentions_iff.symm

namespace Directive

variable {known other : List String}

/-- What a line says depends only on whether its name is known. -/
theorem Gives.congr {line : List Char} {directive : Directive}
    (same : ∀ name tail, IsLine line name tail →
      String.ofList name ∈ known → String.ofList name ∈ other)
    (gives : Gives known line directive) : Gives other line directive := by
  cases gives with
  | gives form isKnown follow => exact .gives form (same _ _ form isKnown) follow

/-- The directives of a text depend only on which of the names on its directive lines are known. -/
theorem parse_congr {text : String}
    (same : ∀ line ∈ text.toList.splitOn '\n', ∀ name tail, IsLine line name tail →
      (String.ofList name ∈ known ↔ String.ofList name ∈ other)) :
    parse known text = parse other text := by
  rw [parse, parse, ofLines_eq_filterMap, ofLines_eq_filterMap, Text.lines_eq_splitOn]
  refine List.filterMap_congr fun numbered member => ?_
  have here := same numbered.1 (List.fst_mem_of_mem_zipIdx member)
  ext directive
  rw [ofLine?_eq_some_iff, ofLine?_eq_some_iff]
  refine and_congr_right fun _ => ⟨?_, ?_⟩
  · exact Gives.congr fun name tail form => (here name tail form).mp
  · exact Gives.congr fun name tail form => (here name tail form).mpr

end Directive

namespace Weaver

/-- The directives of a method depend only on which of the names are known that its documentation
mentions. -/
theorem directives_congr {weaver other : Weaver S} {method : Method}
    (same : ∀ name, method.Mentions name →
      (name ∈ other.registry.knownNames ↔ name ∈ weaver.registry.knownNames)) :
    other.directives method = weaver.directives method := by
  rw [directives, directives]
  cases documented : method.documentation with
  | none => rfl
  | some text =>
      rw [Directive.parseDocumentation_some, Directive.parseDocumentation_some]
      refine Directive.parse_congr fun line member name tail form => same _ ?_
      exact ⟨text, line, tail, documented, member, by simpa using form⟩

/-! ### The same directives and the same building -/

/-- **One method is woven just so** with the same policy and the same directives, if its chain is
built just so when it is due. -/
theorem weaveMethod_congr (weaver other : Weaver S) {host : Host S σ} {className : String}
    {method : Method} {world : World S σ} (policy : other.policy = weaver.policy)
    (same : other.directives method = weaver.directives method)
    (built : ((weaver.directives method).isEmpty ||
        world.classes.isProcessed ⟨className, method.name⟩) = false →
      Chain.extendTold other.registry host ⟨className, method.name⟩ (weaver.directives method) {}
          world =
        Chain.extendTold weaver.registry host ⟨className, method.name⟩ (weaver.directives method)
          {} world)
    (report : WeaveReport) :
    other.weaveMethod host className method report world =
        weaver.weaveMethod host className method report world ∧
      other.methodRuns host className method world =
        weaver.methodRuns host className method world := by
  rw [weaveMethod_def, weaveMethod_def, methodRuns, methodRuns, policy, same]
  cases asks : (weaver.directives method).isEmpty with
  | true => exact ⟨rfl, rfl⟩
  | false =>
      cases marked : world.classes.isProcessed ⟨className, method.name⟩ with
      | true => exact ⟨rfl, rfl⟩
      | false =>
          have equal := built (by rw [asks, marked]; rfl)
          rw [Chain.build, Chain.build, ← Chain.extendTold_snd, ← Chain.extendTold_snd,
            Chain.toldRuns, Chain.toldRuns, equal]
          exact ⟨rfl, rfl⟩

/-! ### Further entries -/

section Grows

variable {registry extended : Registry S} {policy : ReweavePolicy} {host : Host S σ}
  {className : String} {method : Method} {report told : WeaveReport} {world later : World S σ}

/-- A method that is woven is woven just so with further entries, if it has the same directives. -/
theorem weaveMethod_of_grows (grows : registry.Grows extended)
    (same : directives ⟨extended, policy⟩ method = directives ⟨registry, policy⟩ method)
    (runs : weaveMethod ⟨registry, policy⟩ host className method report world =
      some (.ok told, later)) :
    weaveMethod ⟨extended, policy⟩ host className method report world =
        weaveMethod ⟨registry, policy⟩ host className method report world ∧
      methodRuns ⟨extended, policy⟩ host className method world =
        methodRuns ⟨registry, policy⟩ host className method world := by
  refine weaveMethod_congr ⟨registry, policy⟩ ⟨extended, policy⟩ rfl same (fun busy => ?_) report
  rcases weaveMethod_cases runs with
    ⟨idle, _⟩ | ⟨_, ⟨cause, refused, _⟩ | ⟨chain, middle, built, _⟩⟩
  · rw [busy] at idle
    cases idle
  · cases refused
  · rw [Chain.build, ← Chain.extendTold_snd] at built
    have ended := grows.extendTold (Prod.ext rfl built)
    rw [ended]
    exact Prod.ext rfl built.symm

/-- Methods that are woven in order are woven just so with further entries. -/
theorem weaveAll_of_grows (grows : registry.Grows extended) {methods : List Method}
    (same : ∀ method ∈ methods,
      directives ⟨extended, policy⟩ method = directives ⟨registry, policy⟩ method)
    (runs : weaveAll ⟨registry, policy⟩ host className methods report world =
      some (.ok told, later)) :
    weaveAll ⟨extended, policy⟩ host className methods report world = some (.ok told, later) ∧
      allRuns ⟨extended, policy⟩ host className methods report world =
        allRuns ⟨registry, policy⟩ host className methods report world := by
  induction methods generalizing report world with
  | nil => exact ⟨runs, rfl⟩
  | cons method rest ih =>
      obtain ⟨here, others⟩ := List.forall_mem_cons.mp same
      rcases weaveAll_cases runs with ⟨cause, refused, _⟩ | ⟨between, middle, woven, continued⟩
      · cases refused
      · obtain ⟨first, silent⟩ := weaveMethod_of_grows grows here woven
        obtain ⟨last, quiet⟩ := ih others continued
        rw [weaveAll, allRuns, allRuns, first, silent, woven]
        dsimp only
        rw [quiet]
        exact ⟨last, rfl⟩

end Grows

end Weaver

/-! ### Registries that are alike -/

namespace Registry

/-- The registries know the same names, and resolve each directive alike. -/
structure Alike (registry other : Registry S) : Prop where
  known (name : String) : name ∈ other.knownNames ↔ name ∈ registry.knownNames
  resolve (target : MethodId) (directive : Directive) :
    Chain.resolve other target directive = Chain.resolve registry target directive

/-- Registries that are alike build chains alike. -/
theorem Alike.extendTold {registry other : Registry S} (alike : registry.Alike other)
    (host : Host S σ) (target : MethodId) (directives : List Directive) (chain : Chain S)
    (world : World S σ) :
    Chain.extendTold other host target directives chain world =
      Chain.extendTold registry host target directives chain world := by
  induction directives generalizing chain world with
  | nil => rfl
  | cons directive rest ih =>
      rw [Chain.extendTold, Chain.extendTold, alike.resolve]
      simp only [ih]

/-- An annotation named `info` leaves a registry alike: the name is that of a built-in directive,
and such a directive names a function. -/
theorem alike_of_register_info {registry extended : Registry S} {handler : Handler S} {kind : Kind}
    (accepted : registry.register "info" handler kind = (.ok (), extended)) :
    registry.Alike extended := by
  have found (name : String) (other : name ≠ "info") :
      extended.find? name = registry.find? name := by
    rw [find?_registerWithCode accepted, if_neg other]
  constructor
  case known =>
    intro name
    rw [mem_knownNames_iff, mem_knownNames_iff]
    by_cases named : name = "info"
    · subst named
      exact iff_of_true (.inl rfl) (.inl rfl)
    · rw [contains, contains, found name named]
  case resolve =>
    intro target directive
    obtain ⟨_, _, _, _, rfl⟩ := registerWithCode_eq_ok accepted
    rw [Chain.resolve, Chain.resolve]
    cases builtin : kindNamed? directive.name with
    | none =>
        have other : directive.name ≠ "info" := by
          intro named
          rw [named] at builtin
          cases builtin
        dsimp only
        rw [found _ other]
    | some kind => rfl

end Registry

namespace Weaver

section Alike

variable {registry other : Registry S}

/-- Registries that are alike weave alike, whether the weaving succeeds, fails or comes to no
end. -/
theorem weave_of_alike (alike : registry.Alike other) (policy : ReweavePolicy) (host : Host S σ)
    (className : String) (world : World S σ) :
    weave ⟨other, policy⟩ host className world = weave ⟨registry, policy⟩ host className world ∧
      infoRuns ⟨other, policy⟩ host className world =
        infoRuns ⟨registry, policy⟩ host className world := by
  have one (method : Method) (report : WeaveReport) (world : World S σ) :
      weaveMethod ⟨other, policy⟩ host className method report world =
          weaveMethod ⟨registry, policy⟩ host className method report world ∧
        methodRuns ⟨other, policy⟩ host className method world =
          methodRuns ⟨registry, policy⟩ host className method world :=
    weaveMethod_congr ⟨registry, policy⟩ ⟨other, policy⟩ rfl
      (directives_congr fun name _ => alike.known name)
      (fun _ => alike.extendTold host _ _ _ world) report
  have all (methods : List Method) (report : WeaveReport) (world : World S σ) :
      weaveAll ⟨other, policy⟩ host className methods report world =
          weaveAll ⟨registry, policy⟩ host className methods report world ∧
        allRuns ⟨other, policy⟩ host className methods report world =
          allRuns ⟨registry, policy⟩ host className methods report world := by
    induction methods generalizing report world with
    | nil => exact ⟨rfl, rfl⟩
    | cons method rest ih =>
        rw [weaveAll, weaveAll, allRuns, allRuns, (one method report world).1,
          (one method report world).2]
        simp only [ih, and_self]
  rw [weave, weave, infoRuns, infoRuns]
  simp only [all, and_self]

end Alike

/-! ### Conservation -/

/-- **Further entries are conservative.** If no documentation of the class has a directive line that
names a new annotation, `info` apart, a weaving that succeeds also does so with the further entries,
with the same report, the same runs of `info` handlers and the same world after it: the same bodies
and marks in every class. And one more annotation named `info` never changes a weaving, whether it
succeeds or fails. -/
theorem weave_conservative {registry extended : Registry S} (grown : registry.Extends extended) :
    (∀ (policy : ReweavePolicy) (host : Host S σ) (className : String) (world later : World S σ)
        (told : WeaveReport),
      (∀ methods, world.classes.methods? className = some methods → ∀ method ∈ methods,
        ∀ name, method.Mentions name → extended.contains name = true →
          registry.contains name = true ∨ name = "info") →
      weave ⟨registry, policy⟩ host className world = some (.ok told, later) →
      weave ⟨extended, policy⟩ host className world = some (.ok told, later) ∧
        infoRuns ⟨extended, policy⟩ host className world =
          infoRuns ⟨registry, policy⟩ host className world) ∧
    ∀ (handler : Handler S) (kind : Kind) (informed : Registry S),
      extended.register "info" handler kind = (.ok (), informed) →
      ∀ (policy : ReweavePolicy) (host : Host S σ) (className : String) (world : World S σ),
        weave ⟨informed, policy⟩ host className world =
            weave ⟨extended, policy⟩ host className world ∧
          infoRuns ⟨informed, policy⟩ host className world =
            infoRuns ⟨extended, policy⟩ host className world := by
  have grows := grown.grows
  constructor
  · intro policy host className world later told unmentioned runs
    rcases weave_cases runs with ⟨_, refused, _⟩ | ⟨methods, last, listed, all, logged⟩
    · cases refused
    · have same : ∀ method ∈ methods,
          directives ⟨extended, policy⟩ method = directives ⟨registry, policy⟩ method := by
        intro method member
        refine directives_congr fun name mentioned => ?_
        rw [Registry.mem_knownNames_iff, Registry.mem_knownNames_iff]
        constructor
        · rintro (builtin | contained)
          · exact .inl builtin
          · rcases unmentioned methods listed method member name mentioned contained with
              former | rfl
            · exact .inr former
            · exact .inl rfl
        · exact Or.imp_right grows.contains
      obtain ⟨woven, silent⟩ := weaveAll_of_grows grows same all
      rw [weave, listed] at runs ⊢
      rw [infoRuns, infoRuns, listed]
      dsimp only at runs ⊢
      rw [all] at runs
      rw [woven]
      exact ⟨runs, silent⟩
  · intro handler kind informed accepted policy host className world
    exact weave_of_alike (Registry.alike_of_register_info accepted) policy host className world

/-! ### A registry that is extended -/

/-- A registry with an annotation, and with a function for calls and one for weavings. -/
def counting : Registry Interface.idle :=
  { noting ["stamp"] with
    functions := (noting ["stamp"]).functions ++ [⟨"count", .info fun _ _ => .done (.ok ())⟩] }

/-- The registry with an annotation and a function more. -/
def auditing : Registry Interface.idle where
  bindings := counting.bindings ++
    [("audit", ⟨"audit", .before, .before fun _ _ => .done (.ok ())⟩)]
  functions := counting.functions ++ [⟨"lock", .before fun _ _ => .done (.ok ())⟩]

/-- A handler for weavings that always fails. -/
def refusing : Handler Interface.idle := .info fun _ _ => .done (.error (.raised "never" none))

/-- Methods with all sorts of directive lines, one of which names nothing that is known. -/
def countedMethods : List (Entry Interface.idle) :=
  [documented "index" "@note a\n@info count b\n@before stamp", documented "run" "@audits c"]

theorem auditing_extends : counting.Extends auditing := by
  let pass : Handler Interface.idle := .before fun _ _ => .done (.ok ())
  let audited : Registry Interface.idle := { counting with bindings := auditing.bindings }
  have registered : counting.register "audit" pass .before = (.ok (), audited) := rfl
  have defined : audited.defineFunction "lock" pass = (.ok (), auditing) := rfl
  exact .define (.register .nothing registered) defined

/-- The class is woven alike with each of the registries, also where `info` is an annotation that
always fails. -/
theorem weave_conservative_counted :
    counting.Extends auditing ∧
    (∀ method ∈ countedMethods.map Entry.method, ¬ method.Mentions "audit") ∧
    ∃ (informed : Registry Interface.idle) (told : WeaveReport)
        (later : World Interface.idle Unit),
      auditing.register "info" refusing .info = (.ok (), informed) ∧ told.wrapped = ["index"] ∧
      weave ⟨counting, .skip⟩ .idle "Job" (jobs countedMethods) = some (.ok told, later) ∧
      weave ⟨auditing, .skip⟩ .idle "Job" (jobs countedMethods) = some (.ok told, later) ∧
      weave ⟨informed, .skip⟩ .idle "Job" (jobs countedMethods) = some (.ok told, later) := by
  obtain ⟨told, later, runs, names⟩ := wrapped?_eq_some_iff.mp
    (show wrapped? ⟨counting, .skip⟩ .idle "Job" (jobs countedMethods) = some ["index"]
      by decide +kernel)
  have silent : ∀ method ∈ countedMethods.map Entry.method, ¬ method.Mentions "audit" := by
    decide +kernel
  have unmentioned : ∀ methods, (jobs countedMethods).classes.methods? "Job" = some methods →
      ∀ method ∈ methods, ∀ name, method.Mentions name → auditing.contains name = true →
        counting.contains name = true ∨ name = "info" := by
    rintro methods ⟨⟩ method member name mentioned contained
    refine .inl ?_
    by_cases new : name = "audit"
    · subst new
      exact absurd mentioned (silent method member)
    · rw [Registry.contains, Registry.find?, auditing, Named.lookup?_append_one,
        if_neg (Ne.symm new), Option.or_none] at contained
      exact contained
  obtain ⟨conserved, alike⟩ := weave_conservative auditing_extends
  have same := (conserved .skip .idle "Job" _ _ told unmentioned runs).1
  obtain ⟨informed, accepted⟩ : ∃ informed,
      auditing.register "info" refusing .info = (.ok (), informed) := ⟨_, rfl⟩
  have equal := (alike refusing .info informed accepted .skip .idle "Job" (jobs countedMethods)).1
  exact ⟨auditing_extends, silent, informed, told, later, accepted, names, runs, same,
    equal.trans same⟩

end Weaver

end AspectWeaver
