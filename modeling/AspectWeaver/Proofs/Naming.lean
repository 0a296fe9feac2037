/-
**Names in a registry, and the lines that use them.**

A registry accepts names by rules of its own, and a text is read by others. An annotation may have
letters a to z in any case of Unicode in its name, and a directive only those of ASCII; a function
may have any name without blanks, and a name that ends as a comment ends is read without its end.

* `readLine_annotation` — how a line is read that has nothing but the name of an annotation.
* **`parse_registered`** — **what is registered can be used, but for two letters**: the Kelvin sign
  and the long s are accepted and never read back.
* `Names.writes` — a line that names a function is written for a directive with one option.
* `site_ne_of_resolved`, `exists_build_of_resolved`, `served_of_weave` — what a weaving does with a
  directive that resolves: it is not refused for it, takes its handler into the chain, and has run
  the handler or put it into the body when it is through.
* **`function_honoured`** — **what is defined can be named**, and whoever weaves the method gets
  that function and no other; a name that ends as a comment ends needs the end of a comment after
  it.
-/

import AspectWeaver.Proofs.Diagnostics
import AspectWeaver.Proofs.Layout
import AspectWeaver.Proofs.Requests
import AspectWeaver.Proofs.Weaving

namespace AspectWeaver

variable {S : Interface} {σ : Type}

/-! ### Annotations -/

namespace Directive

/-- A line that begins with an at sign is read from there. -/
theorem readLine_sign {rest : List Char} (single : '\r' ∉ rest) :
    readLine ('@' :: rest) =
      if !(rest.takeWhile Text.isNameChar).isEmpty && isTail (rest.dropWhile Text.isNameChar) then
        some (rest.takeWhile Text.isNameChar, rest.dropWhile Text.isNameChar)
      else none := by
  have whole : Text.dropReturn ('@' :: rest) = '@' :: rest := by
    rw [Text.dropReturn, if_neg]
    intro last
    rcases List.mem_cons.mp (List.mem_of_getLast? last) with same | inside
    · cases same
    · exact single inside
  rw [readLine, whole]
  rfl

/-- What is not a name character ends a name, and only a space or a tab may stand there. -/
theorem isTail_dropWhile {name : List Char}
    (letters : ∀ c ∈ name, Text.isNameCharAnyCase c = true) :
    isTail (name.dropWhile Text.isNameChar) = true ↔ ∀ c ∈ name, Text.isNameChar c = true := by
  rw [← List.dropWhile_eq_nil_iff]
  cases left : name.dropWhile Text.isNameChar with
  | nil => exact iff_of_true rfl rfl
  | cons c rest =>
      have inside : c ∈ name :=
        (List.dropWhile_sublist Text.isNameChar).subset (left ▸ List.mem_cons_self)
      have letter := letters c inside
      have noGap : Text.isGap c = false := by
        refine Bool.eq_false_iff.mpr fun gap => ?_
        have blank : c = ' ' ∨ c = '\t' := by simpa [Text.isGap] using gap
        rcases blank with rfl | rfl <;> cases letter
      simp [isTail, noGap]

/-- A line that has nothing but the name of an annotation is read exactly if the name is all
ASCII. -/
theorem readLine_annotation {name : List Char} (present : name ≠ [])
    (letters : ∀ c ∈ name, Text.isNameCharAnyCase c = true) :
    readLine ('@' :: name) = if name.all Text.isNameChar then some (name, []) else none := by
  have single : '\r' ∉ name := fun member => nomatch letters _ member
  rw [readLine_sign single]
  by_cases plain : ∀ c ∈ name, Text.isNameChar c = true
  · rw [List.takeWhile_eq_self_iff.mpr plain, List.dropWhile_eq_nil_iff.mpr plain,
      if_pos (List.all_eq_true.mpr plain)]
    simp [present, isTail]
  · rw [if_neg fun all => plain (List.all_eq_true.mp all), if_neg]
    rw [Bool.and_eq_true, isTail_dropWhile letters]
    exact fun accepted => plain accepted.2

end Directive

namespace Text

/-- Beyond ASCII there are two letters that are a to z in some case. -/
theorem isNameChar_iff {c : Char} (letter : isNameCharAnyCase c = true) :
    isNameChar c = true ↔ c ≠ kelvinSign ∧ c ≠ longS := by
  constructor
  · intro plain
    constructor <;> (rintro rfl; cases plain)
  · rintro ⟨noKelvin, noLong⟩
    simpa [isNameCharAnyCase, noKelvin, noLong] using letter

/-- A name is all ASCII if neither of them is in it. -/
theorem forall_isNameChar_iff {name : List Char}
    (letters : ∀ c ∈ name, isNameCharAnyCase c = true) :
    (∀ c ∈ name, isNameChar c = true) ↔ ¬ (kelvinSign ∈ name ∨ longS ∈ name) := by
  rw [not_or]
  constructor
  · intro plain
    constructor <;> (intro member; cases plain _ member)
  · rintro ⟨noKelvin, noLong⟩ c member
    refine (isNameChar_iff (letters c member)).mpr ⟨?_, ?_⟩
    · rintro rfl
      exact noKelvin member
    · rintro rfl
      exact noLong member

end Text

namespace Registry

/-- **What is registered can be used, but for two letters.** After whatever other requests, a text
that names an annotation is read as one directive, with that name and no options; but a name with a
Kelvin sign or a long s is accepted and never read back. To register under a kind is to register
under its code. -/
theorem parse_registered {base registry : Registry S} {name : String} {handler : Handler S}
    {code : Int} (accepted : base.registerWithCode name handler code = (.ok (), registry))
    (requests : List (Request S)) :
    Directive.parse (registry.after requests).knownNames ("@" ++ name) =
      if Text.kelvinSign ∈ name.toList ∨ Text.longS ∈ name.toList then []
      else [⟨name, [], 1⟩] := by
  obtain ⟨named, _⟩ := registerWithCode_eq_ok accepted
  obtain ⟨present, letters⟩ : name.toList ≠ [] ∧
      ∀ c ∈ name.toList, Text.isNameCharAnyCase c = true := by
    simpa [isAnnotationName] using named
  have text : ("@" ++ name).toList = '@' :: name.toList := String.toList_append
  have single : '\n' ∉ ("@" ++ name).toList := by
    rw [text]
    intro member
    rcases List.mem_cons.mp member with same | inside
    · cases same
    · cases letters _ inside
  have known : name ∈ (registry.after requests).knownNames := by
    have found := find?_registerWithCode accepted name
    rw [if_pos rfl] at found
    refine mem_knownNames_iff.mpr (.inr ?_)
    rw [contains, (grows_after registry requests).bindings found]
    rfl
  have plain := Text.forall_isNameChar_iff letters
  rw [Directive.parse_of_not_mem single, Directive.ofLine?, text,
    Directive.readLine_annotation present letters]
  by_cases foreign : Text.kelvinSign ∈ name.toList ∨ Text.longS ∈ name.toList
  · rw [if_neg fun all => plain.mp (List.all_eq_true.mp all) foreign, if_pos foreign]
    rfl
  · rw [if_pos (List.all_eq_true.mpr (plain.mpr foreign)), if_neg foreign]
    simp [known, Directive.optionsOf, Text.trimEnd, Directive.dropCommentEnd, Text.words]

/-- The long s is accepted and never read back; a name in ASCII is read back, whatever is registered
or defined after it. -/
theorem parse_registered_long_s :
    ∃ first second : Registry Interface.idle,
      ({} : Registry Interface.idle).registerWithCode "ſtamp"
        (.before fun _ _ => .done (.ok ())) 1 = (.ok (), first) ∧
      ({} : Registry Interface.idle).registerWithCode "Stamp_2"
        (.info fun _ _ => .done (.ok ())) 0 = (.ok (), second) ∧
      Directive.parse (first.after []).knownNames ("@" ++ "ſtamp") = [] ∧
      Directive.parse
        (second.after [.registerWithCode "ſtamp" (.before fun _ _ => .done (.ok ())) 1,
          .define "log" (.before fun _ _ => .done (.ok ()))]).knownNames
        ("@" ++ "Stamp_2") = [⟨"Stamp_2", [], 1⟩] := by
  obtain ⟨first, folded⟩ : ∃ first, ({} : Registry Interface.idle).registerWithCode "ſtamp"
      (.before fun _ _ => .done (.ok ())) 1 = (.ok (), first) := ⟨_, rfl⟩
  obtain ⟨second, plain⟩ : ∃ second, ({} : Registry Interface.idle).registerWithCode "Stamp_2"
      (.info fun _ _ => .done (.ok ())) 0 = (.ok (), second) := ⟨_, rfl⟩
  refine ⟨first, second, folded, plain, ?_, ?_⟩
  · exact (parse_registered folded []).trans (if_pos (by decide))
  · exact (parse_registered plain _).trans (if_neg (by decide))

end Registry

/-! ### Functions -/

namespace Directive

/-- A line names a function after the built-in directive of a kind. A name that ends as a comment
ends needs the end of a comment after it, and any other may have one there. -/
inductive Names (kind : Kind) (name : String) : List Char → Prop where
  | plain (unclosed : ¬ ['*', '/'] <:+ name.toList) :
      Names kind name ('@' :: (kind.name.toList ++ ' ' :: name.toList))
  | closed : Names kind name ('@' :: (kind.name.toList ++ ' ' :: (name.toList ++ [' ', '*', '/'])))

/-- The names of kinds can be the names of directives. -/
theorem isNameChar_of_kind (kind : Kind) :
    kind.name ≠ "" ∧ ∀ c ∈ kind.name.toList, Text.isNameChar c = true := by
  have plain : kind.name.toList.all Text.isNameChar = true := by cases kind <;> rfl
  refine ⟨?_, List.all_eq_true.mp plain⟩
  cases kind <;> decide

/-- A line that names a function is written for the directive of the kind, with the name as its only
option. -/
theorem Names.writes {kind : Kind} {name : String} {line : List Char}
    (names : Names kind name line) (named : isFunctionName name = true) :
    Writes kind.name [name] line := by
  obtain ⟨present, visible⟩ : name ≠ "" ∧ ∀ c ∈ name.toList, Text.isBlank c = false := by
    simpa [isFunctionName] using named
  have spread : Spread [name] ([' '] ++ (name.toList ++ [])) :=
    .option (by decide) (by simp [Text.isGap]) present visible .nothing
  have writes {close : List Char} (closes : IsClose [name] close) :
      Writes kind.name [name] ('@' :: (kind.name.toList ++ ' ' :: (name.toList ++ close))) := by
    obtain ⟨word, plain⟩ := isNameChar_of_kind kind
    have written := Writes.line (List.forall_mem_nil _) .nothing (List.forall_mem_nil _) word plain
      spread closes
    simpa using written
  cases names with
  | plain unclosed =>
      have whole := writes (.blank (List.forall_mem_nil _) (by simpa using unclosed))
      rwa [List.append_nil] at whole
  | closed =>
      have ends : IsClose [name] ([' '] ++ ['*', '/']) := .comment (by decide) (by simp [Text.isGap])
      exact writes ends

/-- A line that names a function is a directive line, with the name as its only option. -/
theorem Names.gives {known : List String} {kind : Kind} {name : String} {line : List Char}
    (names : Names kind name line) (named : isFunctionName name = true)
    (isKnown : kind.name ∈ known) (number : Nat) :
    Gives known line ⟨kind.name, [name], number⟩ := by
  have gives := (names.writes named).gives isKnown (.inl rfl) number
  rwa [List.append_nil] at gives

end Directive

/-! ### What a weaving does with a directive -/

/-- A handler takes part in calls with a chain, for a directive of this name and with these
options. -/
def Chain.Holds (chain : Chain S) (directive : String) (options : List String) :
    Handler S → Prop
  | .info _ => False
  | .before handle => ⟨directive, handle, options⟩ ∈ chain.before
  | .after handle => ⟨directive, handle, options⟩ ∈ chain.after
  | .around handle => ⟨directive, handle, options⟩ ∈ chain.around

/-- The chain of directives holds what one of them asks for, unless this is an `info` handler. -/
theorem Chain.holds_ofDirectives {registry : Registry S} {directives : List Directive}
    {directive : Directive} {handler : Handler S} (member : directive ∈ directives)
    (asks : directive.handler? registry = some handler) (active : handler.kind ≠ .info) :
    (ofDirectives registry directives).Holds directive.name directive.handed handler := by
  cases handler with
  | info handle => exact absurd rfl active
  | before handle =>
      exact List.mem_filterMap.mpr ⟨directive, member, by rw [Directive.before?, asks]⟩
  | after handle =>
      exact List.mem_filterMap.mpr ⟨directive, member, by rw [Directive.after?, asks]⟩
  | around handle =>
      exact List.mem_filterMap.mpr ⟨directive, member, by rw [Directive.around?, asks]⟩

/-- A chain that holds a handler is not empty. -/
theorem Chain.Holds.not_isEmpty {chain : Chain S} {directive : String} {options : List String}
    {handler : Handler S} (holds : chain.Holds directive options handler) :
    chain.isEmpty = false := by
  refine Bool.eq_false_iff.mpr fun empty => ?_
  simp only [isEmpty, Bool.and_eq_true, List.isEmpty_iff] at empty
  obtain ⟨⟨before, after⟩, around⟩ := empty
  cases handler with
  | info handle => exact holds
  | before handle => exact absurd holds (by simp [Holds, before])
  | after handle => exact absurd holds (by simp [Holds, after])
  | around handle => exact absurd holds (by simp [Holds, around])

namespace Weaver

section Serving

variable {weaver : Weaver S} {host : Host S σ} {className : String} {world later : World S σ}
  {method : Method} {directive : Directive} {handler : Handler S}

/-- In a reachable table two methods of a class differ in their names. -/
theorem method_eq_of_name {table : ClassTable S} {methods : List Method} {first second : Method}
    (reachable : table.Reachable) (listed : table.methods? className = some methods)
    (here : first ∈ methods) (there : second ∈ methods) (same : first.name = second.name) :
    first = second := by
  have one := ClassTable.map_method_of_mem reachable.wellFormed listed here
  have other := ClassTable.map_method_of_mem reachable.wellFormed listed there
  rw [← same, one] at other
  exact Option.some.inj other

/-- No weaving is refused at the place of a directive that resolves, if it is alone on its line. -/
theorem site_ne_of_resolved {methods : List Method} {cause : Refusal}
    (alone : ∀ other ∈ weaver.directives method, other.line = directive.line → other = directive)
    (resolved : Chain.resolve weaver.registry ⟨className, method.name⟩ directive =
      .ok (handler, directive.handed))
    (reachable : world.classes.Reachable)
    (listed : world.classes.methods? className = some methods) (member : method ∈ methods)
    (runs : weaver.weave host className world = some (.error cause, later)) (name : String) :
    cause.site? ≠ some ⟨⟨className, method.name⟩, name, directive.line⟩ := by
  intro blames
  obtain ⟨before, other, after, failed, site, blamed⟩ := exists_refused_of_weave runs blames
  obtain rfl : before ++ other :: after = methods :=
    Option.some.inj (blamed.listed.symm.trans listed)
  obtain ⟨sameName, _, number⟩ : method.name = other.name ∧ name = failed.name ∧
      directive.line = failed.line := by
    simpa [Directive.site] using site
  have there : other ∈ before ++ other :: after := List.mem_append_right _ List.mem_cons_self
  obtain rfl := method_eq_of_name reachable listed member there sameName
  obtain ⟨done, rest, order, _⟩ := blamed.first
  have inside : failed ∈ weaver.directives method := by
    rw [order]
    exact List.mem_append_right _ List.mem_cons_self
  have refused := blamed.refused
  rw [alone failed inside number.symm, resolved] at refused
  cases refused

/-- The chain of a method is built from the directives before one that resolves, and then the
handler of this one is taken in, and then come the directives after it. -/
theorem exists_build_of_resolved {target : MethodId} {options : List String}
    (member : directive ∈ weaver.directives method)
    (resolved : Chain.resolve weaver.registry target directive = .ok (handler, options)) :
    ∃ done rest, weaver.directives method = done ++ directive :: rest ∧
      Chain.build weaver.registry target (weaver.directives method) =
        (Chain.extend weaver.registry target done {}).bind fun
          | .error cause => .done (.error cause)
          | .ok chain =>
              Chain.adopt weaver.registry target directive options rest chain handler := by
  obtain ⟨done, rest, order⟩ := List.append_of_mem member
  refine ⟨done, rest, order, ?_⟩
  rw [Chain.build, order, Chain.extend_append]
  congr 1
  funext built
  cases built with
  | error cause => rfl
  | ok chain => exact Chain.extend_resolved resolved rest chain

/-- A weaving that succeeds has run the `info` handler that a directive of a method asks for, and
put any other into the body of the method, if the method was not processed before. -/
theorem served_of_weave {told : WeaveReport} {entry : Entry S}
    (member : directive ∈ weaver.directives entry.method)
    (asks : directive.handler? weaver.registry = some handler)
    (reachable : world.classes.Reachable) (quiet : weaver.registry.Quiet host)
    (runs : weaver.weave host className world = some (.ok told, later))
    (present : world.classes.entry? ⟨className, entry.name⟩ = some entry)
    (unprocessed : entry.processed = false) :
    (handler.kind = .info →
        ⟨⟨className, entry.name⟩, directive, directive.handed, none⟩ ∈
          weaver.infoRuns host className world) ∧
      (handler.kind ≠ .info →
        (weaver.chain entry.method).Holds directive.name directive.handed handler ∧
          later.classes.entry? ⟨className, entry.name⟩ = some { entry with
            body := (weaver.wrapping className entry).body
            woven := true
            processed := true }) := by
  have orderly := reachable.wellFormed
  have due : weaver.isDue entry = true := by
    simp [isDue, unprocessed, List.ne_nil_of_mem member]
  constructor
  · intro isInfo
    have informs : directive.isInfo weaver.registry = true := by
      cases handler with
      | info handle => rw [Directive.isInfo, asks]
      | _ => cases isInfo
    obtain ⟨definition, found, _⟩ := weave_ok quiet orderly runs
    obtain ⟨left, _, _, _, ran, _⟩ := weave_run quiet (orderly.of_find? found) found runs
    rw [ran]
    refine List.mem_flatMap.mpr ⟨entry, (ClassTable.mem_of_entry? found present).1, ?_⟩
    rw [dueRuns, if_pos due]
    exact List.mem_map.mpr ⟨directive, List.mem_filter.mpr ⟨member, informs⟩, rfl⟩
  · intro active
    have holds : (weaver.chain entry.method).Holds directive.name directive.handed handler :=
      Chain.holds_ofDirectives member asks active
    have wraps : weaver.wraps entry = true := by
      rw [Weaver.wraps, due, holds.not_isEmpty]
      rfl
    refine ⟨holds, ?_⟩
    rw [entry_of_weave quiet orderly runs, present, Option.map_some, wovenEntry, if_pos wraps]

end Serving

/-- The line of this number in the documentation of a method asks for a handler, by the name of a
function, and whoever weaves the method goes by it. -/
structure Honours (weaver : Weaver S) (method : Method) (number : Nat) (name : String)
    (handler : Handler S) : Prop where
  /-- On the line there is one directive, which has the name as its only option. -/
  single : (⟨handler.kind.name, [name], number⟩ : Directive) ∈ weaver.directives method ∧
    ∀ other ∈ weaver.directives method, other.line = number →
      other = ⟨handler.kind.name, [name], number⟩
  /-- It resolves to the handler, without options. -/
  resolved (target : MethodId) :
    Chain.resolve weaver.registry target ⟨handler.kind.name, [name], number⟩ = .ok (handler, [])
  /-- The chain is built from the directives before it; if they do not fail the handler is taken in
  next, and then the directives after it. -/
  taken (target : MethodId) : ∃ done rest,
    weaver.directives method = done ++ ⟨handler.kind.name, [name], number⟩ :: rest ∧
      Chain.build weaver.registry target (weaver.directives method) =
        (Chain.extend weaver.registry target done {}).bind fun
          | .error cause => .done (.error cause)
          | .ok chain =>
              Chain.adopt weaver.registry target ⟨handler.kind.name, [name], number⟩ [] rest chain
                handler
  /-- No weaving of a class that has the method is refused for the line. -/
  blameless {σ : Type} {host : Host S σ} {world later : World S σ} {className : String}
    {methods : List Method} {cause : Refusal} (reachable : world.classes.Reachable)
    (listed : world.classes.methods? className = some methods) (member : method ∈ methods)
    (runs : weaver.weave host className world = some (.error cause, later)) (directive : String) :
    cause.site? ≠ some ⟨⟨className, method.name⟩, directive, number⟩
  /-- A weaving that succeeds has run the handler, without options, if it is an `info` handler, and
  put any other into the body of the method, unless the method was processed before. -/
  served {σ : Type} {host : Host S σ} {world later : World S σ} {className : String}
    {told : WeaveReport} {entry : Entry S} (reachable : world.classes.Reachable)
    (quiet : weaver.registry.Quiet host)
    (runs : weaver.weave host className world = some (.ok told, later))
    (present : world.classes.entry? ⟨className, entry.name⟩ = some entry)
    (declared : entry.method = method) (unprocessed : entry.processed = false) :
    (handler.kind = .info →
        ⟨⟨className, entry.name⟩, ⟨handler.kind.name, [name], number⟩, [], none⟩ ∈
          weaver.infoRuns host className world) ∧
      (handler.kind ≠ .info →
        (weaver.chain method).Holds handler.kind.name [] handler ∧
          later.classes.entry? ⟨className, entry.name⟩ = some { entry with
            body := (weaver.wrapping className entry).body, woven := true, processed := true })

/-- A directive that names a function, alone on its line, is honoured if the function is there. -/
theorem honours_of_function {weaver : Weaver S} {method : Method} {number : Nat} {name : String}
    {handler : Handler S}
    (member : (⟨handler.kind.name, [name], number⟩ : Directive) ∈ weaver.directives method)
    (alone : ∀ other ∈ weaver.directives method, other.line = number →
      other = ⟨handler.kind.name, [name], number⟩)
    (present : weaver.registry.function? name = some handler) :
    weaver.Honours method number name handler := by
  let directive : Directive := ⟨handler.kind.name, [name], number⟩
  have resolved (target : MethodId) :
      Chain.resolve weaver.registry target directive = .ok (handler, []) := by
    simp [Chain.resolve, directive, kindNamed?_name, present]
  have asks (target : MethodId) := Chain.resolve_eq_ok_iff.mp (resolved target)
  constructor
  case single => exact ⟨member, alone⟩
  case resolved => exact resolved
  case taken =>
    intro target
    exact exists_build_of_resolved member (resolved target)
  case blameless =>
    intro σ host world later className methods cause reachable listed inside runs written
    have handed := (asks ⟨className, method.name⟩).2.1
    exact site_ne_of_resolved alone (handed ▸ resolved _) reachable listed inside runs written
  case served =>
    rintro σ host world later className told entry reachable quiet runs present rfl unprocessed
    obtain ⟨asked, handed, _⟩ := asks ⟨className, entry.name⟩
    have served := served_of_weave member asked reachable quiet runs present unprocessed
    rwa [← handed] at served

end Weaver

namespace Registry

/-- **What is defined can be named.** After whatever other requests, a line of the documentation of
a method that names a function asks for the handler of this function, and for no other. -/
theorem function_honoured {base registry : Registry S} {name : String} {handler : Handler S}
    (accepted : base.defineFunction name handler = (.ok (), registry)) (requests : List (Request S))
    (policy : ReweavePolicy) {method : Method} {text : String} {index : Nat} {line : List Char}
    (documented : method.documentation = some text)
    (here : (text.toList.splitOn '\n')[index]? = some line)
    (names : Directive.Names handler.kind name line) :
    Weaver.Honours ⟨registry.after requests, policy⟩ method (index + 1) name handler := by
  let weaver : Weaver S := ⟨registry.after requests, policy⟩
  have named : isFunctionName name = true := (defineFunction_eq_ok accepted).1
  have present : weaver.registry.function? name = some handler := by
    refine (grows_after registry requests).functions ?_
    rw [function?_defineFunction accepted, if_pos rfl]
  have known : handler.kind.name ∈ weaver.registry.knownNames := by
    refine mem_knownNames_iff.mpr (.inl ?_)
    rw [← kindNamed?_isSome, kindNamed?_name]
    rfl
  have parsed : weaver.directives method = Directive.parse weaver.registry.knownNames text := by
    rw [Weaver.directives, documented, Directive.parseDocumentation_some]
  have member : ⟨handler.kind.name, [name], index + 1⟩ ∈ weaver.directives method := by
    rw [parsed]
    exact Directive.mem_parse_iff.mpr ⟨index, line, here, rfl, names.gives named known _⟩
  refine Weaver.honours_of_function member (fun other inside number => ?_) present
  rw [parsed] at member inside
  exact Directive.line_injective (Directive.parse_increasing _ text) inside member number

/-- A method that names a function is woven with it, also if the name ends as a comment ends. -/
theorem function_honoured_closed :
    ∃ first second : Registry Interface.idle,
      ({} : Registry Interface.idle).defineFunction "stamp*/" (.before fun _ _ => .done (.ok ())) =
        (.ok (), first) ∧
      ({} : Registry Interface.idle).defineFunction "é/" (.info fun _ _ => .done (.ok ())) =
        (.ok (), second) ∧
      Weaver.Honours ⟨first.after [.define "stamp" (.before fun _ _ => .done (.ok ()))], .skip⟩
        (Weaver.documented (S := Interface.idle) "run" "Runs.\n@before stamp*/ */").method 2
        "stamp*/" (.before fun _ _ => .done (.ok ())) ∧
      Weaver.Honours ⟨second.after [], .error⟩
        (Weaver.documented (S := Interface.idle) "run" "@info é/").method 1
        "é/" (.info fun _ _ => .done (.ok ())) := by
  obtain ⟨first, closed⟩ : ∃ first, ({} : Registry Interface.idle).defineFunction "stamp*/"
      (.before fun _ _ => .done (.ok ())) = (.ok (), first) := ⟨_, rfl⟩
  obtain ⟨second, plain⟩ : ∃ second, ({} : Registry Interface.idle).defineFunction "é/"
      (.info fun _ _ => .done (.ok ())) = (.ok (), second) := ⟨_, rfl⟩
  refine ⟨first, second, closed, plain, ?_, ?_⟩
  · exact function_honoured closed _ .skip rfl (by decide) .closed
  · exact function_honoured plain [] .error rfl (by decide) (.plain (by decide))

/-- Without the end of a comment after it, a name that ends as a comment ends is read without its
end: it names nothing, or nothing that is there, or another function. -/
theorem function_honoured_unclosed :
    ∃ first second third : Registry Interface.idle,
      ({} : Registry Interface.idle).defineFunction "stamp*/" (.before fun _ _ => .done (.ok ())) =
        (.ok (), first) ∧
      first.defineFunction "*/" (.before fun _ _ => .done (.ok ())) = (.ok (), second) ∧
      second.defineFunction "stamp" (.info fun _ _ => .done (.ok ())) = (.ok (), third) ∧
      Weaver.refused? ⟨first, .skip⟩ .idle "Job"
          (Weaver.jobs [Weaver.documented "run" "@before stamp*/"]) =
        some (.unknownHandler ⟨⟨"Job", "run"⟩, "before", 1⟩ "stamp") ∧
      Weaver.refused? ⟨second, .skip⟩ .idle "Job"
          (Weaver.jobs [Weaver.documented "run" "@before */"]) =
        some (.missingHandler ⟨⟨"Job", "run"⟩, "before", 1⟩) ∧
      Weaver.refused? ⟨third, .skip⟩ .idle "Job"
          (Weaver.jobs [Weaver.documented "run" "@before stamp*/"]) =
        some (.handlerKindMismatch ⟨⟨"Job", "run"⟩, "before", 1⟩ "stamp" .before .info) := by
  refine ⟨_, _, _, rfl, rfl, rfl, ?_, ?_, ?_⟩ <;> decide +kernel

end Registry

end AspectWeaver
