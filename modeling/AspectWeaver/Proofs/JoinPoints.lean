/-
**What a join point tells of the method that is called.**

A woven body knows the class of its method and the name that the method had when it was woven. If
the method gets another name later, its body goes with it as it is. So handlers are told the class,
and whether there is an instance, as it is; but of a method that was renamed since it was woven they
are told the former name.

* `Provenance`, `Arises` — tables that operations and weavings lead to, and for each woven body in
  them the weaving that it comes from.
* `Provenance.Traces` — what the two have to do with each other, step by step (`Traces.define`,
  `Traces.rename`, `Traces.weave`), and so **for every table that arises** (`Arises.traces`).
* `Named.rename_iff` — names come apart **exactly by renaming a woven method**, and as long as that
  does not happen they are the same (`Arises.named`).
* **`joinPoint_of_invoke`** — **every join point of a call** tells the class, whether the method is
  static, and the name that it was woven under.
-/

import AspectWeaver.Proofs.KeptContract
import AspectWeaver.Proofs.Notes

namespace AspectWeaver

variable {S : Interface} {σ : Type}

/-! ### Where woven bodies come from -/

/-- For each method with a woven body, what was woven: the method as it was declared then, with its
chain and its former body. -/
abbrev Provenance (S : Interface) := MethodId → Option (WovenMethod S)

namespace Provenance

/-- A definition brings new bodies. -/
def define (className : String) (origin : Provenance S) : Provenance S := fun target =>
  if target.className = className then none else origin target

/-- A method that is renamed keeps its body. -/
def rename (target : MethodId) (name : String) (origin : Provenance S) : Provenance S :=
  fun wanted =>
    if wanted = ⟨target.className, name⟩ then origin target
    else if wanted = target then none else origin wanted

/-- Where a weaving has installed a woven body, it is what the weaver puts around the body that was
there before. -/
def weave (weaver : Weaver S) (before after : ClassTable S) (origin : Provenance S) :
    Provenance S := fun target =>
  if before.isWoven target = false ∧ after.isWoven target = true then
    (before.entry? target).map (weaver.wrapping target.className)
  else origin target

end Provenance

/-- A table that operations and weavings lead to, where `info` handlers change no class, and the
provenance of its woven bodies. What is refused changes nothing; a weaving may fail. Methods are
renamed where `renames` holds of the table and the method, which may be everywhere. -/
inductive ClassTable.Arises (renames : ClassTable S → MethodId → Prop) :
    ClassTable S → Provenance S → Prop where
  | empty : Arises renames {} fun _ => none
  | define {table defined : ClassTable S} {origin : Provenance S}
      {definition : ClassDefinition S} (arises : Arises renames table origin)
      (new : ∀ entry ∈ definition.entries, entry.woven = false ∧ entry.processed = false)
      (accepted : table.define definition = (.ok (), defined)) :
      Arises renames defined (origin.define definition.name)
  | install {table installed : ClassTable S} {origin : Provenance S} {className : String}
      {method : Method} {body : Body S} (arises : Arises renames table origin)
      (accepted : table.install className method body = (.ok (), installed)) :
      Arises renames installed origin
  | rename {table renamed : ClassTable S} {origin : Provenance S} {target : MethodId}
      {name : String} (arises : Arises renames table origin) (allowed : renames table target)
      (accepted : table.rename target name = (.ok (), renamed)) :
      Arises renames renamed (origin.rename target name)
  | markProcessed {table marked : ClassTable S} {origin : Provenance S} {target : MethodId}
      (arises : Arises renames table origin)
      (accepted : table.markProcessed target = (.ok (), marked)) : Arises renames marked origin
  | weave {σ : Type} {world later : World S σ} {origin : Provenance S} {weaver : Weaver S}
      {host : Host S σ} {className : String} {result : Except Refusal WeaveReport}
      (arises : Arises renames world.classes origin) (quiet : weaver.registry.Quiet host)
      (runs : weaver.weave host className world = some (result, later)) :
      Arises renames later.classes (origin.weave weaver world.classes later.classes)

/-! ### Tables and provenances -/

/-- The method has the body that was woven. It is declared as it was then, but for its name. -/
structure Entry.ComesFrom (entry : Entry S) (className : String) (woven : WovenMethod S) :
    Prop where
  marked : entry.woven = true
  body : entry.body = woven.body
  className : woven.className = className
  method : woven.method = { entry.method with name := woven.method.name }

namespace Provenance

/-- Exactly the woven methods of the table have a provenance, and it is where their bodies come
from. -/
structure Traces (origin : Provenance S) (table : ClassTable S) : Prop where
  orderly : table.WellFormed
  known {target : MethodId} {entry : Entry S} (present : table.entry? target = some entry)
    (marked : entry.woven = true) : ∃ woven, origin target = some woven
  comes {target : MethodId} {woven : WovenMethod S} (here : origin target = some woven) :
    ∃ entry, table.entry? target = some entry ∧ entry.ComesFrom target.className woven

namespace Traces

variable {origin : Provenance S} {table changed : ClassTable S}

theorem empty : Traces (fun _ => none) ({} : ClassTable S) where
  orderly := ClassTable.Reachable.empty.wellFormed
  known := nofun
  comes := nofun

theorem define (traces : Traces origin table) {definition : ClassDefinition S}
    (new : ∀ entry ∈ definition.entries, entry.woven = false ∧ entry.processed = false)
    (accepted : table.define definition = (.ok (), changed)) :
    Traces (origin.define definition.name) changed where
  orderly := traces.orderly.define new accepted
  known {target entry} present marked := by
    rw [ClassTable.entry?_define accepted] at present
    rw [Provenance.define]
    split at present
    · rw [(new entry (Named.mem_of_find? Entry.name present)).1] at marked
      cases marked
    · rename_i elsewhere
      rw [if_neg elsewhere]
      exact traces.known present marked
  comes {target woven} here := by
    rw [Provenance.define] at here
    rw [ClassTable.entry?_define accepted]
    split at here
    · cases here
    · rename_i elsewhere
      rw [if_neg elsewhere]
      exact traces.comes here

theorem install (traces : Traces origin table) {className : String} {method : Method}
    {body : Body S} (accepted : table.install className method body = (.ok (), changed)) :
    Traces origin changed where
  orderly := traces.orderly.install accepted
  known {target entry} present marked := by
    rw [ClassTable.entry?_install accepted] at present
    split at present
    · cases present
      cases marked
    · exact traces.known present marked
  comes {target woven} here := by
    obtain ⟨entry, present, comes⟩ := traces.comes here
    refine ⟨entry, ?_, comes⟩
    rw [ClassTable.entry?_install accepted, if_neg ?_]
    · exact present
    · rintro rfl
      obtain ⟨_, definition, found, free, _⟩ := ClassTable.install_eq_ok accepted
      rw [ClassTable.entry?, found, Option.bind_some, free] at present
      cases present

theorem rename (traces : Traces origin table) {target : MethodId} {name : String}
    (accepted : table.rename target name = (.ok (), changed)) :
    Traces (origin.rename target name) changed where
  orderly := traces.orderly.rename accepted
  known {wanted entry} present marked := by
    rw [ClassTable.entry?_rename traces.orderly accepted] at present
    rw [Provenance.rename]
    split at present
    case isTrue renamed =>
      obtain ⟨former, here, rfl⟩ := Option.map_eq_some_iff.mp present
      rw [if_pos renamed]
      exact traces.known here marked
    case isFalse other =>
      rw [if_neg other]
      split at present
      case isTrue => cases present
      case isFalse same =>
        rw [if_neg same]
        exact traces.known present marked
  comes {wanted woven} here := by
    rw [Provenance.rename] at here
    rw [ClassTable.entry?_rename traces.orderly accepted]
    split at here
    case isTrue renamed =>
      obtain ⟨former, present, comes⟩ := traces.comes here
      rw [if_pos renamed, present, renamed]
      exact ⟨_, rfl, comes.marked, comes.body, comes.className, comes.method⟩
    case isFalse other =>
      rw [if_neg other]
      split at here
      case isTrue => cases here
      case isFalse same =>
        rw [if_neg same]
        exact traces.comes here

theorem markProcessed (traces : Traces origin table) {target : MethodId}
    (accepted : table.markProcessed target = (.ok (), changed)) : Traces origin changed where
  orderly := traces.orderly.alter accepted (fun _ => rfl) fun _ _ _ => rfl
  known {wanted entry} present marked := by
    rw [ClassTable.entry?_alter accepted (fun _ => rfl)] at present
    split at present
    · obtain ⟨former, here, rfl⟩ := Option.map_eq_some_iff.mp present
      exact traces.known here marked
    · exact traces.known present marked
  comes {wanted woven} here := by
    obtain ⟨entry, present, comes⟩ := traces.comes here
    rw [ClassTable.entry?_alter accepted (fun _ => rfl)]
    split
    · rw [present]
      exact ⟨_, rfl, comes.marked, comes.body, comes.className, comes.method⟩
    · exact ⟨entry, present, comes⟩

/-- A weaving leaves the woven bodies there are, since their methods are processed. -/
theorem weave {world later : World S σ} (traces : Traces origin world.classes)
    {weaver : Weaver S} {host : Host S σ} {className : String}
    {result : Except Refusal WeaveReport} (quiet : weaver.registry.Quiet host)
    (runs : weaver.weave host className world = some (result, later)) :
    Traces (origin.weave weaver world.classes later.classes) later.classes where
  orderly := Weaver.wellFormed_of_weave quiet traces.orderly runs
  known {target entry} present marked := by
    have same := Weaver.sameMethods_of_weave quiet traces.orderly runs
    obtain ⟨former, before, _⟩ := same.symm.entry? present
    have after : later.classes.isWoven target = true := by
      rw [ClassTable.isWoven, present]
      exact marked
    rw [Provenance.weave, ClassTable.isWoven, before, Option.any_some, after]
    cases known : former.woven with
    | false => exact ⟨_, rfl⟩
    | true => exact traces.known before known
  comes {target woven} here := by
    rw [Provenance.weave] at here
    split at here
    case isTrue got =>
      obtain ⟨former, before, rfl⟩ := Option.map_eq_some_iff.mp here
      obtain ⟨rfl, _, there⟩ :=
        Weaver.wraps_of_woven quiet traces.orderly runs before got.1 got.2
      exact ⟨_, there, rfl, rfl, rfl, rfl⟩
    case isFalse =>
      obtain ⟨entry, before, comes⟩ := traces.comes here
      refine ⟨entry, ?_, comes⟩
      have idle : weaver.isDue entry = false := by
        rw [Weaver.isDue, traces.orderly.processed_of_woven before comes.marked]
        exact Bool.and_false _
      rcases Weaver.entry_left quiet traces.orderly runs before with kept | ⟨_, there⟩
      · exact kept
      · rwa [weaver.wovenEntry_of_not_due className idle] at there

end Traces

end Provenance

/-- **In every table that arises** exactly the woven methods have a provenance, and it is where
their bodies come from. -/
theorem ClassTable.Arises.traces {renames : ClassTable S → MethodId → Prop}
    {table : ClassTable S} {origin : Provenance S} (arises : Arises renames table origin) :
    origin.Traces table := by
  induction arises with
  | empty => exact .empty
  | define _ new accepted ih => exact ih.define new accepted
  | install _ accepted ih => exact ih.install accepted
  | rename _ _ accepted ih => exact ih.rename accepted
  | markProcessed _ accepted ih => exact ih.markProcessed accepted
  | weave _ quiet runs ih => exact ih.weave quiet runs

/-! ### Names -/

/-- Every woven method has the name that it was woven under. -/
def Provenance.Named (origin : Provenance S) : Prop :=
  ∀ target woven, origin target = some woven → woven.method.name = target.method

namespace Provenance.Named

variable {origin : Provenance S}

theorem define (named : origin.Named) (className : String) : (origin.define className).Named := by
  intro target woven here
  rw [Provenance.define] at here
  split at here
  · cases here
  · exact named target woven here

theorem weave (named : origin.Named) (weaver : Weaver S) (before after : ClassTable S) :
    (origin.weave weaver before after).Named := by
  intro target woven here
  rw [Provenance.weave] at here
  split at here
  · obtain ⟨entry, present, rfl⟩ := Option.map_eq_some_iff.mp here
    exact ClassTable.name_of_entry? present
  · exact named target woven here

/-- **Exactly by renaming a woven method** the names come apart. -/
theorem rename_iff {table renamed : ClassTable S} (traces : origin.Traces table)
    (named : origin.Named) {target : MethodId} {name : String}
    (accepted : table.rename target name = (.ok (), renamed)) :
    (origin.rename target name).Named ↔ table.isWoven target = false := by
  constructor
  · intro still
    refine Bool.eq_false_iff.mpr fun marked => ?_
    obtain ⟨entry, present, woven⟩ := ClassTable.isWoven_eq_true_iff.mp marked
    obtain ⟨woven, here⟩ := traces.known present woven
    -- the woven body is found under both names, so they are the same one, which is not free
    have moved : origin.rename target name ⟨target.className, name⟩ = some woven :=
      (if_pos rfl).trans here
    have same : name = target.method := (still _ _ moved).symm.trans (named _ _ here)
    subst same
    rw [ClassTable.rename_eq, present] at accepted
    cases accepted
  · intro unwoven wanted woven here
    rw [Provenance.rename] at here
    split at here
    case isTrue =>
      obtain ⟨entry, present, comes⟩ := traces.comes here
      rw [ClassTable.isWoven, present, Option.any_some, comes.marked] at unwoven
      cases unwoven
    case isFalse =>
      split at here
      · cases here
      · exact named wanted woven here

end Provenance.Named

/-- **As long as no woven method is renamed** every woven method has the name that it was woven
under. -/
theorem ClassTable.Arises.named {table : ClassTable S} {origin : Provenance S}
    (arises : Arises (fun table target => table.isWoven target = false) table origin) :
    origin.Named := by
  induction arises with
  | empty =>
      intro target woven here
      cases here
  | define _ _ _ ih => exact ih.define _
  | install _ _ ih => exact ih
  | rename arises unwoven accepted ih => exact (ih.rename_iff arises.traces accepted).mpr unwoven
  | markProcessed _ _ ih => exact ih
  | weave _ _ _ ih => exact ih.weave _ _ _

/-! ### Calls -/

/-- What a join point tells of the method that is called, if its body was woven for this one. -/
structure JoinPoint.Tells (joinPoint : JoinPoint) (target : MethodId) (entry : Entry S)
    (woven : WovenMethod S) : Prop where
  className : joinPoint.target.className = target.className
  /-- There is no instance exactly if the method is static. -/
  isStatic : joinPoint.receiver.isStatic = entry.method.isStatic
  /-- The method has the name that it was woven under. -/
  method : joinPoint.target.method = woven.method.name
  /-- So it is the method that is called exactly if it has this name now. -/
  target_iff : joinPoint.target = target ↔ woven.method.name = target.method

namespace ClassTable

variable {renames : ClassTable S → MethodId → Prop} {table : ClassTable S}
  {origin : Provenance S} {target : MethodId} {entry : Entry S}

/-- **Every handler of a call is told the class, whether the method is static, and the name that the
method was woven under.** -/
theorem Arises.joinPoint_of_invoke (arises : Arises renames table origin)
    (present : table.entry? target = some entry) (marked : entry.woven = true) :
    ∃ woven, origin target = some woven ∧
      ∀ receiver accepted site arguments bound,
        entry.Admits target.className receiver site arguments accepted bound →
        table.invoke target receiver site arguments =
            (woven.recorded.body accepted bound).forget ∧
          ∀ record, (woven.recorded.body accepted bound).Shows record →
            ∀ moment ∈ record, ∀ joinPoint, moment.joinPoint? = some joinPoint →
              joinPoint.Tells target entry woven := by
  obtain ⟨woven, here⟩ := arises.traces.known present marked
  obtain ⟨found, there, comes⟩ := arises.traces.comes here
  cases present.symm.trans there
  refine ⟨woven, here, fun receiver accepted site arguments bound admits => ⟨?_, ?_⟩⟩
  · rw [invoke_eq_of_admits present admits, comes.body]
    exact (WovenMethod.forget_body woven accepted bound).symm
  · intro record shows moment member joinPoint given
    have notes := WovenMethod.notes_run woven.chain woven.original ⟨woven.target, accepted⟩ bound
      (Parameters.ofCall woven.method.parameters bound)
    have same : joinPoint = ⟨woven.target, accepted⟩ :=
      notes.joinPoint_eq (WovenMethod.shows_run_of_shows_body shows) moment member joinPoint given
    subst same
    constructor
    case className => exact comes.className
    case isStatic => exact admits.isStatic
    case method => rfl
    case target_iff =>
      obtain ⟨className, method⟩ := target
      rw [WovenMethod.target, comes.className, MethodId.mk.injEq, and_iff_right rfl]

/-- A method is woven as `run` and renamed to `start`. In a call of `start` a handler is told that
the method is `run`. -/
theorem joinPoint_of_invoke_renamed :
    ∃ (table : ClassTable Interface.idle) (origin : Provenance Interface.idle)
      (entry : Entry Interface.idle) (woven : WovenMethod Interface.idle) (joinPoint : JoinPoint),
      Arises (fun _ _ => True) table origin ∧ table.entry? ⟨"Job", "start"⟩ = some entry ∧
      entry.woven = true ∧
      entry.Admits "Job" .static .external [] .static [] ∧
      table.invoke ⟨"Job", "start"⟩ .static .external [] =
        (woven.recorded.body .static []).forget ∧
      (woven.recorded.body .static []).Shows [.beforeBegins 0 joinPoint []] ∧
      joinPoint.Tells ⟨"Job", "start"⟩ entry woven ∧
      joinPoint.signature = "Job::run" ∧ joinPoint.target ≠ ⟨"Job", "start"⟩ := by
  let run : Entry Interface.idle := Weaver.documented "run" "@before stamp"
  let weaver : Weaver Interface.idle := ⟨Weaver.noting ["stamp"], .skip⟩
  have quiet : weaver.registry.Quiet (.idle : Host Interface.idle Unit) :=
    Weaver.noting_quiet ["stamp"]
  have new : ∀ entry ∈ (ClassDefinition.mk "Job" [run]).entries,
      entry.woven = false ∧ entry.processed = false := List.forall_mem_singleton.mpr ⟨rfl, rfl⟩
  have defined : Arises (fun _ _ => True) (Weaver.jobs [run]).classes _ :=
    .define .empty new rfl
  obtain ⟨_, later, runs, wrapped⟩ := Weaver.wrapped?_eq_some_iff.mp
    (show weaver.wrapped? .idle "Job" (Weaver.jobs [run]) = some ["run"] by decide +kernel)
  have orderly := defined.traces.orderly
  obtain ⟨unwoven, isWoven⟩ :=
    (Weaver.mem_wrapped_iff_isWoven quiet orderly runs ⟨"Job", "run"⟩).mp ⟨rfl, by simp [wrapped]⟩
  obtain ⟨_, _, there⟩ := Weaver.wraps_of_woven quiet orderly runs rfl unwoven isWoven
  have free : later.classes.entry? ⟨"Job", "start"⟩ = none := by
    have same := map_method_entry? later.classes ⟨"Job", "start"⟩
    rw [Weaver.sameMethods_of_weave quiet orderly runs] at same
    exact Option.map_eq_none_iff.mp same
  obtain ⟨renamed, accepted⟩ : ∃ renamed,
      later.classes.rename ⟨"Job", "run"⟩ "start" = (.ok (), renamed) := by
    rw [rename_eq, free, alter_eq, entry_eq_ok_iff.mpr there]
    exact ⟨_, rfl⟩
  have arises := (defined.weave quiet runs).rename trivial accepted
  have present := entry?_rename (defined.weave quiet runs).traces.orderly accepted ⟨"Job", "start"⟩
  rw [if_pos rfl, there, Option.map_some] at present
  obtain ⟨woven, here, calls⟩ := arises.joinPoint_of_invoke present rfl
  rw [Provenance.rename, if_pos rfl, Provenance.weave, if_pos ⟨unwoven, isWoven⟩] at here
  cases here
  obtain ⟨called, tells⟩ := calls .static .static .external [] [] ⟨rfl, rfl, rfl⟩
  have shows : ((weaver.wrapping "Job" run).recorded.body .static []).Shows
      [.beforeBegins 0 ⟨⟨"Job", "run"⟩, .static⟩ []] := ⟨_, .ask () (.ask () (.start _)), rfl⟩
  have told := tells _ shows _ (List.mem_singleton_self _) _ rfl
  exact ⟨renamed, _, _, _, _, arises, present, rfl, ⟨rfl, rfl, rfl⟩, called, shows, told, rfl,
    by decide⟩

end ClassTable

end AspectWeaver
