/-
**From the documentation of a method to the order of its calls.**

* **`invoke_of_weave`** — a call of a method that was wrapped runs the handlers of its directives in
  the order of the documentation, around the body that the method had.
-/

import AspectWeaver.Proofs.Calls
import AspectWeaver.Proofs.Schedule
import AspectWeaver.Proofs.Weaving

namespace AspectWeaver.Weaver

variable {S : Interface} {σ : Type}

/-- **Calls of a wrapped method go by its documentation.** After a weaving that wrapped a method,
each directive of the method asks for a handler, and as long as the entry of the method stays, a
call that passes the checks is a woven call: of the handlers that the directives ask for, with the
options they hand to them, around the body that the method had before. If nothing fails in such a
call, and each around handler proceeds once, it goes by the schedule of these handlers. -/
theorem invoke_of_weave {weaver : Weaver S} {host : Host S σ} {className method : String}
    {world later : World S σ} {told : WeaveReport} {entry : Entry S}
    (reachable : world.classes.Reachable) (quiet : weaver.registry.Quiet host)
    (runs : weaver.weave host className world = some (.ok told, later))
    (present : world.classes.entry? ⟨className, method⟩ = some entry)
    (wrapped : method ∈ told.wrapped) :
    ∃ (directives : List Directive) (woven : WovenMethod S),
      directives = Directive.parseDocumentation weaver.registry.knownNames
        entry.method.documentation ∧
      (∀ directive ∈ directives, directive.Resolves weaver.registry) ∧
      woven = ⟨className, entry.method, Chain.ofDirectives weaver.registry directives,
        entry.body⟩ ∧
      ∀ table : ClassTable S,
        table.entry? ⟨className, method⟩ = later.classes.entry? ⟨className, method⟩ →
        ∀ receiver site arguments accepted bound,
          entry.Admits className receiver site arguments accepted bound →
          table.invoke ⟨className, method⟩ receiver site arguments =
              (woven.recorded.body accepted bound).forget ∧
            (∀ history result,
              (table.invoke ⟨className, method⟩ receiver site arguments).Ends history result →
                ∃ record, (woven.recorded.body accepted bound).Records record result) ∧
            ∀ record outcome left,
              (woven.recorded.body accepted bound).Records record (outcome, left) →
              Flawless record →
              (∀ number < woven.chain.around.length, proceedsOf number record = 1) →
              WovenMethod.Scheduled woven.chain ⟨⟨className, method⟩, accepted⟩ (stepsOf record)
                outcome := by
  have named : entry.name = method := by
    obtain ⟨definition, _, found⟩ := Option.bind_eq_some_iff.mp present
    exact Named.key_of_find? Entry.name found
  subst named
  have orderly := reachable.wellFormed
  have wraps := (mem_wrapped_iff quiet orderly runs present).mp wrapped
  have due : weaver.isDue entry = true := by
    rw [Weaver.wraps, Bool.and_eq_true] at wraps
    exact wraps.1
  have installed : later.classes.entry? ⟨className, entry.name⟩ = some { entry with
      body := (weaver.wrapping className entry).body, woven := true, processed := true } := by
    rw [entry_of_weave quiet orderly runs, present, Option.map_some, wovenEntry, if_pos wraps]
  refine ⟨weaver.directives entry.method, weaver.wrapping className entry, rfl,
    resolves_of_weave quiet orderly runs present due, rfl, ?_⟩
  intro table unchanged receiver site arguments accepted bound admits
  have called : table.invoke ⟨className, entry.name⟩ receiver site arguments =
      ((weaver.wrapping className entry).recorded.body accepted bound).forget := by
    rw [ClassTable.invoke_eq_of_admits (unchanged.trans installed)
      ⟨admits.visible, admits.accepts, admits.binds⟩, WovenMethod.forget_body]
  refine ⟨called, fun history result ends => ?_,
    fun record outcome left records flawless once => ?_⟩
  · rw [called] at ends
    exact Program.exists_records_of_ends_forget ends
  · exact WovenMethod.scheduled_of_records records flawless once

/-! ### A class with one method -/

/-- Three advice functions that let everything pass. -/
def observers : Registry Interface.idle :=
  { functions :=
      [⟨"pass", .around fun _ _ => Surrounding.proceed⟩,
       ⟨"stamp", .before fun _ _ => .done (.ok ())⟩,
       ⟨"keep", .after fun _ _ given => .done (.ok given)⟩] }

/-- A method that asks for each of them. -/
def observedMethod : Entry Interface.idle where
  method :=
    { name := "add", isStatic := true
      documentation := some "@around pass\n@before stamp now\n@after keep" }
  body := fun _ arguments => .done (.ok .null, arguments)

/-- A world in which there is only the class of this method. -/
def observedWorld : World Interface.idle Unit where
  classes := ⟨[("Account", ⟨"Account", [observedMethod]⟩)]⟩
  clock := 0
  log := []
  state := ()

/-- The method is wrapped, and each call of it has the steps that its documentation asks for. -/
theorem invoke_of_weave_observed :
    ∃ (host : Host Interface.idle Unit) (told : WeaveReport)
      (later : World Interface.idle Unit),
      observedWorld.classes.Reachable ∧ observers.Quiet host ∧
      Weaver.weave ⟨observers, .skip⟩ host "Account" observedWorld = some (.ok told, later) ∧
      observedWorld.classes.entry? ⟨"Account", "add"⟩ = some observedMethod ∧
      "add" ∈ told.wrapped ∧
      ∃ (woven : WovenMethod Interface.idle) (record : List Moment),
        later.classes.invoke ⟨"Account", "add"⟩ .static .external [] =
          (woven.recorded.body .static []).forget ∧
        (woven.recorded.body .static []).Records record (.ok .null, []) ∧
        WovenMethod.Scheduled woven.chain ⟨⟨"Account", "add"⟩, .static⟩ (stepsOf record)
          (.ok .null) ∧
        .beforeBegins 0 ⟨⟨"Account", "add"⟩, .static⟩ ["now"] ∈ stepsOf record := by
  obtain ⟨told, later, runs, names⟩ := wrapped?_eq_some_iff.mp
    (show wrapped? ⟨observers, .skip⟩ (nofun : Host Interface.idle Unit) "Account" observedWorld =
      some ["add"] by decide +kernel)
  have wrapped : "add" ∈ told.wrapped := by
    rw [names]
    exact List.mem_singleton_self _
  have reachable : observedWorld.classes.Reachable := by
    refine ClassTable.Reachable.single (fun entry member => ?_) rfl
    rw [List.mem_singleton.mp member]
    exact ⟨rfl, rfl⟩
  have quiet : observers.Quiet (nofun : Host Interface.idle Unit) := by
    intro handle member
    simp [observers, Registry.handlers] at member
  obtain ⟨directives, woven, parsed, _, shape, calls⟩ :=
    invoke_of_weave reachable quiet runs rfl wrapped
  have asked : directives = [⟨"around", ["pass"], 1⟩, ⟨"before", ["stamp", "now"], 2⟩,
      ⟨"after", ["keep"], 3⟩] := by
    rw [parsed]
    decide +kernel
  rw [asked] at shape
  obtain ⟨called, _, scheduled⟩ := calls later.classes rfl .static .external [] .static []
    ⟨rfl, rfl, rfl⟩
  let joinPoint : JoinPoint := ⟨⟨"Account", "add"⟩, .static⟩
  let record : List Moment :=
    [.beforeBegins 0 joinPoint ["now"], .beforeEnds 0 (.ok ()), .aroundBegins 0 joinPoint [],
     .proceeds 0, .bodyBegins .static [], .bodyEnds (.ok .null) [], .aroundEnds 0 (.ok .null),
     .afterBegins 0 joinPoint [] .null, .afterEnds 0 (.ok .null)]
  have recorded : (woven.recorded.body .static []).Records record (.ok .null, []) := by
    rw [shape]
    exact ⟨_, .ask () (.ask () (.ask () (.ask () (.ask () (.ask () (.ask () (.ask () (.ask ()
      (.ask () (.ask () (.done _))))))))))), rfl⟩
  have flawless : Flawless record := by
    intro moment member
    simp only [record, List.mem_cons, List.not_mem_nil, or_false] at member
    rcases member with rfl | rfl | rfl | rfl | rfl | rfl | rfl | rfl | rfl <;> rfl
  have once : ∀ number < woven.chain.around.length, proceedsOf number record = 1 := by
    intro number bound
    rw [shape] at bound
    have single : number < 1 := bound
    obtain rfl : number = 0 := by omega
    rfl
  refine ⟨nofun, told, later, reachable, quiet, runs, rfl, wrapped, woven, record, called,
    recorded, scheduled record _ _ recorded flawless once, ?_⟩
  exact List.mem_cons_self

end AspectWeaver.Weaver
