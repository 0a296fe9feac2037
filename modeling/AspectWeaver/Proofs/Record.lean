/-
**Records: the notes that a recorded program leaves, however its requests are answered.**

* `records_bind_iff`, `shows_bind_iff` — **records compose** as histories do.
* `records_noting_iff`, `records_between` — a noted moment stands at its place in the record; a
  request that is no note leaves nothing (`records_request`, `records_unrecorded`). Of any request,
  what is noted of it comes first (`records_ask_iff`).
* `exists_records_of_ends_forget`, `exists_records_body` — every way a program ends without its
  notes has a record.
* `replay` — the record of a program for which no time passes, which can be computed.
-/

import AspectWeaver.Proofs.Recording

namespace AspectWeaver

variable {S : Interface} {α β : Type}

/-- The moment that an exchange notes. -/
def noted? : Exchange (Hosted (Recording S)) → Option Moment
  | ⟨.service (.note moment), _⟩ => some moment
  | _ => none

/-- The moments noted in a history, in order. -/
def momentsOf (history : List (Exchange (Hosted (Recording S)))) : List Moment :=
  history.filterMap noted?

theorem momentsOf_append (first second : List (Exchange (Hosted (Recording S)))) :
    momentsOf (first ++ second) = momentsOf first ++ momentsOf second :=
  List.filterMap_append

namespace Program

/-- The program can come to its end with this record and this result. -/
def Records (program : Program (Hosted (Recording S)) α) (record : List Moment) (result : α) :
    Prop :=
  ∃ history, program.Ends history result ∧ momentsOf history = record

/-- The program can have left this record at some point of its run. -/
def Shows (program : Program (Hosted (Recording S)) α) (record : List Moment) : Prop :=
  ∃ history, program.Reaches history ∧ momentsOf history = record

theorem Records.shows {program : Program (Hosted (Recording S)) α} {record : List Moment}
    {result : α} (records : program.Records record result) : program.Shows record := by
  obtain ⟨history, ends, rfl⟩ := records
  exact ⟨history, ends.reaches, rfl⟩

/-- At the beginning of its run a program has left nothing. -/
theorem shows_nil (program : Program (Hosted (Recording S)) α) : program.Shows [] :=
  ⟨[], .start program, rfl⟩

@[simp] theorem records_done_iff {result ended : α} {record : List Moment} :
    (done result : Program (Hosted (Recording S)) α).Records record ended ↔
      record = [] ∧ ended = result := by
  constructor
  · rintro ⟨history, ends, rfl⟩
    obtain ⟨rfl, rfl⟩ := ends_done_iff.mp ends
    exact ⟨rfl, rfl⟩
  · rintro ⟨rfl, rfl⟩
    exact ⟨[], .done ended, rfl⟩

@[simp] theorem shows_done_iff {result : α} {record : List Moment} :
    (done result : Program (Hosted (Recording S)) α).Shows record ↔ record = [] := by
  constructor
  · rintro ⟨history, reaches, rfl⟩
    rw [reaches_done_iff.mp reaches]
    rfl
  · rintro rfl
    exact shows_nil _

/-! ### Sequences -/

/-- **The record of a sequence** is a record of its first part and one of its second. -/
theorem records_bind_iff {program : Program (Hosted (Recording S)) α}
    {next : α → Program (Hosted (Recording S)) β} {record : List Moment} {result : β} :
    (program.bind next).Records record result ↔
      ∃ first second middle, record = first ++ second ∧ program.Records first middle ∧
        (next middle).Records second result := by
  constructor
  · rintro ⟨history, ends, rfl⟩
    obtain ⟨first, second, middle, rfl, ended, rest⟩ := ends_bind_iff.mp ends
    exact ⟨_, _, middle, momentsOf_append first second, ⟨first, ended, rfl⟩, ⟨second, rest, rfl⟩⟩
  · rintro ⟨_, _, middle, rfl, ⟨first, ended, rfl⟩, ⟨second, rest, rfl⟩⟩
    exact ⟨first ++ second, ends_bind_iff.mpr ⟨first, second, middle, rfl, ended, rest⟩,
      momentsOf_append first second⟩

/-- **What a sequence shows** its first part shows, or its second after the first has ended. -/
theorem shows_bind_iff {program : Program (Hosted (Recording S)) α}
    {next : α → Program (Hosted (Recording S)) β} {record : List Moment} :
    (program.bind next).Shows record ↔
      program.Shows record ∨
        ∃ first second middle, record = first ++ second ∧ program.Records first middle ∧
          (next middle).Shows second := by
  constructor
  · rintro ⟨history, reaches, rfl⟩
    rcases reaches_bind_iff.mp reaches with reaches | ⟨first, second, middle, rfl, ended, rest⟩
    · exact .inl ⟨history, reaches, rfl⟩
    · exact .inr ⟨_, _, middle, momentsOf_append first second, ⟨first, ended, rfl⟩,
        ⟨second, rest, rfl⟩⟩
  · rintro (⟨history, reaches, rfl⟩ | ⟨_, _, middle, rfl, ⟨first, ended, rfl⟩, ⟨second, rest, rfl⟩⟩)
    · exact ⟨history, reaches_bind_iff.mpr (.inl reaches), rfl⟩
    · exact ⟨first ++ second,
        reaches_bind_iff.mpr (.inr ⟨first, second, middle, rfl, ended, rest⟩),
        momentsOf_append first second⟩

/-! ### Notes and other requests -/

/-- A noted moment stands at the beginning of the record. -/
theorem records_noting_iff {moment : Moment} {program : Program (Hosted (Recording S)) α}
    {record : List Moment} {result : α} :
    (noting moment program).Records record result ↔
      ∃ later, record = moment :: later ∧ program.Records later result := by
  constructor
  · rintro ⟨history, ends, rfl⟩
    obtain ⟨reply, later, rfl, rest⟩ := ends_ask_iff.mp ends
    exact ⟨momentsOf later, rfl, later, rest, rfl⟩
  · rintro ⟨_, rfl, later, rest, rfl⟩
    exact ⟨⟨.service (.note moment), ()⟩ :: later, ends_ask_iff.mpr ⟨(), later, rfl, rest⟩, rfl⟩

/-- What is noted of a request stands at the beginning of the record, if anything is. -/
theorem records_ask_iff {request : HostRequest (Recording S)}
    {resume : request.Reply → Program (Hosted (Recording S)) α} {record : List Moment}
    {result : α} :
    Records (.ask request resume) record result ↔
      ∃ reply later, record = (noted? ⟨request, reply⟩).toList ++ later ∧
        (resume reply).Records later result := by
  have first (reply : request.Reply) (later : List (Exchange (Hosted (Recording S)))) :
      momentsOf (⟨request, reply⟩ :: later) =
        (noted? ⟨request, reply⟩).toList ++ momentsOf later := by
    rw [momentsOf, List.filterMap_cons]
    split <;> rename_i noted <;> rw [noted] <;> rfl
  constructor
  · rintro ⟨history, ends, rfl⟩
    obtain ⟨reply, later, rfl, rest⟩ := ends_ask_iff.mp ends
    exact ⟨reply, _, first reply later, later, rest, rfl⟩
  · rintro ⟨reply, _, rfl, later, rest, rfl⟩
    exact ⟨_, ends_ask_iff.mpr ⟨reply, later, rfl, rest⟩, first reply later⟩

/-- A program between two notes, the second of which tells how it ended. -/
theorem records_between {begins : Moment} {ends : α → Moment}
    {program : Program (Hosted (Recording S)) α} {record : List Moment} {result : α}
    (records : (noting begins (program.bind fun ended =>
      noting (ends ended) (done ended))).Records record result) :
    ∃ within, record = begins :: (within ++ [ends result]) ∧ program.Records within result := by
  obtain ⟨later, rfl, ran⟩ := records_noting_iff.mp records
  obtain ⟨within, last, ended, rfl, handled, rest⟩ := records_bind_iff.mp ran
  obtain ⟨silent, rfl, closed⟩ := records_noting_iff.mp rest
  obtain ⟨rfl, rfl⟩ := records_done_iff.mp closed
  exact ⟨within, rfl, handled⟩

theorem shows_noting_iff {moment : Moment} {program : Program (Hosted (Recording S)) α}
    {record : List Moment} :
    (noting moment program).Shows record ↔
      record = [] ∨ ∃ later, record = moment :: later ∧ program.Shows later := by
  constructor
  · rintro ⟨history, reaches, rfl⟩
    rcases reaches_ask_iff.mp reaches with rfl | ⟨reply, later, rfl, rest⟩
    · exact .inl rfl
    · exact .inr ⟨momentsOf later, rfl, later, rest, rfl⟩
  · rintro (rfl | ⟨_, rfl, later, rest, rfl⟩)
    · exact shows_nil _
    · exact ⟨⟨.service (.note moment), ()⟩ :: later,
        reaches_ask_iff.mpr (.inr ⟨(), later, rfl, rest⟩), rfl⟩

/-- A request that is no note leaves nothing in the record. -/
theorem records_request (request : HostRequest S) {reply : request.Reply} {record : List Moment}
    (records : (request.unrecorded askHost).Records record reply) : record = [] := by
  obtain ⟨history, ends, rfl⟩ := records
  match request with
  | .log event | .clock | .service request =>
      obtain ⟨reply, later, rfl, rest⟩ := ends_ask_iff.mp ends
      obtain ⟨rfl, _⟩ := ends_done_iff.mp rest
      rfl

theorem shows_request (request : HostRequest S) {record : List Moment}
    (shows : (request.unrecorded askHost).Shows record) : record = [] := by
  obtain ⟨history, reaches, rfl⟩ := shows
  match request with
  | .log event | .clock | .service request =>
      rcases reaches_ask_iff.mp reaches with rfl | ⟨reply, later, rfl, rest⟩
      · rfl
      · rw [reaches_done_iff.mp rest]
        rfl

/-- A line for the log leaves nothing in the record. -/
theorem records_writeLog_iff {event : Event} {next : Unit → Program (Hosted (Recording S)) α}
    {record : List Moment} {result : α} :
    ((writeLog event).bind next).Records record result ↔ (next ()).Records record result := by
  constructor
  · intro records
    obtain ⟨first, second, _, rfl, written, rest⟩ := records_bind_iff.mp records
    rw [records_request (.log event) written]
    exact rest
  · rintro ⟨history, ends, rfl⟩
    exact ⟨_, ends_ask_iff.mpr ⟨(), history, rfl, ends⟩, rfl⟩

theorem shows_of_shows_writeLog {event : Event} {next : Unit → Program (Hosted (Recording S)) α}
    {record : List Moment} (shows : ((writeLog event).bind next).Shows record) :
    (next ()).Shows record := by
  rcases shows_bind_iff.mp shows with written | ⟨first, second, _, rfl, written, rest⟩
  · rw [shows_request (.log event) written]
    exact shows_nil _
  · rw [records_request (.log event) written]
    exact rest

/-- A program that notes nothing leaves an empty record. -/
theorem records_unrecorded {program : Program (Hosted S) α} {record : List Moment} {result : α}
    (records : program.unrecorded.Records record result) : record = [] := by
  induction program generalizing record with
  | done value => exact (records_done_iff.mp records).1
  | ask request resume ih =>
      obtain ⟨first, second, reply, rfl, asked, rest⟩ := records_bind_iff.mp records
      rw [records_request request asked, ih reply rest]
      rfl

theorem shows_unrecorded {program : Program (Hosted S) α} {record : List Moment}
    (shows : program.unrecorded.Shows record) : record = [] := by
  induction program generalizing record with
  | done value => exact shows_done_iff.mp shows
  | ask request resume ih =>
      rcases shows_bind_iff.mp shows with asked | ⟨first, second, reply, rfl, asked, rest⟩
      · exact shows_request request asked
      · rw [records_request request asked, ih reply rest]
        rfl

/-- Every way a program ends without its notes has a record. -/
theorem exists_records_of_ends_forget {program : Program (Hosted (Recording S)) α}
    {history : List (Exchange (Hosted S))} {result : α}
    (ends : program.forget.Ends history result) : ∃ record, program.Records record result := by
  induction program generalizing history with
  | done value =>
      obtain ⟨rfl, rfl⟩ := ends_done_iff.mp ends
      exact ⟨[], records_done_iff.mpr ⟨rfl, rfl⟩⟩
  | ask request resume ih =>
      match request with
      | .log event =>
          obtain ⟨reply, later, rfl, rest⟩ := ends_ask_iff.mp ends
          obtain ⟨record, history, recorded, rfl⟩ := ih reply rest
          exact ⟨_, _, ends_ask_iff.mpr ⟨reply, history, rfl, recorded⟩, rfl⟩
      | .clock =>
          obtain ⟨reply, later, rfl, rest⟩ := ends_ask_iff.mp ends
          obtain ⟨record, history, recorded, rfl⟩ := ih reply rest
          exact ⟨_, _, ends_ask_iff.mpr ⟨reply, history, rfl, recorded⟩, rfl⟩
      | .service (.service service) =>
          obtain ⟨reply, later, rfl, rest⟩ := ends_ask_iff.mp ends
          obtain ⟨record, history, recorded, rfl⟩ := ih reply rest
          exact ⟨_, _, ends_ask_iff.mpr ⟨reply, history, rfl, recorded⟩, rfl⟩
      | .service (.note moment) =>
          obtain ⟨record, recorded⟩ := ih () ends
          exact ⟨moment :: record, records_noting_iff.mpr ⟨record, rfl, recorded⟩⟩

/-- The record and the result of a program that uses no services, if the clock stands still. -/
def replay : Program (Hosted (Recording Interface.idle)) α → List Moment × α
  | .done result => ([], result)
  | .ask (.log _) resume => (resume ()).replay
  | .ask .clock resume => (resume (0 : Nat)).replay
  | .ask (.service (.note moment)) resume =>
      let (record, result) := (resume ()).replay
      (moment :: record, result)

/-- It is one of the ways in which the program can come to its end. -/
theorem records_replay (program : Program (Hosted (Recording Interface.idle)) α) :
    program.Records program.replay.1 program.replay.2 := by
  induction program with
  | done result => exact records_done_iff.mpr ⟨rfl, rfl⟩
  | ask request resume ih =>
      match request with
      | .log event =>
          obtain ⟨history, ends, recorded⟩ := ih ()
          exact ⟨_, ends_ask_iff.mpr ⟨(), history, rfl, ends⟩, recorded⟩
      | .clock =>
          obtain ⟨history, ends, recorded⟩ := ih (0 : Nat)
          exact ⟨_, ends_ask_iff.mpr ⟨(0 : Nat), history, rfl, ends⟩, recorded⟩
      | .service (.note moment) =>
          exact records_noting_iff.mpr ⟨_, rfl, ih ()⟩

end Program

namespace WovenMethod

/-- The record of a call is the record of its layers. -/
theorem records_body_iff {woven : WovenMethod (Recording S)} {receiver : Receiver}
    {passed left : List Value} {outcome : Outcome} {record : List Moment} :
    (woven.body receiver passed).Records record (outcome, left) ↔
      ∃ params, (run woven.chain woven.original ⟨woven.target, receiver⟩ passed
          (Parameters.ofCall woven.method.parameters passed)).Records record (outcome, params) ∧
        left = params.overlay passed := by
  rw [body_eq, Program.records_writeLog_iff, Program.records_bind_iff]
  constructor
  · rintro ⟨first, second, ended, rfl, ran, rest⟩
    have last := Program.records_writeLog_iff.mp rest
    obtain ⟨rfl, same⟩ := Program.records_done_iff.mp last
    cases same
    exact ⟨ended.2, by rw [List.append_nil]; exact ran, rfl⟩
  · rintro ⟨params, ran, rfl⟩
    exact ⟨record, [], (outcome, params), (List.append_nil record).symm, ran,
      Program.records_writeLog_iff.mpr (Program.records_done_iff.mpr ⟨rfl, rfl⟩)⟩

/-- Every way a call ends has a record. -/
theorem exists_records_body {woven : WovenMethod S} {receiver : Receiver} {passed : List Value}
    {history : List (Exchange (Hosted S))} {result : Outcome × List Value}
    (ends : (woven.body receiver passed).Ends history result) :
    ∃ record, (woven.recorded.body receiver passed).Records record result := by
  rw [← woven.forget_body] at ends
  exact Program.exists_records_of_ends_forget ends

/-- What a call shows its layers show. -/
theorem shows_run_of_shows_body {woven : WovenMethod (Recording S)} {receiver : Receiver}
    {passed : List Value} {record : List Moment}
    (shows : (woven.body receiver passed).Shows record) :
    (run woven.chain woven.original ⟨woven.target, receiver⟩ passed
      (Parameters.ofCall woven.method.parameters passed)).Shows record := by
  rw [body_eq] at shows
  rcases Program.shows_bind_iff.mp (Program.shows_of_shows_writeLog shows) with
    shown | ⟨first, second, ended, rfl, ran, rest⟩
  · exact shown
  · have last := Program.shows_of_shows_writeLog rest
    rw [Program.shows_done_iff.mp last, List.append_nil]
    exact ran.shows

end WovenMethod

end AspectWeaver
