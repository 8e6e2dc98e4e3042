import Mathlib.Data.List.Perm.Basic
import SnippetRunner.Proofs.Runs
import SnippetRunner.Proofs.Worker.Replies
import SnippetRunner.Worker.Flow

/-!
How the requests of a stream come to their replies. A request that was read is at one place of the flow at a
time, whoever takes the next step, and so is the reply that is made of it: nothing is lost and nothing is
answered twice. No flow is stuck before its end, and none goes on for ever.
-/

namespace SnippetRunner.Worker

/-- What the client that sent a request is told. -/
def Envelope.reply (answer : String → String) (envelope : Envelope) : Reply :=
  ⟨envelope.clientId, answer envelope.code⟩

namespace Flow
variable {answer : String → String} {before after flow : Flow} {act : Act}

section Steps

/-- All that a step can do, and when it can be taken. -/
inductive Moved (answer : String → String) (before : Flow) : Act → Flow → Prop where
  | read (octets : Bytes) (rest : List Bytes) (envelope : Envelope) (whole : before.fault = none)
      (free : before.held = none) (next : before.unread = octets :: rest)
      (line : Line.read octets = .ok (.request envelope)) :
      Moved answer before .read { before with unread := rest, held := some envelope }
  | skip (octets : Bytes) (rest : List Bytes) (other : Line) (whole : before.fault = none)
      (free : before.held = none) (next : before.unread = octets :: rest) (line : Line.read octets = .ok other)
      (none : requests [other] = []) :
      Moved answer before .read { before with unread := rest }
  | breakOff (octets : Bytes) (rest : List Bytes) (fault : Utf8.Fault) (whole : before.fault = none)
      (free : before.held = none) (next : before.unread = octets :: rest)
      (line : Line.read octets = .error fault) :
      Moved answer before .read { before with unread := rest, fault := some fault }
  | launch (envelope : Envelope) (held : before.held = some envelope) (permit : before.permits ≠ 0) :
      Moved answer before .launch
        { before with held := none, permits := before.permits - 1
                      executing := before.executing ++ [envelope] }
  | finish (index : Nat) (envelope : Envelope) (here : before.executing[index]? = some envelope) :
      Moved answer before (.finish index)
        { before with executing := before.executing.eraseIdx index, permits := before.permits + 1
                      answered := before.answered ++ [envelope.reply answer] }
  | send (index : Nat) (reply : Reply) (here : before.answered[index]? = some reply)
      (space : before.channel.length < room) :
      Moved answer before (.send index)
        { before with answered := before.answered.eraseIdx index, channel := before.channel ++ [reply] }
  | close (served : before.isServed = true) (opened : before.closed = false) :
      Moved answer before .close { before with closed := true }
  | write (reply : Reply) (rest : List Reply) (next : before.channel = reply :: rest) :
      Moved answer before .write { before with channel := rest, written := before.written ++ [reply] }

theorem moved_read (step : before.read? = some after) : Moved answer before .read after := by
  unfold read? at step
  split at step
  case h_1 octets rest whole free next =>
    split at step
    case h_1 envelope line =>
      cases step
      exact .read octets rest envelope whole free next line
    case h_2 other request line =>
      cases step
      refine .skip octets rest other whole free next line ?_
      cases other with
      | request envelope => exact absurd rfl (request envelope)
      | blank => rfl
      | malformed => rfl
    case h_3 fault line =>
      cases step
      exact .breakOff octets rest fault whole free next line
  case h_2 => cases step

theorem moved_launch (step : before.launch? = some after) : Moved answer before .launch after := by
  unfold launch? at step
  split at step
  case h_1 envelope held =>
    split at step
    case isTrue => cases step
    case isFalse permit =>
      cases step
      exact .launch envelope held permit
  case h_2 => cases step

theorem moved_finish {index : Nat} (step : before.finish? answer index = some after) :
    Moved answer before (.finish index) after := by
  unfold finish? at step
  split at step
  case h_1 envelope here =>
    cases step
    exact .finish index envelope here
  case h_2 => cases step

theorem moved_send {index : Nat} (step : before.send? index = some after) :
    Moved answer before (.send index) after := by
  unfold send? at step
  split at step
  case h_1 reply here =>
    split at step
    case isTrue space =>
      cases step
      exact .send index reply here space
    case isFalse => cases step
  case h_2 => cases step

theorem moved_close (step : before.close? = some after) : Moved answer before .close after := by
  unfold close? at step
  split at step
  case isTrue can =>
    cases step
    obtain ⟨served, opened⟩ := Bool.and_eq_true_iff.mp can
    exact .close served (by simpa using opened)
  case isFalse => cases step

theorem moved_write (step : before.write? = some after) : Moved answer before .write after := by
  unfold write? at step
  split at step
  case h_1 reply rest next =>
    cases step
    exact .write reply rest next
  case h_2 => cases step

/-- A step does one of these things, and each of them is a step. -/
theorem step_iff : before.step? answer act = some after ↔ Moved answer before act after := by
  constructor
  · intro step
    cases act with
    | read => exact moved_read step
    | launch => exact moved_launch step
    | finish index => exact moved_finish step
    | send index => exact moved_send step
    | close => exact moved_close step
    | write => exact moved_write step
  · intro moved
    cases moved with
    | read octets rest envelope whole free next line => simp [step?, read?, whole, free, next, line]
    | skip octets rest other whole free next line none =>
        cases other with
        | request envelope => cases none
        | blank => simp [step?, read?, whole, free, next, line]
        | malformed => simp [step?, read?, whole, free, next, line]
    | breakOff octets rest fault whole free next line => simp [step?, read?, whole, free, next, line]
    | launch envelope held permit => simp [step?, launch?, held, permit]
    | finish index envelope here => simp [step?, finish?, here, Envelope.reply]
    | send index reply here space => simp [step?, send?, here, space]
    | close served opened => simp [step?, close?, served, opened]
    | write reply rest next => simp [step?, write?, next]

theorem stepwise (answer : String → String) : Stepwise (step? answer) (run? answer) where
  nil _ := rfl
  cons _ _ _ := rfl

end Steps

section Places

/-- The requests that are still to be read. -/
def pending (flow : Flow) : List Envelope :=
  match flow.fault with
  | none => requests (readLines flow.unread).1
  | some _ => []

/-- The replies that are written, and those that are on their way, from what is still to be read. -/
def owed (answer : String → String) (flow : Flow) : List Reply :=
  (flow.pending ++ flow.held.toList ++ flow.executing).map (Envelope.reply answer) ++ flow.answered ++ flow.channel ++
    flow.written

theorem requests_cons (line : Line) (rest : List Line) :
    requests (line :: rest) = requests [line] ++ requests rest := by
  rw [requests, requests, requests, ← List.filterMap_append, List.singleton_append]

theorem pending_of_line {octets : Bytes} {rest : List Bytes} {line : Line} (whole : before.fault = none)
    (next : before.unread = octets :: rest) (read : Line.read octets = .ok line) :
    before.pending = requests [line] ++ requests (readLines rest).1 := by
  simp only [pending, whole, next, readLines, read]
  exact requests_cons line _

theorem pending_of_fault {octets : Bytes} {rest : List Bytes} {fault : Utf8.Fault} (whole : before.fault = none)
    (next : before.unread = octets :: rest) (read : Line.read octets = .error fault) : before.pending = [] := by
  simp only [pending, whole, next, readLines, read]
  rfl

theorem perm_cons_eraseIdx {α : Type} {items : List α} {index : Nat} {item : α} (here : items[index]? = some item) :
    items.Perm (item :: items.eraseIdx index) := by
  obtain ⟨within, rfl⟩ := List.getElem?_eq_some_iff.mp here
  exact (List.getElem_cons_eraseIdx_perm within).symm

/-- A step moves a request or a reply from one place to the next. -/
theorem moved_owed (moved : Moved answer before act after) : (after.owed answer).Perm (before.owed answer) := by
  refine List.perm_iff_count.mpr fun reply => ?_
  cases moved with
  | read octets rest envelope whole free next line =>
      have now := pending_of_line whole next line
      have later : { before with unread := rest, held := some envelope }.pending = requests (readLines rest).1 := by
        simp only [pending, whole]
      have one : requests [.request envelope] = [envelope] := rfl
      simp only [owed, now, later, one, free, Option.toList, List.map_append, List.map_cons, List.map_nil,
        List.count_append, List.count_nil]
      omega
  | skip octets rest other whole free next line none =>
      have now := pending_of_line whole next line
      have later : { before with unread := rest }.pending = requests (readLines rest).1 := by
        simp only [pending, whole]
      simp only [owed, now, later, none, List.nil_append]
  | breakOff octets rest fault whole free next line =>
      have now := pending_of_fault whole next line
      have later : { before with unread := rest, fault := some fault }.pending = [] := rfl
      simp only [owed, now, later]
  | launch envelope held permit =>
      simp only [owed, pending, held, Option.toList, List.map_append, List.map_nil, List.count_append, List.count_nil]
      omega
  | finish index envelope here =>
      have picked := ((perm_cons_eraseIdx here).map (Envelope.reply answer)).count_eq reply
      simp only [owed, pending, List.map_append, List.map_cons, List.count_append, List.count_cons, List.count_nil]
        at picked ⊢
      omega
  | send index sent here space =>
      have picked := (perm_cons_eraseIdx here).count_eq reply
      simp only [owed, pending, List.count_append, List.count_cons, List.count_nil] at picked ⊢
      omega
  | close served opened => rfl
  | write sent rest next =>
      simp only [owed, pending, next, List.count_append, List.count_cons, List.count_nil]
      omega

end Places

section Runs
variable {concurrency : Nat} {stream : Bytes} {acts : List Act}

theorem served_iff : flow.isServed = true ↔
    flow.unread = [] ∧ flow.held = none ∧ flow.executing = [] ∧ flow.answered = [] ∧ flow.fault = none := by
  simp [isServed, and_assoc]

/-- The replies that the requests of a stream are to get. -/
def wanted (answer : String → String) (stream : Bytes) : List Reply :=
  (requests (readLines (cut stream)).1).map (Envelope.reply answer)

/-- A flow that keeps its accounts: of permits, of replies, and of its end. -/
structure Sound (answer : String → String) (concurrency : Nat) (stream : Bytes) (flow : Flow) : Prop where
  permits : flow.permits + flow.executing.length = limit concurrency
  owed : (flow.owed answer).Perm (wanted answer stream)
  served : flow.closed = true → flow.isServed = true

theorem sound_start : Sound answer concurrency stream (start concurrency stream) where
  permits := rfl
  owed := by simp [Flow.owed, start, pending, wanted]
  served closed := by cases closed

/-- After the end there is nothing to do but to write. -/
theorem moved_served (moved : Moved answer before act after)
    (served : before.closed = true → before.isServed = true) : after.closed = true → after.isServed = true := by
  intro closed
  cases moved with
  | read octets rest envelope whole free next line =>
      obtain ⟨unread, _⟩ := served_iff.mp (served closed)
      cases next.symm.trans unread
  | skip octets rest other whole free next line none =>
      obtain ⟨unread, _⟩ := served_iff.mp (served closed)
      cases next.symm.trans unread
  | breakOff octets rest fault whole free next line =>
      obtain ⟨unread, _⟩ := served_iff.mp (served closed)
      cases next.symm.trans unread
  | launch envelope held permit =>
      obtain ⟨_, free, _⟩ := served_iff.mp (served closed)
      cases held.symm.trans free
  | finish index envelope here =>
      obtain ⟨_, _, executing, _⟩ := served_iff.mp (served closed)
      rw [executing] at here
      cases here
  | send index reply here space =>
      obtain ⟨_, _, _, answered, _⟩ := served_iff.mp (served closed)
      rw [answered] at here
      cases here
  | close done opened => exact done
  | write reply rest next => exact served closed

theorem moved_permits (moved : Moved answer before act after)
    (permits : before.permits + before.executing.length = limit concurrency) :
    after.permits + after.executing.length = limit concurrency := by
  cases moved with
  | launch envelope held permit =>
      simp only [List.length_append, List.length_singleton]
      omega
  | finish index envelope here =>
      have one := (perm_cons_eraseIdx here).length_eq
      rw [List.length_cons] at one
      show before.permits + 1 + (before.executing.eraseIdx index).length = limit concurrency
      omega
  | read | skip | breakOff | send | close | write => exact permits

theorem moved_sound (moved : Moved answer before act after) (sound : Sound answer concurrency stream before) :
    Sound answer concurrency stream after where
  permits := moved_permits moved sound.permits
  owed := (moved_owed moved).trans sound.owed
  served := moved_served moved sound.served

theorem sound_run (ran : (start concurrency stream).run? answer acts = some flow) :
    Sound answer concurrency stream flow :=
  (stepwise answer).preserves (Sound answer concurrency stream)
    (fun _ _ _ sound step => moved_sound (step_iff.mp step) sound) acts sound_start ran

theorem Sound.executing_le (sound : Sound answer concurrency stream flow) :
    flow.executing.length ≤ limit concurrency :=
  Nat.le.intro ((Nat.add_comm _ _).trans sound.permits)

/-- At the end the replies are written that were to be written. -/
theorem Sound.written_of_done (sound : Sound answer concurrency stream flow) (done : flow.isDone = true) :
    flow.written.Perm (wanted answer stream) := by
  obtain ⟨closed, empty⟩ := Bool.and_eq_true_iff.mp done
  obtain ⟨unread, free, executing, answered, whole⟩ := served_iff.mp (sound.served closed)
  have owed := sound.owed
  simpa [Flow.owed, pending, whole, unread, free, executing, answered, List.isEmpty_iff.mp empty, readLines, requests]
    using owed

end Runs

section Ends
variable {concurrency : Nat} {stream : Bytes} {acts : List Act}

/-- How many steps there are still to take, at most. -/
def effort (flow : Flow) : Nat :=
  6 * flow.unread.length + 5 * flow.held.toList.length + 4 * flow.executing.length + 3 * flow.answered.length +
    2 * flow.channel.length + (if flow.closed then 0 else 1)

theorem moved_effort (moved : Moved answer before act after) : after.effort < before.effort := by
  cases moved with
  | read octets rest envelope whole free next line => simp [effort, next, free]; omega
  | skip octets rest other whole free next line none => simp [effort, next]
  | breakOff octets rest fault whole free next line => simp [effort, next]
  | launch envelope held permit => simp [effort, held]; omega
  | finish index envelope here =>
      have one := (perm_cons_eraseIdx here).length_eq
      simp only [effort, List.length_append, List.length_cons, List.length_nil] at one ⊢
      omega
  | send index reply here space =>
      have one := (perm_cons_eraseIdx here).length_eq
      simp only [effort, List.length_append, List.length_cons, List.length_nil] at one ⊢
      omega
  | close served opened => simp [effort, opened]
  | write reply rest next => simp [effort, next]

/-- No run is longer than the effort it begins with. -/
theorem length_le_effort (ran : before.run? answer acts = some after) : acts.length + after.effort ≤ before.effort := by
  induction acts generalizing before with
  | nil =>
      cases ran
      exact Nat.le_of_eq (Nat.zero_add _)
  | cons act rest ih =>
      obtain ⟨next, step, later⟩ := Option.bind_eq_some_iff.mp ran
      have less := moved_effort (step_iff.mp step)
      have more := ih later
      rw [List.length_cons]
      omega

/-- A flow that is not at its end has a step to take. -/
theorem step_of_not_done (sound : Sound answer concurrency stream flow) (whole : flow.fault = none)
    (running : flow.isDone ≠ true) : ∃ act next, Moved answer flow act next := by
  cases channel : flow.channel with
  | cons reply rest => exact ⟨_, _, .write reply rest channel⟩
  | nil =>
  cases answered : flow.answered with
  | cons reply rest =>
      exact ⟨_, _, .send 0 reply (by rw [answered]; rfl) (by rw [channel]; exact Nat.zero_lt_succ _)⟩
  | nil =>
  cases executing : flow.executing with
  | cons envelope rest => exact ⟨_, _, .finish 0 envelope (by rw [executing]; rfl)⟩
  | nil =>
  cases held : flow.held with
  | some envelope =>
      -- nobody executes, so all permits are there
      have permits := sound.permits
      rw [executing, List.length_nil, limit] at permits
      exact ⟨_, _, .launch envelope held (by omega)⟩
  | none =>
  cases unread : flow.unread with
  | cons octets rest =>
      cases line : Line.read octets with
      | error fault => exact ⟨_, _, .breakOff octets rest fault whole held unread line⟩
      | ok line' =>
          cases line' with
          | request envelope => exact ⟨_, _, .read octets rest envelope whole held unread line⟩
          | blank => exact ⟨_, _, .skip octets rest .blank whole held unread line rfl⟩
          | malformed => exact ⟨_, _, .skip octets rest .malformed whole held unread line rfl⟩
  | nil =>
      have served : flow.isServed = true := served_iff.mpr ⟨unread, held, executing, answered, whole⟩
      have opened : flow.closed = false := by
        refine Bool.eq_false_iff.mpr fun closed => running ?_
        rw [isDone, closed, channel]
        rfl
      exact ⟨_, _, .close served opened⟩

/-- All lines that are still to be read are texts, and so were the others. -/
def Legible (flow : Flow) : Prop :=
  flow.fault = none ∧ ∀ octets ∈ flow.unread, Utf8.IsText octets

theorem moved_legible (moved : Moved answer before act after) (legible : before.Legible) : after.Legible := by
  obtain ⟨whole, texts⟩ := legible
  cases moved with
  | read octets rest envelope quiet free next line =>
      exact ⟨whole, fun later member => texts later (next ▸ List.mem_cons_of_mem octets member)⟩
  | skip octets rest other quiet free next line none =>
      exact ⟨whole, fun later member => texts later (next ▸ List.mem_cons_of_mem octets member)⟩
  | breakOff octets rest fault quiet free next line =>
      exact absurd (texts octets (next ▸ List.mem_cons_self)) ((not_isText_iff_read octets).mpr ⟨fault, line⟩)
  | launch | finish | send | close | write => exact ⟨whole, texts⟩

theorem legible_run (text : List Char) (ran : (start concurrency (Utf8.write text)).run? answer acts = some flow) :
    flow.Legible :=
  (stepwise answer).preserves Legible (fun _ _ _ legible step => moved_legible (step_iff.mp step) legible) acts
    ⟨rfl, isText_of_mem_cut text⟩ ran

theorem done_of_legible {flow : Flow} (sound : Sound answer concurrency stream flow) (legible : flow.Legible) :
    ∃ more final, flow.run? answer more = some final ∧ final.isDone = true := by
  by_cases done : flow.isDone = true
  · exact ⟨[], flow, rfl, done⟩
  · obtain ⟨act, next, moved⟩ := step_of_not_done sound legible.1 done
    have shorter := moved_effort moved
    obtain ⟨more, final, ran, last⟩ := done_of_legible (moved_sound moved sound) (moved_legible moved legible)
    exact ⟨act :: more, final, by rw [run?, step_iff.mpr moved]; exact ran, last⟩
termination_by flow.effort

/-- From wherever a flow of texts has come to it can come to its end, and there are few steps to any end. -/
theorem run_finishes (text : List Char) (ran : (start concurrency (Utf8.write text)).run? answer acts = some flow) :
    ∃ more final, (start concurrency (Utf8.write text)).run? answer (acts ++ more) = some final ∧
      final.isDone = true ∧ (acts ++ more).length ≤ 6 * (Text.lines text).length + 1 := by
  obtain ⟨more, final, later, done⟩ := done_of_legible (sound_run ran) (legible_run text ran)
  have whole : (start concurrency (Utf8.write text)).run? answer (acts ++ more) = some final := by
    rw [(stepwise answer).append, ran]
    exact later
  have count := congrArg List.length (read_cut_write text)
  rw [List.length_map, List.length_map] at count
  have bounded := length_le_effort whole
  have begun : (start concurrency (Utf8.write text)).effort = 6 * (Text.lines text).length + 1 := by
    rw [← count]
    rfl
  exact ⟨more, final, whole, done, by omega⟩

end Ends

section Serving
variable {φ σ : Type} {concurrency : Nat} {stream : Bytes} {acts : List Act}

/-- An executor that always says the same of a code gives its clients that. -/
theorem answerAll_eq (executor : Request.Executor φ σ)
    (steady : ∀ code factory files result, (executor.evaluate code factory files).1 = some result →
      result.text = answer code)
    (envelopes : List Envelope) (factory : φ) (files : Files.Tree) (replies : List Reply)
    (answers : (answerAll executor factory files envelopes).1 = some replies) :
    replies = envelopes.map (Envelope.reply answer) := by
  induction envelopes generalizing factory files replies with
  | nil =>
      cases answers
      rfl
  | cons envelope rest ih =>
      rw [answerAll] at answers
      split at answers
      case h_1 => cases answers
      case h_2 result factory' files' evaluated =>
        obtain ⟨others, later, rfl⟩ := Option.map_eq_some_iff.mp answers
        have text := steady envelope.code factory files result (by rw [evaluated])
        rw [List.map_cons, Envelope.reply, ← text, ← ih _ _ _ later]

/-- Whoever takes the steps, the replies are those of serving one request after the other. -/
theorem written_of_serve (executor : Request.Executor φ σ)
    (steady : ∀ code factory files result, (executor.evaluate code factory files).1 = some result →
      result.text = answer code)
    (factory : φ) (files : Files.Tree) (served : Served)
    (serves : (serve executor factory stream files).1 = some served) (whole : served.fault = none)
    (ran : (start concurrency stream).run? answer acts = some flow) (done : flow.isDone = true) :
    flow.written.Perm served.replies := by
  unfold serve at serves
  cases read : readLines (cut stream) with
  | mk lines fault =>
  simp only [read] at serves
  cases fault with
  | some fault =>
      cases serves
      cases whole
  | none =>
      obtain ⟨replies, answers, rfl⟩ := Option.map_eq_some_iff.mp serves
      have same := answerAll_eq executor steady _ _ _ _ answers
      have written := (sound_run ran).written_of_done done
      rw [wanted, read] at written
      rwa [same]

end Serving

section Delivered

/-- The reply to a line of a text, if it is a request. -/
def replyTo? (answer : String → String) (line : List Char) : Option Reply :=
  match Line.ofText line with
  | .request envelope => some (envelope.reply answer)
  | _ => none

theorem wanted_write (answer : String → String) (text : List Char) :
    wanted answer (Utf8.write text) = (Text.lines text).filterMap (replyTo? answer) := by
  rw [wanted, readLines_write, requests, List.filterMap_map, List.map_filterMap]
  refine List.filterMap_congr fun line _ => ?_
  show Option.map _ (match Line.ofText line with | .request envelope => some envelope | _ => none) =
    match Line.ofText line with | .request envelope => some (envelope.reply answer) | _ => none
  cases Line.ofText line <;> rfl

/-- Whatever the schedule, no more requests are executed at a time than are allowed, a worker that has come to
its end has written one reply to each request of the text and nothing else, and a client gets each of them as a
line of its own that says who is meant and what the result is. -/
theorem every_request_answered_once (answer : String → String) (concurrency : Nat) (text : List Char)
    (acts : List Act) (flow : Flow)
    (ran : (start concurrency (Utf8.write text)).run? answer acts = some flow) :
    flow.executing.length ≤ max 1 concurrency ∧
      (flow.isDone = true → flow.written.Perm ((Text.lines text).filterMap (replyTo? answer))) ∧
      cut (flow.written.flatMap Reply.octets) = flow.written.map Reply.octets ∧
      ∀ reply : Reply, Reply.ofOctets? reply.octets = some reply ∧
        ∃ body, reply.octets = body ++ [lineFeed] ∧ lineFeed ∉ body := by
  have sound := sound_run ran
  refine ⟨?_, fun done => ?_, Reply.cut_octets flow.written, fun reply => ?_⟩
  · rw [Nat.max_comm]
    exact sound.executing_le
  · rw [← wanted_write]
    exact sound.written_of_done done
  · exact ⟨reply.ofOctets_octets, reply.octets_one_line⟩

/-- Two requests, one in the other's way, and lines that are none. -/
theorem two_requests_answered_once :
    let text := "\x7b\"client_id\":\"a\",\"code\":\"1\"\x7d\n\nno\n\x7b\"client_id\":\"b\",\"code\":\"1\"\x7d".toList
    let acts : List Act := [.read, .launch, .read, .read, .read, .finish 0, .launch, .finish 0, .send 1, .send 0,
      .write, .close, .write]
    ∃ flow, (start 0 (Utf8.write text)).run? id acts = some flow ∧ flow.isDone = true ∧
      flow.written = [⟨"b", "1"⟩, ⟨"a", "1"⟩] ∧
      flow.written.Perm ((Text.lines text).filterMap (replyTo? id)) := by
  intro text acts
  have ran : (start 0 (Utf8.write text)).run? id acts =
      some { unread := [], held := none, permits := 1, executing := [], answered := [], channel := []
             written := [⟨"b", "1"⟩, ⟨"a", "1"⟩], closed := true, fault := none } := by decide +kernel
  exact ⟨_, ran, rfl, rfl, (every_request_answered_once id 0 text acts _ ran).2.1 rfl⟩

end Delivered
end Flow
end SnippetRunner.Worker
