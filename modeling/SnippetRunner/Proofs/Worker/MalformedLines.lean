import SnippetRunner.Proofs.Worker.Delivery

/-!
What a line that is no request does to the others. If it is a text it leaves no trace: the worker can come to the
same ends with it as without it. If it is none it ends the worker, and no request after it is answered.
-/

namespace SnippetRunner.Worker.Flow
open Utf8 (IsText)
variable {answer : String → String} {concurrency : Nat} {stream : Bytes} {before after first second next : Flow}
  {act : Act} {acts : List Act} {extra : Bytes} {written : List Reply} {fault : Option Utf8.Fault}

section Outcomes

/-- The worker can come to an end with these replies written: a good end, or a fault of the stream. -/
def Comes (answer : String → String) (concurrency : Nat) (stream : Bytes) (written : List Reply)
    (fault : Option Utf8.Fault) : Prop :=
  ∃ acts flow, (start concurrency stream).run? answer acts = some flow ∧ flow.written = written ∧
    flow.fault = fault ∧ (fault = none → flow.isDone = true)

/-- What is wrong with the stream, in what was read of it or in what is still to be read. -/
def verdict (flow : Flow) : Option Utf8.Fault :=
  match flow.fault with
  | none => (readLines flow.unread).2
  | some fault => some fault

theorem moved_verdict (moved : Moved answer before act after) : after.verdict = before.verdict := by
  cases moved with
  | read octets rest envelope whole free next line => simp [verdict, whole, next, readLines, line]
  | skip octets rest other whole free next line none => simp [verdict, whole, next, readLines, line]
  | breakOff octets rest fault whole free next line => simp [verdict, whole, next, readLines, line]
  | launch | finish | send | close | write => rfl

theorem verdict_run (ran : (start concurrency stream).run? answer acts = some after) :
    after.verdict = (readLines (cut stream)).2 :=
  (stepwise answer).preserves (fun flow => flow.verdict = (readLines (cut stream)).2)
    (fun _ _ _ same step => (moved_verdict (step_iff.mp step)).trans same) acts rfl ran

/-- How a worker ends is decided by its stream, not by its schedule. -/
theorem Comes.fault_eq (comes : Comes answer concurrency stream written fault) :
    fault = (readLines (cut stream)).2 := by
  obtain ⟨acts, flow, ran, _, rfl, well⟩ := comes
  rw [← verdict_run ran]
  cases whole : flow.fault with
  | some fault => simp [verdict, whole]
  | none =>
      obtain ⟨closed, _⟩ := Bool.and_eq_true_iff.mp (well whole)
      obtain ⟨unread, _⟩ := served_iff.mp ((sound_run ran).served closed)
      simp [verdict, whole, unread, readLines]

theorem comes_of_isText (answer : String → String) (concurrency : Nat) (isText : IsText stream) :
    ∃ written, Comes answer concurrency stream written none := by
  obtain ⟨text, rfl⟩ := isText
  have begun : (start concurrency (Utf8.write text)).run? answer [] = some (start concurrency (Utf8.write text)) := rfl
  obtain ⟨more, final, ran, done, _⟩ := run_finishes text begun
  obtain ⟨closed, _⟩ := Bool.and_eq_true_iff.mp done
  obtain ⟨_, _, _, _, whole⟩ := served_iff.mp ((sound_run ran).served closed)
  exact ⟨final.written, [] ++ more, final, ran, rfl, whole, fun _ => done⟩

/-- A worker comes to a good end exactly when its stream is a text. -/
theorem comes_well_iff : (∃ written, Comes answer concurrency stream written none) ↔ IsText stream := by
  constructor
  · rintro ⟨written, comes⟩
    exact (isText_iff_readLines stream).mpr comes.fault_eq.symm
  · exact comes_of_isText answer concurrency

/-- Serving one request after the other ends like every schedule. -/
theorem serve_fault_eq {φ σ : Type} (executor : Request.Executor φ σ) (factory : φ) (files : Files.Tree)
    (served : Served) (serves : (serve executor factory stream files).1 = some served)
    (comes : Comes answer concurrency stream written fault) : served.fault = fault := by
  rw [comes.fault_eq]
  unfold serve at serves
  cases read : readLines (cut stream) with
  | mk lines broken =>
  simp only [read] at serves
  cases broken with
  | some broken =>
      cases serves
      rfl
  | none =>
      obtain ⟨replies, _, rfl⟩ := Option.map_eq_some_iff.mp serves
      rfl

/-- Only requests before the first line that is no text are ever answered. -/
theorem Comes.written_subperm (comes : Comes answer concurrency stream written fault) :
    written.Subperm (wanted answer stream) := by
  obtain ⟨acts, flow, ran, rfl, _⟩ := comes
  have last : flow.written.Sublist (flow.owed answer) := List.sublist_append_right _ _
  exact last.subperm.trans (sound_run ran).owed.subperm

end Outcomes

section Following

def Reaches (answer : String → String) (before after : Flow) : Prop :=
  ∃ acts, before.run? answer acts = some after

theorem Reaches.refl (flow : Flow) : Reaches answer flow flow :=
  ⟨[], rfl⟩

theorem Reaches.step (moved : Moved answer before act next) (later : Reaches answer next after) :
    Reaches answer before after := by
  obtain ⟨acts, ran⟩ := later
  exact ⟨act :: acts, by rw [run?, step_iff.mpr moved]; exact ran⟩

theorem Reaches.trans (one : Reaches answer before next) (other : Reaches answer next after) :
    Reaches answer before after := by
  obtain ⟨front, ran⟩ := one
  obtain ⟨back, later⟩ := other
  exact ⟨front ++ back, by rw [(stepwise answer).append, ran]; exact later⟩

/-- Where one flow follows each step of another it follows every run. -/
theorem reaches_related (related : Flow → Flow → Prop)
    (follow : ∀ {first second act next}, related first second → Moved answer first act next →
      ∃ other, Reaches answer second other ∧ related next other)
    {last : Flow} (reached : Reaches answer first last) (begun : related first second) :
    ∃ other, Reaches answer second other ∧ related last other := by
  obtain ⟨acts, ran⟩ := reached
  induction acts generalizing first second with
  | nil =>
      cases ran
      exact ⟨second, .refl second, begun⟩
  | cons act rest ih =>
      obtain ⟨next, step, later⟩ := Option.bind_eq_some_iff.mp ran
      obtain ⟨middle, reaches, kept⟩ := follow begun (step_iff.mp step)
      obtain ⟨other, more, final⟩ := ih kept later
      exact ⟨other, reaches.trans more, final⟩

end Following

section Passing

/-- The line is a text, but no request. -/
def Passed (octets : Bytes) : Prop :=
  ∃ line, Line.read octets = .ok line ∧ requests [line] = []

/-- The first flow is the second one, or as far as that one but with one more line to read. -/
inductive Besides (extra : Bytes) : Flow → Flow → Prop where
  | same (flow : Flow) : Besides extra flow flow
  | more (flow : Flow) (front back : List Bytes) (unread : flow.unread = front ++ back) :
      Besides extra { flow with unread := front ++ extra :: back } flow

theorem passes {back : List Bytes} (passed : Passed extra) (next : before.unread = extra :: back)
    (whole : before.fault = none) (free : before.held = none) :
    Moved answer before .read { before with unread := back } := by
  obtain ⟨line, read, none⟩ := passed
  exact .skip extra back line whole free next read none

/-- Reading a line does not depend on the lines after it. -/
theorem moved_read_others {octets : Bytes} {rest : List Bytes} (moved : Moved answer before .read after)
    (next : before.unread = octets :: rest) (others : List Bytes) : after.unread = rest ∧
      Moved answer { before with unread := octets :: others } .read { after with unread := others } := by
  cases moved with
  | read octets' rest' envelope whole free next' line =>
      cases next.symm.trans next'
      exact ⟨rfl, .read octets others envelope whole free rfl line⟩
  | skip octets' rest' other whole free next' line none =>
      cases next.symm.trans next'
      exact ⟨rfl, .skip octets others other whole free rfl line none⟩
  | breakOff octets' rest' fault whole free next' line =>
      cases next.symm.trans next'
      exact ⟨rfl, .breakOff octets others fault whole free rfl line⟩

theorem quiet_of_read (moved : Moved answer before .read after) : before.fault = none ∧ before.held = none := by
  cases moved with
  | read octets rest envelope whole free next line => exact ⟨whole, free⟩
  | skip octets rest other whole free next line none => exact ⟨whole, free⟩
  | breakOff octets rest fault whole free next line => exact ⟨whole, free⟩

/-- What is neither reading nor closing does not depend on what is to be read. -/
theorem moved_elsewhere (moved : Moved answer before act after) (reading : act ≠ .read) (closing : act ≠ .close)
    (others : List Bytes) : after.unread = before.unread ∧
      Moved answer { before with unread := others } act { after with unread := others } := by
  cases moved with
  | read | skip | breakOff => exact absurd rfl reading
  | close => exact absurd rfl closing
  | launch envelope held permit => exact ⟨rfl, .launch envelope held permit⟩
  | finish index envelope here => exact ⟨rfl, .finish index envelope here⟩
  | send index reply here space => exact ⟨rfl, .send index reply here space⟩
  | write reply rest next => exact ⟨rfl, .write reply rest next⟩

theorem reaches_one (moved : Moved answer before act after) : Reaches answer before after :=
  .step moved (.refl after)

theorem besides_of_unread {front back : List Bytes} (unread : first.unread = front ++ extra :: back) :
    Besides extra first { first with unread := front ++ back } := by
  have more : Besides extra { first with unread := front ++ extra :: back } { first with unread := front ++ back } :=
    .more { first with unread := front ++ back } front back rfl
  cases first
  cases unread
  exact more

/-- The flow without the line takes the same steps, but for the one that passes over it. -/
theorem besides_drop (passed : Passed extra) (besides : Besides extra first second)
    (moved : Moved answer first act next) : ∃ other, Reaches answer second other ∧ Besides extra next other := by
  cases besides with
  | same => exact ⟨next, reaches_one moved, .same next⟩
  | more _ front back unread =>
      cases second
      cases unread
      by_cases reading : act = .read
      · subst reading
        cases front with
        | nil =>
            obtain ⟨line, read, none⟩ := passed
            cases moved with
            | read octets rest envelope whole free next line' =>
                cases next
                cases read.symm.trans line'
                cases none
            | skip octets rest other whole free next line' none' =>
                cases next
                exact ⟨_, .refl _, .same _⟩
            | breakOff octets rest fault whole free next line' =>
                cases next
                cases read.symm.trans line'
        | cons octets rest =>
            obtain ⟨left, same⟩ := moved_read_others moved rfl (rest ++ back)
            exact ⟨{ next with unread := rest ++ back }, reaches_one same, besides_of_unread left⟩
      · by_cases closing : act = .close
        · subst closing
          cases moved with
          | close served opened =>
              obtain ⟨none, _⟩ := served_iff.mp served
              exact absurd none (List.append_ne_nil_of_right_ne_nil front (List.cons_ne_nil extra back))
        · obtain ⟨left, same⟩ := moved_elsewhere moved reading closing (front ++ back)
          exact ⟨{ next with unread := front ++ back }, reaches_one same, besides_of_unread left⟩

/-- The flow with the line takes the same steps, and passes over it before it is in the way. -/
theorem besides_add (passed : Passed extra) (besides : Besides extra first second)
    (moved : Moved answer second act next) : ∃ other, Reaches answer first other ∧ Besides extra other next := by
  cases besides with
  | same => exact ⟨next, reaches_one moved, .same next⟩
  | more _ front back unread =>
      cases second
      cases unread
      by_cases reading : act = .read
      · subst reading
        cases front with
        | nil =>
            -- nothing stands before the line, so it is passed over first
            obtain ⟨whole, free⟩ := quiet_of_read moved
            exact ⟨next, .step (passes passed rfl whole free) (reaches_one moved), .same next⟩
        | cons octets rest =>
            obtain ⟨left, same⟩ := moved_read_others moved rfl (rest ++ extra :: back)
            exact ⟨_, reaches_one same, .more next rest back left⟩
      · by_cases closing : act = .close
        · subst closing
          cases moved with
          | close served opened =>
              obtain ⟨none, free, _, _, whole⟩ := served_iff.mp served
              obtain ⟨rfl, rfl⟩ := List.append_eq_nil_iff.mp none
              exact ⟨_, .step (passes passed rfl whole free) (reaches_one (.close served opened)), .same _⟩
        · obtain ⟨left, same⟩ := moved_elsewhere moved reading closing (front ++ extra :: back)
          exact ⟨_, reaches_one same, .more next front back left⟩

/-- A line that is passed over changes none of the ends that a worker can come to. -/
theorem comes_passed_iff (answer : String → String) (concurrency : Nat) (front line back : Bytes)
    (ended : Ended front) (plain : lineFeed ∉ line) (passed : Passed (line ++ [lineFeed])) :
    Comes answer concurrency (front ++ (line ++ lineFeed :: back)) written fault ↔
      Comes answer concurrency (front ++ back) written fault := by
  have begun : Besides (line ++ [lineFeed]) (start concurrency (front ++ (line ++ lineFeed :: back)))
      (start concurrency (front ++ back)) := by
    have more : Besides (line ++ [lineFeed])
        { start concurrency (front ++ back) with unread := cut front ++ (line ++ [lineFeed]) :: cut back }
        (start concurrency (front ++ back)) := .more _ (cut front) (cut back) (cut_append front back ended)
    rwa [← cut_insert front line back ended plain] at more
  have alike {first second : Flow} (besides : Besides (line ++ [lineFeed]) first second) :
      first.written = second.written ∧ first.fault = second.fault ∧ first.isDone = second.isDone := by
    cases besides with
    | same | more => exact ⟨rfl, rfl, rfl⟩
  constructor
  · rintro ⟨acts, flow, ran, rfl, rfl, well⟩
    obtain ⟨other, ⟨acts', ran'⟩, last⟩ := reaches_related (Besides (line ++ [lineFeed]))
      (besides_drop passed) ⟨acts, ran⟩ begun
    obtain ⟨sameWritten, sameFault, sameEnd⟩ := alike last
    exact ⟨acts', other, ran', sameWritten.symm, sameFault.symm, fun whole => sameEnd ▸ well whole⟩
  · rintro ⟨acts, flow, ran, rfl, rfl, well⟩
    obtain ⟨other, ⟨acts', ran'⟩, last⟩ := reaches_related (fun second first =>
      Besides (line ++ [lineFeed]) first second) (besides_add passed) ⟨acts, ran⟩ begun
    obtain ⟨sameWritten, sameFault, sameEnd⟩ := alike last
    exact ⟨acts', other, ran', sameWritten, sameFault, fun whole => sameEnd ▸ well whole⟩

end Passing

section Isolation

theorem passed_of_isText {line : Bytes} (isText : IsText line)
    (malformed : ∀ envelope, Line.read (line ++ [lineFeed]) ≠ .ok (.request envelope)) :
    Passed (line ++ [lineFeed]) := by
  obtain ⟨other, read⟩ := (isText_iff_read _).mp ((Utf8.isText_ended line).mpr isText)
  refine ⟨other, read, ?_⟩
  cases other with
  | request envelope => exact absurd read (malformed envelope)
  | blank => rfl
  | malformed => rfl

/-- Nothing after a line that is no text is read. -/
theorem readLines_broken (pieces rest : List Bytes) (broken : ¬ IsText extra) :
    (readLines (pieces ++ extra :: rest)).2 ≠ none ∧
      (readLines (pieces ++ extra :: rest)).1 = (readLines pieces).1 := by
  constructor
  · intro whole
    exact broken ((readLines_whole_iff _).mp whole extra (List.mem_append_right pieces List.mem_cons_self))
  · obtain ⟨fault, read⟩ := (not_isText_iff_read extra).mp broken
    induction pieces with
    | nil => simp [readLines, read]
    | cons octets pieces ih =>
        rw [List.cons_append, readLines, readLines]
        cases Line.read octets with
        | error => rfl
        | ok line => exact congrArg (line :: ·) ih

/-- A line that is no request is isolated from every stream it is put into exactly when it is a text: then the
worker can come to the same ends, with the same replies, as without it. Otherwise no worker that is sent it comes to
a good end, and of the clients only those before it may be answered. -/
theorem malformed_line_isolated_iff (answer : String → String) (concurrency : Nat) (line : Bytes)
    (plain : lineFeed ∉ line) (malformed : ∀ envelope, Line.read (line ++ [lineFeed]) ≠ .ok (.request envelope)) :
    ((∀ front back, Ended front → ∀ written fault,
        Comes answer concurrency (front ++ (line ++ lineFeed :: back)) written fault ↔
          Comes answer concurrency (front ++ back) written fault) ↔ IsText line) ∧
      (¬ IsText line → ∀ front back, Ended front → ∀ written fault,
        Comes answer concurrency (front ++ (line ++ lineFeed :: back)) written fault →
          fault ≠ none ∧ written.Subperm (wanted answer front)) := by
  have after_break (broken : ¬ IsText line) (front back : Bytes) (ended : Ended front) :
      (readLines (cut (front ++ (line ++ lineFeed :: back)))).2 ≠ none ∧
        (readLines (cut (front ++ (line ++ lineFeed :: back)))).1 = (readLines (cut front)).1 := by
    rw [cut_insert front line back ended plain]
    exact readLines_broken (cut front) (cut back) (mt (Utf8.isText_ended line).mp broken)
  refine ⟨⟨fun isolated => ?_, fun isText front back ended written fault => ?_⟩,
    fun broken front back ended written fault comes => ⟨?_, ?_⟩⟩
  · by_contra broken
    -- the empty stream is served, and the line alone would be too
    obtain ⟨written, comes⟩ := comes_of_isText answer concurrency (⟨[], rfl⟩ : IsText [])
    have alone := ((isolated [] [] (.inl rfl) written none).mpr comes).fault_eq
    exact (after_break broken [] [] (.inl rfl)).1 alone.symm
  · exact comes_passed_iff answer concurrency front line back ended plain (passed_of_isText isText malformed)
  · rw [comes.fault_eq]
    exact (after_break broken front back ended).1
  · have some := comes.written_subperm
    rwa [wanted, (after_break broken front back ended).2] at some

/-- Text between two requests that is none is passed over; an octet that is no text is not. -/
theorem malformed_line_isolated_between_requests :
    let front := Utf8.write "\x7b\"client_id\":\"a\",\"code\":\"1\"\x7d\n".toList
    let back := Utf8.write "\x7b\"client_id\":\"b\",\"code\":\"2\"\x7d".toList
    let line := Utf8.write "no".toList
    (lineFeed ∉ line ∧ ∀ envelope, Line.read (line ++ [lineFeed]) ≠ .ok (.request envelope)) ∧
      (Comes id 1 (front ++ (line ++ lineFeed :: back)) [⟨"a", "1"⟩, ⟨"b", "2"⟩] none ↔
        Comes id 1 (front ++ back) [⟨"a", "1"⟩, ⟨"b", "2"⟩] none) := by
  intro front back line
  have plain : lineFeed ∉ line := by decide
  have read : Line.read (line ++ [lineFeed]) = .ok .malformed := by decide +kernel
  have malformed : ∀ envelope, Line.read (line ++ [lineFeed]) ≠ .ok (.request envelope) := by
    intro envelope same
    cases read.symm.trans same
  have ended : Ended front := .inr (by decide)
  exact ⟨⟨plain, malformed⟩,
    (malformed_line_isolated_iff id 1 line plain malformed).1.mpr ⟨"no".toList, rfl⟩ front back ended _ _⟩

/-- One octet that is no text, on a line of its own, keeps a worker from answering the request after it. -/
theorem stray_octet_ends_worker :
    let stream := Utf8.write "\x7b\"client_id\":\"a\",\"code\":\"1\"\x7d\n".toList
    (lineFeed ∉ [0xff] ∧ ∀ envelope, Line.read ([0xff] ++ [lineFeed]) ≠ .ok (.request envelope)) ∧
      Comes id 1 stream [⟨"a", "1"⟩] none ∧
        ∀ written fault, Comes id 1 ([0xff] ++ lineFeed :: stream) written fault → written = [] ∧ fault ≠ none := by
  intro stream
  have plain : lineFeed ∉ [0xff] := by decide
  have read : Line.read ([0xff] ++ [lineFeed]) = .error (.broken 0 1) := by decide +kernel
  refine ⟨⟨plain, fun envelope same => ?_⟩, ?_, fun written fault comes => ?_⟩
  · cases read.symm.trans same
  · have ran : ((start 1 stream).run? id [.read, .launch, .finish 0, .send 0, .write, .close]).map
        (fun flow => (flow.written, flow.fault, flow.isDone)) = some ([⟨"a", "1"⟩], none, true) := by decide +kernel
    obtain ⟨flow, ran, same⟩ := Option.map_eq_some_iff.mp ran
    simp only [Prod.mk.injEq] at same
    exact ⟨_, flow, ran, same.1, same.2.1, fun _ => same.2.2⟩
  · have broken : ¬ IsText ([0xff] ++ [lineFeed]) := (not_isText_iff_read _).mpr ⟨_, read⟩
    have after := readLines_broken [] (cut stream) broken
    rw [List.nil_append, ← cut_ended [0xff] stream plain] at after
    have none := comes.written_subperm
    rw [wanted, after.2] at none
    exact ⟨List.subperm_nil.mp none, comes.fault_eq ▸ after.1⟩

end Isolation
end SnippetRunner.Worker.Flow
