import SnippetRunner.Context.Session
import SnippetRunner.Proofs.WrittenFiles

/-!
A context after a call of destroy has succeeded. Its directory is gone, so nothing can be written there, and every
later call leaves the context and the files as they are. What an invocation answers then is up to the loads before.
-/

namespace SnippetRunner

namespace Files.Tree
variable {tree after : Tree} {root front path name : String} {place : Place}

/-- The way to a place is as it was after another place was taken away, or breaks off. -/
theorem walk_prune (place : Place) (names : List String) (top found : Place)
    (walked : tree.walk top names = .ok found) :
    (tree.prune place).walk top names = .ok found ∨ (tree.prune place).walk top names = .error .missing := by
  induction names generalizing top with
  | nil => exact .inl walked
  | cons name rest ih =>
      rw [walk] at walked ⊢
      cases left : (tree.prune place).at? top with
      | none => exact .inr rfl
      | some node =>
          have there : tree.at? top = some node := by
            rw [at_prune] at left
            split at left
            · next root => rwa [at?, if_pos root]
            · split at left
              · cases left
              · exact left
          rw [there] at walked
          cases node with
          | file content mode => cases walked
          | directory =>
              dsimp only at walked ⊢
              split at walked
              · next stays =>
                  rw [if_pos stays]
                  exact ih _ walked
              · next moves =>
                  rw [if_neg moves]
                  split at walked
                  · next up =>
                      rw [if_pos up]
                      exact ih _ walked
                  · next down =>
                      rw [if_neg down]
                      split at walked
                      · cases walked
                      · next fits =>
                          rw [if_neg fits]
                          exact ih _ walked

/-- Nothing is there any more where a temporary directory was taken away. -/
theorem node_removed (single : Path.separator ∉ front.toList) (temporary : IsTemporary root front path)
    (removed : tree.removeDirectory path = .ok after) : after.node path = .error .missing := by
  obtain ⟨number, rfl⟩ := temporary
  obtain ⟨place, resolved, _, rfl⟩ := removeDirectory_iff.mp removed
  obtain ⟨_, _, top, _, _, place_eq⟩ := (resolve_temporary single number place).mp resolved
  have gone : (tree.prune place).at? place = none := by
    rw [at_prune, if_neg (by simp [place_eq]), if_pos (by simp)]
  have started : (tree.prune place).start (Path.join root (temporaryName front number)) =
      tree.start (Path.join root (temporaryName front number)) := rfl
  rw [resolve] at resolved
  rw [node, resolve, started]
  cases split : pieces (Path.join root (temporaryName front number)) with
  | error fault =>
      rw [split] at resolved
      cases resolved
  | ok names =>
      rw [split] at resolved
      simp only [bind, Except.bind] at resolved ⊢
      rcases walk_prune place names _ place resolved with same | missing
      · simp only [same, gone]
      · simp only [missing]

theorem node_unremoved (missing : tree.removeDirectory path = .error .missing) : tree.node path = .error .missing := by
  rw [removeDirectory] at missing
  rw [node]
  cases resolved : tree.resolve path with
  | error fault =>
      rw [resolved] at missing
      cases missing
      rfl
  | ok place =>
      simp only [resolved, bind, Except.bind] at missing ⊢
      cases there : tree.at? place with
      | none => rfl
      | some node =>
          rw [there] at missing
          cases node <;> cases missing

theorem pieces_of_missing (nonempty : path ≠ "") (missing : tree.node path = .error .missing) :
    holdsNul path = false ∧ pieces path = .ok (Path.pieces path) := by
  have blank : ¬path.isEmpty = true := fun none => nonempty (String.isEmpty_iff.mp none)
  unfold node resolve pieces at missing
  unfold pieces
  by_cases nul : holdsNul path = true
  · rw [if_pos nul] at missing
    cases missing
  · rw [if_neg nul, if_neg blank] at missing ⊢
    by_cases long : pathLimit ≤ path.utf8ByteSize
    · rw [if_pos long] at missing
      cases missing
    · exact ⟨Bool.eq_false_iff.mpr nul, if_neg long⟩

/-- What stands in the way of a file below a directory that is not there. -/
def absence (path : String) : Host.Fault :=
  if pathLimit ≤ path.utf8ByteSize then .nameTooLong else .missing

theorem write_absent (entry : IsEntry name) (nonempty : path ≠ "") (unended : Path.endsInSeparator path = false)
    (missing : tree.node path = .error .missing) (content : Bytes) :
    tree.write (Path.join path name) content = .error (absence (Path.join path name)) := by
  obtain ⟨clean, split⟩ := pieces_of_missing nonempty missing
  have blank : ¬path.isEmpty = true := fun none => nonempty (String.isEmpty_iff.mp none)
  have above : Path.above path = Path.pieces path := by
    rw [Path.above, if_neg blank, if_neg (by simp [unended])]
  have found : tree.slot (Path.join path name) = .error (absence (Path.join path name)) := by
    have blank' : ¬(Path.join path name).isEmpty = true :=
      fun none => Path.join_ne_empty path name entry.named (String.isEmpty_iff.mp none)
    have clean' : ¬holdsNul (Path.join path name) = true := by simp [holdsNul_join path name entry, clean]
    rw [slot, pieces, if_neg clean', if_neg blank', absence]
    by_cases long : pathLimit ≤ (Path.join path name).utf8ByteSize
    · rw [if_pos long, if_pos long]
      rfl
    · rw [if_neg long, if_neg long, Path.pieces_join path name entry.single, above]
      rw [node, resolve, split] at missing
      simp only [bind, Except.bind, Path.withoutEnd_concat _ _ entry.named, List.dropLast_concat,
        start_temporary entry.single] at missing ⊢
      cases walked : tree.walk (tree.start path) (Path.pieces path) with
      | error fault =>
          rw [walked] at missing
          cases missing
          rfl
      | ok place =>
          rw [walked] at missing
          dsimp only at missing ⊢
          cases there : tree.at? place with
          | none => rfl
          | some node =>
              rw [there] at missing
              cases missing
  rw [write, found]
  rfl

end Files.Tree

namespace Context.Directory
open Files (Tree Path.join)

section Steps

theorem namePrefix_single : Files.Path.separator ∉ namePrefix.toList := by decide

theorem update_same (guest : Guest) : guest.update guest.context guest.files = guest := by
  cases counted : guest.context.counted <;> simp [Guest.update, Factory.release, counted]

theorem load_cases (context : Directory) (image : Bytes) (files : Tree) :
    ((context.load image files).1 ≠ .ok () ∧ (context.load image files).2.1 = context) ∨
      ((context.load image files).1 = .ok () ∧ (context.load image files).2.1 = { context with loaded := true }) := by
  unfold load
  split
  · exact .inl ⟨nofun, rfl⟩
  · split
    · exact .inl ⟨nofun, rfl⟩
    · exact .inr ⟨rfl, rfl⟩

theorem await_slot (context : Directory) (files : Tree) :
    ∃ slot, (context.await files).2 = { context with slot } := by
  unfold await
  split
  · exact ⟨_, rfl⟩
  · exact ⟨_, rfl⟩
  · dsimp only
    split <;> exact ⟨_, rfl⟩

theorem invoke_slot (machine : Host.Machine) (context : Directory) (files : Tree) :
    ∃ slot, (context.invoke machine files).2.1 = { context with slot } := by
  unfold invoke
  split
  · exact ⟨_, rfl⟩
  · split
    · exact ⟨_, rfl⟩
    · next slot effect _ _ =>
        obtain ⟨later, same⟩ := await_slot { context with slot } (keepSaid effect.files _ effect.err)
        exact ⟨later, same⟩

theorem handle_await_slot (machine : Host.Machine) (guest : Guest) :
    ∃ slot, ((handle machine).await guest).2.context = { guest.context with slot } :=
  await_slot guest.context guest.files

theorem handle_invoke_slot (machine : Host.Machine) (guest : Guest) :
    ∃ slot, ((handle machine).invoke guest).2.context = { guest.context with slot } :=
  invoke_slot machine guest.context guest.files

theorem destroy_cases (context : Directory) (files : Tree) (there : context.destroyed = false)
    (temporary : ∃ root, Tree.IsTemporary root namePrefix context.path) :
    ((context.destroy files).1 ≠ .ok () ∧
        (context.destroy files).2.1 = { context with slot := context.slot.terminate }) ∨
      ((context.destroy files).2.1 =
          { context with slot := context.slot.terminate, destroyed := true, counted := false } ∧
        (context.destroy files).2.2.node context.path = .error .missing) := by
  obtain ⟨root, temporary⟩ := temporary
  unfold destroy remove
  rw [there]
  dsimp only
  cases removed : files.removeDirectory context.path with
  | ok after => exact .inr ⟨rfl, Tree.node_removed namePrefix_single temporary removed⟩
  | error cause =>
      dsimp only
      by_cases missing : cause = .missing
      · rw [missing] at removed
        simp only [missing, if_true]
        exact .inr ⟨rfl, Tree.node_unremoved removed⟩
      · simp only [missing, if_false]
        exact .inl ⟨nofun, rfl⟩

end Steps

section Gone
variable {guest : Guest} {path : String}

/-- The context is destroyed, and there is nothing where its directory was. -/
structure Gone (path : String) (guest : Guest) : Prop where
  same : guest.context.path = path
  destroyed : guest.context.destroyed = true
  missing : guest.files.node path = .error .missing

/-- What comes of an invocation when the directory is gone. -/
def refusal (loaded : Bool) (path : String) : Fault :=
  if loaded then .host (Tree.absence (Path.join path stderrName)) else .notLoaded

/-- What is answered when the directory is gone. -/
def answer (loaded : Bool) (path : String) : Act → Answer Guest
  | .load _ => .done (.error .destroyed)
  | .invoke => .invoked (.answered (.error (refusal loaded path)))
  | .invokeAndDestroy => .cutShort (.answered (.error (refusal loaded path))) (.ok ())
  | .destroy => .done (.ok ())
  | _ => .absent

variable (temporary : ∃ root, Tree.IsTemporary root namePrefix path) (gone : Gone path guest)
include temporary gone

/-- The program cannot be made ready: there is no place for the file of its errors. -/
theorem prepare_gone : guest.context.prepare guest.files =
    .error (.host (Tree.absence (Path.join path stderrName))) := by
  obtain ⟨root, number, rfl⟩ := temporary
  have down := Tree.temporaryName_down namePrefix number
  have single := Tree.temporaryName_single namePrefix_single number
  have refused := Tree.write_absent stderrName_entry (Files.Path.join_ne_empty root _ down.named)
    (Files.Path.join_unended root _ single down.named) gone.missing []
  rw [prepare, gone.same, refused]
  rfl

theorem invoke_gone (machine : Host.Machine) : guest.context.invoke machine guest.files =
    (.answered (.error (refusal guest.context.loaded path)), guest.context, guest.files) := by
  have ready := prepare_gone temporary gone
  unfold invoke
  cases loaded : guest.context.loaded with
  | false => rfl
  | true =>
      have start : guest.context.slot.start machine guest.context.prepare guest.files =
          (.error (.host (Tree.absence (Path.join path stderrName))), guest.files) := by
        simp only [Run.Slot.start, Run.Slot.attempts, Run.Slot.startWithin, Run.Slot.attempt, ready]
      rw [start]
      rfl

omit temporary in
theorem load_gone (machine : Host.Machine) (image : Bytes) :
    (handle machine).load image guest = (.error .destroyed, guest) := by
  simp only [handle, load, gone.destroyed, if_true, update_same]

theorem handle_invoke_gone (machine : Host.Machine) :
    (handle machine).invoke guest = (.answered (.error (refusal guest.context.loaded path)), guest) := by
  simp only [handle, invoke_gone temporary gone machine, update_same]

omit temporary in
theorem destroy_gone (machine : Host.Machine) : (handle machine).destroy guest = (.ok (), guest) := by
  simp only [handle, destroy, gone.destroyed, if_true, update_same]

theorem use_gone (machine : Host.Machine) (act : Act) :
    Session.use (handle machine) guest act = (answer guest.context.loaded path act, guest) := by
  have invoked := handle_invoke_gone temporary gone machine
  have destroyed := destroy_gone gone machine
  cases act with
  | load image => simp only [Session.use, load_gone gone machine image, answer]
  | invoke => simp only [Session.use, invoked, answer]
  | invokeAndDestroy => simp only [Session.use, Session.cutShort, invoked, destroyed, answer]
  | destroy => simp only [Session.use, destroyed, answer]
  | create => rfl
  | drop => rfl

end Gone

section Runs
variable {guest : Guest} {path : String}

/-- A guest of the context at a path, whose directory is gone once the context is destroyed. -/
structure Sane (path : String) (guest : Guest) : Prop where
  same : guest.context.path = path
  gone : guest.context.destroyed = true → guest.files.node path = .error .missing

theorem Gone.sane (gone : Gone path guest) : Sane path guest := ⟨gone.same, fun _ => gone.missing⟩

theorem Sane.gone_or_there (sane : Sane path guest) : Gone path guest ∨ guest.context.destroyed = false := by
  cases destroyed : guest.context.destroyed with
  | false => exact .inr rfl
  | true => exact .inl ⟨sane.same, destroyed, sane.gone destroyed⟩

/-- Of a context that is not destroyed, the slot and the load do not matter. -/
theorem Sane.changed {later : Guest} {slot : Run.Slot} {loaded : Bool} (sane : Sane path guest)
    (there : guest.context.destroyed = false) (context : later.context = { guest.context with slot, loaded }) :
    Sane path later where
  same := by
    rw [context]
    exact sane.same
  gone destroyed := by
    rw [context] at destroyed
    exact absurd (there.symm.trans destroyed) nofun

theorem await_gone (gone : Gone path guest) (machine : Host.Machine) : Gone path ((handle machine).await guest).2 := by
  obtain ⟨slot, waited⟩ := handle_await_slot machine guest
  exact ⟨by rw [waited]; exact gone.same, by rw [waited]; exact gone.destroyed, gone.missing⟩

/-- The answer to a call of destroy that has succeeded. -/
def Closes (act : Act) (answer : Answer Guest) : Prop :=
  (act = .destroy ∧ answer = .done (.ok ())) ∨
    (act = .invokeAndDestroy ∧ ∃ reply, answer = .cutShort reply (.ok ()))

variable (temporary : ∃ root, Tree.IsTemporary root namePrefix path) (sane : Sane path guest)

theorem sane_await (machine : Host.Machine) (sane : Sane path guest) : Sane path ((handle machine).await guest).2 := by
  rcases sane.gone_or_there with gone | there
  · exact (await_gone gone machine).sane
  · obtain ⟨slot, waited⟩ := handle_await_slot machine guest
    exact sane.changed there waited

include temporary sane

theorem sane_invoke (machine : Host.Machine) : Sane path ((handle machine).invoke guest).2 := by
  rcases sane.gone_or_there with gone | there
  · rw [handle_invoke_gone temporary gone machine]
    exact sane
  · obtain ⟨slot, invoked⟩ := handle_invoke_slot machine guest
    exact sane.changed there invoked

omit temporary in
theorem sane_load (machine : Host.Machine) (image : Bytes) : Sane path ((handle machine).load image guest).2 := by
  rcases sane.gone_or_there with gone | there
  · rw [load_gone gone machine image]
    exact sane
  · rcases load_cases guest.context image guest.files with ⟨_, kept⟩ | ⟨_, marked⟩
    · exact sane.changed there kept
    · exact sane.changed there marked

/-- A call of destroy that succeeds leaves nothing; one that fails can be made again. -/
theorem gone_or_failed (machine : Host.Machine) : Gone path ((handle machine).destroy guest).2 ∨
    ((handle machine).destroy guest).1 ≠ .ok () ∧ Sane path ((handle machine).destroy guest).2 := by
  rcases sane.gone_or_there with gone | there
  · rw [destroy_gone gone machine]
    exact .inl gone
  · rw [← sane.same] at temporary
    rcases destroy_cases guest.context guest.files there temporary with ⟨failed, stopped⟩ | ⟨closed, missing⟩
    · exact .inr ⟨failed, sane.changed there stopped⟩
    · have context : ((handle machine).destroy guest).2.context = _ := closed
      exact .inl ⟨by rw [context]; exact sane.same, by rw [context], sane.same ▸ missing⟩

theorem sane_destroy (machine : Host.Machine) : Sane path ((handle machine).destroy guest).2 := by
  rcases gone_or_failed temporary sane machine with gone | ⟨_, kept⟩
  · exact gone.sane
  · exact kept

omit temporary sane in
/-- A call of destroy that comes during an invocation comes after its start; the invocation may wait after that. -/
theorem cutShort_cases (machine : Host.Machine) (guest : Guest) :
    let stopped := (handle machine).destroy ((handle machine).invoke guest).2
    ∃ reply, Session.cutShort (handle machine) guest = (.cutShort reply stopped.1, stopped.2) ∨
      Session.cutShort (handle machine) guest = (.cutShort reply stopped.1, ((handle machine).await stopped.2).2) := by
  unfold Session.cutShort
  dsimp only
  split
  · exact ⟨_, .inr rfl⟩
  · exact ⟨_, .inl rfl⟩

theorem gone_of_closed (machine : Host.Machine) (act : Act)
    (closed : Closes act (Session.use (handle machine) guest act).1) :
    Gone path (Session.use (handle machine) guest act).2 := by
  rcases closed with ⟨rfl, done⟩ | ⟨rfl, reply, cut⟩
  · rcases gone_or_failed temporary sane machine with gone | ⟨failed, _⟩
    · exact gone
    · exact absurd (Answer.done.inj done) failed
  · have stopped := gone_or_failed temporary (sane_invoke temporary sane machine) machine
    rw [Session.use] at cut ⊢
    obtain ⟨reply, finished | awaited⟩ := cutShort_cases machine guest
    · rw [finished] at cut ⊢
      exact stopped.resolve_right fun failed => failed.1 (Answer.cutShort.inj cut).2
    · rw [awaited] at cut ⊢
      have gone := stopped.resolve_right fun failed => failed.1 (Answer.cutShort.inj cut).2
      exact await_gone gone machine

theorem sane_use (machine : Host.Machine) (act : Act) : Sane path (Session.use (handle machine) guest act).2 := by
  cases act with
  | load image => exact sane_load sane machine image
  | invoke => exact sane_invoke temporary sane machine
  | invokeAndDestroy =>
      have stopped := sane_destroy temporary (sane_invoke temporary sane machine) machine
      obtain ⟨reply, finished | awaited⟩ := cutShort_cases machine guest
      · rw [Session.use, finished]
        exact stopped
      · rw [Session.use, awaited]
        exact sane_await machine stopped
  | destroy => exact sane_destroy temporary sane machine
  | create => exact sane
  | drop => exact sane

end Runs

section Loads

/-- The act loads an image well. -/
def Loads (guest : Guest) (machine : Host.Machine) (act : Act) : Prop :=
  ∃ image, act = .load image ∧ (Session.use (handle machine) guest act).1 = .done (.ok ())

theorem destroy_loaded (context : Directory) (files : Tree) : (context.destroy files).2.1.loaded = context.loaded := by
  unfold destroy
  split
  · rfl
  · dsimp only
    split <;> rfl

theorem use_loaded (guest : Guest) (machine : Host.Machine) (act : Act) (other : ∀ image, act ≠ .load image) :
    (Session.use (handle machine) guest act).2.context.loaded = guest.context.loaded := by
  have invoked (guest : Guest) : ((handle machine).invoke guest).2.context.loaded = guest.context.loaded := by
    obtain ⟨slot, same⟩ := handle_invoke_slot machine guest
    rw [same]
  have awaited (guest : Guest) : ((handle machine).await guest).2.context.loaded = guest.context.loaded := by
    obtain ⟨slot, same⟩ := handle_await_slot machine guest
    rw [same]
  have stopped (guest : Guest) : ((handle machine).destroy guest).2.context.loaded = guest.context.loaded :=
    destroy_loaded guest.context guest.files
  cases act with
  | load image => exact absurd rfl (other image)
  | invoke => exact invoked guest
  | invokeAndDestroy =>
      obtain ⟨reply, finished | waited⟩ := cutShort_cases machine guest
      · rw [Session.use, finished, stopped, invoked]
      · rw [Session.use, waited, awaited, stopped, invoked]
  | destroy => exact stopped guest
  | create => rfl
  | drop => rfl

theorem use_loaded_iff (guest : Guest) (machine : Host.Machine) (act : Act) :
    (Session.use (handle machine) guest act).2.context.loaded = true ↔
      guest.context.loaded = true ∨ Loads guest machine act := by
  by_cases loads : ∃ image, act = .load image
  · obtain ⟨image, rfl⟩ := loads
    have later : (Session.use (handle machine) guest (.load image)).2.context =
        (guest.context.load image guest.files).2.1 := rfl
    have told : Loads guest machine (.load image) ↔ (guest.context.load image guest.files).1 = .ok () := by
      constructor
      · rintro ⟨_, _, done⟩
        exact Answer.done.inj done
      · intro done
        exact ⟨image, rfl, congrArg _ done⟩
    rw [later, told]
    rcases load_cases guest.context image guest.files with ⟨failed, kept⟩ | ⟨done, marked⟩
    · simp [kept, failed]
    · simp [marked, done]
  · rw [use_loaded guest machine act fun image same => loads ⟨image, same⟩]
    exact (or_iff_left fun ⟨image, same, _⟩ => loads ⟨image, same⟩).symm

end Loads

section Calls

/-- What is done with a guest, and the machine it is done on. -/
abbrev Call := Host.Machine × Act

/-- The guest after some calls. -/
def after (guest : Guest) : List Call → Guest
  | [] => guest
  | (machine, act) :: rest => after (Session.use (handle machine) guest act).2 rest

/-- One of the calls has loaded an image well. -/
def Loaded (guest : Guest) (calls : List Call) : Prop :=
  ∃ front machine act back, calls = front ++ (machine, act) :: back ∧ Loads (after guest front) machine act

variable {guest : Guest} {path : String}

theorem after_append (guest : Guest) (front back : List Call) :
    after guest (front ++ back) = after (after guest front) back := by
  induction front generalizing guest with
  | nil => rfl
  | cons call rest ih => exact ih _

theorem loaded_cons_iff (guest : Guest) (machine : Host.Machine) (act : Act) (rest : List Call) :
    Loaded guest ((machine, act) :: rest) ↔
      Loads guest machine act ∨ Loaded (Session.use (handle machine) guest act).2 rest := by
  constructor
  · rintro ⟨front, other, load, back, whole, loads⟩
    cases front with
    | nil =>
        cases whole
        exact .inl loads
    | cons call front =>
        cases whole
        exact .inr ⟨front, other, load, back, rfl, loads⟩
  · rintro (loads | ⟨front, other, load, back, rfl, loads⟩)
    · exact ⟨[], machine, act, rest, rfl, loads⟩
    · exact ⟨(machine, act) :: front, other, load, back, rfl, loads⟩

theorem after_loaded_iff (guest : Guest) (calls : List Call) :
    (after guest calls).context.loaded = true ↔ guest.context.loaded = true ∨ Loaded guest calls := by
  induction calls generalizing guest with
  | nil => simp [after, Loaded]
  | cons call rest ih =>
      obtain ⟨machine, act⟩ := call
      rw [after, ih, use_loaded_iff, loaded_cons_iff, or_assoc]

variable (temporary : ∃ root, Tree.IsTemporary root namePrefix path)
include temporary

theorem sane_after (sane : Sane path guest) (calls : List Call) : Sane path (after guest calls) := by
  induction calls generalizing guest with
  | nil => exact sane
  | cons call rest ih => exact ih (sane_use temporary sane call.1 call.2)

/-- Nothing that is done later changes anything. -/
theorem after_gone (gone : Gone path guest) (calls : List Call) : after guest calls = guest := by
  induction calls with
  | nil => rfl
  | cons call rest ih =>
      rw [after, use_gone temporary gone call.1 call.2]
      exact ih

end Calls

theorem sane_created (factory later : Factory) (files there : Tree) (context : Directory)
    (made : factory.create files = (.ok context, later, there)) :
    (∃ root, Tree.IsTemporary root namePrefix context.path) ∧ Sane context.path ⟨context, later, there⟩ ∧
      context.loaded = false := by
  unfold Factory.create Factory.make at made
  dsimp only at made
  split at made
  · cases made
  · next path after found =>
      cases made
      obtain ⟨same, _⟩ := Tree.makeTemporary_ok found
      exact ⟨⟨_, same ▸ Tree.isTemporary_path _ _ _⟩, ⟨rfl, nofun⟩, rfl⟩

/-- After a call of destroy has succeeded, whatever is called changes nothing, neither of the context nor of the files.
A load is refused because the context is destroyed, and a destroy succeeds again; an invocation finds that nothing was
ever loaded, or else that the file of its errors cannot be made. -/
theorem destroyed_context_answers (factory later : Factory) (files there : Tree) (context : Directory)
    (made : factory.create files = (.ok context, later, there)) (calls : List Call) (machine : Host.Machine) (act : Act)
    (closed : Closes act (Session.use (handle machine) (after ⟨context, later, there⟩ calls) act).1) :
    let before := calls ++ [(machine, act)]
    let guest := after ⟨context, later, there⟩ before
    (∀ calls, after guest calls = guest) ∧ ∀ machine,
      (∀ image, Session.use (handle machine) guest (.load image) = (.done (.error .destroyed), guest)) ∧
      Session.use (handle machine) guest .destroy = (.done (.ok ()), guest) ∧
      (¬Loaded ⟨context, later, there⟩ before →
        Session.use (handle machine) guest .invoke = (.invoked (.answered (.error .notLoaded)), guest)) ∧
      (Loaded ⟨context, later, there⟩ before → Session.use (handle machine) guest .invoke =
        (.invoked (.answered (.error (.host (Tree.absence (Path.join context.path stderrName))))), guest)) := by
  intro before guest
  obtain ⟨temporary, sane, unloaded⟩ := sane_created factory later files there context made
  have gone : Gone context.path guest := by
    have closing := gone_of_closed temporary (sane_after temporary sane calls) machine act closed
    simp only [guest, before, after_append]
    exact closing
  have loaded_iff : guest.context.loaded = true ↔ Loaded ⟨context, later, there⟩ before := by
    rw [after_loaded_iff, unloaded]
    simp
  refine ⟨after_gone temporary gone, fun machine => ⟨?_, ?_, ?_, ?_⟩⟩
  · intro image
    exact use_gone temporary gone machine (.load image)
  · exact use_gone temporary gone machine .destroy
  · intro never
    have refused := use_gone temporary gone machine .invoke
    rwa [Bool.eq_false_iff.mpr fun loaded => never (loaded_iff.mp loaded)] at refused
  · intro once
    have refused := use_gone temporary gone machine .invoke
    rwa [loaded_iff.mpr once] at refused

/-- Nothing but the directory of temporary files. -/
def bareFiles : Tree := ⟨[(["tmp"], .directory)], []⟩

/-- The first context that is made there. -/
def firstGuest : Guest where
  context :=
    { id := 0, path := "/tmp/snipbox-ctx-000000", slot := .empty, loaded := false, destroyed := false, counted := true }
  factory := { root := none, live := 1, nextId := 1 }
  files := ⟨[(["tmp", "snipbox-ctx-000000"], .directory), (["tmp"], .directory)], []⟩

theorem firstGuest_made :
    (Factory.new none).create bareFiles = (.ok firstGuest.context, firstGuest.factory, firstGuest.files) :=
  rfl

theorem firstGuest_loads : Loads firstGuest .idle (.load []) :=
  ⟨[], rfl, rfl⟩

theorem firstGuest_closes :
    Closes .destroy (Session.use (handle .idle) (after firstGuest [(.idle, .load [])]) .destroy).1 :=
  .inl ⟨rfl, rfl⟩

theorem destroyed_context_after_load :
    let guest := after firstGuest [(.idle, .load []), (.idle, .destroy)]
    Session.use (handle .idle) guest .invoke = (.invoked (.answered (.error (.host .missing))), guest) := by
  have answers := destroyed_context_answers (.new none) firstGuest.factory bareFiles firstGuest.files firstGuest.context
    firstGuest_made [(.idle, .load [])] .idle .destroy firstGuest_closes
  exact (answers.2 .idle).2.2.2 ⟨[], .idle, .load [], [(.idle, .destroy)], rfl, firstGuest_loads⟩

/-- An invocation after a load and a destroy is not refused because the context is destroyed. -/
theorem invoke_is_not_refused_as_destroyed :
    ¬∀ (factory later : Factory) (files there : Tree) (context : Directory),
      factory.create files = (.ok context, later, there) → ∀ (calls : List Call) (machine : Host.Machine) (act : Act),
      Closes act (Session.use (handle machine) (after ⟨context, later, there⟩ calls) act).1 →
      Loaded ⟨context, later, there⟩ calls →
      (Session.use (handle machine) (after ⟨context, later, there⟩ (calls ++ [(machine, act)])) .invoke).1 =
        .invoked (.answered (.error .destroyed)) := by
  intro claim
  have refused := claim (.new none) firstGuest.factory bareFiles firstGuest.files firstGuest.context firstGuest_made
    [(.idle, .load [])] .idle .destroy firstGuest_closes ⟨[], .idle, .load [], [], rfl, firstGuest_loads⟩
  have missing : (Session.use (handle .idle) (after firstGuest [(.idle, .load []), (.idle, .destroy)]) .invoke).1 =
      .invoked (.answered (.error (.host .missing))) := rfl
  cases missing.symm.trans refused

end Context.Directory
end SnippetRunner
