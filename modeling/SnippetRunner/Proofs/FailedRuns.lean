import SnippetRunner.Context.Boxed
import SnippetRunner.Proofs.WrittenFiles
import SnippetRunner.Request.Pipeline

/-!
Runs that their account reports as failed. A status says so, and so does an exit code that is not the number
zero; what is made of such a run is a fault with something to say, and no value. Where the status is that of an
error the exit code decides, whatever it is.
-/

namespace SnippetRunner

section Messages

theorem Text.said_of_front (front rest : String) (said : front ≠ "") : toString front ++ rest ≠ "" := by
  intro empty
  exact said (String.append_eq_empty_iff.mp empty).1

theorem Context.Fault.message_said (fault : Context.Fault) : fault.message ≠ "" := by
  cases fault with
  | create reason => exact Text.said_of_front _ _ (by simp)
  | destroyed => exact (by simp : "isolation context has been destroyed" ≠ "")
  | notLoaded => exact (by simp : "no artifact has been loaded" ≠ "")
  | spawn cause => exact Text.said_of_front _ _ (by simp)
  | teardown reason => exact Text.said_of_front _ _ (by simp)
  | host cause => exact Text.said_of_front _ _ (by simp)
  | box fault => exact Text.said_of_front _ _ (by simp)

/-- A fault that has something to say is shown as it is. -/
theorem Request.Result.text_runtimeFault (message : String) (said : message ≠ "") :
    (Request.Result.runtimeFault message).text = message := by
  have full : ¬message.isEmpty = true := by rwa [String.isEmpty_iff]
  exact if_neg full

end Messages

namespace Run.Outcome

theorem failure_said (code : Int) (stderr : Bytes) : failure code stderr ≠ "" := by
  rw [failure]
  split
  · exact Text.said_of_front _ _ (by simp)
  · rename_i said
    rwa [String.isEmpty_iff] at said

/-- Anything but a clean exit is a fault, with an explanation unless that of a stopped program is empty. -/
theorem fault_of_unclean (exit : Exit) (result : Option Bytes) (stderr : Bytes) (unclean : exit ≠ .code 0) :
    ∃ message, ofInvocation ⟨exit, result, stderr⟩ = .fault message ∧ (exit ≠ .stopped "" → message ≠ "") := by
  cases exit with
  | code code =>
      refine ⟨failure code stderr, ?_, fun _ => failure_said code stderr⟩
      have nonzero : code ≠ 0 := fun zero => unclean (congrArg Exit.code zero)
      unfold ofInvocation
      split <;> simp_all
  | signal number => exact ⟨_, rfl, fun _ => Text.said_of_front _ _ (by simp)⟩
  | stopped reason => exact ⟨reason, rfl, fun explained empty => explained (congrArg Exit.stopped empty)⟩

end Run.Outcome

namespace Box.Account
open Run (Exit Outcome)
open Request (Result)
variable {account : Account}

section Exits

/-- The account says that the run failed. -/
def ReportsFailure (account : Account) : Prop :=
  account.find? "status".toList ≠ none ∨
    ∃ value, account.find? "exitcode".toList = some value ∧ Number.signed? 32 value ≠ some 0

/-- The status is that of an error, and the exit code is zero. -/
def IsZeroError (account : Account) : Prop :=
  account.status = .runtimeError ∧ account.exitCode? = some 0

/-- There is no status, and no exit code that can be read. -/
def IsUnreadable (account : Account) : Prop :=
  account.find? "status".toList = none ∧ account.exitCode? = none

/-- The explanation of an exit is that of the account, which is empty. -/
def LacksReason (account : Account) (exit : Exit) : Prop :=
  account.find? "message".toList = some [] ∧ ∃ reason, exit = .stopped reason

theorem status_ended (there : account.find? "status".toList ≠ none) : account.status ≠ .ended := by
  obtain ⟨code, found⟩ := Option.ne_none_iff_exists'.mp there
  have status_eq : account.status = Status.ofCode code := by rw [status, found]
  rw [status_eq, Status.ofCode]
  repeat' split
  all_goals simp

theorem exitCode_eq {value : List Char} (found : account.find? "exitcode".toList = some value) :
    account.exitCode? = Number.signed? 32 value := by
  rw [exitCode?, integer?, found, Option.bind_some]

/-- The exit of a failed run is not clean. -/
theorem exit_unclean (reports : account.ReportsFailure) (nonzero : ¬account.IsZeroError)
    (readable : ¬account.IsUnreadable) : account.exit ≠ .ok (.code 0) := by
  intro clean
  rw [exit] at clean
  cases found : account.status with
  | ended =>
      have unsaid : account.find? "status".toList = none :=
        Classical.byContradiction fun there => status_ended there found
      obtain ⟨value, entry, other⟩ := reports.resolve_left fun there => there unsaid
      cases read : account.exitCode? with
      | none => exact readable ⟨unsaid, read⟩
      | some code =>
          simp only [found, read, Option.getD_some, Except.ok.injEq, Exit.code.injEq] at clean
          exact other (by rw [← exitCode_eq entry, read, clean])
  | runtimeError =>
      cases read : account.exitCode? with
      | none => simp [found, read] at clean
      | some code =>
          simp only [found, read, Except.ok.injEq, Exit.code.injEq] at clean
          exact nonzero ⟨found, by rw [read, clean]⟩
  | signaled =>
      simp only [found] at clean
      split at clean <;> cases clean
  | timedOut => simp [found] at clean
  | internalError => simp [found] at clean
  | unknown code => simp [found] at clean

/-- Only the account's own explanation can be empty. -/
theorem message_empty (stopped : account.exit = .ok (.stopped "")) : account.LacksReason (.stopped "") := by
  refine ⟨?_, "", rfl⟩
  rw [exit] at stopped
  have given (otherwise : String) (said : otherwise ≠ "") (empty : account.message?.getD otherwise = "") :
      account.find? "message".toList = some [] := by
    rw [message?] at empty
    cases found : account.find? "message".toList with
    | none =>
        rw [found] at empty
        exact (said empty).elim
    | some text =>
        rw [found] at empty
        rw [String.ofList_eq_empty_iff.mp empty]
  cases found : account.status with
  | ended => simp [found] at stopped
  | runtimeError =>
      simp only [found] at stopped
      split at stopped
      · cases stopped
      · exact given "runtime error" (by simp) (by simpa using stopped)
  | signaled =>
      simp only [found] at stopped
      split at stopped
      · cases stopped
      · exact given "killed by a signal" (by simp) (by simpa using stopped)
  | timedOut =>
      simp only [found] at stopped
      exact given "time limit exceeded" (by simp) (by simpa using stopped)
  | internalError => simp [found] at stopped
  | unknown code => simp [found] at stopped

end Exits

section Boxes
variable {context : Context.Boxed} {files : Files.Tree} {path : String}

theorem node_of_load (loaded : load files path = .ok account) : ∃ node, files.node path = .ok node := by
  cases found : files.node path with
  | ok node => exact ⟨node, rfl⟩
  | error cause =>
      have unread : files.readText path = .error cause := by
        simp only [Files.Tree.readText, Files.Tree.read, found, bind, Except.bind]
      rw [load, unread] at loaded
      cases loaded

theorem load_file {text : String} {mode : Nat} (found : files.node path = .ok (.file (Utf8.ofString text) mode))
    (told : readStrict text.toList = .ok account) : load files path = .ok account := by
  simp only [load, Files.Tree.readText_file found, told]

theorem inBox_ok {α : Type} (answer : α) : Context.Boxed.inBox (.ok answer) = .ok answer := rfl

/-- What is found in a box: a fault, or an invocation with the exit of the account. -/
theorem collected_of_account (placed : context.box.filePath Context.accountName = .ok path)
    (loaded : load files path = .ok account) :
    (∃ fault, context.collect files = .error fault) ∨
      ∃ exit result stderr, account.exit = .ok exit ∧ context.collect files = .ok ⟨exit, result, stderr⟩ := by
  obtain ⟨node, found⟩ := node_of_load loaded
  simp only [Context.Boxed.collect, placed, found, loaded, inBox_ok, bind, Except.bind]
  cases account.exit with
  | error fault => exact .inl ⟨_, rfl⟩
  | ok exit =>
      cases context.box.readOptional Context.resultName Run.resultLimit files with
      | error fault => exact .inl ⟨_, rfl⟩
      | ok result =>
          cases context.box.readOptional Context.stderrName Run.stderrLimit files with
          | error fault => exact .inl ⟨_, rfl⟩
          | ok stderr => exact .inr ⟨exit, result, _, rfl, rfl⟩

end Boxes

section Failures

/-- What is made of a run that failed by its account. -/
structure Failed (account : Account) (result : Option Bytes) (stderr : Bytes) : Prop where
  -- the exit code of an error counts, also if it is zero
  coded : account.IsZeroError → account.exit = .ok (.code 0) ∧
    Outcome.ofInvocation ⟨.code 0, result, stderr⟩ = .value (Outcome.valueOf result)
  shown : ¬account.IsZeroError → ¬account.IsUnreadable → (∃ fault, account.exit = .error fault) ∨
    ∃ exit message, account.exit = .ok exit ∧ Outcome.ofInvocation ⟨exit, result, stderr⟩ = .fault message ∧
      (¬account.LacksReason exit → message ≠ "" ∧ (Result.runtimeFault message).text = message)
  collected (context : Context.Boxed) (files : Files.Tree) (path : String) :
    ¬account.IsZeroError → ¬account.IsUnreadable →
    context.box.filePath Context.accountName = .ok path → load files path = .ok account →
    ∃ message, Context.outcomeOf (context.collect files) = .fault message ∧
      ((∀ exit, account.exit = .ok exit → ¬account.LacksReason exit) → message ≠ "")

/-- The fault that an unclean exit comes to. -/
theorem fault_of_exit {exit : Exit} (ended : account.exit = .ok exit) (unclean : account.exit ≠ .ok (.code 0))
    (result : Option Bytes) (stderr : Bytes) : ∃ message,
    Outcome.ofInvocation ⟨exit, result, stderr⟩ = .fault message ∧ (¬account.LacksReason exit → message ≠ "") := by
  obtain ⟨message, fault, said⟩ := Outcome.fault_of_unclean exit result stderr fun clean => unclean (clean ▸ ended)
  refine ⟨message, fault, fun reason => said fun stopped => ?_⟩
  subst stopped
  exact reason (message_empty ended)

def timedOut : String := "status:TO\nexitcode:0"

def timedOutBox : Context.Boxed :=
  { box := { id := 0, path := "/0", keeper := "isolate", initialized := true, cgroup := false }
    wallTime := .ofNat 1, mounts := [], slot := .empty, loaded := true, destroyed := false
    lease := some 0, counted := true }

/-- The files of the box, with a value in the result slot. -/
def timedOutFiles : Files.Tree :=
  ⟨[(["0"], .directory), (["0", "box"], .directory),
    (["0", "box", "meta.txt"], .file (Utf8.ofString timedOut) Files.fileMode),
    (["0", "box", "result.txt"], .file [50] Files.fileMode)], []⟩

end Failures
end Box.Account
end SnippetRunner
