import SnippetRunner.Box.Fault
import SnippetRunner.Files.Tree
import SnippetRunner.Number.Literal
import SnippetRunner.Run.Outcome
import SnippetRunner.Text.Blank
import SnippetRunner.Text.Lines
import SnippetRunner.Text.Quoted
import SnippetRunner.Text.Search

/-!
The account of a run: lines of keys and values that the box keeper writes when a program has ended. A line
is cut at its first colon; blank lines say nothing, and of a key that stands twice the last value counts. The
lenient reading passes over malformed lines, the strict one stops at the first.
-/

namespace SnippetRunner.Box

/-- Entries in the order of their keys, each key once. -/
structure Account where
  entries : List (List Char × List Char)
  deriving DecidableEq

namespace Account

section Entries

def empty : Account := ⟨[]⟩

def putIn (key value : List Char) : List (List Char × List Char) → List (List Char × List Char)
  | [] => [(key, value)]
  | (other, held) :: rest =>
      if key = other then (key, value) :: rest
      else if key < other then (key, value) :: (other, held) :: rest
      else (other, held) :: putIn key value rest

def put (account : Account) (key value : List Char) : Account :=
  ⟨putIn key value account.entries⟩

def find? (account : Account) (key : List Char) : Option (List Char) :=
  (account.entries.find? fun entry => entry.1 == key).map Prod.snd

end Entries

section Reading

inductive Line where
  | blank
  | entry (key value : List Char)
  | malformed (reason : String)
  deriving DecidableEq

def Line.read (line : List Char) : Line :=
  let line := Text.trim line
  if line.isEmpty then .blank
  else
    match Text.cutOnce? ':' line with
    | none => .malformed "missing colon separator"
    | some (key, value) =>
        let key := Text.trim key
        if key.isEmpty then .malformed "empty key before colon" else .entry key (Text.trim value)

def add (account : Account) : Line → Account
  | .entry key value => account.put key value
  | _ => account

/-- Takes up what a line says, if it says anything. -/
def addLine (account : Account) (line : List Char) : Account :=
  let line := Text.trim line
  if line.isEmpty then account
  else
    match Text.cutOnce? ':' line with
    | none => account
    | some (key, value) =>
        let key := Text.trim key
        if key.isEmpty then account else account.put key (Text.trim value)

/-- Reads an account and passes over malformed lines. -/
def readLenient (content : List Char) : Account :=
  (Text.lines content).foldl addLine empty

structure Misreading where
  -- counted from one
  number : Nat
  line : List Char
  reason : String
  deriving DecidableEq

def Misreading.message (misreading : Misreading) : String :=
  let line := Text.quoted (String.ofList misreading.line)
  s!"meta file parse error at line {misreading.number}: {misreading.reason} (line: {line})"

def readStrictFrom (account : Account) (number : Nat) : List (List Char) → Except Misreading Account
  | [] => .ok account
  | line :: rest =>
      match Line.read line with
      | .malformed reason => .error { number, line, reason }
      | read => readStrictFrom (account.add read) (number + 1) rest

/-- Reads an account if no line of it is malformed. -/
def readStrict (content : List Char) : Except Misreading Account :=
  readStrictFrom empty 1 (Text.lines content)

/-- Reads the account in a file. -/
def load (files : Files.Tree) (path : String) : Except Fault Account :=
  match files.readText path with
  | .error cause => .error (.host cause)
  | .ok content =>
      match readStrict content.toList with
      | .ok account => .ok account
      | .error misreading => .error (.account misreading.message)

end Reading

section Meaning

inductive Status where
  -- without an entry that says otherwise
  | ended
  | runtimeError
  | signaled
  | timedOut
  | internalError
  | unknown (code : List Char)
  deriving DecidableEq

def Status.ofCode (code : List Char) : Status :=
  if code = ['R', 'E'] then .runtimeError
  else if code = ['S', 'G'] then .signaled
  else if code = ['T', 'O'] then .timedOut
  else if code = ['X', 'X'] then .internalError
  else .unknown code

def float? (account : Account) (key : String) : Option Binary64 :=
  (account.find? key.toList).bind Number.binary64?

def integer? (account : Account) (key : String) : Option Int :=
  (account.find? key.toList).bind (Number.signed? 32)

def status (account : Account) : Status :=
  match account.find? "status".toList with
  | some code => Status.ofCode code
  | none => .ended

/-- The seconds that passed. -/
def wallTime (account : Account) : Binary64 :=
  (account.float? "time-wall").getD (.ofNat 0)

def exitCode? (account : Account) : Option Int :=
  account.integer? "exitcode"

def signal? (account : Account) : Option Int :=
  account.integer? "exitsig"

def message? (account : Account) : Option String :=
  (account.find? "message".toList).map String.ofList

/-- How the program ended, or what is wrong with the keeper. -/
def exit (account : Account) : Except Fault Run.Exit :=
  let reason (otherwise : String) : String := account.message?.getD otherwise
  match account.status with
  | .ended => .ok (.code (account.exitCode?.getD 0))
  | .runtimeError =>
      match account.exitCode? with
      | some code => .ok (.code code)
      | none => .ok (.stopped (reason "runtime error"))
  | .signaled =>
      match account.signal? with
      | some number => .ok (.signal number)
      | none => .ok (.stopped (reason "killed by a signal"))
  | .timedOut => .ok (.stopped (reason "time limit exceeded"))
  | .internalError => .error (.command (reason "internal error"))
  | .unknown code => .error (.account s!"unknown status {Text.quoted (String.ofList code)}")

end Meaning
end Account
end SnippetRunner.Box
