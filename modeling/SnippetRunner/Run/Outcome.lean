import SnippetRunner.Host.Machine
import SnippetRunner.Text.Blank

/-!
How runs end: the exit of a program, what it left behind, and what is made of both. A value counts only
after a clean exit; of anything else the best explanation at hand is the fault.
-/

namespace SnippetRunner.Run

inductive Exit where
  | code (value : Int)
  | signal (number : Int)
  -- stopped from outside, with an explanation
  | stopped (reason : String)
  deriving DecidableEq

structure Invocation where
  exit : Exit
  -- what stands in the result slot, if the program wrote one
  result : Option Bytes
  stderr : Bytes
  deriving DecidableEq

inductive Outcome where
  | value (text : Option String)
  | fault (message : String)
  deriving DecidableEq

-- Of an exit code the low eight bits are kept.
def exitBits : Int := 256

/-- The exit of a program, if it ends at all. -/
def Exit.ofEnding? : Host.Ending → Option Exit
  | .exit n => some (.code (n % exitBits))
  | .signal n => some (.signal n)
  | .never => none

def Exit.isClean (exit : Exit) : Bool :=
  exit == .code 0

-- The most that is kept of a result and of the errors, in octets.
def resultLimit : Nat := 1024 * 1024
def stderrLimit : Nat := 64 * 1024

namespace Outcome

/-- The value in a result slot; an empty slot holds none. -/
def valueOf (result : Option Bytes) : Option String :=
  match result with
  | none => none
  | some [] => none
  | some content => some (Utf8.lossy content)

def failure (code : Int) (stderr : Bytes) : String :=
  let said := Text.trimmed (Utf8.lossy stderr)
  if said.isEmpty then s!"process exited with status {code}" else said

def ofInvocation (invocation : Invocation) : Outcome :=
  match invocation.exit with
  | .code 0 => .value (valueOf invocation.result)
  | .code code => .fault (failure code invocation.stderr)
  | .signal number => .fault s!"terminated by signal {number}"
  | .stopped reason => .fault reason

end Outcome
end SnippetRunner.Run
