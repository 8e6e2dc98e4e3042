import SnippetRunner.Box.Mount
import SnippetRunner.Namespace
import SnippetRunner.Number.Shortest
import SnippetRunner.Time.Span

/-!
Settings: limits, the namespaces snippets may use, the compiler and where programs run. They are checked
once, after reading.
-/

namespace SnippetRunner

inductive Backend where
  -- a child process in a throwaway directory
  | process
  -- a box of the box keeper
  | isolate
  deriving DecidableEq

def Backend.name : Backend → String
  | .process => "process"
  | .isolate => "isolate"

structure CompilerSettings where
  -- a path, or a name that is looked up
  binary : String
  edition : String
  args : List String
  timeoutSecs : Binary64
  scratchDir : Option String
  deriving DecidableEq

structure SandboxSettings where
  backend : Backend
  isolatePath : Option String
  cgroup : Bool
  cgroupRoot : String
  -- of 32 bits, as is the number of boxes
  firstBoxId : Nat
  boxCount : Nat
  mounts : List Box.Mount
  scratchDir : Option String
  deriving DecidableEq

structure Settings where
  timeoutSecs : Binary64
  namespaces : List String
  compiler : CompilerSettings
  sandbox : SandboxSettings
  deriving DecidableEq

namespace CompilerSettings

def defaults : CompilerSettings :=
  { binary := "rustc", edition := "2021", args := ["-C", "opt-level=0", "-C", "debuginfo=0"]
    timeoutSecs := .ofNat 30, scratchDir := none }

/-- The longest a compiler may take. -/
def timeout (settings : CompilerSettings) : Span :=
  Span.ofSecondsClamped settings.timeoutSecs

end CompilerSettings

namespace SandboxSettings

def defaults : SandboxSettings :=
  { backend := .process, isolatePath := none, cgroup := false
    cgroupRoot := "/sys/fs/cgroup/isolate", firstBoxId := 0, boxCount := 100, mounts := []
    scratchDir := none }

end SandboxSettings

namespace Settings

def defaults : Settings :=
  { timeoutSecs := .ofNat 5, namespaces := Namespace.defaults
    compiler := .defaults, sandbox := .defaults }

/-- The longest a snippet may run. -/
def timeout (settings : Settings) : Span :=
  Span.ofSecondsClamped settings.timeoutSecs

def withTimeout (settings : Settings) (timeout : Span) : Settings :=
  { settings with timeoutSecs := timeout.toSeconds }

def withNamespaces (settings : Settings) (namespaces : List String) : Settings :=
  { settings with namespaces := namespaces }

/-- The box keeper's binary; without a setting it is looked up by name. -/
def isolateBinary (settings : Settings) : String :=
  settings.sandbox.isolatePath.getD "isolate"

section Check

inductive Invalid where
  | timeout (name : String) (secs : Binary64)
  | noCompiler
  | noBox
  | notNamespace (text : String)
  deriving DecidableEq

/-- What is said about settings that may not be, for a reason. -/
def refusal (reason : String) : String :=
  "invalid config: " ++ reason

def Invalid.message : Invalid → String
  | .timeout name secs => refusal (name ++ " must be a positive number of seconds, got " ++ secs.text)
  | .noCompiler => refusal "compiler.rustc must not be empty"
  | .noBox => refusal "sandbox.box_count must be at least 1"
  | .notNamespace text =>
      s!"invalid namespace '{text}': expected a path like `std::collections` or `std::iter::*`"

-- Timeouts are positive and no longer than a span can be.
def isTimeout (secs : Binary64) : Bool :=
  secs.isPositive && (Span.ofSeconds? secs).isSome

/-- The first thing that settings may not be, if there is one. -/
def check (settings : Settings) : Except Invalid Unit :=
  if !isTimeout settings.timeoutSecs then .error (.timeout "timeout_secs" settings.timeoutSecs)
  else if !isTimeout settings.compiler.timeoutSecs then
    .error (.timeout "compiler.timeout_secs" settings.compiler.timeoutSecs)
  else if settings.compiler.binary.isEmpty then .error .noCompiler
  else if settings.sandbox.boxCount = 0 then .error .noBox
  else
    match settings.namespaces.find? fun text => !Namespace.isValid text with
    | some text => .error (.notNamespace text)
    | none => .ok ()

end Check
end Settings
end SnippetRunner
