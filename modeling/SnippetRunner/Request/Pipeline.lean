import SnippetRunner.Compile.Build
import SnippetRunner.Context.Supply
import SnippetRunner.Policy
import SnippetRunner.Request.Result
import SnippetRunner.Run.Supervision

/-!
Requests from end to end: the snippet is accepted, wrapped, compiled and run under supervision in a context of
its own. The first stage that fails decides the result, and what it had made is gone when it is known.
-/

namespace SnippetRunner.Request
open Context (Supply)
open Files (Tree)
open Run (Supervision.Verdict Supervision.Conditions)
variable {φ σ : Type}

structure Executor (φ σ : Type) where
  settings : Settings
  machine : Host.Machine
  accepts : String → Bool
  supply : Supply φ σ

/-- The executor that settings ask for. -/
def Executor.ofSettings (settings : Settings) (machine : Host.Machine) :
    Executor Supply.AnyFactory Supply.AnyGuest :=
  { settings, machine
    accepts := Policy.accepts (.ofNamespaces settings.namespaces)
    supply := .any machine }

def ofVerdict (deadline : Span) : Supervision.Verdict → Result
  | .completed (.value text) => .value text
  | .completed (.fault message) => .runtimeFault message
  | .timedOut => .timeout deadline
  | .faulted message => .supervisionFault message

def ofCompileFault : Compile.Fault → Result
  | .diagnostics reports => .compileError reports
  | .emitEmpty => .emitEmpty
  | fault => .supervisionFault fault.message

namespace Executor

/-- Runs an executable in a context of its own; no result while it waits for one. -/
def runImage (executor : Executor φ σ) (conditions : Supervision.Conditions) (image : Bytes)
    (factory : φ) (files : Tree) : Option Result × φ × Tree :=
  match executor.supply.create factory files with
  | (.waits, factory, files) => (none, factory, files)
  | (.refused fault, factory, files) => (some (.supervisionFault fault.message), factory, files)
  | (.made guest, _, _) =>
      let (verdict, guest) := Run.Supervision.run conditions executor.supply.handle image guest
      (some (ofVerdict executor.settings.timeout verdict), executor.supply.leave guest)

/-- Answers one request, under given conditions of its run. -/
def evaluateUnder (executor : Executor φ σ) (conditions : Supervision.Conditions) (snippet : String)
    (factory : φ) (files : Tree) : Option Result × φ × Tree :=
  if !executor.accepts snippet then (some .rejected, factory, files)
  else
    let program := Scaffold.wrap snippet executor.settings.namespaces
    match Compile.compile executor.machine executor.settings.compiler program files with
    | (.error fault, files) => (some (ofCompileFault fault), factory, files)
    | (.ok image, files) => executor.runImage conditions image factory files

/-- Answers one request. -/
def evaluate (executor : Executor φ σ) (snippet : String) (factory : φ) (files : Tree) :
    Option Result × φ × Tree :=
  executor.evaluateUnder Run.Supervision.ordinary snippet factory files

end Executor
end SnippetRunner.Request
