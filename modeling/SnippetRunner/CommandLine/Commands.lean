import SnippetRunner.Cgroup
import SnippetRunner.CommandLine.Arguments
import SnippetRunner.CommandLine.Failure
import SnippetRunner.Settings.File
import SnippetRunner.Settings.Starter
import SnippetRunner.Worker.Flow
import SnippetRunner.Worker.Serve

/-!
The commands: what each of them prints, and what it leaves behind. Settings are read first, and nothing is
done without them.
-/

namespace SnippetRunner.CommandLine
open Context (Supply)
open Files (Tree)

structure Outcome where
  code : Nat
  out : String
  failure : Option Failure
  -- lines a worker has passed over
  skipped : Nat

namespace Outcome

def printed (out : String) : Outcome :=
  { code := 0, out, failure := none, skipped := 0 }

def failed (message : String) (causes : List String) : Outcome :=
  { code := 1, out := "", failure := some ⟨message, causes⟩, skipped := 0 }

def misused : Outcome :=
  { code := 2, out := "", failure := none, skipped := 0 }

-- A program that breaks down.
def aborted : Outcome :=
  { code := 101, out := "", failure := none, skipped := 0 }

end Outcome

def printLine (text : String) : String :=
  text ++ "\n"

def printLines (lines : List String) : Outcome :=
  .printed (String.join (lines.map printLine))

/-- What commands find around them. -/
structure Surroundings where
  machine : Host.Machine
  input : Bytes
  -- the number of this process
  process : Nat

section Settings

/-- Settings from the file that is named, or else the defaults. -/
def loadSettings (files : Tree) : Option String → Except Failure Settings
  | none => .ok .defaults
  | some name =>
      match Settings.ofFile files name with
      | .ok settings => .ok settings
      | .error fault => .error ⟨"failed to load configuration", fault.causes⟩

def withoutCgroup (settings : Settings) : Settings :=
  { settings with sandbox := { settings.sandbox with cgroup := false } }

/-- Prepares control groups where they are asked for; boxes do without them if that fails. -/
def prepareCgroup (process : Nat) (settings : Settings) (files : Tree) : Settings × Tree :=
  if settings.sandbox.backend == .isolate && settings.sandbox.cgroup then
    match Cgroup.prepare settings.sandbox.cgroupRoot process files with
    | (.ok true, files) => (settings, files)
    | (_, files) => (withoutCgroup settings, files)
  else (settings, files)

end Settings

section Commands

/-- The text of a snippet, from where the command line says it is. -/
def snippet (input : Bytes) (files : Tree) (source code : Option String) : Except Failure String :=
  match code, source with
  | some code, _ => .ok code
  | none, some path =>
      (files.readText path).mapError fun fault =>
        ⟨s!"failed to read snippet from '{path}'", [fault.text]⟩
  | none, none =>
      match Utf8.readStrict input with
      | .ok text => .ok (String.ofList text)
      | .error fault => .error ⟨"failed to read snippet from stdin", [fault.message]⟩

/-- Runs one snippet; nothing if it waits for ever. -/
def runSnippet (surroundings : Surroundings) (settings : Settings) (source code : Option String)
    (files : Tree) : Option Outcome × Tree :=
  match snippet surroundings.input files source code with
  | .error failure => (some (.failed failure.message failure.causes), files)
  | .ok text =>
      let executor := Request.Executor.ofSettings settings surroundings.machine
      let (result, _, files) := executor.evaluate text (Supply.factoryOf settings) files
      (result.map fun result => .printed (printLine result.text), files)

-- No more permits than this can be handed out.
def permitLimit : Nat := 0x1fffffffffffffff

def served (answer : Worker.Served) : Outcome :=
  match answer.fault with
  | some fault => { Outcome.failed "failed to read request" [fault.message] with skipped := answer.skipped }
  | none =>
      { Outcome.printed (String.join (answer.replies.map Worker.Reply.line)) with
        skipped := answer.skipped }

/-- Serves the requests in the input; nothing if one of them waits for ever. -/
def runWorker (surroundings : Surroundings) (settings : Settings) (concurrency : Nat) (files : Tree) :
    Option Outcome × Tree :=
  if permitLimit < Worker.limit concurrency then (some .aborted, files)
  else
    let executor := Request.Executor.ofSettings settings surroundings.machine
    let (answer, files) := Worker.serve executor (Supply.factoryOf settings) surroundings.input files
    (answer.map served, files)

/-- Writes a settings file to start from. -/
def initConfig (output : String) (force : Bool) (files : Tree) : Outcome × Tree :=
  if files.isThere output && !force then
    (.failed s!"Configuration file already exists at '{output}'. Use --force to overwrite." [], files)
  else
    match files.write output (Utf8.ofString Settings.starterText) with
    | .error fault => (.failed "failed to write configuration file" [fault.text], files)
    | .ok files => (.printed (printLine s!"Created configuration file at '{output}'"), files)

def lastBoxNumber : Nat := 0xffffffff

def boxLines (settings : Settings) : List String :=
  let sandbox := settings.sandbox
  let past := min (sandbox.firstBoxId + sandbox.boxCount) lastBoxNumber
  [ s!"  Isolate binary: {settings.isolateBinary}", "  Cgroup: " ++ Json.writeBool sandbox.cgroup,
    s!"  Box IDs: {sandbox.firstBoxId}..{past}", s!"  Mounts: {sandbox.mounts.length}" ]

def secsLine (label : String) (secs : Binary64) : String :=
  label ++ ": " ++ secs.text ++ "s"

/-- The settings that are in effect. -/
def settingsLines (settings : Settings) : List String :=
  let compiler := settings.compiler
  let general :=
    [ secsLine "Timeout" settings.timeoutSecs,
      "Namespaces: " ++ String.intercalate ", " settings.namespaces,
      "",
      s!"Compiler: {compiler.binary}",
      s!"  Edition: {compiler.edition}",
      "  Args: " ++ String.intercalate " " compiler.args,
      secsLine "  Timeout" compiler.timeoutSecs,
      "" ]
  match settings.sandbox.backend with
  | .process => general ++ ["Backend: Process"]
  | .isolate => general ++ "Backend: Isolate" :: boxLines settings

end Commands

section Calls

def perform (surroundings : Surroundings) (settings : Settings) (files : Tree) :
    Command → Option Outcome × Tree
  | .run source code => runSnippet surroundings settings source code files
  | .worker concurrency => runWorker surroundings settings concurrency files
  | .init output force =>
      let (outcome, files) := initConfig output force files
      (some outcome, files)
  | .namespaces => (some (printLines settings.namespaces), files)
  | .showConfig => (some (printLines (settingsLines settings)), files)

def versionText : String := "snipbox 0.1.0"

def helpLines : List String :=
  [ "Compile and run untrusted snippets in sandboxes",
    "",
    "Usage: snipbox [-c FILE] [-v] COMMAND",
    "",
    "Commands:",
    "  run [FILE] [-e CODE]     Run one snippet and print its result",
    "  worker [-j NUMBER]       Serve JSON-lines requests from stdin",
    "  init [-o FILE] [-f]      Write a new configuration file",
    "  namespaces               List the namespaces snippets may use",
    "  show-config              Show the effective configuration" ]

def stopped : Stop → Outcome
  | .help => printLines helpLines
  | .version => printLines [versionText]
  | .misuse => .misused

/-- Carries out a command line; nothing if it waits for ever. -/
def run (surroundings : Surroundings) (args : List String) (files : Tree) : Option Outcome × Tree :=
  match read args with
  | .error stop => (some (stopped stop), files)
  | .ok call =>
      match loadSettings files call.config with
      | .error failure => (some (.failed failure.message failure.causes), files)
      | .ok settings =>
          let (settings, files) := prepareCgroup surroundings.process settings files
          perform surroundings settings files call.command

end Calls
end SnippetRunner.CommandLine
