import SnippetRunner.Box.Fault
import SnippetRunner.Box.Mount
import SnippetRunner.Number.Shortest

/-!
Command lines of the box keeper. A command is settled setting by setting: of most settings the last counts,
mounts are added. Only a command that runs a program has more than the box and the action.
-/

namespace SnippetRunner.Box

namespace Mount

/-- How a mount is written on a command line. -/
def option (mount : Mount) : String :=
  "--dir=" ++ mount.target ++ "=" ++ mount.source ++
    (if mount.writable then ":rw" else "") ++ (if mount.optional then ":maybe" else "")

def isShown (isThere : String → Bool) (mount : Mount) : Bool :=
  !mount.optional || isThere mount.source

/-- Every source that is not optional has to be there. -/
def checkAll (isThere : String → Bool) (mounts : List Mount) : Except Fault Unit :=
  match mounts.find? fun mount => !mount.optional && !isThere mount.source with
  | some mount => .error (.noSource mount.source)
  | none => .ok ()

end Mount

inductive Action where
  | setup
  | run
  | cleanup
  deriving DecidableEq

structure Command where
  keeper : String
  id : Nat
  action : Action
  -- in seconds
  wallTime : Option Binary64
  processes : Option Nat
  mounts : List Mount
  account : Option String
  stdout : Option String
  stderr : Option String
  directory : Option String
  words : List String
  cgroup : Bool

namespace Command

def new (keeper : String) (id : Nat) : Command :=
  { keeper, id, action := .run, wallTime := none, processes := none, mounts := [], account := none,
    stdout := none, stderr := none, directory := none, words := [], cgroup := false }

inductive Setting where
  | action (value : Action)
  | wallTime (seconds : Binary64)
  | processes (count : Nat)
  | mounts (more : List Mount)
  | account (path : String)
  | stdout (path : String)
  | stderr (path : String)
  | directory (path : String)
  | words (values : List String)
  | cgroup (enabled : Bool)

def set (command : Command) : Setting → Command
  | .action value => { command with action := value }
  | .wallTime seconds => { command with wallTime := some seconds }
  | .processes count => { command with processes := some count }
  | .mounts more => { command with mounts := command.mounts ++ more }
  | .account path => { command with account := some path }
  | .stdout path => { command with stdout := some path }
  | .stderr path => { command with stderr := some path }
  | .directory path => { command with directory := some path }
  | .words values => { command with words := values }
  | .cgroup enabled => { command with cgroup := enabled }

def ofSettings (keeper : String) (id : Nat) (settings : List Setting) : Command :=
  settings.foldl set (new keeper id)

def optionOf (name : String) (value : Option String) : List String :=
  (value.map fun text => name ++ text).toList

/-- The options of a run, without the program and its arguments. -/
def runOptions (isThere : String → Bool) (command : Command) : List String :=
  optionOf "--wall-time=" (command.wallTime.map Binary64.text) ++
    optionOf "--processes=" (command.processes.map fun count => s!"{count}") ++
    (command.mounts.filter (Mount.isShown isThere)).map Mount.option ++
    optionOf "--meta=" command.account ++
    optionOf "--stdout=" command.stdout ++
    optionOf "--stderr=" command.stderr ++
    optionOf "--chdir=" command.directory

/-- The arguments of the keeper. -/
def arguments (isThere : String → Bool) (command : Command) : List String :=
  let first := s!"--box-id={command.id}" :: (if command.cgroup then ["--cg"] else [])
  match command.action with
  | .setup => first ++ ["--init"]
  | .cleanup => first ++ ["--cleanup"]
  | .run => first ++ ["--run"] ++ command.runOptions isThere ++ ["--"] ++ command.words

/-- The whole command line. -/
def line (isThere : String → Bool) (command : Command) : List String :=
  command.keeper :: command.arguments isThere

end Command
end SnippetRunner.Box
