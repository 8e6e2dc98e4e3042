import SnippetRunner.Number.Literal

/-!
Reading the command line. Flags may be joined (`-vcfile`), values are attached (`-cfile`, `-c=file`,
`--config=file`) or come next, and everything after `--` is a word. Arguments are acted on in order, so of a
mistake and a request for help the first one counts.
-/

namespace SnippetRunner.CommandLine

/-- Why there is no command to carry out. -/
inductive Stop where
  | help
  | version
  | misuse
  deriving DecidableEq

inductive Command where
  -- a snippet from a file, from the command line, or else from the input
  | run (source code : Option String)
  | worker (concurrency : Nat)
  | init (output : String) (force : Bool)
  | namespaces
  | showConfig
  deriving DecidableEq

structure Call where
  config : Option String
  verbose : Bool
  command : Command
  deriving DecidableEq

section Forms

inductive Kind where
  | text
  -- not empty
  | path
  -- of 64 bits
  | count
  deriving DecidableEq

inductive Use where
  | flag
  | value (kind : Kind)
  | stop (reason : Stop)
  deriving DecidableEq

structure Switch where
  short : Char
  long : String
  use : Use
  deriving DecidableEq

/-- The switches that are known, and how many words may stand; without a number the first word is the last. -/
structure Form where
  switches : List Switch
  words : Option Nat

def count? (text : String) : Option Nat :=
  Number.unsigned? 64 text.toList

def Kind.accepts (text : String) : Kind → Bool
  | .text => true
  | .path => !text.isEmpty
  | .count => (count? text).isSome

end Forms

section Scanning

/-- What has been read: the values of switches by their long names, and the words. -/
structure Found where
  values : List (String × String)
  words : List String

namespace Found

def nothing : Found := ⟨[], []⟩

def value? (found : Found) (long : String) : Option String :=
  (found.values.find? fun entry => entry.1 == long).map Prod.snd

def has (found : Found) (long : String) : Bool :=
  (found.value? long).isSome

-- A switch is given once.
def set (found : Found) (switch : Switch) (value : String) : Except Stop Found :=
  if found.has switch.long then .error .misuse
  else .ok { found with values := (switch.long, value) :: found.values }

def give (found : Found) (switch : Switch) (value : String) : Except Stop Found :=
  match switch.use with
  | .value kind => if kind.accepts value then found.set switch value else .error .misuse
  | _ => .error .misuse

def addWord (form : Form) (found : Found) (word : String) : Except Stop Found :=
  if word.isEmpty || form.words.getD 0 ≤ found.words.length then .error .misuse
  else .ok { found with words := found.words ++ [word] }

end Found

-- An option may leave its switch to wait for a value.
abbrev Scan := Except Stop (Found × Option Switch)

def scanShort (form : Form) (found : Found) : List Char → Scan
  | [] => .ok (found, none)
  | c :: rest =>
      match form.switches.find? fun switch => switch.short == c with
      | none => .error .misuse
      | some switch =>
          match switch.use, rest with
          | .stop reason, _ => .error reason
          | .flag, _ =>
              match found.set switch "" with
              | .ok found => scanShort form found rest
              | .error stop => .error stop
          | .value _, [] => .ok (found, some switch)
          | .value _, '=' :: value => (found.give switch (String.ofList value)).map (·, none)
          | .value _, value => (found.give switch (String.ofList value)).map (·, none)

def scanLong (form : Form) (found : Found) (text : List Char) : Scan :=
  let long := String.ofList (text.takeWhile (· != '='))
  match form.switches.find? fun switch => switch.long == long with
  | none => .error .misuse
  | some switch =>
      match switch.use, text.dropWhile (· != '=') with
      | .stop reason, [] => .error reason
      | .flag, [] => (found.set switch "").map (·, none)
      | .value _, [] => .ok (found, some switch)
      | .value _, _ :: value => (found.give switch (String.ofList value)).map (·, none)
      | _, _ :: _ => .error .misuse

def isOption (arg : String) : Bool :=
  arg != "-" && arg.toList.head? == some '-'

def scanOption (form : Form) (found : Found) (arg : String) : Scan :=
  match arg.toList with
  | '-' :: '-' :: text => scanLong form found text
  | _ :: text => scanShort form found text
  | [] => .error .misuse

/-- Reads arguments; what is left begins with the word that has ended the reading. -/
def scan (form : Form) (found : Found) : List String → Except Stop (Found × List String)
  | [] => .ok (found, [])
  | arg :: rest =>
      if arg == "--" then (rest.foldlM (Found.addWord form) found).map (·, [])
      else if !isOption arg then
        if form.words.isNone then .ok (found, arg :: rest)
        else
          match found.addWord form arg with
          | .ok found => scan form found rest
          | .error stop => .error stop
      else
        match scanOption form found arg with
        | .error stop => .error stop
        | .ok (found, none) => scan form found rest
        | .ok (found, some switch) =>
            match rest with
            | [] => .error .misuse
            | value :: rest =>
                if isOption value then .error .misuse
                else
                  match found.give switch value with
                  | .ok found => scan form found rest
                  | .error stop => .error stop

end Scanning

section Commands

inductive Verb where
  | run
  | worker
  | init
  | namespaces
  | showConfig
  deriving DecidableEq

def Verb.all : List Verb :=
  [.run, .worker, .init, .namespaces, .showConfig]

def Verb.name : Verb → String
  | .run => "run"
  | .worker => "worker"
  | .init => "init"
  | .namespaces => "namespaces"
  | .showConfig => "show-config"

-- What every command knows, and what may stand before it.
def common : List Switch :=
  [⟨'c', "config", .value .path⟩, ⟨'v', "verbose", .flag⟩, ⟨'h', "help", .stop .help⟩]

def topForm : Form :=
  { switches := common ++ [⟨'V', "version", .stop .version⟩], words := none }

def Verb.form (verb : Verb) : Form :=
  let (own, words) : List Switch × Nat := match verb with
    | .run => ([⟨'e', "expr", .value .text⟩], 1)
    | .worker => ([⟨'j', "concurrency", .value .count⟩], 0)
    | .init => ([⟨'o', "output", .value .path⟩, ⟨'f', "force", .flag⟩], 0)
    | .namespaces => ([], 0)
    | .showConfig => ([], 0)
  { switches := common ++ own, words := some words }

def defaultConcurrency : Nat := 4
def defaultOutput : String := "snipbox.toml"

def Verb.command (found : Found) : Verb → Except Stop Command
  | .run =>
      match found.words.head?, found.value? "expr" with
      | some _, some _ => .error .misuse
      | source, code => .ok (.run source code)
  | .worker =>
      .ok (.worker (((found.value? "concurrency").bind count?).getD defaultConcurrency))
  | .init => .ok (.init ((found.value? "output").getD defaultOutput) (found.has "force"))
  | .namespaces => .ok .namespaces
  | .showConfig => .ok .showConfig

def helpName : String := "help"

-- Help is there for all commands, and for itself.
def isHelpTopic (words : List String) : Bool :=
  match words with
  | [] => true
  | [name] => name == helpName || Verb.all.any fun verb => verb.name == name
  | _ => false

/-- Reads the command line. -/
def read (args : List String) : Except Stop Call := do
  match ← scan topForm .nothing args with
  | (_, []) => .error .misuse
  | (top, name :: rest) =>
      if name == helpName then .error (if isHelpTopic rest then .help else .misuse)
      else
        match Verb.all.find? fun verb => verb.name == name with
        | none => .error .misuse
        | some verb =>
            let (found, _) ← scan verb.form .nothing rest
            pure { config := (found.value? "config").or (top.value? "config")
                   verbose := top.has "verbose" || found.has "verbose"
                   command := ← verb.command found }

end Commands
end SnippetRunner.CommandLine
