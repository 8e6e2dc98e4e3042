import SnippetRunner.Settings.Basic
import SnippetRunner.Settings.Coerce
import SnippetRunner.Settings.KeyPath

/-!
Settings from a document's value. A record is a table with named fields or a list of them in order; names
that are not known are passed over, and a fault says at which key it is.
-/

namespace SnippetRunner.Settings

inductive Fault where
  | misfit (cause : Misfit) (key : String)
  | missing (key : String)
  deriving DecidableEq

/-- What is wrong, in a document that may have a name. -/
def Fault.reason (document : Option String) : Fault → String
  | .misfit cause key =>
      let place := match document with
        | some name => if cause.knowsDocument then " in " ++ name else ""
        | none => ""
      s!"{cause.message} for key `{key}`" ++ place
  | .missing key => s!"missing configuration field \"{key}\""

def notParsed (reason : String) : String :=
  "failed to parse config: " ++ reason

def Fault.message (fault : Fault) : String :=
  notParsed (fault.reason none)

namespace Decode

/-- A value with the key that leads to it. -/
structure Place where
  key : String
  value : Value

-- No dot follows a closing bracket.
def child (key name : String) : String :=
  if key.isEmpty then name
  else if key.toList.getLast? == some ']' then key ++ name
  else key ++ "." ++ name

def itemKey (key : String) (index : Nat) : String :=
  s!"{key}[{index}]"

def leaf {α : Type} (read : Value → Except Misfit α) (place : Place) : Except Fault α :=
  match read place.value with
  | .ok value => .ok value
  | .error cause => .error (.misfit cause place.key)

def orElse {α : Type} (default : α) (read : Place → Except Fault α) :
    Option Place → Except Fault α
  | none => .ok default
  | some place => read place

/-- Null where a setting may be absent says that it is. -/
def optional {α : Type} (read : Place → Except Fault α) : Option Place → Except Fault (Option α)
  | none => .ok none
  | some place =>
      match place.value with
      | .null => .ok none
      | _ => (read place).map some

def itemsFrom (key : String) (index : Nat) : List Value → List Place
  | [] => []
  | value :: rest => ⟨itemKey key index, value⟩ :: itemsFrom key (index + 1) rest

def list {α : Type} (read : Place → Except Fault α) (place : Place) : Except Fault (List α) :=
  match place.value with
  | .array items => (itemsFrom place.key 0 items).mapM read
  | value => .error (.misfit (.unsuited (Coerce.partsFound value) "a sequence") place.key)

/-- How a record's fields are found: by name, or by their order. -/
def field? (place : Place) (index : Nat) (name : String) : Option Place :=
  match place.value with
  | .table fields => (Fields.get? name fields).map fun value => ⟨child place.key name, value⟩
  | .array items => items[index]?.map fun value => ⟨itemKey place.key index, value⟩
  | _ => none

def isRecord (name : String) (place : Place) : Except Fault Unit :=
  match place.value with
  | .table _ => .ok ()
  | .array _ => .ok ()
  | value => .error (.misfit (.unsuited (Coerce.partsFound value) ("struct " ++ name)) place.key)

-- A field that has no default.
def required {α : Type} (record : String) (place : Place) (index : Nat) (name : String)
    (read : Place → Except Fault α) : Except Fault α :=
  match field? place index name with
  | some found => read found
  | none =>
      match place.value with
      | .table _ => .error (.missing (child place.key name))
      | _ => .error (.misfit (.length index record) place.key)

def backend (place : Place) : Except Fault Backend :=
  let named (name : String) : Except Fault Backend :=
    match [Backend.process, .isolate].find? fun backend => backend.name == name with
    | some backend => .ok backend
    | none => .error (.misfit (.noVariant "Backend" name) place.key)
  match place.value with
  | .string name => named name
  | .table [(name, _)] => named name
  | _ => .error (.misfit (.notOneName "Backend") place.key)

def mount (place : Place) : Except Fault Box.Mount := do
  isRecord "MountConfig" place
  let record := "struct MountConfig with 4 elements"
  let source ← required record place 0 "source" (leaf Coerce.text)
  let target ← required record place 1 "target" (leaf Coerce.text)
  let writable ← orElse false (leaf Coerce.bool) (field? place 2 "writable")
  let optional ← orElse false (leaf Coerce.bool) (field? place 3 "optional")
  pure ⟨source, target, writable, optional⟩

def compiler (place : Place) : Except Fault CompilerSettings := do
  isRecord "CompilerConfig" place
  let base := CompilerSettings.defaults
  let binary ← orElse base.binary (leaf Coerce.text) (field? place 0 "rustc")
  let edition ← orElse base.edition (leaf Coerce.text) (field? place 1 "edition")
  let args ← orElse base.args (list (leaf Coerce.text)) (field? place 2 "args")
  let timeoutSecs ← orElse base.timeoutSecs (leaf Coerce.float) (field? place 3 "timeout_secs")
  let scratchDir ← optional (leaf Coerce.text) (field? place 4 "scratch_dir")
  pure ⟨binary, edition, args, timeoutSecs, scratchDir⟩

def sandbox (place : Place) : Except Fault SandboxSettings := do
  isRecord "SandboxConfig" place
  let base := SandboxSettings.defaults
  let backend ← orElse base.backend backend (field? place 0 "backend")
  let isolatePath ← optional (leaf Coerce.text) (field? place 1 "isolate_path")
  let cgroup ← orElse false (leaf Coerce.bool) (field? place 2 "cgroup")
  let cgroupRoot ← orElse base.cgroupRoot (leaf Coerce.text) (field? place 3 "cg_root")
  let firstBoxId ← orElse 0 (leaf Coerce.natural32) (field? place 4 "first_box_id")
  let boxCount ← orElse base.boxCount (leaf Coerce.natural32) (field? place 5 "box_count")
  let mounts ← orElse [] (list mount) (field? place 6 "mounts")
  let scratchDir ← optional (leaf Coerce.text) (field? place 7 "scratch_dir")
  pure ⟨backend, isolatePath, cgroup, cgroupRoot, firstBoxId, boxCount, mounts, scratchDir⟩

/-- The settings that a document says; what it does not say has its default. -/
def settings (root : Value) : Except Fault Settings := do
  let place : Place := ⟨"", root⟩
  let base := Settings.defaults
  let timeoutSecs ← orElse base.timeoutSecs (leaf Coerce.float) (field? place 0 "timeout_secs")
  let namespaces ← orElse base.namespaces (list (leaf Coerce.text)) (field? place 1 "namespaces")
  let compiler ← orElse base.compiler compiler (field? place 2 "compiler")
  let sandbox ← orElse base.sandbox sandbox (field? place 3 "sandbox")
  pure ⟨timeoutSecs, namespaces, compiler, sandbox⟩

end Decode
end SnippetRunner.Settings
