import Mathlib.Data.List.Forall2
import SnippetRunner.Proofs.PlainDocuments
import SnippetRunner.Settings.Starter

/-!
Settings key by key. Every setting has a key of its own, and is read from the value under that key alone; without one
it is the default. What the sections hold without a key, what an empty section gives, and what the starter file says
are the same defaults.
-/

namespace SnippetRunner.Settings

section Kinds

/-- What a setting is made of. -/
inductive Kind where
  | number
  | text
  | texts
  -- a text that may be absent
  | path
  | flag
  -- a natural number of 32 bits
  | count
  | backend
  | mounts

abbrev Kind.Val : Kind → Type
  | .number => Binary64
  | .text => String
  | .texts => List String
  | .path => Option String
  | .flag => Bool
  | .count => Nat
  | .backend => Backend
  | .mounts => List Box.Mount

/-- The table has a flag under the name, or none where it is not set. -/
def TellsFlag (fields : Fields) (name : String) (flag : Bool) : Prop :=
  fields.get? name = some (.bool flag) ∨ fields.get? name = none ∧ flag = false

/-- The table is that of a mount. -/
structure TellsMount (fields : Fields) (mount : Box.Mount) : Prop where
  source : fields.get? "source" = some (.string mount.source)
  target : fields.get? "target" = some (.string mount.target)
  writable : TellsFlag fields "writable" mount.writable
  optional : TellsFlag fields "optional" mount.optional

/-- A value that is of the kind already, and what it says. -/
inductive Tells : (kind : Kind) → Value → kind.Val → Prop where
  | float (value : Binary64) : Tells .number (.float value) value
  | whole (value : Int) : Tells .number (.integer value) (.ofInt value)
  | text (text : String) : Tells .text (.string text) text
  | texts (texts : List String) : Tells .texts (.array (texts.map .string)) texts
  | path (text : String) : Tells .path (.string text) (some text)
  | flag (value : Bool) : Tells .flag (.bool value) value
  | count (n : Nat) (fits : n < 0x100000000) : Tells .count (.integer n) n
  | backend (backend : Backend) : Tells .backend (.string backend.name) backend
  | mounts {tables : List Fields} {mounts : List Box.Mount} (each : List.Forall₂ TellsMount tables mounts) :
      Tells .mounts (.array (tables.map .table)) mounts

/-- Reads a value as one of the kind, coercions included. -/
def Kind.read : (kind : Kind) → Decode.Place → Except Fault kind.Val
  | .number => Decode.leaf Coerce.float
  | .text => Decode.leaf Coerce.text
  | .texts => Decode.list (Decode.leaf Coerce.text)
  | .path => fun place => Decode.optional (Decode.leaf Coerce.text) (some place)
  | .flag => Decode.leaf Coerce.bool
  | .count => Decode.leaf Coerce.natural32
  | .backend => Decode.backend
  | .mounts => Decode.list Decode.mount

theorem field_table (key : String) (fields : Fields) (index : Nat) (name : String) :
    Decode.field? ⟨key, .table fields⟩ index name =
      (fields.get? name).map fun value => ⟨Decode.child key name, value⟩ :=
  rfl

theorem mapM_itemsFrom {α β : Type} (means : β → α → Prop) (write : β → Value) {read : Decode.Place → Except Fault α}
    (reads : ∀ key item x, means item x → read ⟨key, write item⟩ = .ok x) {items : List β} {values : List α}
    (each : List.Forall₂ means items values) (key : String) (index : Nat) :
    (Decode.itemsFrom key index (items.map write)).mapM read = .ok values := by
  induction each generalizing index with
  | nil => rfl
  | cons here _ ih =>
      rw [List.map_cons, Decode.itemsFrom, List.mapM_cons, reads _ _ _ here, ih]
      rfl

theorem flag_read {fields : Fields} {name : String} {flag : Bool} (tells : TellsFlag fields name flag) (key : String)
    (index : Nat) :
    Decode.orElse false (Decode.leaf Coerce.bool) (Decode.field? ⟨key, .table fields⟩ index name) = .ok flag := by
  rw [field_table]
  rcases tells with there | ⟨absent, rfl⟩
  · rw [there]
    rfl
  · rw [absent]
    rfl

theorem text_required {fields : Fields} {name text : String} (there : fields.get? name = some (.string text))
    (record key : String) (index : Nat) :
    Decode.required record ⟨key, .table fields⟩ index name (Decode.leaf Coerce.text) = .ok text := by
  rw [Decode.required, field_table, there]
  rfl

theorem mount_read {fields : Fields} {mount : Box.Mount} (tells : TellsMount fields mount) (key : String) :
    Decode.mount ⟨key, .table fields⟩ = .ok mount := by
  simp only [Decode.mount, Decode.isRecord, text_required tells.source, text_required tells.target,
    flag_read tells.writable, flag_read tells.optional, bind, Except.bind, pure, Except.pure]

theorem natural32_integer {n : Nat} (fits : n < 0x100000000) : Coerce.natural32 (.integer n) = .ok n := by
  have nonnegative : ¬(n : Int) < 0 := by omega
  rw [Coerce.natural32, Coerce.natural64, if_neg nonnegative]
  exact if_pos fits

/-- A value that is of a kind is read as what it tells. -/
theorem Tells.read {kind : Kind} {value : Value} {x : kind.Val} (tells : Tells kind value x) (key : String) :
    kind.read ⟨key, value⟩ = .ok x := by
  cases tells with
  | float => rfl
  | whole => rfl
  | text => rfl
  | texts texts =>
      refine mapM_itemsFrom Eq .string ?_ ?_ key 0
      · rintro key item x rfl
        rfl
      · exact List.forall₂_eq_eq_eq ▸ rfl
  | path => rfl
  | flag => rfl
  | count n fits => rw [Kind.read, Decode.leaf, natural32_integer fits]
  | backend backend => cases backend <;> rfl
  | mounts each => exact mapM_itemsFrom TellsMount .table (fun key _ _ tells => mount_read tells key) each key 0

end Kinds

section Keys

/-- The keys that settings have. -/
inductive Key where
  | timeout
  | namespaces
  | rustc
  | edition
  | args
  | compileTimeout
  | compileDir
  | backend
  | keeper
  | cgroup
  | cgroupRoot
  | firstBox
  | boxCount
  | mounts
  | contextDir

namespace Key

/-- The section that a key stands in, if it is not a key of the document itself. -/
def section? : Key → Option String
  | .timeout | .namespaces => none
  | .rustc | .edition | .args | .compileTimeout | .compileDir => some "compiler"
  | .backend | .keeper | .cgroup | .cgroupRoot | .firstBox | .boxCount | .mounts | .contextDir => some "sandbox"

def name : Key → String
  | .timeout => "timeout_secs"
  | .namespaces => "namespaces"
  | .rustc => "rustc"
  | .edition => "edition"
  | .args => "args"
  | .compileTimeout => "timeout_secs"
  | .compileDir => "scratch_dir"
  | .backend => "backend"
  | .keeper => "isolate_path"
  | .cgroup => "cgroup"
  | .cgroupRoot => "cg_root"
  | .firstBox => "first_box_id"
  | .boxCount => "box_count"
  | .mounts => "mounts"
  | .contextDir => "scratch_dir"

abbrev kind : Key → Kind
  | .timeout | .compileTimeout => .number
  | .namespaces | .args => .texts
  | .rustc | .edition | .cgroupRoot => .text
  | .compileDir | .keeper | .contextDir => .path
  | .backend => .backend
  | .cgroup => .flag
  | .firstBox | .boxCount => .count
  | .mounts => .mounts

/-- What holds without the key. -/
def default : (key : Key) → key.kind.Val
  | .timeout => Binary64.ofNat 5
  | .namespaces => ["std::collections::*", "std::iter::*", "std::cmp::*", "std::str::*", "std::char::*", "std::fmt",
      "std::io"]
  | .rustc => "rustc"
  | .edition => "2021"
  | .args => ["-C", "opt-level=0", "-C", "debuginfo=0"]
  | .compileTimeout => Binary64.ofNat 30
  | .compileDir => none
  | .backend => Backend.process
  | .keeper => none
  | .cgroup => false
  | .cgroupRoot => "/sys/fs/cgroup/isolate"
  | .firstBox => (0 : Nat)
  | .boxCount => (100 : Nat)
  | .mounts => []
  | .contextDir => none

/-- The setting that a key is for. -/
def of : (key : Key) → Settings → key.kind.Val
  | .timeout, settings => settings.timeoutSecs
  | .namespaces, settings => settings.namespaces
  | .rustc, settings => settings.compiler.binary
  | .edition, settings => settings.compiler.edition
  | .args, settings => settings.compiler.args
  | .compileTimeout, settings => settings.compiler.timeoutSecs
  | .compileDir, settings => settings.compiler.scratchDir
  | .backend, settings => settings.sandbox.backend
  | .keeper, settings => settings.sandbox.isolatePath
  | .cgroup, settings => settings.sandbox.cgroup
  | .cgroupRoot, settings => settings.sandbox.cgroupRoot
  | .firstBox, settings => settings.sandbox.firstBoxId
  | .boxCount, settings => settings.sandbox.boxCount
  | .mounts, settings => settings.sandbox.mounts
  | .contextDir, settings => settings.sandbox.scratchDir

end Key

/-- The fields among which a key is looked for: those of the document, or those of a section, which may be missing. -/
def fieldsIn (root : Value) : Option String → Fields
  | none => fieldsOf root
  | some name => (((fieldsOf root).get? name).map fieldsOf).getD []

/-- The value that a document gives a key. -/
def Key.given (key : Key) (root : Value) : Option Value :=
  (fieldsIn root key.section?).get? key.name

/-- The key as messages write it. -/
def Key.path (key : Key) : String :=
  match key.section? with
  | none => Decode.child "" key.name
  | some name => Decode.child (Decode.child "" name) key.name

/-- Reads the setting of a key alone. -/
def Key.decode (key : Key) (root : Value) : Except Fault key.kind.Val :=
  Decode.orElse key.default key.kind.read ((key.given root).map fun value => ⟨key.path, value⟩)

/-- What a document has in place of a section is a table. -/
def HasSections (root : Value) : Prop :=
  ∀ name ∈ ["compiler", "sandbox"], ∀ value, (fieldsOf root).get? name = some value → ∃ fields, value = .table fields

/-- The document is a table, and so are its sections. -/
structure Sectioned (root : Value) : Prop where
  table : ∃ fields, root = .table fields
  sections : HasSections root

/-- Settings with these values. -/
def ofKeys (values : ∀ key : Key, key.kind.Val) : Settings :=
  { timeoutSecs := values .timeout
    namespaces := values .namespaces
    compiler :=
      { binary := values .rustc, edition := values .edition, args := values .args
        timeoutSecs := values .compileTimeout, scratchDir := values .compileDir }
    sandbox :=
      { backend := values .backend, isolatePath := values .keeper, cgroup := values .cgroup
        cgroupRoot := values .cgroupRoot, firstBoxId := values .firstBox, boxCount := values .boxCount
        mounts := values .mounts, scratchDir := values .contextDir } }

theorem eq_of_keys {left right : Settings} (same : ∀ key : Key, key.of left = key.of right) : left = right :=
  congrArg ofKeys (funext same)

theorem of_ofKeys (values : ∀ key : Key, key.kind.Val) (key : Key) : key.of (ofKeys values) = values key := by
  cases key <;> rfl

section Decoding
variable {root : Value} {settings : Settings}

theorem optional_eq (place : Option Decode.Place) :
    Decode.optional (Decode.leaf Coerce.text) place = Decode.orElse none (Kind.read .path) place := by
  cases place <;> rfl

/-- A section that is missing is read as one without keys. -/
theorem section_read {α : Type} (default : α) (read : Decode.Place → Except Fault α) (sectioned : Sectioned root)
    (name : String) (known : name ∈ ["compiler", "sandbox"]) (index : Nat)
    (empty : read ⟨Decode.child "" name, .table []⟩ = .ok default) :
    Decode.orElse default read (Decode.field? ⟨"", root⟩ index name) =
      read ⟨Decode.child "" name, .table (fieldsIn root (some name))⟩ := by
  obtain ⟨fields, rfl⟩ := sectioned.table
  rw [field_table, fieldsIn, fieldsOf]
  cases there : Fields.get? name fields with
  | none => exact empty.symm
  | some value =>
      obtain ⟨inner, rfl⟩ := sectioned.sections name known value there
      rfl

theorem compiler_read (root : Value) :
    Decode.compiler ⟨Decode.child "" "compiler", .table (fieldsIn root (some "compiler"))⟩ = (do
      let rustc ← Key.decode .rustc root
      let edition ← Key.decode .edition root
      let args ← Key.decode .args root
      let timeout ← Key.decode .compileTimeout root
      let directory ← Key.decode .compileDir root
      pure ⟨rustc, edition, args, timeout, directory⟩) := by
  simp only [Decode.compiler, optional_eq]
  rfl

theorem sandbox_read (root : Value) :
    Decode.sandbox ⟨Decode.child "" "sandbox", .table (fieldsIn root (some "sandbox"))⟩ = (do
      let backend ← Key.decode .backend root
      let keeper ← Key.decode .keeper root
      let cgroup ← Key.decode .cgroup root
      let cgroupRoot ← Key.decode .cgroupRoot root
      let firstBox ← Key.decode .firstBox root
      let boxCount ← Key.decode .boxCount root
      let mounts ← Key.decode .mounts root
      let directory ← Key.decode .contextDir root
      pure ⟨backend, keeper, cgroup, cgroupRoot, firstBox, boxCount, mounts, directory⟩) := by
  simp only [Decode.sandbox, optional_eq]
  rfl

theorem bind_ok_iff {α β : Type} {first : Except Fault α} {next : α → Except Fault β} {b : β} :
    first >>= next = .ok b ↔ ∃ a, first = .ok a ∧ next a = .ok b := by
  cases first <;> simp [bind, Except.bind]

/-- Settings are read if each of them is read from its own key. -/
theorem settings_read_iff (sectioned : Sectioned root) :
    Decode.settings root = .ok settings ↔ ∀ key : Key, key.decode root = .ok (key.of settings) := by
  have whole : Decode.settings root = (do
      let timeout ← Key.decode .timeout root
      let namespaces ← Key.decode .namespaces root
      let compiler ← Decode.compiler ⟨Decode.child "" "compiler", .table (fieldsIn root (some "compiler"))⟩
      let sandbox ← Decode.sandbox ⟨Decode.child "" "sandbox", .table (fieldsIn root (some "sandbox"))⟩
      pure ⟨timeout, namespaces, compiler, sandbox⟩) := by
    have compiler := section_read .defaults Decode.compiler sectioned "compiler" (by decide) 2 rfl
    have sandbox := section_read .defaults Decode.sandbox sectioned "sandbox" (by decide) 3 rfl
    rw [Decode.settings]
    simp only [Settings.defaults, compiler, sandbox]
    obtain ⟨fields, rfl⟩ := sectioned.table
    rfl
  rw [whole, compiler_read, sandbox_read]
  constructor
  · intro read
    simp only [bind_ok_iff, pure, Except.pure, Except.ok.injEq] at read
    obtain ⟨timeout, timeoutRead, namespaces, namespacesRead, read⟩ := read
    obtain ⟨compiler, ⟨rustc, rustcRead, edition, editionRead, args, argsRead, compileTimeout, compileTimeoutRead,
      compileDir, compileDirRead, rfl⟩, read⟩ := read
    obtain ⟨sandbox, ⟨backend, backendRead, keeper, keeperRead, cgroup, cgroupRead, cgroupRoot, cgroupRootRead,
      firstBox, firstBoxRead, boxCount, boxCountRead, mounts, mountsRead, contextDir, contextDirRead, rfl⟩, rfl⟩ := read
    -- for every key there is one equation, that of its own value
    intro key
    cases key <;> assumption
  · intro reads
    have each (key : Key) : key.decode root = .ok (key.of settings) := reads key
    simp only [each, bind, Except.bind, pure, Except.pure]
    rfl

end Decoding
end Keys

section Documents

theorem stepsFrom_begins {done steps : List Step} {text : List Char} (read : KeyPath.stepsFrom done text = some steps) :
    done.reverse <+: steps := by
  fun_induction KeyPath.stepsFrom done text with
  | case1 =>
      cases read
      exact List.prefix_rfl
  | case2 _ _ _ _ _ _ _ ih | case4 _ _ _ _ _ _ _ _ ih =>
      have onward := ih read
      rw [List.reverse_cons] at onward
      exact (List.prefix_append _ _).trans onward
  | _ => cases read

/-- A key path starts with a name, so what a document's keys lead into is a table. -/
theorem ofKey_begins {key : String} {steps : List Step} (path : KeyPath.ofKey? key = some steps) :
    ∃ name more, steps = .name name :: more := by
  rw [KeyPath.ofKey?] at path
  split at path
  · next name _ _ =>
      obtain ⟨more, rfl⟩ := stepsFrom_begins path
      exact ⟨name, more, rfl⟩
  · cases path

theorem place_table (fields : Fields) : ∃ placed, place fields = .table placed := by
  refine List.foldlRecOn (motive := fun root => ∃ placed, root = Value.table placed) fields _ ⟨[], rfl⟩
    fun root _ field _ => ?_
  obtain ⟨name, more, steps⟩ : ∃ name more, (KeyPath.ofKey? field.1).getD [.name field.1] = Step.name name :: more := by
    cases path : KeyPath.ofKey? field.1 with
    | none => exact ⟨field.1, [], rfl⟩
    | some steps => exact ofKey_begins path
  dsimp only
  rw [steps]
  exact ⟨_, rfl⟩

/-- The sections of a document are tables, and what it gives a key can be read as what the setting is made of. -/
structure Readable (root : Value) : Prop where
  sections : HasSections root
  values : ∀ (key : Key) (value : Value), key.given root = some value → ∃ x, key.kind.read ⟨key.path, value⟩ = .ok x

/-- A document does without a section, or leaves it empty. -/
def IsBare (root : Value) (name : String) : Prop :=
  (fieldsOf root).get? name = none ∨ (fieldsOf root).get? name = some (.table [])

/-- Settings that follow a document, each of them by its own key. -/
structure Follows (settings : Settings) (root : Value) : Prop where
  absent : ∀ key : Key, key.given root = none → key.of settings = key.default
  given : ∀ (key : Key) (value : Value), key.given root = some value →
    key.kind.read ⟨key.path, value⟩ = .ok (key.of settings)
  told : ∀ (key : Key) (value : Value) (x : key.kind.Val), key.given root = some value → Tells key.kind value x →
    key.of settings = x
  compiler : IsBare root "compiler" → settings.compiler = .defaults
  sandbox : IsBare root "sandbox" → settings.sandbox = .defaults

variable {root : Value} {settings : Settings}

theorem given_of_bare {key : Key} {name : String} (bare : IsBare root name) (inside : key.section? = some name) :
    key.given root = none := by
  rw [Key.given, inside, fieldsIn]
  rcases bare with missing | empty
  · rw [missing]
    rfl
  · rw [empty]
    rfl

theorem compiler_eq_defaults (each : ∀ key : Key, key.section? = some "compiler" → key.of settings = key.default) :
    settings.compiler = .defaults := by
  have parts : settings.compiler = (ofKeys fun key => key.of settings).compiler := rfl
  rw [parts, ofKeys, each .rustc rfl, each .edition rfl, each .args rfl, each .compileTimeout rfl,
    each .compileDir rfl]
  rfl

theorem sandbox_eq_defaults (each : ∀ key : Key, key.section? = some "sandbox" → key.of settings = key.default) :
    settings.sandbox = .defaults := by
  have parts : settings.sandbox = (ofKeys fun key => key.of settings).sandbox := rfl
  rw [parts, ofKeys, each .backend rfl, each .keeper rfl, each .cgroup rfl, each .cgroupRoot rfl, each .firstBox rfl,
    each .boxCount rfl, each .mounts rfl, each .contextDir rfl]
  rfl

theorem decode_absent {key : Key} (absent : key.given root = none) : key.decode root = .ok key.default := by
  rw [Key.decode, absent]
  rfl

theorem decode_given {key : Key} {value : Value} (given : key.given root = some value) :
    key.decode root = key.kind.read ⟨key.path, value⟩ := by
  rw [Key.decode, given]
  rfl

theorem follows_of_decode (decoded : ∀ key : Key, key.decode root = .ok (key.of settings)) : Follows settings root := by
  have absent (key : Key) (none : key.given root = none) : key.of settings = key.default :=
    Except.ok.inj ((decoded key).symm.trans (decode_absent none))
  have given (key : Key) (value : Value) (there : key.given root = some value) :
      key.kind.read ⟨key.path, value⟩ = .ok (key.of settings) :=
    (decode_given there).symm.trans (decoded key)
  refine ⟨absent, given, fun key value x there tells => ?_, fun bare => ?_, fun bare => ?_⟩
  · exact Except.ok.inj ((given key value there).symm.trans (tells.read key.path))
  · exact compiler_eq_defaults fun key inside => absent key (given_of_bare bare inside)
  · exact sandbox_eq_defaults fun key inside => absent key (given_of_bare bare inside)

/-- Values that are of the kinds of their keys already can be read. -/
theorem readable_of_told (sections : HasSections root)
    (told : ∀ (key : Key) (value : Value), key.given root = some value → ∃ x, Tells key.kind value x) :
    Readable root where
  sections := sections
  values key value there := by
    obtain ⟨x, tells⟩ := told key value there
    exact ⟨x, tells.read key.path⟩

theorem Readable.decode (readable : Readable root) (key : Key) : ∃ x, key.decode root = .ok x := by
  cases there : key.given root with
  | none => exact ⟨_, decode_absent there⟩
  | some value =>
      obtain ⟨x, read⟩ := readable.values key value there
      exact ⟨x, (decode_given there).trans read⟩

/-- Settings are the same where documents give their keys the same, whatever else is in these. -/
theorem Follows.same {other : Value} {others : Settings} (follows : Follows settings root)
    (follow : Follows others other) {key : Key} (same : key.given root = key.given other) :
    key.of settings = key.of others := by
  cases there : key.given root with
  | none => exact (follows.absent key there).trans (follow.absent key (same ▸ there)).symm
  | some value =>
      exact Except.ok.inj ((follows.given key value there).symm.trans (follow.given key value (same ▸ there)))

-- The letters are put together line by line, so that no text of the whole file has to be taken apart.
theorem starter_letters : starterText.toList = starterLines.flatMap fun line => line.toList ++ ['\n'] := by
  rw [starterText, String.toList_join, List.flatMap_map]
  simp

theorem starter_read : readToml starterText = .ok Settings.defaults := by
  rw [readToml, starter_letters]
  decide +kernel

/-- A document is read into the settings that follow it key by key, unless the check refuses them. The default of a key,
what a section holds without the key, and what the starter file and an empty document are read into, are the same. -/
theorem settings_follow_keys (text : String) (fields : Fields) (read : Toml.read? text.toList = some fields)
    (readable : Readable (place fields)) :
    (∃ settings, Follows settings (place fields) ∧
      (settings.check = .ok () → readToml text = .ok settings) ∧
      ∀ cause, settings.check = .error cause → readToml text = .error (.invalid cause)) ∧
    ((∀ field ∈ fields, IsPlain field.1) → place fields = .table fields) ∧
    (∀ key : Key, key.of Settings.defaults = key.default) ∧
    readToml starterText = .ok Settings.defaults ∧ readToml "" = .ok Settings.defaults := by
  refine ⟨?_, place_read read, fun key => by cases key <;> rfl, starter_read, by decide +kernel⟩
  choose values decoded using readable.decode
  have decodes (key : Key) : key.decode (place fields) = .ok (key.of (ofKeys values)) := by
    rw [of_ofKeys]
    exact decoded key
  have whole := (settings_read_iff ⟨place_table fields, readable.sections⟩).mpr decodes
  refine ⟨ofKeys values, follows_of_decode decodes, fun accepted => ?_, fun cause refused => ?_⟩
  · rw [readToml, Settings.read, fields?, read]
    simp only [whole, accepted]
  · rw [readToml, Settings.read, fields?, read]
    simp only [whole, refused]

-- Two lines say the edition, and nothing else.
def editionText : String := "[compiler]\nedition = \"2018\"\n"

def editionFields : Fields := [("compiler", .table [("edition", .string "2018")])]

def editionSettings : Settings :=
  { Settings.defaults with compiler := { CompilerSettings.defaults with edition := "2018" } }

theorem edition_document_follows_keys :
    Toml.read? editionText.toList = some editionFields ∧ Readable (place editionFields) ∧
      readToml editionText = .ok editionSettings := by
  have read : Toml.read? editionText.toList = some editionFields := by
    have letters : Toml.withoutByteOrderMark editionText.toList = editionText.toList := by cbv
    rw [Toml.read?, letters, Toml.documentFrom_line (by cbv) (by cbv) rfl, Toml.documentFrom_line (by cbv) (by cbv) rfl,
      Toml.documentFrom_end (by cbv)]
    rfl
  have placed : place editionFields = .table editionFields := by
    refine place_read read (List.forall_mem_singleton.mpr (.inr ?_))
    decide +kernel
  have readable : Readable (place editionFields) := by
    rw [placed]
    refine readable_of_told (fun name known value there => ?_) fun key value there => ?_
    · simp only [List.mem_cons, List.not_mem_nil, or_false] at known
      rcases known with rfl | rfl
      · cases there
        exact ⟨_, rfl⟩
      · cases there
    · cases key with
      | edition =>
          cases there
          exact ⟨"2018", .text "2018"⟩
      | _ => cases there
  obtain ⟨⟨settings, follows, accepted, -⟩, -⟩ := settings_follow_keys editionText editionFields read readable
  have same : settings = editionSettings := eq_of_keys fun key => by
    rw [placed] at follows
    cases key with
    | edition => exact follows.told .edition _ _ rfl (.text "2018")
    | _ => exact follows.absent _ rfl
  subst same
  exact ⟨read, readable, accepted (by decide +kernel)⟩

end Documents

end SnippetRunner.Settings
