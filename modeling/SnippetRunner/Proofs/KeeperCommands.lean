import Mathlib.Data.List.Basic
import Mathlib.Data.List.Induction
import SnippetRunner.Box.Command

/-!
Command lines of the box keeper, read off the settings they are made from. Of a setting that has one value the
last counts, mounts are taken together in their order, and nothing else of the settings is seen. What a run is
told comes before the separator, in options that cannot be mistaken for it; what comes after it is the program
with its arguments as they were given.
-/

namespace SnippetRunner.Box

namespace Command

namespace Setting

/-- What a setting is of. -/
inductive Kind where
  | action
  | wallTime
  | processes
  | mounts
  | account
  | stdout
  | stderr
  | directory
  | words
  | cgroup
  deriving DecidableEq

abbrev Kind.Value : Kind → Type
  | .action => Action
  | .wallTime => Binary64
  | .processes => Nat
  | .mounts => List Mount
  | .account => String
  | .stdout => String
  | .stderr => String
  | .directory => String
  | .words => List String
  | .cgroup => Bool

def kind : Setting → Kind
  | .action _ => .action
  | .wallTime _ => .wallTime
  | .processes _ => .processes
  | .mounts _ => .mounts
  | .account _ => .account
  | .stdout _ => .stdout
  | .stderr _ => .stderr
  | .directory _ => .directory
  | .words _ => .words
  | .cgroup _ => .cgroup

/-- The value of a setting, if it is of this kind. -/
def value? : (kind : Kind) → Setting → Option kind.Value
  | .action, .action value => some value
  | .wallTime, .wallTime value => some value
  | .processes, .processes value => some value
  | .mounts, .mounts value => some value
  | .account, .account value => some value
  | .stdout, .stdout value => some value
  | .stderr, .stderr value => some value
  | .directory, .directory value => some value
  | .words, .words value => some value
  | .cgroup, .cgroup value => some value
  | _, _ => none

theorem value?_other (sought : Kind) (setting : Setting) (other : setting.kind ≠ sought) :
    value? sought setting = none := by
  cases setting <;> cases sought <;> simp_all [kind, value?]

end Setting

section Settings
open Setting

/-- The values given for a kind, in their order. -/
def given (kind : Kind) (settings : List Setting) : List kind.Value :=
  settings.filterMap (value? kind)

def last? (kind : Kind) (settings : List Setting) : Option kind.Value :=
  (given kind settings).getLast?

def mountsOf (settings : List Setting) : List Mount :=
  (given .mounts settings).flatten

/-- The settings end with the same values, and have the same mounts. -/
structure Alike (first second : List Setting) : Prop where
  last : ∀ kind, kind ≠ .mounts → last? kind first = last? kind second
  mounts : mountsOf first = mountsOf second

theorem ofSettings_concat (keeper : String) (id : Nat) (settings : List Setting) (setting : Setting) :
    ofSettings keeper id (settings ++ [setting]) = (ofSettings keeper id settings).set setting := by
  rw [ofSettings, List.foldl_append]
  rfl

theorem last?_concat (kind : Kind) (settings : List Setting) (setting : Setting) :
    last? kind (settings ++ [setting]) = (value? kind setting).or (last? kind settings) := by
  cases found : value? kind setting <;> simp [last?, given, found]

theorem mountsOf_concat (settings : List Setting) (setting : Setting) :
    mountsOf (settings ++ [setting]) = mountsOf settings ++ (value? .mounts setting).getD [] := by
  cases found : value? .mounts setting <;> simp [mountsOf, given, found]

/-- A command has the last value of each setting and all mounts. -/
theorem ofSettings_eq (keeper : String) (id : Nat) (settings : List Setting) :
    ofSettings keeper id settings =
      { keeper, id
        action := (last? .action settings).getD .run
        wallTime := last? .wallTime settings
        processes := last? .processes settings
        mounts := mountsOf settings
        account := last? .account settings
        stdout := last? .stdout settings
        stderr := last? .stderr settings
        directory := last? .directory settings
        words := (last? .words settings).getD []
        cgroup := (last? .cgroup settings).getD false } := by
  induction settings using List.reverseRecOn with
  | nil => rfl
  | append_singleton settings setting ih =>
      rw [ofSettings_concat, ih]
      simp only [last?_concat, mountsOf_concat]
      cases setting <;> simp [set, value?]

theorem ofSettings_alike {first second : List Setting} (alike : Alike first second) (keeper : String) (id : Nat) :
    ofSettings keeper id first = ofSettings keeper id second := by
  have last (kind : Kind) (single : kind ≠ .mounts) := alike.last kind single
  rw [ofSettings_eq, ofSettings_eq, alike.mounts, last .action nofun, last .wallTime nofun, last .processes nofun,
    last .account nofun, last .stdout nofun, last .stderr nofun, last .directory nofun, last .words nofun,
    last .cgroup nofun]

theorem given_swap (kind : Kind) (front rest : List Setting) {one other : Setting} (apart : one.kind ≠ other.kind) :
    given kind (front ++ one :: other :: rest) = given kind (front ++ other :: one :: rest) := by
  simp only [given, List.filterMap_append, List.filterMap_cons]
  by_cases same : one.kind = kind
  · rw [value?_other kind other fun here => apart (same.trans here.symm)]
  · rw [value?_other kind one same]

/-- Settings of different kinds can change places. -/
theorem alike_swap (front rest : List Setting) {one other : Setting} (apart : one.kind ≠ other.kind) :
    Alike (front ++ one :: other :: rest) (front ++ other :: one :: rest) where
  last kind _ := by rw [last?, last?, given_swap kind front rest apart]
  mounts := by rw [mountsOf, mountsOf, given_swap .mounts front rest apart]

end Settings

section Options
variable (isThere : String → Bool) (command : Command)

/-- An option that mounts a directory. -/
def isMounting (option : String) : Bool :=
  "--dir=".toList.isPrefixOf option.toList

theorem isMounting_append (name text : String) (long : 6 ≤ name.toList.length) :
    isMounting (name ++ text) = isMounting name := by
  rw [isMounting, isMounting, String.toList_append, Bool.eq_iff_iff, List.isPrefixOf_iff_prefix,
    List.isPrefixOf_iff_prefix]
  constructor
  · intro starts
    exact List.prefix_of_prefix_length_le starts (List.prefix_append ..) long
  · intro starts
    exact starts.trans (List.prefix_append ..)

/-- What has a name of its own is not the separator. -/
theorem append_ne_separator (name text : String) (long : 2 < name.toList.length) : name ++ text ≠ "--" := by
  intro same
  have lengths := congrArg (fun option => option.toList.length) same
  simp at lengths
  omega

theorem filter_optionOf (name : String) (value : Option String) (long : 6 ≤ name.toList.length)
    (other : isMounting name = false) : (optionOf name value).filter isMounting = [] := by
  cases value with
  | none => rfl
  | some text => simp [optionOf, isMounting_append name text long, other]

theorem option_eq (mount : Mount) : ∃ text, mount.option = "--dir=" ++ text :=
  ⟨_, by simp only [Mount.option, String.append_assoc]; rfl⟩

/-- Only mounts are written as options that mount. -/
theorem runOptions_mounting : (command.runOptions isThere).filter isMounting =
    (command.mounts.filter (Mount.isShown isThere)).map Mount.option := by
  have mounting : ∀ option ∈ (command.mounts.filter (Mount.isShown isThere)).map Mount.option,
      isMounting option = true := by
    intro option member
    obtain ⟨mount, _, rfl⟩ := List.mem_map.mp member
    obtain ⟨text, written⟩ := option_eq mount
    rw [written, isMounting_append _ _ (by decide)]
    decide
  simp only [runOptions, List.filter_append, List.filter_eq_self.mpr mounting]
  rw [filter_optionOf "--wall-time=" _ (by decide) (by decide),
    filter_optionOf "--processes=" _ (by decide) (by decide), filter_optionOf "--meta=" _ (by decide) (by decide),
    filter_optionOf "--stdout=" _ (by decide) (by decide), filter_optionOf "--stderr=" _ (by decide) (by decide),
    filter_optionOf "--chdir=" _ (by decide) (by decide)]
  simp

theorem separator_not_optionOf (name : String) (value : Option String) (long : 2 < name.toList.length) :
    "--" ∉ optionOf name value := by
  cases value with
  | none => exact List.not_mem_nil
  | some text => simpa [optionOf] using (append_ne_separator name text long).symm

/-- No option is the separator, whatever texts the options hold. -/
theorem separator_not_runOptions : "--" ∉ command.runOptions isThere := by
  have mounts : "--" ∉ (command.mounts.filter (Mount.isShown isThere)).map Mount.option := by
    intro member
    obtain ⟨mount, _, same⟩ := List.mem_map.mp member
    obtain ⟨text, written⟩ := option_eq mount
    exact append_ne_separator "--dir=" text (by decide) (written.symm.trans same)
  simp only [runOptions, List.mem_append, not_or]
  refine ⟨⟨⟨⟨⟨⟨?_, ?_⟩, mounts⟩, ?_⟩, ?_⟩, ?_⟩, ?_⟩ <;> exact separator_not_optionOf _ _ (by decide)

/-- What a command line has before its action: the number of the box and the use of control groups. -/
def opening (id : Nat) (cgroup : Bool) : List String :=
  s!"--box-id={id}" :: if cgroup then ["--cg"] else []

theorem line_setup (sets : command.action = .setup) :
    command.line isThere = command.keeper :: opening command.id command.cgroup ++ ["--init"] := by
  simp only [line, arguments, sets, opening, List.cons_append]

theorem line_cleanup (cleans : command.action = .cleanup) :
    command.line isThere = command.keeper :: opening command.id command.cgroup ++ ["--cleanup"] := by
  simp only [line, arguments, cleans, opening, List.cons_append]

/-- All that a command line of a run has before the separator, without the keeper. -/
def options : List String :=
  opening command.id command.cgroup ++ "--run" :: command.runOptions isThere

theorem line_run (runs : command.action = .run) :
    command.line isThere = command.keeper :: command.options isThere ++ "--" :: command.words := by
  simp only [line, arguments, runs, options, opening, List.append_assoc, List.cons_append, List.nil_append]

theorem opening_eq (id : Nat) (cgroup : Bool) :
    ∃ text, opening id cgroup = ("--box-id=" ++ text) :: if cgroup then ["--cg"] else [] :=
  ⟨_, rfl⟩

theorem separator_not_options : "--" ∉ command.options isThere := by
  obtain ⟨text, opens⟩ := opening_eq command.id command.cgroup
  have opened : "--" ∉ opening command.id command.cgroup := by
    rw [opens, List.mem_cons, not_or]
    refine ⟨(append_ne_separator "--box-id=" text (by decide)).symm, ?_⟩
    cases command.cgroup <;> decide
  rw [options, List.mem_append, List.mem_cons, not_or, not_or]
  exact ⟨opened, by decide, separator_not_runOptions isThere command⟩

theorem options_mounting : (command.options isThere).filter isMounting =
    (command.mounts.filter (Mount.isShown isThere)).map Mount.option := by
  obtain ⟨text, opens⟩ := opening_eq command.id command.cgroup
  have opened : (opening command.id command.cgroup).filter isMounting = [] := by
    have box : isMounting ("--box-id=" ++ text) = false := by
      rw [isMounting_append _ _ (by decide)]
      decide
    rw [opens, List.filter_cons_of_neg (by simp [box])]
    cases command.cgroup <;> decide
  have runs : ¬isMounting "--run" = true := by decide
  rw [options, List.filter_append, List.filter_cons_of_neg runs, opened, runOptions_mounting]
  rfl

end Options
end Command

namespace Mount
variable {isThere : String → Bool} {mounts : List Mount}

theorem checkAll_ok_iff : checkAll isThere mounts = .ok () ↔
    ∀ mount ∈ mounts, mount.optional = false → isThere mount.source = true := by
  unfold checkAll
  cases missing : mounts.find? fun mount => !mount.optional && !isThere mount.source with
  | some mount =>
      have found := List.find?_some missing
      simp only [Bool.and_eq_true, Bool.not_eq_true'] at found
      refine ⟨nofun, fun there => ?_⟩
      rw [there mount (List.mem_of_find?_eq_some missing) found.1] at found
      cases found.2
  | none =>
      refine ⟨fun _ mount member required => ?_, fun _ => rfl⟩
      have kept := List.find?_eq_none.mp missing mount member
      simpa [required] using kept

/-- When the mounts were accepted, those that are shown are the ones whose source is there. -/
theorem filter_isShown (accepted : checkAll isThere mounts = .ok ()) :
    mounts.filter (isShown isThere) = mounts.filter fun mount => isThere mount.source := by
  refine List.filter_congr fun mount member => ?_
  have there := checkAll_ok_iff.mp accepted mount member
  cases optional : mount.optional with
  | true => simp [isShown, optional]
  | false => simp [isShown, optional, there optional]

end Mount

namespace Command
open Setting

/-- Settings that end with the same values and have the same mounts give one command line, so settings of different
kinds can change places. A command that sets a box up or cleans it up has the box, the use of control groups and its
own word alone. One that runs a program has the last words after the first separator, and before it, once the mounts
were accepted, an option for each mount whose source is there. -/
theorem line_follows_settings (isThere : String → Bool) (keeper : String) (id : Nat) (settings : List Setting) :
    let line (settings : List Setting) := (ofSettings keeper id settings).line isThere
    let action := (last? .action settings).getD .run
    let first := s!"--box-id={id}" :: if (last? .cgroup settings).getD false then ["--cg"] else []
    (∀ other, Alike settings other → line other = line settings) ∧
      (∀ front rest one next, settings = front ++ one :: next :: rest → one.kind ≠ next.kind →
        line (front ++ next :: one :: rest) = line settings) ∧
      (action = .setup → line settings = keeper :: first ++ ["--init"]) ∧
      (action = .cleanup → line settings = keeper :: first ++ ["--cleanup"]) ∧
      (action = .run → ∃ more,
        let before := first ++ "--run" :: more
        line settings = keeper :: before ++ "--" :: (last? .words settings).getD [] ∧ "--" ∉ before ∧
          (Mount.checkAll isThere (mountsOf settings) = .ok () →
            before.filter isMounting = ((mountsOf settings).filter fun mount => isThere mount.source).map fun mount =>
              "--dir=" ++ mount.target ++ "=" ++ mount.source ++
                (if mount.writable then ":rw" else "") ++ (if mount.optional then ":maybe" else ""))) := by
  dsimp only
  have whole := ofSettings_eq keeper id settings
  refine ⟨?_, ?_, ?_, ?_, ?_⟩
  · intro other alike
    rw [ofSettings_alike alike]
  · rintro front rest one next rfl apart
    rw [ofSettings_alike (alike_swap front rest apart)]
  · intro sets
    rw [whole]
    exact line_setup isThere _ sets
  · intro cleans
    rw [whole]
    exact line_cleanup isThere _ cleans
  · intro runs
    have written := line_run isThere (ofSettings keeper id settings) ((congrArg Command.action whole).trans runs)
    have alone := separator_not_options isThere (ofSettings keeper id settings)
    have mounting := options_mounting isThere (ofSettings keeper id settings)
    rw [congrArg Command.keeper whole, congrArg Command.words whole] at written
    rw [congrArg Command.mounts whole] at mounting
    rw [options, congrArg Command.id whole, congrArg Command.cgroup whole] at written alone mounting
    refine ⟨_, written, alone, fun accepted => ?_⟩
    rw [← Mount.filter_isShown accepted]
    exact mounting

theorem line_of_masked_words :
    let isThere (path : String) : Bool := path == "/srv"
    let settings : List Setting :=
      [.words ["first"], .mounts [⟨"/srv", "--", true, false⟩], .directory "--", .cgroup true,
        .mounts [⟨"/none", "/opt", false, true⟩], .words ["--", "/box/program"]]
    let line (settings : List Setting) := (ofSettings "isolate" 7 settings).line isThere
    (∃ before, line settings = "isolate" :: before ++ "--" :: ["--", "/box/program"] ∧
      ["--box-id=7", "--cg", "--run"] <+: before ∧ "--" ∉ before ∧ before.filter isMounting = ["--dir=--=/srv:rw"]) ∧
      line (settings ++ [.action .setup]) = ["isolate", "--box-id=7", "--cg", "--init"] ∧
      line (settings ++ [.cgroup false, .action .cleanup]) = ["isolate", "--box-id=7", "--cleanup"] := by
  intro isThere settings line
  have accepted : Mount.checkAll isThere (mountsOf settings) = .ok () := by decide
  obtain ⟨_, _, _, _, runs⟩ := line_follows_settings isThere "isolate" 7 settings
  obtain ⟨_, _, sets, _, _⟩ := line_follows_settings isThere "isolate" 7 (settings ++ [.action .setup])
  obtain ⟨_, _, _, cleans, _⟩ :=
    line_follows_settings isThere "isolate" 7 (settings ++ [.cgroup false, .action .cleanup])
  obtain ⟨more, written, alone, mounting⟩ := runs rfl
  exact ⟨⟨_, written, ⟨more, rfl⟩, alone, mounting accepted⟩, sets rfl, cleans rfl⟩

end Command
end SnippetRunner.Box
