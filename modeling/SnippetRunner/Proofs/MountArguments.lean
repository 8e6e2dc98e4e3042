import SnippetRunner.Files.Tree
import SnippetRunner.Proofs.KeeperCommands

/-!
What an argument says of the mount it is written from. Target, source and marks are put together as they are, and
an equals sign or a mark is also what a name can hold; so two mounts can have one argument. Which they are is told
by the sources that are there: one is another with marks at its end, or is so after an equals sign.
-/

namespace SnippetRunner.Box.Mount

section Marks

/-- What stands behind the source of a mount. -/
def ending (writable optional : Bool) : String :=
  (if writable then ":rw" else "") ++ (if optional then ":maybe" else "")

theorem option_letters (mount : Mount) : mount.option.toList =
    "--dir=".toList ++ (mount.target.toList ++
      '=' :: (mount.source.toList ++ (ending mount.writable mount.optional).toList)) := by
  simp [option, ending]

theorem ending_injective (writable optional writable' optional' : Bool)
    (same : ending writable optional = ending writable' optional') : writable = writable' ∧ optional = optional' := by
  revert writable optional writable' optional'
  decide

theorem equals_not_ending (writable optional : Bool) : '=' ∉ (ending writable optional).toList := by
  revert writable optional
  decide

/-- One text is the other with marks at its end. -/
def Resembles (one other : String) : Prop :=
  ∃ writable optional, one = other ++ ending writable optional ∨ other = one ++ ending writable optional

-- What is left of marks when marks are taken from their end is marks.
theorem ending_of_append (writable optional writable' optional' : Bool) (front : List Char)
    (parts : (ending writable optional).toList = front ++ (ending writable' optional').toList) :
    ∃ writable optional, front = (ending writable optional).toList := by
  have front_eq : front = (ending writable optional).toList.take
      ((ending writable optional).toList.length - (ending writable' optional').toList.length) := by
    rw [parts]
    simp
  rw [front_eq] at parts ⊢
  clear front_eq
  revert writable optional writable' optional'
  decide

theorem resembles_of_append (one other : String) (writable optional writable' optional' : Bool)
    (same : one.toList ++ (ending writable optional).toList = other.toList ++ (ending writable' optional').toList) :
    Resembles one other := by
  rcases List.append_eq_append_iff.mp same with ⟨more, longer, marks⟩ | ⟨more, longer, marks⟩
  · obtain ⟨writable, optional, shape⟩ := ending_of_append _ _ _ _ more marks
    exact ⟨writable, optional, .inr (String.toList_inj.mp (by simp [longer, shape]))⟩
  · obtain ⟨writable, optional, shape⟩ := ending_of_append _ _ _ _ more marks
    exact ⟨writable, optional, .inl (String.toList_inj.mp (by simp [longer, shape]))⟩

end Marks

section Sources
variable {isThere : String → Bool} {one other : Mount}

/-- No source that is there is another one with marks, nor is it so behind an equals sign in it. -/
structure Clear (isThere : String → Bool) : Prop where
  unmarked : ∀ source other, isThere source = true → isThere other = true → Resembles source other → source = other
  undivided : ∀ source other, isThere source = true → isThere other = true →
    ∀ front back, source = front ++ "=" ++ back → ¬Resembles back other

/-- Both mounts are written: they were accepted, and neither is left out. -/
def Written (isThere : String → Bool) (one other : Mount) : Prop :=
  checkAll isThere [one, other] = .ok () ∧ one.isShown isThere = true ∧ other.isShown isThere = true

theorem written_iff : Written isThere one other ↔ isThere one.source = true ∧ isThere other.source = true := by
  simp only [Written, checkAll_ok_iff, List.forall_mem_cons, isShown]
  cases one.optional <;> cases other.optional <;> simp +contextual [and_comm]

theorem eq_of_target (clear : Clear isThere) (there : isThere one.source = true) (there' : isThere other.source = true)
    (target : one.target = other.target)
    (tail : one.source.toList ++ (ending one.writable one.optional).toList =
      other.source.toList ++ (ending other.writable other.optional).toList) : one = other := by
  have source := clear.unmarked _ _ there there' (resembles_of_append _ _ _ _ _ _ tail)
  rw [source] at tail
  have marks := ending_injective _ _ _ _ (String.toList_inj.mp (List.append_cancel_left tail))
  obtain ⟨_, _, _, _⟩ := one
  obtain ⟨_, _, _, _⟩ := other
  simp_all

-- An equals sign before the other source stands in this one, for marks have none.
theorem not_divided (clear : Clear isThere) (there : isThere one.source = true) (there' : isThere other.source = true)
    (front : List Char) (tail : one.source.toList ++ (ending one.writable one.optional).toList =
      front ++ '=' :: (other.source.toList ++ (ending other.writable other.optional).toList)) : False := by
  rcases List.append_eq_append_iff.mp tail with ⟨inner, _, marks⟩ | ⟨inner, source, rest⟩
  · exact equals_not_ending one.writable one.optional (by simp [marks])
  · cases inner with
    | nil =>
        rw [List.nil_append] at rest
        exact equals_not_ending one.writable one.optional (rest ▸ List.mem_cons_self)
    | cons c back =>
        rw [List.cons_append, List.cons.injEq] at rest
        obtain ⟨rfl, rest⟩ := rest
        refine clear.undivided one.source other.source there there' (String.ofList front) (String.ofList back) ?_ ?_
        · exact String.toList_inj.mp (by simp [source])
        · exact resembles_of_append _ _ _ _ _ _ (by simpa using rest.symm)

theorem eq_of_option (clear : Clear isThere) (there : isThere one.source = true) (there' : isThere other.source = true)
    (same : one.option = other.option) : one = other := by
  have letters := congrArg String.toList same
  rw [option_letters, option_letters] at letters
  rcases List.append_eq_append_iff.mp (List.append_cancel_left letters) with
    ⟨more, target, tail⟩ | ⟨more, target, tail⟩
  · cases more with
    | nil =>
        rw [List.append_nil] at target
        exact eq_of_target clear there there' (String.toList_inj.mp target.symm) (List.cons.inj tail).2
    | cons c front =>
        exact (not_divided clear there there' front (List.cons.inj tail).2).elim
  · cases more with
    | nil =>
        rw [List.append_nil] at target
        exact eq_of_target clear there there' (String.toList_inj.mp target) (List.cons.inj tail).2.symm
    | cons c front =>
        exact (not_divided clear there' there front (List.cons.inj tail).2).elim

theorem clear_of_distinct
    (distinct : ∀ one other, Written isThere one other → one.option = other.option → one = other) : Clear isThere where
  unmarked source other there there' resembles := by
    obtain ⟨writable, optional, longer | longer⟩ := resembles
    · have same : (Mount.mk source "" false false).option = (Mount.mk other "" writable optional).option := by
        apply String.toList_inj.mp
        simp [option_letters, longer, ending]
      exact congrArg Mount.source (distinct _ _ (written_iff.mpr ⟨there, there'⟩) same)
    · have same : (Mount.mk source "" writable optional).option = (Mount.mk other "" false false).option := by
        apply String.toList_inj.mp
        simp [option_letters, longer, ending]
      exact congrArg Mount.source (distinct _ _ (written_iff.mpr ⟨there, there'⟩) same)
  undivided source other there there' front back parts resembles := by
    have targets : "" ≠ "=" ++ front := fun none => by simpa using congrArg String.toList none
    obtain ⟨writable, optional, longer | longer⟩ := resembles
    · have same : (Mount.mk source "" false false).option =
          (Mount.mk other ("=" ++ front) writable optional).option := by
        apply String.toList_inj.mp
        simp [option_letters, parts, longer, ending]
      exact targets (congrArg Mount.target (distinct _ _ (written_iff.mpr ⟨there, there'⟩) same))
    · have same : (Mount.mk source "" writable optional).option =
          (Mount.mk other ("=" ++ front) false false).option := by
        apply String.toList_inj.mp
        simp [option_letters, parts, longer, ending]
      exact targets (congrArg Mount.target (distinct _ _ (written_iff.mpr ⟨there, there'⟩) same))

/-- Mounts that are written are told apart by their arguments if and only if no source that is there is another one
with marks, alone or behind an equals sign. -/
theorem arguments_distinct_iff (isThere : String → Bool) :
    (∀ one other, Written isThere one other → one.option = other.option → one = other) ↔ Clear isThere := by
  refine ⟨clear_of_distinct, fun clear one other written same => ?_⟩
  obtain ⟨there, there'⟩ := written_iff.mp written
  exact eq_of_option clear there there' same

/-- Sources without equals signs that do not end in a mark are clear. -/
theorem clear_of_plain (plain : ∀ source, isThere source = true → '=' ∉ source.toList ∧
    ∀ front writable optional, source = front ++ ending writable optional → source = front) : Clear isThere where
  unmarked source other there there' resembles := by
    obtain ⟨writable, optional, longer | longer⟩ := resembles
    · exact (plain source there).2 other writable optional longer
    · exact ((plain other there').2 source writable optional longer).symm
  undivided source other there _ front back parts _ := by
    have sign : '=' ∈ source.toList := by simp [parts]
    exact (plain source there).1 sign

theorem arguments_of_plain_directory :
    let isThere (path : String) : Bool := path == "/etc"
    let shut : Mount := ⟨"/etc", "/x", false, false⟩
    let wide : Mount := ⟨"/etc", "/x", true, false⟩
    Clear isThere ∧ Written isThere shut wide ∧ shut.option ≠ wide.option := by
  intro isThere shut wide
  have clear : Clear isThere := by
    refine clear_of_plain fun source there => ?_
    rw [beq_iff_eq.mp there]
    refine ⟨by decide, fun front writable optional parts => ?_⟩
    have last := congrArg (fun path => path.toList.getLast?) parts
    cases writable <;> cases optional
    · simpa [ending] using parts
    all_goals simp [ending] at last
  have written : Written isThere shut wide := written_iff.mpr ⟨by decide, by decide⟩
  refine ⟨clear, written, fun same => ?_⟩
  have equal := (arguments_distinct_iff isThere).mpr clear shut wide written same
  exact absurd (congrArg Mount.writable equal) (by decide)

/-- Two directories, one with the name of the other and a mark. -/
def markedDirectories : Files.Tree :=
  ⟨[(["etc"], .directory), (["etc:rw"], .directory)], []⟩

theorem read_only_mount_reads_as_writable :
    let isThere := markedDirectories.isThere
    let shut : Mount := ⟨"/etc:rw", "/x", false, false⟩
    let wide : Mount := ⟨"/etc", "/x", true, false⟩
    checkAll isThere [shut, wide] = .ok () ∧ shut ≠ wide ∧ shut.option = wide.option ∧
      (Command.ofSettings "isolate" 0 [.mounts [shut, wide], .words ["/box/program"]]).line isThere =
        ["isolate", "--box-id=0", "--run", "--dir=/x=/etc:rw", "--dir=/x=/etc:rw", "--", "/box/program"] := by
  refine ⟨by decide +kernel, by decide +kernel, by decide +kernel, by decide +kernel⟩

end Sources
end SnippetRunner.Box.Mount
