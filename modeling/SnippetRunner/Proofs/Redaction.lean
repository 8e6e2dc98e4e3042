import SnippetRunner.Compile.Report
import SnippetRunner.Request.Result
import SnippetRunner.Proofs.SnippetLines
import SnippetRunner.Proofs.TextCut

/-!
The name of the closure is never shown. A part that is replaced everywhere does not come about again, neither
inside what was put in its place nor where that meets the rest, as long as what was put there begins and ends with
characters the part does not have. So what a refused program is answered with has something to say and does
not say that name.
-/

namespace SnippetRunner.Text

section Occurrences
variable {part : List Char} {mark : Char} (absent : mark ∉ part)
include absent

theorem prefix_before_mark (front back : List Char) (starts : part <+: front ++ mark :: back) : part <+: front := by
  induction front generalizing part with
  | nil =>
      rcases List.prefix_cons_iff.mp starts with rfl | ⟨rest, rfl, _⟩
      · exact List.nil_prefix
      · exact absurd List.mem_cons_self absent
  | cons c front ih =>
      rcases List.prefix_cons_iff.mp starts with rfl | ⟨rest, rfl, later⟩
      · exact List.nil_prefix
      · exact List.cons_prefix_cons.mpr ⟨rfl, ih (fun inside => absent (List.mem_cons_of_mem c inside)) later⟩

/-- A part stands before a character that it does not have, or after it. -/
theorem infix_around_mark (front back : List Char) (occurs : part <:+: front ++ mark :: back) :
    part <:+: front ∨ part <:+: back := by
  induction front with
  | nil =>
      rcases List.infix_cons_iff.mp occurs with starts | later
      · exact .inl (prefix_before_mark absent [] back starts).isInfix
      · exact .inr later
  | cons c front ih =>
      rcases List.infix_cons_iff.mp occurs with starts | later
      · exact .inl (prefix_before_mark absent (c :: front) back starts).isInfix
      · rcases ih later with early | late
        · exact .inl (List.infix_cons_iff.mpr (.inr early))
        · exact .inr late

end Occurrences

section Replacing
variable {part : List Char} (nonempty : part ≠ []) (new : List Char)
include nonempty

theorem replaceFrom_here (done rest : List Char) :
    replaceFrom part new done (part ++ rest) = replaceFrom part new (new.reverse ++ done) rest := by
  obtain ⟨c, more, rfl⟩ := List.exists_cons_of_ne_nil nonempty
  rw [List.cons_append, replaceFrom]
  simp

omit nonempty in
theorem replaceFrom_on (done : List Char) (c : Char) (rest : List Char)
    (absent : part.isPrefixOf (c :: rest) = false) :
    replaceFrom part new done (c :: rest) = replaceFrom part new (c :: done) rest := by
  rw [replaceFrom]
  simp [absent]

theorem replaceFrom_done (text done : List Char) :
    replaceFrom part new done text = done.reverse ++ replace part new text := by
  unfold replace
  induction text using cutFrom_induction part nonempty generalizing done with
  | nil => simp [replaceFrom]
  | here rest ih =>
      rw [replaceFrom_here nonempty, replaceFrom_here nonempty, ih, ih (new.reverse ++ [])]
      simp
  | on c rest absent ih =>
      rw [replaceFrom_on new done c rest absent, replaceFrom_on new [] c rest absent, ih, ih [c]]
      simp

theorem replace_here (rest : List Char) : replace part new (part ++ rest) = new ++ replace part new rest := by
  rw [replace, replaceFrom_here nonempty, replaceFrom_done nonempty]
  simp

theorem replace_on (c : Char) (rest : List Char) (absent : part.isPrefixOf (c :: rest) = false) :
    replace part new (c :: rest) = c :: replace part new rest := by
  rw [replace, replaceFrom_on new [] c rest absent, replaceFrom_done nonempty]
  rfl

/-- Where a text without the first character of what was put in stands after a replacement, it stood before. -/
theorem prefix_of_replace (first : Char) (more word text : List Char) (plain : first ∉ word)
    (starts : word <+: replace part (first :: more) text) : word <+: text := by
  induction text using cutFrom_induction part nonempty generalizing word with
  | nil => simpa [replace, replaceFrom] using starts
  | here rest ih =>
      rw [replace_here nonempty, List.cons_append] at starts
      have none : word = [] := List.prefix_nil.mp (prefix_before_mark plain [] _ starts)
      rw [none]
      exact List.nil_prefix
  | on c rest absent ih =>
      rw [replace_on nonempty _ c rest absent] at starts
      rcases List.prefix_cons_iff.mp starts with rfl | ⟨later, rfl, goesOn⟩
      · exact List.nil_prefix
      · have shorter := ih later (fun inside => plain (List.mem_cons_of_mem c inside)) goesOn
        exact List.cons_prefix_cons.mpr ⟨rfl, shorter⟩

/-- A part that was replaced everywhere is not there any more. -/
theorem not_infix_replace (first last : Char) (inner text : List Char) (begins : first ∉ part) (ends : last ∉ part)
    (clean : ¬ part <:+: first :: inner) : ¬ part <:+: replace part (first :: inner ++ [last]) text := by
  induction text using cutFrom_induction part nonempty with
  | nil => simpa [replace, replaceFrom] using nonempty
  | here rest ih =>
      intro occurs
      rw [replace_here nonempty, List.append_assoc] at occurs
      rcases infix_around_mark ends _ _ occurs with inside | later
      · exact clean inside
      · exact ih later
  | on c rest absent ih =>
      intro occurs
      rw [replace_on nonempty _ c rest absent] at occurs
      rcases List.infix_cons_iff.mp occurs with here | later
      · rw [← replace_on nonempty _ c rest absent] at here
        have stood := prefix_of_replace nonempty first (inner ++ [last]) part (c :: rest) begins here
        rw [List.isPrefixOf_iff_prefix.mpr stood] at absent
        cases absent
      · exact ih later

end Replacing

section Joining

/-- Joining texts with marks a part does not have does not bring it about. -/
theorem not_infix_intercalate {part : List Char} (first last : Char) (nonempty : part ≠ []) (begins : first ∉ part)
    (ends : last ∉ part) (texts : List (List Char)) (clean : ∀ text ∈ texts, ¬ part <:+: text) :
    ¬ part <:+: [first, last].intercalate texts := by
  induction texts with
  | nil => simpa using nonempty
  | cons text rest ih =>
      have here := clean text List.mem_cons_self
      have others := ih fun other member => clean other (List.mem_cons_of_mem text member)
      cases rest with
      | nil => simpa using here
      | cons next rest =>
          intro occurs
          rw [List.intercalate_cons_cons, List.append_assoc] at occurs
          rcases infix_around_mark begins _ _ occurs with inside | later
          · exact here inside
          · rcases infix_around_mark ends [] _ later with gap | after
            · exact nonempty (List.eq_nil_of_infix_nil gap)
            · exact others after

end Joining
end SnippetRunner.Text

namespace SnippetRunner
open Scaffold (closureName)

/-- A text that does not show the name of the closure. -/
def Unnamed (text : String) : Prop :=
  ¬ closureName.toList <:+: text.toList

instance (text : String) : Decidable (Unnamed text) :=
  inferInstanceAs (Decidable (¬ _))

theorem closureName_ne_nil : closureName.toList ≠ [] := by
  decide

namespace Compile

section Reports

theorem redact_unnamed (message : String) : Unnamed (redact message) := by
  have placeholder : Scaffold.closurePlaceholder.toList = '<' :: "snippet".toList ++ ['>'] := by decide
  rw [Unnamed, redact, String.toList_ofList, placeholder]
  exact Text.not_infix_replace closureName_ne_nil _ _ _ _ (by decide) (by decide) (by decide +kernel)

/-- A diagnostic for whoever wrote the snippet. -/
structure Presentable (program : Program) (diagnostic : Diagnostic) : Prop where
  error : diagnostic.severity = .error
  unnamed : Unnamed diagnostic.message
  inside : ∀ location ∈ diagnostic.location, 1 ≤ location.line ∧ location.line ≤ program.snippetLines

theorem location_inside (report : Report) (program : Program) (location : Location)
    (found : report.location? program = some location) :
    1 ≤ location.line ∧ location.line ≤ program.snippetLines := by
  obtain ⟨mark, _, pointed⟩ := Option.bind_eq_some_iff.mp found
  obtain ⟨line, mapped, made⟩ := Option.bind_eq_some_iff.mp pointed
  cases made
  have range := (Scaffold.snippetLine?_some_iff program mark.line line).mp mapped
  show 1 ≤ line ∧ line ≤ program.snippetLines
  omega

theorem toDiagnostic_presentable (report : Report) (program : Program) :
    Presentable program (report.toDiagnostic program) where
  error := rfl
  unnamed := redact_unnamed report.message
  inside := location_inside report program

theorem wholeReport_presentable (stderr : List Char) (program : Program) :
    Presentable program (wholeReport stderr) where
  error := rfl
  unnamed := by
    unfold wholeReport
    dsimp only
    split
    · decide +kernel
    · exact redact_unnamed _
  inside := nofun

theorem diagnostics_presentable (stderr : List Char) (program : Program) :
    ∀ diagnostic ∈ diagnostics stderr program, Presentable program diagnostic := by
  unfold diagnostics
  split
  · intro diagnostic member
    rw [List.mem_singleton.mp member]
    exact wholeReport_presentable stderr program
  · intro diagnostic member
    obtain ⟨report, _, rfl⟩ := List.mem_map.mp member
    exact toDiagnostic_presentable report program

theorem diagnostics_ne_nil (stderr : List Char) (program : Program) : diagnostics stderr program ≠ [] := by
  unfold diagnostics
  split
  · exact List.cons_ne_nil _ _
  · next found => simpa using found

end Reports

section Shown
open Request (Result)

theorem text_nonempty (result : Result) : result.text ≠ "" := by
  unfold Result.text
  split
  · decide
  · next said => simpa using said

theorem noValueText_unnamed : Unnamed Result.noValueText := by
  unfold Unnamed
  decide +kernel

theorem said_unnamed (messages : List String) (unnamed : ∀ message ∈ messages, Unnamed message) :
    Unnamed (String.intercalate ", " messages) := by
  have joined : (String.intercalate ", " messages).toList = [',', ' '].intercalate (messages.map String.toList) :=
    String.toList_intercalate
  unfold Unnamed
  generalize (String.intercalate ", " messages).toList = said at joined
  subst joined
  refine Text.not_infix_intercalate ',' ' ' closureName_ne_nil (by decide) (by decide) _ fun text member => ?_
  obtain ⟨message, there, rfl⟩ := List.mem_map.mp member
  exact unnamed message there

theorem text_unnamed (diagnostics : List Diagnostic) (unnamed : ∀ found ∈ diagnostics, Unnamed found.message) :
    Unnamed (Result.compileError diagnostics).text := by
  unfold Result.text
  split
  · exact noValueText_unnamed
  · refine said_unnamed _ fun message member => ?_
    obtain ⟨found, among, rfl⟩ := List.mem_map.mp member
    exact unnamed found among

/-- Whatever a compiler says of a program that it refuses, there is a diagnostic; each is an error, points into the
snippet if it points anywhere, and does not show the name of the closure; nor does the text they are shown as,
which is not empty. -/
theorem refused_program_is_explained (stderr : List Char) (program : Program) :
    diagnostics stderr program ≠ [] ∧
      (∀ diagnostic ∈ diagnostics stderr program, Presentable program diagnostic) ∧
      (Result.compileError (diagnostics stderr program)).text ≠ "" ∧
      Unnamed (Result.compileError (diagnostics stderr program)).text := by
  have presentable := diagnostics_presentable stderr program
  exact ⟨diagnostics_ne_nil stderr program, presentable, text_nonempty _,
    text_unnamed _ fun found member => (presentable found member).unnamed⟩

end Shown
end Compile
end SnippetRunner
