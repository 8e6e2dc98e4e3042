import SnippetRunner.Proofs.NamespaceSegments
import SnippetRunner.Proofs.PolicyScan
import SnippetRunner.Proofs.TokenNames

/-!
Which paths from a root crate are allowed. The policy compares joined texts, and the law speaks of segments:
a path is allowed exactly when the segments of some namespace are its first ones. Both agree because no
segment holds a colon, neither in a namespace nor in the tokens of a snippet.
-/

namespace SnippetRunner

namespace Policy
open Token (Flat)

section Paths

/-- The tokens start with the path of these segments, which goes on as far as there are segments. -/
inductive StartsPath : List Flat → List (List Char) → Prop where
  | last (name : List Char) (raw : Bool) (rest : List Flat)
      (ends : ∀ next nextRaw later, rest ≠ .separator :: .word next nextRaw :: later) :
      StartsPath (.word name raw :: rest) [name]
  | more (name : List Char) (raw : Bool) {rest : List Flat} {path : List (List Char)}
      (later : StartsPath rest path) : StartsPath (.word name raw :: .separator :: rest) (name :: path)

theorem segments_of_startsPath (tokens : List Flat) (path : List (List Char))
    (starts : StartsPath tokens path) : segments tokens = path := by
  induction starts with
  | last name raw rest ends =>
      unfold segments
      split
      · next equal =>
          simp only [List.cons.injEq] at equal
          exact absurd equal.2 (ends _ _ _)
      · next equal =>
          simp only [List.cons.injEq, Flat.word.injEq] at equal
          rw [equal.1.1]
      · next other => exact absurd rfl (other name raw rest)
  | more name raw later ih =>
      cases later with
      | last next nextRaw rest _ => rw [segments, ih]
      | more next nextRaw _ => rw [segments, ih]

theorem startsPath_segments (name : List Char) (raw : Bool) (rest : List Flat) :
    StartsPath (.word name raw :: rest) (segments (.word name raw :: rest)) := by
  generalize equal : Flat.word name raw :: rest = tokens
  fun_induction segments tokens generalizing name raw rest with
  | case1 first firstRaw next nextRaw later ih => exact .more first firstRaw (ih next nextRaw later rfl)
  | case2 first firstRaw later lone =>
      refine .last first firstRaw later ?_
      intro next nextRaw more same
      exact lone next nextRaw more same
  | case3 tokens _ other => exact absurd equal.symm (other name raw rest)

theorem segments_member (tokens : List Flat) (segment : List Char) (member : segment ∈ segments tokens) :
    ∃ raw, Flat.word segment raw ∈ tokens := by
  fun_induction segments tokens with
  | case1 name raw next nextRaw later ih =>
      rcases List.mem_cons.mp member with rfl | inside
      · exact ⟨raw, List.mem_cons_self⟩
      · obtain ⟨otherRaw, found⟩ := ih inside
        exact ⟨otherRaw, List.mem_cons_of_mem _ (List.mem_cons_of_mem _ found)⟩
  | case2 name raw later lone =>
      simp only [List.mem_singleton] at member
      exact ⟨raw, member ▸ List.mem_cons_self⟩
  | case3 => cases member

end Paths

section Allowing

theorem allows_iff (allowed : AllowList) (path : List Char) :
    allowed.allows path = true ↔
      ∃ front ∈ allowed.paths, path = front ∨ ∃ rest, path = front ++ [':', ':'] ++ rest := by
  simp only [AllowList.allows, List.any_eq_true, Bool.or_eq_true, beq_iff_eq]
  refine exists_congr fun front => and_congr_right fun _ => or_congr_right ?_
  unfold Text.dropFront?
  by_cases starts : front.isPrefixOf path = true
  · obtain ⟨after, rfl⟩ := List.isPrefixOf_iff_prefix.mp starts
    simp only [starts, ↓reduceIte, List.drop_left, List.isPrefixOf_iff_prefix, List.append_assoc,
      List.append_cancel_left_eq]
    constructor
    · rintro ⟨rest, equal⟩
      exact ⟨rest, equal.symm⟩
    · rintro ⟨rest, equal⟩
      exact ⟨rest, equal.symm⟩
  · simp only [starts, Bool.false_eq_true, ↓reduceIte, false_iff]
    rintro ⟨rest, rfl⟩
    exact starts (List.isPrefixOf_iff_prefix.mpr ⟨_, (List.append_assoc ..).symm⟩)

/-- A path is allowed exactly when the segments of some namespace are its first ones. -/
theorem allows_segments_iff (namespaces : List String)
    (valid : ∀ text ∈ namespaces, Namespace.isValid text = true) (path : List (List Char))
    (nonempty : path ≠ []) (plain : ∀ segment ∈ path, ':' ∉ segment) :
    (AllowList.ofNamespaces namespaces).allows (pathText path) = true ↔
      ∃ text ∈ namespaces, Namespace.segmentsOf text <+: path := by
  have agrees (text : String) (member : text ∈ namespaces) :
      (pathText path = withoutGlob text ∨
        ∃ rest, pathText path = withoutGlob text ++ [':', ':'] ++ rest) ↔
      Namespace.segmentsOf text <+: path := by
    have segmentsPlain : ∀ segment ∈ Namespace.segmentsOf text, ':' ∉ segment := by
      intro segment inside
      exact Namespace.segment_plain segment
        ((Namespace.isValid_iff text).mp (valid text member) segment inside)
    rw [← Namespace.pathText_segmentsOf text]
    exact Text.joinWith_starts_iff _ path (Namespace.segmentsOf_ne_nil text) nonempty segmentsPlain plain
  rw [allows_iff]
  constructor
  · rintro ⟨front, member, starts⟩
    obtain ⟨text, known, rfl⟩ := List.mem_map.mp member
    exact ⟨text, known, (agrees text known).mp starts⟩
  · rintro ⟨text, known, isFront⟩
    exact ⟨withoutGlob text, List.mem_map.mpr ⟨text, known, rfl⟩, (agrees text known).mpr isFront⟩

end Allowing

section Snippets

-- The names of a path that starts in the tokens of a snippet are names of the snippet.
theorem path_plain (text : List Char) (trees : List Token.Tree) (lexed : Token.lex? text = some trees)
    (place : Nat) : ∀ segment ∈ segments ((Token.flatten trees).drop place), ':' ∉ segment := by
  intro segment member
  obtain ⟨raw, found⟩ := segments_member _ segment member
  exact Token.colon_not_mem_flat text trees lexed segment raw (List.mem_of_mem_drop found)

theorem violationAt_path (allowed : AllowList) (token : Flat) (rest : List Flat) (text : String)
    (violated : violationAt allowed token rest = some (.path text)) :
    ∃ name raw, token = .word name raw ∧ name ∈ rootCrates ∧
      text = String.ofList (pathText (segments (token :: rest))) ∧
      allowed.allows (pathText (segments (token :: rest))) = false := by
  unfold violationAt at violated
  split at violated
  · next name raw =>
      split at violated
      · cases violated
      · split at violated
        · cases violated
        · split at violated
          · cases violated
          · split at violated
            · next root =>
                simp only at violated
                split at violated
                · cases violated
                · next refused =>
                    cases violated
                    exact ⟨name, raw, rfl, List.elem_iff.mp root, rfl, by simpa using refused⟩
            · cases violated
  · split at violated
    · cases violated
    · obtain ⟨_, _, equal⟩ := Option.map_eq_some_iff.mp violated
      cases equal
  · cases violated

theorem scan_of_check_path (allowed : AllowList) (snippet text : String)
    (refused : check allowed snippet = .error (.path text)) :
    ∃ trees, Token.lex? snippet.toList = some trees ∧
      scan allowed (Token.flatten trees) = some (.path text) := by
  unfold check at refused
  split at refused
  · cases refused
  · split at refused
    · cases refused
    · next trees lexed =>
        split at refused
        · next violation found =>
            cases refused
            exact ⟨trees, lexed, found⟩
        · cases refused

/-- In an accepted snippet each path from a root crate that is no part of an earlier one has the segments of
some namespace at its front, and a path that has is never what a snippet is refused for. -/
theorem root_paths_within_namespaces (namespaces : List String)
    (valid : ∀ text ∈ namespaces, Namespace.isValid text = true) (snippet : String) :
    (check (.ofNamespaces namespaces) snippet = .ok () →
      ∃ trees, Token.lex? snippet.toList = some trees ∧
        ∀ place path, StartsRootPath (Token.flatten trees) place →
          ¬ InsideRootPath (Token.flatten trees) place →
          StartsPath ((Token.flatten trees).drop place) path →
          ∃ text ∈ namespaces, Namespace.segmentsOf text <+: path) ∧
    (∀ answer, check (.ofNamespaces namespaces) snippet = .error (.path answer) →
      ∃ trees place path, Token.lex? snippet.toList = some trees ∧
        StartsRootPath (Token.flatten trees) place ∧ ¬ InsideRootPath (Token.flatten trees) place ∧
        StartsPath ((Token.flatten trees).drop place) path ∧ answer = String.ofList (pathText path) ∧
        ∀ text ∈ namespaces, ¬ Namespace.segmentsOf text <+: path) := by
  constructor
  · intro accepted
    obtain ⟨_, trees, lexed, clean⟩ := (check_eq_ok_iff _ snippet).mp accepted
    refine ⟨trees, lexed, ?_⟩
    intro place path starts outside isPath
    obtain ⟨name, raw, rest, here, root⟩ := starts
    have atPlace := (scan_eq_none_iff _ _).mp clean place _ _ here outside
    have allowedPath := allows_of_violationAt _ name raw rest root atPlace
    have plain := path_plain snippet.toList trees lexed place
    have nonempty := segments_word_ne_nil name raw rest
    rw [← here, segments_of_startsPath _ path isPath] at allowedPath nonempty
    rw [segments_of_startsPath _ path isPath] at plain
    exact (allows_segments_iff namespaces valid path nonempty plain).mp allowedPath
  · intro answer refused
    obtain ⟨trees, lexed, found⟩ := scan_of_check_path _ snippet answer refused
    obtain ⟨place, token, rest, here, outside, violated⟩ := scan_eq_some _ _ _ found
    obtain ⟨name, raw, rfl, root, text, notAllowed⟩ := violationAt_path _ token rest answer violated
    have plain := path_plain snippet.toList trees lexed place
    rw [here] at plain
    have known := allows_segments_iff namespaces valid _ (segments_word_ne_nil name raw rest) plain
    refine ⟨trees, place, _, lexed, ⟨name, raw, rest, here, root⟩, outside, ?_, text, ?_⟩
    · rw [here]
      exact startsPath_segments name raw rest
    · intro namespaceText member isFront
      have accepted := known.mpr ⟨namespaceText, member, isFront⟩
      rw [notAllowed] at accepted
      cases accepted

-- The namespace `std::io` is a front of the text of this path, but not of its segments.
theorem std_iox_refused :
    check (.ofNamespaces ["std::io"]) "std::iox" = .error (.path "std::iox") := by
  have lexemes : Token.lexemes? "std::iox".toList =
      some [.word "std".toList false, .mark ':' true, .mark ':' false, .word "iox".toList false] := by
    decide +kernel
  have lexed : Token.lex? "std::iox".toList =
      some [.word "std".toList false, .mark ':' true, .mark ':' false, .word "iox".toList false] := by
    rw [Token.lex?, lexemes]
    rfl
  have short : ¬ maxSnippetBytes < "std::iox".utf8ByteSize := by decide +kernel
  have found : scan (.ofNamespaces ["std::io"])
      [.word "std".toList false, .separator, .word "iox".toList false] = some (.path "std::iox") := by
    decide +kernel
  have flat : Token.flatten [.word "std".toList false, .mark ':' true, .mark ':' false,
      .word "iox".toList false] = [.word "std".toList false, .separator, .word "iox".toList false] := by
    simp only [Token.flatten, Token.flattenOnto]
    rfl
  simp only [check, short, ↓reduceIte, lexed, flat, found]

theorem root_paths_within_std_io :
    (∀ text ∈ ["std::io"], Namespace.isValid text = true) ∧
      ∃ trees place path, Token.lex? "std::iox".toList = some trees ∧
        StartsRootPath (Token.flatten trees) place ∧ ¬ InsideRootPath (Token.flatten trees) place ∧
        StartsPath ((Token.flatten trees).drop place) path ∧
        "std::iox" = String.ofList (pathText path) ∧
        ∀ text ∈ ["std::io"], ¬ Namespace.segmentsOf text <+: path := by
  have valid : ∀ text ∈ ["std::io"], Namespace.isValid text = true := by decide +kernel
  exact ⟨valid, (root_paths_within_namespaces ["std::io"] valid "std::iox").2 _ std_iox_refused⟩

end Snippets
end Policy
end SnippetRunner
