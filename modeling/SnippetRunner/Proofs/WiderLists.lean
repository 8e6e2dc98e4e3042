import SnippetRunner.Proofs.AllowedPaths

/-!
Policies that differ in what they allow. The list is asked for one thing only, whether a path from a root crate is
allowed; how far a scan moves does not depend on it. So with a wider list a scan goes the same way, up to the
first path that only the wider list allows.
-/

namespace SnippetRunner.Policy
open Token (Flat)

section Lists

/-- What the one list allows, the other allows. -/
def AllowList.Within (allowed wider : AllowList) : Prop :=
  ∀ path, allowed.allows path = true → wider.allows path = true

theorem within_of_subset (allowed wider : AllowList) (among : ∀ front ∈ allowed.paths, front ∈ wider.paths) :
    allowed.Within wider := by
  intro path granted
  obtain ⟨front, member, starts⟩ := (allows_iff allowed path).mp granted
  exact (allows_iff wider path).mpr ⟨front, among front member, starts⟩

theorem within_of_namespaces (namespaces others : List String)
    (among : ∀ text ∈ namespaces, withoutGlob text ∈ others.map withoutGlob) :
    (AllowList.ofNamespaces namespaces).Within (.ofNamespaces others) := by
  apply within_of_subset
  intro front member
  obtain ⟨text, known, rfl⟩ := List.mem_map.mp member
  exact among text known

end Lists

section Scans
variable {allowed wider : AllowList}

/-- At one place, a wider list changes what is found only where it allows a path that is refused otherwise. -/
theorem violationAt_within (within : allowed.Within wider) (token : Flat) (rest : List Flat) :
    violationAt wider token rest = violationAt allowed token rest ∨
      ∃ path, violationAt allowed token rest = some (.path (String.ofList path)) ∧ wider.allows path = true ∧
        violationAt wider token rest = none := by
  cases token with
  | separator => exact .inl rfl
  | mark c =>
      left
      by_cases sign : c = '#'
      · rw [sign]
        rfl
      · simp [violationAt, sign]
  | word name raw =>
      -- The list is asked last, and only about a path that a word from a root starts.
      simp only [violationAt]
      split
      · exact .inl rfl
      · split
        · exact .inl rfl
        · split
          · exact .inl rfl
          · split
            · generalize pathText (segments (.word name raw :: rest)) = path
              cases granted : allowed.allows path with
              | true =>
                  rw [within path granted]
                  exact .inl rfl
              | false =>
                  cases grantedMore : wider.allows path with
                  | true => exact .inr ⟨path, rfl, grantedMore, rfl⟩
                  | false => exact .inl rfl
            · exact .inl rfl

/-- A scan with a wider list finds the same, or the narrower list refuses a path that the wider one allows. -/
theorem scan_within (within : allowed.Within wider) (tokens : List Flat) :
    scan wider tokens = scan allowed tokens ∨
      ∃ path, scan allowed tokens = some (.path (String.ofList path)) ∧ wider.allows path = true := by
  -- How far a step goes is read from the tokens alone, so both scans stand at the same place.
  fun_induction scan allowed tokens with
  | case1 => exact .inl (by rw [scan])
  | case2 token rest violation found =>
      rcases violationAt_within within token rest with same | ⟨path, refused, granted, _⟩
      · left
        rw [scan, same, found]
      · right
        exact ⟨path, by rw [← found, refused], granted⟩
  | case3 token rest clean ih =>
      have cleanMore : violationAt wider token rest = none := by
        rcases violationAt_within within token rest with same | ⟨_, _, _, none⟩
        · rw [same, clean]
        · exact none
      rw [scan, cleanMore]
      exact ih

theorem violationAt_congr (within : allowed.Within wider) (back : wider.Within allowed) (token : Flat)
    (rest : List Flat) : violationAt wider token rest = violationAt allowed token rest := by
  rcases violationAt_within within token rest with same | ⟨_, _, _, clean⟩
  · exact same
  · rcases violationAt_within back token rest with same | ⟨_, refused, _, _⟩
    · exact same.symm
    · rw [clean] at refused
      cases refused

/-- Lists that allow the same find the same, path by path. -/
theorem scan_congr (within : allowed.Within wider) (back : wider.Within allowed) (tokens : List Flat) :
    scan wider tokens = scan allowed tokens := by
  fun_induction scan allowed tokens with
  | case1 => rw [scan]
  | case2 token rest violation found => rw [scan, violationAt_congr within back, found]
  | case3 token rest clean ih =>
      rw [scan, violationAt_congr within back, clean]
      exact ih

end Scans

section Snippets
variable {allowed wider : AllowList}

theorem check_within (within : allowed.Within wider) (snippet : String) :
    check wider snippet = check allowed snippet ∨
      ∃ path, check allowed snippet = .error (.path (String.ofList path)) ∧ wider.allows path = true := by
  unfold check
  split
  · exact .inl rfl
  · split
    · exact .inl rfl
    · next trees _ =>
        rcases scan_within within (Token.flatten trees) with same | ⟨path, refused, granted⟩
        · left
          rw [same]
        · right
          exact ⟨path, by rw [refused], granted⟩

theorem check_congr (within : allowed.Within wider) (back : wider.Within allowed) (snippet : String) :
    check wider snippet = check allowed snippet := by
  unfold check
  split
  · rfl
  · split
    · rfl
    · rw [scan_congr within back]

/-- With more namespaces no snippet is refused that was accepted, and what is refused for anything but a path is
refused for the same; only a path that is allowed now can change the answer. Order and repetition of the
namespaces, and whether they end in a glob, make no difference. -/
theorem verdict_follows_namespaces (namespaces others : List String)
    (among : ∀ text ∈ namespaces, withoutGlob text ∈ others.map withoutGlob) (snippet : String) :
    (check (.ofNamespaces namespaces) snippet = .ok () → check (.ofNamespaces others) snippet = .ok ()) ∧
    (∀ violation, check (.ofNamespaces namespaces) snippet = .error violation →
      (∀ text, violation ≠ .path text) → check (.ofNamespaces others) snippet = .error violation) ∧
    (∀ text, check (.ofNamespaces namespaces) snippet = .error (.path text) →
      check (.ofNamespaces others) snippet = .error (.path text) ∨
        (AllowList.ofNamespaces others).allows text.toList = true) ∧
    ((∀ text ∈ others, withoutGlob text ∈ namespaces.map withoutGlob) →
      check (.ofNamespaces others) snippet = check (.ofNamespaces namespaces) snippet) := by
  have within := within_of_namespaces namespaces others among
  have answers := check_within within snippet
  refine ⟨?_, ?_, ?_, ?_⟩
  · intro accepted
    rcases answers with same | ⟨path, refused, _⟩
    · rw [same, accepted]
    · rw [accepted] at refused
      cases refused
  · intro violation found other
    rcases answers with same | ⟨path, refused, _⟩
    · rw [same, found]
    · rw [found] at refused
      cases refused
      exact absurd rfl (other _)
  · intro text found
    rcases answers with same | ⟨path, refused, granted⟩
    · exact .inl (same.trans found)
    · rw [found] at refused
      cases refused
      exact .inr (by rwa [String.toList_ofList])
  · intro back
    exact check_congr within (within_of_namespaces others namespaces back) snippet

theorem verdict_follows_std_env :
    (∀ text ∈ ["std::env"], withoutGlob text ∈ ["std::io", "std::env::*"].map withoutGlob) ∧
      check (.ofNamespaces ["std::env"]) "std::env!(\"HOME\")" = .ok () ∧
      check (.ofNamespaces ["std::io", "std::env::*"]) "std::env!(\"HOME\")" = .ok () := by
  have among : ∀ text ∈ ["std::env"], withoutGlob text ∈ ["std::io", "std::env::*"].map withoutGlob := by
    decide +kernel
  have follows := verdict_follows_namespaces ["std::env"] ["std::io", "std::env::*"] among
  exact ⟨among, std_env_accepted, (follows _).1 std_env_accepted⟩

end Snippets
end SnippetRunner.Policy
