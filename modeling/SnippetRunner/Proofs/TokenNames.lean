import SnippetRunner.Token.Flat
import SnippetRunner.Token.Lexer

/-!
The names in a lexed text. Every word the lexer finds consists of identifier characters, matching delimiters
and flattening bring no other words about, so a name in the flat tokens of a text has no colon in it.
-/

namespace SnippetRunner.Token
open Text.Ident (isStart isContinue)

section Lexemes

theorem doc_kind (text : List Char) (found : Lexeme) (count : Nat)
    (read : doc? text = some (found, count)) : ∃ inner body, found = .doc inner body := by
  unfold doc? at read
  split at read
  · split at read
    · cases read
    · cases read
      exact ⟨_, _, rfl⟩
  · cases read

theorem mark_kind (text : List Char) (found : Lexeme) (count : Nat)
    (read : mark? text = some (found, count)) : ∃ c joint, found = .mark c joint := by
  unfold mark? at read
  split at read
  · cases read
  · split at read
    · split at read
      · split at read
        · cases read
          exact ⟨_, _, rfl⟩
        · cases read
      · cases read
        exact ⟨_, _, rfl⟩
    · cases read

theorem word_kind (text : List Char) (found : Lexeme) (count : Nat)
    (read : word? text = some (found, count)) : ∃ name raw, found = .word name raw := by
  unfold word? at read
  split at read
  · cases read
  · obtain ⟨_, _, equal⟩ := Option.map_eq_some_iff.mp read
    cases equal
    exact ⟨_, _, rfl⟩

/-- A leaf is a literal, a mark or a word. -/
theorem leaf_cases (text : List Char) (found : Lexeme) (count : Nat)
    (read : leaf? text = some (found, count)) :
    (∃ body, found = .literal body) ∨ mark? text = some (found, count) ∨
      word? text = some (found, count) := by
  unfold leaf? at read
  split at read
  · cases read
    exact .inl ⟨_, rfl⟩
  · split at read
    · next marked => exact .inr (.inl (marked.trans read))
    · split at read
      · next named => exact .inr (.inr (named.trans read))
      · split at read
        · cases read
          exact .inl ⟨_, rfl⟩
        · cases read

/-- A lexeme is documentation, a delimiter or a leaf. -/
theorem lexeme_cases (text : List Char) (found : Lexeme) (count : Nat)
    (read : lexeme? text = some (found, count)) :
    doc? text = some (found, count) ∨ (∃ delimiter, found = .opens delimiter) ∨
      (∃ delimiter, found = .closes delimiter) ∨ leaf? text = some (found, count) := by
  unfold lexeme? at read
  split at read
  · next documented => exact .inl (documented.trans read)
  · cases read
  · split at read
    · split at read
      · exact .inr (.inr (.inr read))
      · cases read
        exact .inr (.inl ⟨_, rfl⟩)
    · cases read
      exact .inr (.inr (.inl ⟨_, rfl⟩))
    · exact .inr (.inr (.inr read))

-- What kind a lexeme is of shows what it was read as.
theorem lexeme_kinds (text : List Char) (found : Lexeme) (count : Nat)
    (read : lexeme? text = some (found, count)) :
    (∃ inner body, found = .doc inner body) ∨ (∃ delimiter, found = .opens delimiter) ∨
      (∃ delimiter, found = .closes delimiter) ∨ (∃ body, found = .literal body) ∨
      ((∃ c joint, found = .mark c joint) ∧ mark? text = some (found, count)) ∨
      ((∃ name raw, found = .word name raw) ∧ word? text = some (found, count)) := by
  rcases lexeme_cases text found count read with documented | opens | closes | leaf
  · exact .inl (doc_kind text found count documented)
  · exact .inr (.inl opens)
  · exact .inr (.inr (.inl closes))
  · rcases leaf_cases text found count leaf with literal | marked | named
    · exact .inr (.inr (.inr (.inl literal)))
    · exact .inr (.inr (.inr (.inr (.inl ⟨mark_kind text found count marked, marked⟩))))
    · exact .inr (.inr (.inr (.inr (.inr ⟨word_kind text found count named, named⟩))))

-- A word among the lexemes was read as a word.
theorem word_of_lexeme (text name : List Char) (raw : Bool) (count : Nat)
    (read : lexeme? text = some (.word name raw, count)) :
    identifier? text = some (name, raw, count) := by
  have asWord : word? text = some (.word name raw, count) := by
    simpa using lexeme_kinds text (.word name raw) count read
  unfold word? at asWord
  split at asWord
  · cases asWord
  · obtain ⟨⟨otherName, otherRaw, otherCount⟩, read, equal⟩ := Option.map_eq_some_iff.mp asWord
    cases equal
    exact read

end Lexemes

section Names

theorem take_wordCount (text : List Char) : ∀ c ∈ text.take (wordCount text), isContinue c = true := by
  intro c member
  cases text with
  | nil => simp at member
  | cons first rest =>
      simp only [wordCount] at member
      split at member
      · next starts =>
          rw [Nat.add_comm, List.take_succ_cons, List.mem_cons] at member
          rcases member with rfl | later
          · exact Text.Ident.isContinue_of_isStart c starts
          · have prefixOf := List.takeWhile_prefix (l := rest) isContinue
            rw [← List.prefix_iff_eq_take.mp prefixOf] at later
            exact List.all_eq_true.mp List.all_takeWhile c later
      · simp at member

theorem identifier_characters (text name : List Char) (raw : Bool) (count : Nat)
    (read : identifier? text = some (name, raw, count)) : ∀ c ∈ name, isContinue c = true := by
  unfold identifier? at read
  split at read
  · simp only at read
    split at read
    · cases read
    · cases read
      exact take_wordCount (text.drop 2)
  · simp only at read
    split at read
    · cases read
    · cases read
      exact take_wordCount text

theorem colon_not_mem (name : List Char) (each : ∀ c ∈ name, isContinue c = true) : ':' ∉ name := by
  intro member
  have colon := each ':' member
  revert colon
  decide

end Names

/-! From lexemes to trees to flat tokens. What holds of the names the lexer reads, and of the name of the
attribute a documentation comment stands for, holds of all names. -/
section Trees
variable (holds : List Char → Prop)

inductive Named : List Tree → Prop where
  | nil : Named []
  | group (delimiter : Delimiter) {inner rest : List Tree} :
      Named inner → Named rest → Named (.group delimiter inner :: rest)
  | word {name : List Char} (raw : Bool) {rest : List Tree} :
      holds name → Named rest → Named (.word name raw :: rest)
  | mark (c : Char) (joint : Bool) {rest : List Tree} : Named rest → Named (.mark c joint :: rest)
  | literal (text : List Char) {rest : List Tree} : Named rest → Named (.literal text :: rest)

variable {holds}

theorem Named.append {front back : List Tree} (first : Named holds front) (second : Named holds back) :
    Named holds (front ++ back) := by
  induction first with
  | nil => exact second
  | group delimiter inner _ _ ih => exact .group delimiter inner ih
  | word raw name _ ih => exact .word raw name ih
  | mark c joint _ ih => exact .mark c joint ih
  | literal text _ ih => exact .literal text ih

theorem Named.reverse {trees : List Tree} (named : Named holds trees) : Named holds trees.reverse := by
  induction named with
  | nil => exact .nil
  | group delimiter inner _ _ ih =>
      rw [List.reverse_cons]
      exact ih.append (.group delimiter inner .nil)
  | word raw name _ ih =>
      rw [List.reverse_cons]
      exact ih.append (.word raw name .nil)
  | mark c joint _ ih =>
      rw [List.reverse_cons]
      exact ih.append (.mark c joint .nil)
  | literal text _ ih =>
      rw [List.reverse_cons]
      exact ih.append (.literal text .nil)

theorem docTrees_named (inner : Bool) (text : List Char) (doc : holds ['d', 'o', 'c']) :
    Named holds (docTrees inner text) := by
  unfold docTrees
  refine .group _ (.word _ doc (.mark _ _ (.literal _ .nil))) ?_
  cases inner
  · exact .mark _ _ .nil
  · exact .mark _ _ (.mark _ _ .nil)

theorem treesFrom_named (doc : holds ['d', 'o', 'c']) (lexemes : List Lexeme)
    (opened : List (Delimiter × List Tree)) (done trees : List Tree)
    (read : ∀ name raw, .word name raw ∈ lexemes → holds name)
    (openedNamed : ∀ level ∈ opened, Named holds level.2) (doneNamed : Named holds done)
    (matched : treesFrom opened done lexemes = some trees) : Named holds trees := by
  fun_induction treesFrom opened done lexemes with
  | case1 opened done =>
      cases matched
      exact doneNamed.reverse
  | case2 => cases matched
  | case3 opened done delimiter rest ih =>
      refine ih (fun name raw member => read name raw (List.mem_cons_of_mem _ member)) ?_ .nil matched
      intro level member
      rcases List.mem_cons.mp member with rfl | outer
      · exact doneNamed
      · exact openedNamed level outer
  | case4 => cases matched
  | case5 done delimiter rest first before outer same ih =>
      have beforeNamed := openedNamed (first, before) List.mem_cons_self
      exact ih (fun name raw member => read name raw (List.mem_cons_of_mem _ member))
        (fun level member => openedNamed level (List.mem_cons_of_mem _ member))
        (.group delimiter doneNamed.reverse beforeNamed) matched
  | case6 => cases matched
  | case7 opened done name raw rest ih =>
      exact ih (fun other raw member => read other raw (List.mem_cons_of_mem _ member)) openedNamed
        (.word raw (read name raw List.mem_cons_self) doneNamed) matched
  | case8 opened done c joint rest ih =>
      exact ih (fun name raw member => read name raw (List.mem_cons_of_mem _ member)) openedNamed
        (.mark c joint doneNamed) matched
  | case9 opened done text rest ih =>
      exact ih (fun name raw member => read name raw (List.mem_cons_of_mem _ member)) openedNamed
        (.literal text doneNamed) matched
  | case10 opened done inner text rest ih =>
      exact ih (fun name raw member => read name raw (List.mem_cons_of_mem _ member)) openedNamed
        ((docTrees_named inner text doc).append doneNamed) matched

-- A token that is no word brings no name.
theorem cons_named (token : Flat) {done : List Flat} (other : ∀ name raw, .word name raw ≠ token)
    (doneNamed : ∀ name raw, .word name raw ∈ done → holds name) :
    ∀ name raw, .word name raw ∈ token :: done → holds name := by
  intro name raw member
  rcases List.mem_cons.mp member with same | before
  · exact absurd same (other name raw)
  · exact doneNamed name raw before

theorem flattenOnto_named (done : List Flat) (trees : List Tree)
    (doneNamed : ∀ name raw, .word name raw ∈ done → holds name) (named : Named holds trees) :
    ∀ name raw, .word name raw ∈ flattenOnto done trees → holds name := by
  fun_induction flattenOnto done trees with
  | case1 => exact doneNamed
  | case2 done delimiter inner rest innerIh restIh =>
      cases named with
      | group _ innerNamed restNamed =>
          have opened := cons_named (.mark delimiter.opens) (by simp) doneNamed
          exact restIh (cons_named _ (by simp) (innerIh opened innerNamed)) restNamed
  | case3 done name raw rest ih =>
      cases named with
      | word _ here restNamed =>
          refine ih ?_ restNamed
          intro other otherRaw member
          rcases List.mem_cons.mp member with same | before
          · cases same
            exact here
          · exact doneNamed other otherRaw before
  | case4 done text rest ih =>
      cases named with
      | literal _ restNamed => exact ih doneNamed restNamed
  | case5 done joint rest ih =>
      cases named with
      | mark _ _ secondNamed =>
          cases secondNamed with
          | mark _ _ restNamed => exact ih (cons_named _ (by simp) doneNamed) restNamed
  | case6 done name raw rest ih =>
      cases named with
      | mark _ _ wordNamed =>
          cases wordNamed with
          | word _ _ restNamed => exact ih doneNamed restNamed
  | case7 done c joint rest _ _ ih =>
      cases named with
      | mark _ _ restNamed =>
          refine ih ?_ restNamed
          split
          · exact doneNamed
          · exact cons_named _ (by simp) doneNamed

theorem lexemesFrom_read (done : List Lexeme) (text : List Char) (found : List Lexeme)
    (doneRead : ∀ lexeme ∈ done, ∃ rest count, lexeme? rest = some (lexeme, count))
    (lexed : lexemesFrom done text = some found) :
    ∀ lexeme ∈ found, ∃ rest count, lexeme? rest = some (lexeme, count) := by
  fun_induction lexemesFrom done text with
  | case1 done text finished =>
      cases lexed
      intro lexeme member
      exact doneRead lexeme (List.mem_reverse.mp member)
  | case2 => cases lexed
  | case3 done text c rest here lexeme count read ih =>
      refine ih ?_ lexed
      intro other member
      rcases List.mem_cons.mp member with rfl | before
      · exact ⟨_, _, read⟩
      · exact doneRead other before

/-- Every lexeme of a text was read somewhere in it. -/
theorem lexemes_read (text : List Char) (found : List Lexeme) (scanned : lexemes? text = some found) :
    ∀ lexeme ∈ found, ∃ rest count, lexeme? rest = some (lexeme, count) := by
  unfold lexemes? at scanned
  split at scanned
  · cases scanned
    simp
  · exact lexemesFrom_read [] _ found (by simp) scanned

/-- No name in the flat tokens of a text holds a colon. -/
theorem colon_not_mem_flat (text : List Char) (trees : List Tree) (lexed : lex? text = some trees)
    (name : List Char) (raw : Bool) (member : .word name raw ∈ flatten trees) : ':' ∉ name := by
  obtain ⟨lexemes, scanned, matched⟩ := Option.bind_eq_some_iff.mp lexed
  have read := lexemes_read text lexemes scanned
  have names : ∀ name raw, .word name raw ∈ lexemes → ':' ∉ name := by
    intro name raw member
    obtain ⟨rest, count, found⟩ := read _ member
    have characters := identifier_characters rest name raw count (word_of_lexeme rest name raw count found)
    exact colon_not_mem name characters
  have named : Named (':' ∉ ·) trees :=
    treesFrom_named (by decide) lexemes [] [] trees names (by simp) .nil matched
  exact flattenOnto_named [] trees (by simp) named name raw (List.mem_reverse.mp member)

end Trees
end SnippetRunner.Token
