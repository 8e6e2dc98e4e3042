import SnippetRunner.Compile.Report
import SnippetRunner.Proofs.SnippetLines
import SnippetRunner.Proofs.WholeProgram

/-!
Where diagnostics point. A compiler's message lists spans, each in some file; the first primary one is where the
message points. A diagnostic takes its line and column and never its file, so it has a place in the snippet
whenever the span starts in the lines of the snippet, whichever file they are lines of.
-/

namespace SnippetRunner

namespace Scaffold

section FirstLine

theorem plain_ofList (text : List Char) (plain : text.all (· != '\n') = true) :
    '\n' ∉ (String.ofList text).toList := by
  rw [String.toList_ofList]
  intro feed
  have other := List.all_eq_true.mp plain _ feed
  simp at other

-- Line by line, so that each is checked as the characters it is written with.
theorem runtimeLines_plain : ∀ line ∈ runtimeLines, '\n' ∉ line.toList := by
  unfold runtimeLines
  repeat refine List.forall_mem_cons.mpr ⟨plain_ofList _ rfl, ?_⟩
  exact List.forall_mem_nil _

theorem useLines_plain (namespaces : List String) (plain : ∀ text ∈ namespaces, '\n' ∉ text.toList) :
    ∀ line ∈ useLines namespaces, '\n' ∉ line.toList := by
  unfold useLines
  repeat refine List.forall_mem_cons.mpr ⟨plain_ofList _ rfl, ?_⟩
  intro line member
  obtain ⟨text, known, rfl⟩ := List.mem_map.mp member
  simp [String.toList_append, plain text known]

theorem closureLines_plain : ∀ line ∈ closureLines, '\n' ∉ line.toList := by
  unfold closureLines
  iterate 5 refine List.forall_mem_cons.mpr ⟨plain_ofList _ rfl, ?_⟩
  simp [closureName]

theorem count_ofLines (lines : List String) (plain : ∀ line ∈ lines, '\n' ∉ line.toList) :
    (ofLines lines).toList.count '\n' = lines.length := by
  induction lines with
  | nil => rfl
  | cons line rest ih =>
      have here := List.count_eq_zero_of_not_mem (plain line List.mem_cons_self)
      rw [toList_ofLines, List.count_append, List.count_cons_self, here,
        ih fun other member => plain other (List.mem_cons_of_mem line member), List.length_cons, Nat.zero_add]

/-- The line on which a snippet starts; each namespace that is imported moves it by one. -/
theorem snippetLine_eq (snippet : String) (namespaces : List String)
    (plain : ∀ text ∈ namespaces, '\n' ∉ text.toList) :
    (wrap snippet namespaces).snippetLine = namespaces.length + 99 := by
  have lines : (before namespaces).toList.count '\n' =
      (runtimeLines ++ useLines namespaces ++ closureLines).length := by
    apply count_ofLines
    intro line member
    simp only [List.mem_append] at member
    rcases member with (runtime | use) | closure
    · exact runtimeLines_plain line runtime
    · exact useLines_plain namespaces plain line use
    · exact closureLines_plain line closure
  show Text.lineCount (before namespaces).toList + 1 = _
  rw [lineCount_of_ended _ (before_ended namespaces), lines]
  simp [runtimeLines, useLines, closureLines]

end FirstLine
end Scaffold

namespace Compile

section Messages

def valueOf? (line : List Char) : Option Json.Value :=
  if line.head? = some '\x7b' then Json.read? line else none

/-- The errors a compiler reports, as it wrote them. -/
def messages (stderr : List Char) : List Json.Value :=
  ((Text.lines stderr).filterMap valueOf?).filter fun value => (reportOf? value).any Report.counts

theorem read_eq (line : List Char) : Report.read? line = (valueOf? line).bind reportOf? := by
  cases line with
  | nil => rfl
  | cons c rest =>
      by_cases opens : c = '\x7b'
      · rw [opens, valueOf?, if_pos List.head?_cons]
        rfl
      · simp [Report.read?, valueOf?, opens]

theorem errors_of_lines (lines : List (List Char)) :
    ((lines.filterMap valueOf?).filter fun value => (reportOf? value).any Report.counts).map reportOf? =
      ((lines.filterMap Report.read?).filter Report.counts).map some := by
  induction lines with
  | nil => rfl
  | cons line rest ih =>
      cases written : valueOf? line with
      | none =>
          have unread : Report.read? line = none := by rw [read_eq, written, Option.bind_none]
          rwa [List.filterMap_cons_none written, List.filterMap_cons_none unread]
      | some value =>
          rw [List.filterMap_cons_some written]
          cases read : reportOf? value with
          | none =>
              have unread : Report.read? line = none := by rw [read_eq, written, Option.bind_some, read]
              rw [List.filterMap_cons_none unread, List.filter_cons_of_neg (by simp [read])]
              exact ih
          | some report =>
              have reads : Report.read? line = some report := by rw [read_eq, written, Option.bind_some, read]
              rw [List.filterMap_cons_some reads]
              by_cases counts : report.counts = true
              · rw [List.filter_cons_of_pos (by simp [read, counts]), List.filter_cons_of_pos counts,
                  List.map_cons, List.map_cons, ih, read]
              · rw [List.filter_cons_of_neg (by simp [read, counts]), List.filter_cons_of_neg counts]
                exact ih

/-- Each error is read from its message, in the same order. -/
theorem errors_of_messages (stderr : List Char) : (messages stderr).map reportOf? = (errors stderr).map some :=
  errors_of_lines (Text.lines stderr)

end Messages

section Spans

/-- The spans a message lists. -/
inductive Spans : Json.Value → List Json.Value → Prop where
  | byName {fields : List (Option String × Json.Value)} {spans : List Json.Value}
      (listed : (some "spans", .array spans) ∈ fields) : Spans (.object fields) spans
  | inOrder (message level : Json.Value) (spans : List Json.Value) : Spans (.array [message, level, .array spans]) spans

/-- The first primary span of several, and the place it gives. -/
inductive FirstPrimary : List Json.Value → Json.Value → Mark → Prop where
  | here {span : Json.Value} {mark : Mark} (rest : List Json.Value) (read : markOf? span = some mark)
      (primary : mark.primary = true) : FirstPrimary (span :: rest) span mark
  | later {other span : Json.Value} {secondary mark : Mark} {rest : List Json.Value}
      (read : markOf? other = some secondary) (notPrimary : secondary.primary = false)
      (found : FirstPrimary rest span mark) : FirstPrimary (other :: rest) span mark

/-- The file a span is in. -/
def IsIn (file : String) (span : Json.Value) : Prop :=
  ∃ fields, span = .object fields ∧ (some "file_name", .string (some file)) ∈ fields

theorem not_secondary {span : Json.Value} {mark secondary : Mark} (read : markOf? span = some mark)
    (primary : mark.primary = true) (readToo : markOf? span = some secondary) : secondary.primary ≠ false := by
  cases Option.some.inj (read.symm.trans readToo)
  rw [primary]
  exact Bool.noConfusion

theorem firstPrimary_unique {spans : List Json.Value} {span other : Json.Value} {mark another : Mark}
    (first : FirstPrimary spans span mark) (second : FirstPrimary spans other another) :
    span = other ∧ mark = another := by
  induction first with
  | here rest read primary =>
      cases second with
      | here _ readToo _ => exact ⟨rfl, Option.some.inj (read.symm.trans readToo)⟩
      | later readToo notPrimary _ => exact absurd notPrimary (not_secondary read primary readToo)
  | later read notPrimary _ ih =>
      cases second with
      | here _ readToo primary => exact absurd notPrimary (not_secondary readToo primary read)
      | later _ _ found => exact ih found

theorem find_primary_iff (spans : List Json.Value) (marks : List Mark) (read : spans.mapM markOf? = some marks)
    (mark : Mark) : marks.find? Mark.primary = some mark ↔ ∃ span, FirstPrimary spans span mark := by
  induction spans generalizing marks with
  | nil =>
      cases read
      constructor
      · rintro ⟨⟩
      · rintro ⟨_, ⟨⟩⟩
  | cons span rest ih =>
      rw [List.mapM_cons] at read
      obtain ⟨first, readFirst, more⟩ := Option.bind_eq_some_iff.mp read
      obtain ⟨others, readOthers, made⟩ := Option.bind_eq_some_iff.mp more
      cases made
      rw [List.find?_cons]
      cases primary : first.primary with
      | true =>
          constructor
          · rintro ⟨⟩
            exact ⟨span, .here rest readFirst primary⟩
          · rintro ⟨_, found⟩
            rw [(firstPrimary_unique found (.here rest readFirst primary)).2]
      | false =>
          rw [ih others readOthers]
          constructor
          · rintro ⟨other, found⟩
            exact ⟨other, .later readFirst primary found⟩
          · rintro ⟨other, found⟩
            cases found with
            | here _ readToo isPrimary => exact absurd primary (not_secondary readToo isPrimary readFirst)
            | later _ _ found => exact ⟨other, found⟩

/-- The fields of a message that are read; every other one is passed over. -/
def reportFields : List Json.Field :=
  [⟨"message", .required⟩, ⟨"level", .required⟩, ⟨"spans", .optional⟩]

theorem report_parts {message : Json.Value} {report : Report} (read : reportOf? message = some report) :
    ∃ text level marks, Json.fields? reportFields message = some [some text, some level, marks] ∧
      marksOf? marks = some report.marks := by
  unfold reportOf? at read
  obtain ⟨parts, found, made⟩ := Option.bind_eq_some_iff.mp read
  split at made
  · next text level marks =>
      obtain ⟨_, _, made⟩ := Option.bind_eq_some_iff.mp made
      obtain ⟨_, _, made⟩ := Option.bind_eq_some_iff.mp made
      obtain ⟨_, marked, made⟩ := Option.bind_eq_some_iff.mp made
      cases made
      exact ⟨text, level, marks, found, marked⟩
  · cases made

theorem mem_valuesOf (name : String) (value : Json.Value) (fields : List (Option String × Json.Value)) :
    value ∈ Json.valuesOf name fields ↔ (some name, value) ∈ fields := by
  simp [Json.valuesOf]

theorem byName_optional {name : String} {fields : List (Option String × Json.Value)} {found : Option Json.Value}
    (read : Json.byName ⟨name, .optional⟩ fields = some found) (value : Json.Value) :
    (some name, value) ∈ fields ↔ found = some value := by
  rw [← mem_valuesOf]
  unfold Json.byName at read
  split at read
  · next absent =>
      cases read
      simp [absent]
  · next one only =>
      cases read
      simp [only, eq_comm]
  · cases read

theorem getElem?_of_mapM {α β : Type} {read : α → Option β} {items : List α} {results : List β}
    (all : items.mapM read = some results) (place : Nat) : results[place]? = items[place]?.bind read := by
  induction items generalizing results place with
  | nil =>
      cases all
      rfl
  | cons item rest ih =>
      rw [List.mapM_cons] at all
      obtain ⟨first, readFirst, more⟩ := Option.bind_eq_some_iff.mp all
      obtain ⟨others, readOthers, made⟩ := Option.bind_eq_some_iff.mp more
      cases made
      cases place with
      | zero => rw [List.getElem?_cons_zero, List.getElem?_cons_zero, Option.bind_some, readFirst]
      | succ later => rw [List.getElem?_cons_succ, List.getElem?_cons_succ, ih readOthers later]

theorem spans_iff {message text level : Json.Value} {marks : Option Json.Value}
    (parts : Json.fields? reportFields message = some [some text, some level, marks])
    (spans : List Json.Value) : Spans message spans ↔ marks = some (.array spans) := by
  -- A record is an object with its fields by name or an array with them in order; nothing else was read.
  cases message with
  | object fields =>
      have named : Json.byName ⟨"spans", .optional⟩ fields = some marks := by
        simp only [Json.fields?] at parts
        split at parts
        · exact (getElem?_of_mapM parts 2).symm
        · cases parts
      rw [← byName_optional named]
      constructor
      · rintro ⟨listed⟩
        exact listed
      · exact .byName
  | array items =>
      match items with
      | [] => cases parts
      | [_] => cases parts
      | [_, _] =>
          cases parts
          constructor
          · rintro ⟨⟩
          · rintro ⟨⟩
      | [_, _, third] =>
          cases parts
          constructor
          · rintro ⟨⟩
            rfl
          · rintro ⟨⟩
            exact .inOrder _ _ spans
      | _ :: _ :: _ :: _ :: _ => cases parts
  | null => cases parts
  | bool => cases parts
  | number => cases parts
  | string => cases parts

/-- A message points to a place in a span: the span is the first primary one it lists. -/
def Points (message span : Json.Value) (mark : Mark) : Prop :=
  ∃ spans, Spans message spans ∧ FirstPrimary spans span mark

theorem find_primary_of_read {message : Json.Value} {report : Report} (read : reportOf? message = some report)
    (mark : Mark) : report.marks.find? Mark.primary = some mark ↔ ∃ span, Points message span mark := by
  obtain ⟨text, level, marks, parts, marked⟩ := report_parts read
  have listed := spans_iff parts
  cases marks with
  | none =>
      have unmarked : report.marks = [] := (Option.some.inj marked).symm
      rw [unmarked]
      constructor
      · rintro ⟨⟩
      · rintro ⟨span, spans, lists, _⟩
        cases (listed spans).mp lists
  | some value =>
      cases value with
      | array items =>
          rw [find_primary_iff items report.marks marked mark]
          constructor
          · rintro ⟨span, found⟩
            exact ⟨span, items, (listed items).mpr rfl, found⟩
          · rintro ⟨span, spans, lists, found⟩
            cases (listed spans).mp lists
            exact ⟨span, found⟩
      | null => cases marked
      | bool => cases marked
      | number => cases marked
      | string => cases marked
      | object => cases marked

theorem points_unique {message span other : Json.Value} {mark another : Mark} {report : Report}
    (read : reportOf? message = some report) (first : Points message span mark)
    (second : Points message other another) : span = other := by
  obtain ⟨text, level, marks, parts, _⟩ := report_parts read
  obtain ⟨spans, lists, found⟩ := first
  obtain ⟨others, listsToo, foundToo⟩ := second
  cases ((spans_iff parts spans).mp lists).symm.trans ((spans_iff parts others).mp listsToo)
  exact (firstPrimary_unique found foundToo).1

end Spans

section Places

/-- The place in the snippet that a span stands for, where it starts in the lines of the snippet. -/
structure Located (program : Program) (mark : Mark) (location : Location) : Prop where
  starts : program.snippetLine ≤ mark.line
  ends : mark.line < program.snippetLine + program.snippetLines
  line : location.line = mark.line - program.snippetLine + 1
  column : location.column = mark.column

theorem location_iff {message : Json.Value} {report : Report} (read : reportOf? message = some report)
    (program : Program) (location : Location) : report.location? program = some location ↔
      ∃ span mark, Points message span mark ∧ Located program mark location := by
  constructor
  · intro found
    obtain ⟨mark, primary, pointed⟩ := Option.bind_eq_some_iff.mp found
    obtain ⟨line, mapped, made⟩ := Option.bind_eq_some_iff.mp pointed
    obtain ⟨span, points⟩ := (find_primary_of_read read mark).mp primary
    obtain ⟨starts, ends, same⟩ := (Scaffold.snippetLine?_some_iff program mark.line line).mp mapped
    cases made
    exact ⟨span, mark, points, starts, ends, same, rfl⟩
  · rintro ⟨span, mark, points, starts, ends, line, column⟩
    have primary := (find_primary_of_read read mark).mpr ⟨span, points⟩
    have mapped := (Scaffold.snippetLine?_some_iff program mark.line location.line).mpr ⟨starts, ends, line⟩
    simp only [Report.location?, primary, mapped, ← column, bind, Option.bind_some, pure]

variable {stderr : List Char} {place : Nat}

theorem error_of_message {message : Json.Value} (there : (messages stderr)[place]? = some message) :
    ∃ report, reportOf? message = some report ∧ (errors stderr)[place]? = some report := by
  have same := congrArg (·[place]?) (errors_of_messages stderr)
  simp only [List.getElem?_map, there, Option.map_some] at same
  obtain ⟨report, known, read⟩ := Option.map_eq_some_iff.mp same.symm
  exact ⟨report, read.symm, known⟩

theorem message_of_error {report : Report} (there : (errors stderr)[place]? = some report) :
    ∃ message, (messages stderr)[place]? = some message ∧ reportOf? message = some report := by
  have same := congrArg (·[place]?) (errors_of_messages stderr)
  simp only [List.getElem?_map, there, Option.map_some] at same
  exact Option.map_eq_some_iff.mp same

theorem diagnostic_of_error (program : Program) {report : Report} (there : (errors stderr)[place]? = some report) :
    (diagnostics stderr program)[place]? = some (report.toDiagnostic program) := by
  unfold diagnostics
  split
  · next empty =>
      rw [empty] at there
      cases there
  · rw [List.getElem?_map, there, Option.map_some]

/-- What points anywhere is the diagnostic of an error. -/
theorem error_of_located {program : Program} {diagnostic : Diagnostic} {location : Location}
    (there : (diagnostics stderr program)[place]? = some diagnostic)
    (located : diagnostic.location = some location) :
    ∃ report, (errors stderr)[place]? = some report ∧ diagnostic = report.toDiagnostic program := by
  unfold diagnostics at there
  split at there
  · rw [List.mem_singleton.mp (List.mem_of_getElem? there)] at located
    cases located
  · rw [List.getElem?_map] at there
    obtain ⟨report, known, made⟩ := Option.map_eq_some_iff.mp there
    exact ⟨report, known, made.symm⟩

/-- A diagnostic has a place in the snippet exactly where its message points into the lines of the snippet. -/
theorem location_of_message {program : Program} {diagnostic : Diagnostic}
    (there : (diagnostics stderr program)[place]? = some diagnostic) (location : Location) :
    diagnostic.location = some location ↔ ∃ message span mark, (messages stderr)[place]? = some message ∧
      Points message span mark ∧ Located program mark location := by
  constructor
  · intro located
    obtain ⟨report, known, rfl⟩ := error_of_located there located
    obtain ⟨message, said, read⟩ := message_of_error known
    obtain ⟨span, mark, points, inside⟩ := (location_iff read program location).mp located
    exact ⟨message, span, mark, said, points, inside⟩
  · rintro ⟨message, span, mark, said, points, inside⟩
    obtain ⟨report, read, known⟩ := error_of_message said
    have made := diagnostic_of_error program known
    rw [there] at made
    cases made
    exact (location_iff read program location).mpr ⟨span, mark, points, inside⟩

/-- Every diagnostic with a place in the snippet is one of a message that points into this file, and there. -/
def PointsInto (source : String) (stderr : List Char) (program : Program) : Prop :=
  ∀ (place : Nat) (diagnostic : Diagnostic) (location : Location),
    (diagnostics stderr program)[place]? = some diagnostic → diagnostic.location = some location →
      ∃ message span mark, (messages stderr)[place]? = some message ∧ Points message span mark ∧
        IsIn source span ∧ Located program mark location

theorem isIn_of_pointsInto {source : String} {program : Program} (faithful : PointsInto source stderr program)
    {message span : Json.Value} {mark : Mark} {location : Location} (said : message ∈ messages stderr)
    (points : Points message span mark) (inside : Located program mark location) : IsIn source span := by
  obtain ⟨place, there⟩ := List.mem_iff_getElem?.mp said
  obtain ⟨report, read, known⟩ := error_of_message there
  have made := diagnostic_of_error program known
  have located := (location_iff read program location).mpr ⟨span, mark, points, inside⟩
  obtain ⟨other, pointed, _, saidToo, pointsToo, within, _⟩ := faithful place _ location made located
  cases there.symm.trans saidToo
  rwa [points_unique read points pointsToo]

/-- A diagnostic has the place of the first primary span where that starts in the lines of the snippet, and no place
otherwise. So its place is one in the program's source if and only if no message points to such lines of
another file. -/
theorem places_in_source_iff (stderr : List Char) (program : Program) (source : String) :
    (∀ (place : Nat) (diagnostic : Diagnostic) (location : Location),
      (diagnostics stderr program)[place]? = some diagnostic →
        (diagnostic.location = some location ↔ ∃ message span mark, (messages stderr)[place]? = some message ∧
          Points message span mark ∧ Located program mark location)) ∧
    (PointsInto source stderr program ↔ ∀ message ∈ messages stderr, ∀ span mark location,
      Points message span mark → Located program mark location → IsIn source span) := by
  refine ⟨fun _ _ location there => location_of_message there location, ?_, ?_⟩
  · intro faithful message said span mark location points inside
    exact isIn_of_pointsInto faithful said points inside
  · intro own place diagnostic location there located
    obtain ⟨message, span, mark, said, points, inside⟩ := (location_of_message there location).mp located
    have within := own message (List.mem_of_getElem? said) span mark location points inside
    exact ⟨message, span, mark, said, points, within, inside⟩

-- A program whose snippet starts on line 99, and a message that points to line 100 of a macro of the standard library.
def sumProgram : Program :=
  Scaffold.wrap "let n = 1;\nn + \"a\"" []

def macroMessage : String :=
  "\x7b\"message\":\"mismatched types\",\"level\":\"error\",\"spans\":[\x7b" ++
    "\"file_name\":\"/rustc/library/core/src/macros/mod.rs\",\"line_start\":100,\"column_start\":13," ++
    "\"is_primary\":true\x7d]\x7d"

def macroSpan : Json.Value :=
  .object [ (some "file_name", .string (some "/rustc/library/core/src/macros/mod.rs")),
    (some "line_start", .number ⟨false, ['1', '0', '0'], [], none⟩),
    (some "column_start", .number ⟨false, ['1', '3'], [], none⟩), (some "is_primary", .bool true) ]

def macroValue : Json.Value :=
  .object [ (some "message", .string (some "mismatched types")), (some "level", .string (some "error")),
    (some "spans", .array [macroSpan]) ]

theorem macroMessage_read : Json.read? macroMessage.toList = some macroValue := by
  have tokens : Json.tokens? macroMessage.toList = some [ .opensObject, .string (some "message"), .colon,
      .string (some "mismatched types"), .comma, .string (some "level"), .colon, .string (some "error"), .comma,
      .string (some "spans"), .colon, .opensArray, .opensObject, .string (some "file_name"), .colon,
      .string (some "/rustc/library/core/src/macros/mod.rs"), .comma, .string (some "line_start"), .colon,
      .number ⟨false, ['1', '0', '0'], [], none⟩, .comma, .string (some "column_start"), .colon,
      .number ⟨false, ['1', '3'], [], none⟩, .comma, .string (some "is_primary"), .colon, .bool true,
      .closesObject, .closesArray, .closesObject ] := by
    decide +kernel
  rw [Json.read?, tokens]
  rfl

theorem macroMessage_said : messages macroMessage.toList = [macroValue] := by
  have lines : Text.lines macroMessage.toList = [macroMessage.toList] := by decide +kernel
  have opens : macroMessage.toList.head? = some '\x7b' := by decide +kernel
  have value : valueOf? macroMessage.toList = some macroValue := by rw [valueOf?, if_pos opens, macroMessage_read]
  have counts : (reportOf? macroValue).any Report.counts = true := by decide +kernel
  rw [messages, lines, List.filterMap_cons_some value, List.filterMap_nil]
  exact List.filter_cons_of_pos counts

theorem macroMessage_points : Points macroValue macroSpan ⟨100, 13, true⟩ :=
  ⟨[macroSpan], .byName (by simp), .here [] (by decide +kernel) rfl⟩

theorem macroSpan_located : Located sumProgram ⟨100, 13, true⟩ ⟨2, 13⟩ := by
  have first : sumProgram.snippetLine = 99 := Scaffold.snippetLine_eq _ [] (by simp)
  have count : sumProgram.snippetLines = 2 := by decide +kernel
  constructor <;> simp [first, count]

theorem place_of_macro_line : ∃ diagnostic, (diagnostics macroMessage.toList sumProgram)[0]? = some diagnostic ∧
    diagnostic.location = some ⟨2, 13⟩ := by
  have said : (messages macroMessage.toList)[0]? = some macroValue := by
    rw [macroMessage_said]
    rfl
  obtain ⟨report, read, known⟩ := error_of_message said
  have made := diagnostic_of_error sumProgram known
  have placed := (places_in_source_iff macroMessage.toList sumProgram "main.rs").1 0 _ ⟨2, 13⟩ made
  exact ⟨_, made, placed.mpr ⟨macroValue, macroSpan, _, said, macroMessage_points, macroSpan_located⟩⟩

theorem place_of_foreign_line :
    ¬ PointsInto "/tmp/snipbox-build-aaaaaa/main.rs" macroMessage.toList sumProgram := by
  intro faithful
  have said : macroValue ∈ messages macroMessage.toList := by
    rw [macroMessage_said]
    exact List.mem_cons_self
  obtain ⟨fields, same, listed⟩ := isIn_of_pointsInto faithful said macroMessage_points macroSpan_located
  cases same
  simp at listed

end Places
end Compile
end SnippetRunner
