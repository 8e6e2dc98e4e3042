import SnippetRunner.Settings.Toml.Scalar
import SnippetRunner.Settings.Toml.Table

/-!
The TOML reader: a document is key lines and headers. Arrays and inline tables that are still open are kept
on a stack; both may span lines, hold comments and end with a comma.
-/

namespace SnippetRunner.Settings.Toml

section Keys

def isBareChar (c : Char) : Bool :=
  ('a' ≤ c && c ≤ 'z') || ('A' ≤ c && c ≤ 'Z') || Number.isDigit c || c == '_' || c == '-'

/-- One part of a key, bare or quoted, and how many characters it takes. -/
def keyPart? (text : List Char) : Option (String × Nat) :=
  match quoted? text with
  | some found => some found
  | none =>
      let bare := text.takeWhile isBareChar
      if bare.isEmpty then none else some (String.ofList bare, bare.length)

-- The parts of a dotted key, newest first, with blanks around the dots.
def keyFrom (parts : List String) (count : Nat) (text : List Char) : Option (List String × Nat) :=
  match keyPart? text with
  | none => none
  | some (part, size) =>
      let after := size + blanks (text.drop size)
      match _h : text.drop after with
      | '.' :: rest =>
          let gap := blanks rest
          keyFrom (part :: parts) (count + after + 1 + gap) (rest.drop gap)
      | _ => some (part :: parts, count + after)
termination_by text.length
decreasing_by
  have shorter := congrArg List.length _h
  simp at shorter
  simp
  omega

/-- The path and the name of a key, and how many characters it takes with the blanks after it. -/
def key? (text : List Char) : Option (List String × String × Nat) :=
  match keyFrom [] 0 text with
  | some (name :: path, count) => some (path.reverse, name, count)
  | _ => none

-- A key and its equals sign, with the blanks around it.
def assignment? (text : List Char) : Option (List String × String × Nat) :=
  match key? text with
  | none => none
  | some (path, name, count) =>
      match text.drop count with
      | '=' :: rest => some (path, name, count + 1 + blanks rest)
      | _ => none

end Keys

section Values

inductive Frame where
  | array (done : List Value)
  | inline (entries : Entries) (path : List String) (name : String)

inductive Expected where
  | value
  -- a value or the end of the array
  | item (done : List Value)
  -- a key or the end of the inline table
  | field (entries : Entries)
  | after (value : Value)

-- Values nest no deeper than this.
def depthLimit : Nat := 80

/-- Reads a value; the answer has the value and how many characters it takes. -/
def valueFrom (opened : List Frame) (expected : Expected) (count : Nat) (text : List Char) :
    Option (Value × Nat) :=
  match expected with
  | .value =>
      match text with
      | '[' :: rest =>
          if depthLimit ≤ opened.length then none else valueFrom opened (.item []) (count + 1) rest
      | '{' :: rest =>
          if depthLimit ≤ opened.length then none else valueFrom opened (.field []) (count + 1) rest
      | _ :: rest =>
          match scalar? text with
          | none => none
          | some (value, size) => valueFrom opened (.after value) (count + size) (rest.drop (size - 1))
      | [] => none
  | .item done =>
      let gap := spaced text
      match _h : text.drop gap with
      | ']' :: rest => valueFrom opened (.after (.array done.reverse)) (count + gap + 1) rest
      | '[' :: rest =>
          if depthLimit ≤ opened.length + 1 then none
          else valueFrom (.array done :: opened) (.item []) (count + gap + 1) rest
      | '{' :: rest =>
          if depthLimit ≤ opened.length + 1 then none
          else valueFrom (.array done :: opened) (.field []) (count + gap + 1) rest
      | c :: rest =>
          match scalar? (c :: rest) with
          | none => none
          | some (value, size) =>
              valueFrom (.array done :: opened) (.after value) (count + gap + size) (rest.drop (size - 1))
      | [] => none
  | .field entries =>
      let gap := spaced text
      match _h : text.drop gap with
      | '}' :: rest =>
          valueFrom opened (.after (.table (toFields entries))) (count + gap + 1) rest
      | c :: rest =>
          match assignment? (c :: rest) with
          | none => none
          | some (path, name, size) =>
              valueFrom (.inline entries path name :: opened) .value (count + gap + size)
                (rest.drop (size - 1))
      | [] => none
  | .after value =>
      match opened with
      | [] => some (value, count)
      | .array done :: outer =>
          let gap := spaced text
          match _h : text.drop gap with
          | ',' :: rest => valueFrom outer (.item (value :: done)) (count + gap + 1) rest
          | ']' :: rest =>
              valueFrom outer (.after (.array (value :: done).reverse)) (count + gap + 1) rest
          | _ => none
      | .inline entries path name :: outer =>
          let gap := spaced text
          match entries.assign name value path with
          | none => none
          | some entries =>
              match _h : text.drop gap with
              | ',' :: rest => valueFrom outer (.field entries) (count + gap + 1) rest
              | '}' :: rest =>
                  valueFrom outer (.after (.table (toFields entries))) (count + gap + 1) rest
              | _ => none
termination_by text.length
decreasing_by
  all_goals
    first
    | (simp; done)
    | (simp; omega)
    | (have shorter := congrArg List.length _h
       simp at shorter
       simp
       omega)

def value? (text : List Char) : Option (Value × Nat) :=
  valueFrom [] .value 0 text

end Values

section Documents

/-- What one line says. -/
inductive Line where
  | entry (path : List String) (name : String) (value : Value)
  | table (path : List String) (name : String)
  | row (path : List String) (name : String)

-- A header after its opening, up to its end.
def header? (ending : List Char) (text : List Char) : Option (List String × String × Nat) :=
  let gap := blanks text
  match key? (text.drop gap) with
  | none => none
  | some (path, name, count) =>
      if ending.isPrefixOf (text.drop (gap + count)) then
        some (path, name, gap + count + ending.length)
      else none

def lineBody? (text : List Char) : Option (Line × Nat) :=
  match text with
  | '[' :: '[' :: rest =>
      (header? [']', ']'] rest).map fun (path, name, count) => (.row path name, count + 2)
  | '[' :: rest => (header? [']'] rest).map fun (path, name, count) => (.table path name, count + 1)
  | _ =>
      match assignment? text with
      | none => none
      | some (path, name, count) =>
          (value? (text.drop count)).map fun (value, size) => (.entry path name value, count + size)

/-- A line that says something, up to and with its end. -/
def line? (text : List Char) : Option (Line × Nat) :=
  match lineBody? text with
  | none => none
  | some (line, count) => (lineEnd? (text.drop count)).map fun ending => (line, count + ending)

/-- A document so far, and the path of the table that key lines add to. -/
structure Document where
  root : Entries
  current : List String

def Document.add (document : Document) : Line → Option Document
  | .entry path name value =>
      (document.root.at? (Entries.assign name value path) document.current).map fun root =>
        { document with root := root }
  | .table path name =>
      (document.root.at? (Entries.openTable name) path).map fun root => ⟨root, path ++ [name]⟩
  | .row path name =>
      (document.root.at? (Entries.pushTable name) path).map fun root => ⟨root, path ++ [name]⟩

def documentFrom (document : Document) (text : List Char) : Option Document :=
  match _h : text.drop (spaced text) with
  | [] => some document
  | c :: rest =>
      match line? (c :: rest) with
      | none => none
      | some (line, count) =>
          match document.add line with
          | none => none
          | some document => documentFrom document (rest.drop (count - 1))
termination_by text.length
decreasing_by
  have shorter := congrArg List.length _h
  simp at shorter
  simp
  omega

def withoutByteOrderMark (text : List Char) : List Char :=
  match text with
  | c :: rest => if c.toNat == 0xfeff then rest else text
  | [] => []

/-- Reads a whole document, which is a table. -/
def read? (text : List Char) : Option Fields :=
  (documentFrom ⟨[], []⟩ (withoutByteOrderMark text)).map fun document => toFields document.root

end Documents
end SnippetRunner.Settings.Toml
