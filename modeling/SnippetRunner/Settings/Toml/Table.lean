import SnippetRunner.Settings.Value

/-!
Tables while a document is read. A name is given once. A header may define a table that only paths of
headers have named so far, and dotted keys may add only to tables that dotted keys made.
-/

namespace SnippetRunner.Settings.Toml

inductive Origin where
  -- its own header
  | header
  -- the path of a header that goes on below it
  | passed
  -- a dotted key
  | dotted
  deriving DecidableEq

inductive Node where
  -- complete: nothing can be added
  | value (value : Value)
  | table (origin : Origin) (entries : List (String × Node))
  -- tables under one header each, newest first; headers go on below the newest
  | tables (newest : List (String × Node)) (older : List (List (String × Node)))

abbrev Entries := List (String × Node)

namespace Entries

def get? (name : String) (entries : Entries) : Option Node :=
  (entries.find? fun entry => entry.1 == name).map Prod.snd

def put (name : String) (node : Node) : Entries → Entries
  | [] => [(name, node)]
  | entry :: rest => if entry.1 == name then (name, node) :: rest else entry :: put name node rest

/-- Adds a value under a dotted key. -/
def assign (name : String) (value : Value) : List String → Entries → Option Entries
  | [], entries => if (entries.get? name).isSome then none else some (entries.put name (.value value))
  | step :: path, entries =>
      match entries.get? step with
      | none => (assign name value path []).map fun inner => entries.put step (.table .dotted inner)
      | some (.table origin inner) =>
          if origin == .header || (path.isEmpty && origin != .dotted) then none
          else (assign name value path inner).map fun inner => entries.put step (.table origin inner)
      | some (.tables newest older) =>
          if path.isEmpty then none
          else (assign name value path newest).map fun newest => entries.put step (.tables newest older)
      | some (.value _) => none

/-- Changes the table that a header's path leads to; tables on the way that are missing are made. -/
def at? (change : Entries → Option Entries) : List String → Entries → Option Entries
  | [], entries => change entries
  | step :: path, entries =>
      match entries.get? step with
      | none => (at? change path []).map fun inner => entries.put step (.table .passed inner)
      | some (.table origin inner) =>
          (at? change path inner).map fun inner => entries.put step (.table origin inner)
      | some (.tables newest older) =>
          (at? change path newest).map fun newest => entries.put step (.tables newest older)
      | some (.value _) => none

def openTable (name : String) (entries : Entries) : Option Entries :=
  match entries.get? name with
  | none => some (entries.put name (.table .header []))
  | some (.table .passed inner) => some (entries.put name (.table .header inner))
  | some _ => none

def pushTable (name : String) (entries : Entries) : Option Entries :=
  match entries.get? name with
  | none => some (entries.put name (.tables [] []))
  | some (.tables newest older) => some (entries.put name (.tables [] (newest :: older)))
  | some _ => none

end Entries

mutual

def Node.toValue : Node → Value
  | .value value => value
  | .table _ entries => .table (toFields entries)
  | .tables newest older => .array ((.table (toFields newest) :: toRows older).reverse)

def toFields : List (String × Node) → List (String × Value)
  | [] => []
  | (name, node) :: rest => (name, node.toValue) :: toFields rest

def toRows : List (List (String × Node)) → List Value
  | [] => []
  | entries :: rest => .table (toFields entries) :: toRows rest

end

end SnippetRunner.Settings.Toml
