import SnippetRunner.Files.Tree
import SnippetRunner.Settings.Document

/-!
Settings files. A file that is there is read by its extension; for a name without a file the known extensions
are tried after it.
-/

namespace SnippetRunner.Settings
open Files (Tree Path.join Path.extension? Path.names)

inductive FileFault where
  | missing (name : String)
  | unknownFormat (path : String)
  | unread (cause : Host.Fault)
  -- a fault in a document of this name
  | document (name : String) (fault : DocumentFault)
  deriving DecidableEq

section Finding

def formats : List (String × Format) :=
  [("toml", .toml), ("json", .json)]

def formatOf? (extension : String) : Option Format :=
  (formats.find? fun entry => entry.1 == extension).map Prod.snd

def isFile (files : Tree) (path : String) : Bool :=
  match files.node path with
  | .ok (.file _ _) => true
  | _ => false

def absolute (files : Tree) (path : String) : String :=
  Path.join (Files.Path.ofNames true files.here) path

/-- The file that a name means, and its format. -/
def find (files : Tree) (name : String) : Except FileFault (String × Format) :=
  if isFile files name then
    match formatOf? ((Path.extension? name).getD "") with
    | some format => .ok (name, format)
    | none => .error (.unknownFormat (absolute files name))
  else
    let tried := formats.map fun (extension, format) => (name ++ "." ++ extension, format)
    match tried.find? fun entry => isFile files entry.1 with
    | some entry => .ok entry
    | none => .error (.missing name)

/-- What messages call a file. -/
def documentName (files : Tree) (path : String) : String :=
  let names := Path.names (absolute files path)
  if files.here.isPrefixOf names then
    Files.Path.ofNames false ((names.drop files.here.length).filter (· != "."))
  else path

end Finding

section Reading

-- A byte order mark at the front is not part of the text.
def withoutMark : Bytes → Bytes
  | 0xef :: 0xbb :: 0xbf :: rest => rest
  | content => content

/-- Reads and checks the settings in a file. -/
def ofFile (files : Tree) (name : String) : Except FileFault Settings := do
  let (path, format) ← find files name
  let content ← (files.read path).mapError .unread
  let text := Utf8.readLossy (withoutMark content)
  (read format text).mapError (.document (documentName files path))

/-- Why there are no settings, each cause with those behind it. -/
def FileFault.causes : FileFault → List String
  | .missing name =>
      let reason := s!"configuration file \"{name}\" not found"
      [notParsed reason, reason]
  | .unknownFormat path =>
      let reason := s!"configuration file \"{path}\" is not of a registered file format"
      [notParsed reason, reason]
  | .unread cause => [notParsed cause.text, cause.text]
  | .document name .unreadable =>
      let reason := s!"malformed document in {name}"
      [notParsed reason, reason]
  | .document name (.misread fault) =>
      let reason := fault.reason (some name)
      [notParsed reason, reason]
  | .document _ (.invalid cause) => [cause.message]

end Reading
end SnippetRunner.Settings
