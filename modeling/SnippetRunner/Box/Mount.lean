import SnippetRunner.Json.Record
import SnippetRunner.Json.Writer

/-!
Mounts: directories of the host that show inside a box.
-/

namespace SnippetRunner.Box

structure Mount where
  -- on the host
  source : String
  -- inside the box
  target : String
  writable : Bool
  -- left out without complaint when its source does not exist
  optional : Bool
  deriving DecidableEq

namespace Mount

def toJson (mount : Mount) : String :=
  Json.writeObject
    [ ("source", Json.writeString mount.source), ("target", Json.writeString mount.target),
      ("writable", Json.writeBool mount.writable), ("optional", Json.writeBool mount.optional) ]

def readFlag : Option Json.Value → Option Bool
  | none => some false
  | some value => Json.bool? value

def ofJson? (value : Json.Value) : Option Mount := do
  let specs := [⟨"source", .required⟩, ⟨"target", .required⟩, ⟨"writable", .optional⟩,
    ⟨"optional", .optional⟩]
  match ← Json.fields? specs value with
  | [some source, some target, writable, optional] =>
      pure ⟨← Json.text? source, ← Json.text? target, ← readFlag writable, ← readFlag optional⟩
  | _ => none

/-- Reads a mount from JSON text. -/
def read? (text : String) : Option Mount :=
  (Json.read? text.toList).bind ofJson?

end Mount
end SnippetRunner.Box
