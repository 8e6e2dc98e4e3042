import SnippetRunner.Json.Record
import SnippetRunner.Json.Writer
import SnippetRunner.Text.Blank
import SnippetRunner.Text.Lines
import SnippetRunner.Text.Utf8

/-!
What a worker is sent and what it sends back: one request a line, and one line for each reply. A line that is
no request is passed over; octets that are no text end the stream.
-/

namespace SnippetRunner.Worker

structure Envelope where
  clientId : String
  code : String
  deriving DecidableEq

structure Reply where
  clientId : String
  result : String
  deriving DecidableEq

inductive Line where
  | request (envelope : Envelope)
  | blank
  | malformed
  deriving DecidableEq

section Requests

def Envelope.ofJson? (value : Json.Value) : Option Envelope := do
  match ← Json.fields? [⟨"client_id", .required⟩, ⟨"code", .required⟩] value with
  | [some clientId, some code] => pure ⟨← Json.text? clientId, ← Json.text? code⟩
  | _ => none

def Line.ofText (text : List Char) : Line :=
  if (Text.trim text).isEmpty then .blank
  else
    match (Json.read? text).bind Envelope.ofJson? with
    | some envelope => .request envelope
    | none => .malformed

end Requests

section Stream

-- The octet that ends a line.
def lineFeed : UInt8 := 0x0a

def cutFrom (line : Bytes) : Bytes → List Bytes
  | [] => if line.isEmpty then [] else [line.reverse]
  | b :: rest =>
      if b == lineFeed then (b :: line).reverse :: cutFrom [] rest else cutFrom (b :: line) rest

/-- The lines of a stream, each with the line feed that ends it. -/
def cut (stream : Bytes) : List Bytes :=
  cutFrom [] stream

def withoutEnd (text : List Char) : List Char :=
  if text.getLast? == some '\n' then Text.dropReturn text.dropLast else text

/-- Reads one line; places in a fault count from its beginning. -/
def Line.read (octets : Bytes) : Except Utf8.Fault Line := do
  let text ← Utf8.readStrict octets
  pure (.ofText (withoutEnd text))

end Stream

section Replies

def Reply.toJson (reply : Reply) : String :=
  Json.writeObject
    [ ("client_id", Json.writeString reply.clientId), ("status", Json.writeString "ok"),
      ("result", Json.writeString reply.result) ]

/-- The line that tells a client its result. -/
def Reply.line (reply : Reply) : String :=
  reply.toJson ++ "\n"

end Replies
end SnippetRunner.Worker
