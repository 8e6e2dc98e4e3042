import SnippetRunner.Request.Pipeline
import SnippetRunner.Worker.Envelope

/-!
Serving a stream of requests one after the other. What a request is answered does not depend on the others,
so replies come in the order of the requests. Where the stream breaks off, nobody waits for replies.
-/

namespace SnippetRunner.Worker
open Files (Tree)
variable {φ σ : Type}

structure Served where
  replies : List Reply
  -- lines that are no requests
  skipped : Nat
  fault : Option Utf8.Fault

/-- The lines up to the first that is no text, and what is wrong with that one. -/
def readLines : List Bytes → List Line × Option Utf8.Fault
  | [] => ([], none)
  | octets :: rest =>
      match Line.read octets with
      | .error fault => ([], some fault)
      | .ok line =>
          let (lines, fault) := readLines rest
          (line :: lines, fault)

def requests (lines : List Line) : List Envelope :=
  lines.filterMap fun line =>
    match line with
    | .request envelope => some envelope
    | _ => none

/-- Answers requests in order; nothing if one of them waits for ever. -/
def answerAll (executor : Request.Executor φ σ) (factory : φ) (files : Tree) :
    List Envelope → Option (List Reply) × Tree
  | [] => (some [], files)
  | envelope :: rest =>
      match executor.evaluate envelope.code factory files with
      | (none, _, files) => (none, files)
      | (some result, factory, files) =>
          let (replies, files) := answerAll executor factory files rest
          (replies.map (⟨envelope.clientId, result.text⟩ :: ·), files)

def serve (executor : Request.Executor φ σ) (factory : φ) (stream : Bytes) (files : Tree) :
    Option Served × Tree :=
  let (lines, fault) := readLines (cut stream)
  let skipped := lines.count .malformed
  match fault with
  | some fault => (some ⟨[], skipped, some fault⟩, files)
  | none =>
      let (replies, files) := answerAll executor factory files (requests lines)
      (replies.map fun replies => ⟨replies, skipped, none⟩, files)

end SnippetRunner.Worker
