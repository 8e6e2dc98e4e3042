import SnippetRunner.Proofs.WrittenJson
import SnippetRunner.Proofs.Worker.Stream

/-!
What a client makes of the output. Every reply is one line, whatever is in it, and that line is read as the
reply; replies that are written one after the other are cut into the same lines again.
-/

namespace SnippetRunner.Worker

namespace Reply

/-- The octets that go out for a reply. -/
def octets (reply : Reply) : Bytes :=
  Utf8.write reply.line.toList

def ofJson? (value : Json.Value) : Option Reply := do
  match ← Json.fields? [⟨"client_id", .required⟩, ⟨"status", .required⟩, ⟨"result", .required⟩] value with
  | [some clientId, some status, some result] =>
      if Json.text? status = some "ok" then pure ⟨← Json.text? clientId, ← Json.text? result⟩ else none
  | _ => none

/-- The reply that a line is read as. -/
def ofOctets? (octets : Bytes) : Option Reply :=
  match Utf8.readStrict octets with
  | .ok text => (Json.read? text).bind ofJson?
  | .error _ => none

section OneLine
variable (reply : Reply)

theorem line_toList : reply.line.toList = reply.toJson.toList ++ ['\n'] :=
  String.toList_append

theorem feed_not_mem_toJson : '\n' ∉ reply.toJson.toList := by
  refine Json.feed_not_mem_writeObject _ fun field among => ?_
  simp only [List.mem_cons, List.not_mem_nil, or_false] at among
  rcases among with rfl | rfl | rfl <;> exact Json.feed_not_mem_writeString _

/-- The only line feed of a reply is its last octet. -/
theorem octets_one_line : ∃ body, reply.octets = body ++ [lineFeed] ∧ lineFeed ∉ body := by
  refine ⟨Utf8.write reply.toJson.toList, ?_, Utf8.feed_not_mem_write _ reply.feed_not_mem_toJson⟩
  rw [octets, line_toList, Utf8.write_append, Utf8.write_feed]
  rfl

theorem tells_toJson : Json.Tells reply.toJson.toList
    (.object [(some "client_id", .string (some reply.clientId)), (some "status", .string (some "ok")),
      (some "result", .string (some reply.result))]) := by
  refine Json.tells_object
    [ ("client_id", Json.writeString reply.clientId, .string (some reply.clientId)),
      ("status", Json.writeString "ok", .string (some "ok")),
      ("result", Json.writeString reply.result, .string (some reply.result)) ] (List.cons_ne_nil _ _)
    fun field among => ?_
  simp only [List.mem_cons, List.not_mem_nil, or_false] at among
  rcases among with rfl | rfl | rfl <;> exact Json.tells_string _

/-- A client reads the reply that was written. -/
theorem ofOctets_octets : ofOctets? reply.octets = some reply := by
  rw [ofOctets?, octets, Utf8.readStrict_write, line_toList]
  show (Json.read? (reply.toJson.toList ++ ['\n'])).bind ofJson? = some reply
  rw [(Json.read_of_tells reply.tells_toJson).2]
  rfl

end OneLine

/-- The output is cut into one line for each reply. -/
theorem cut_octets (replies : List Reply) : cut (replies.flatMap octets) = replies.map octets := by
  induction replies with
  | nil => rfl
  | cons reply rest ih =>
      obtain ⟨body, ended, plain⟩ := reply.octets_one_line
      rw [List.flatMap_cons, List.map_cons, ended, List.append_assoc, List.singleton_append,
        cut_ended _ _ plain, ih]

theorem write_printed (replies : List Reply) :
    Utf8.write (String.join (replies.map line)).toList = replies.flatMap octets := by
  rw [String.toList_join, Utf8.write, List.flatMap_assoc, List.flatMap_map]
  rfl

/-- What is printed for several replies at once is cut into the same lines. -/
theorem cut_printed (replies : List Reply) :
    cut (Utf8.write (String.join (replies.map line)).toList) = replies.map octets := by
  rw [write_printed, cut_octets]

end Reply
end SnippetRunner.Worker
