import SnippetRunner.Worker.Envelope

/-!
How requests flow through a worker. A reader takes lines and holds each request until there is a permit for
it; requests are executed side by side; a reply waits for room in a channel, which one writer empties. Each
of them takes its steps at its own pace.
-/

namespace SnippetRunner.Worker

structure Flow where
  unread : List Bytes
  -- what the reader waits with for a permit
  held : Option Envelope
  permits : Nat
  executing : List Envelope
  -- replies that wait for room
  answered : List Reply
  channel : List Reply
  written : List Reply
  -- no more replies come
  closed : Bool
  -- what ended the reading before its end
  fault : Option Utf8.Fault
  deriving DecidableEq

inductive Act where
  | read
  | launch
  -- by place among the requests that are executed
  | finish (index : Nat)
  -- by place among the replies that wait
  | send (index : Nat)
  | close
  | write
  deriving DecidableEq

-- Replies the channel has room for.
def room : Nat := 64

/-- Requests that are executed at the same time, at most; there is always one. -/
def limit (concurrency : Nat) : Nat :=
  max concurrency 1

namespace Flow

def start (concurrency : Nat) (stream : Bytes) : Flow :=
  { unread := cut stream, held := none, permits := limit concurrency, executing := [], answered := []
    channel := [], written := [], closed := false, fault := none }

section Steps

def read? (flow : Flow) : Option Flow :=
  match flow.fault, flow.held, flow.unread with
  | none, none, octets :: rest =>
      match Line.read octets with
      | .ok (.request envelope) => some { flow with unread := rest, held := some envelope }
      | .ok _ => some { flow with unread := rest }
      | .error fault => some { flow with unread := rest, fault := some fault }
  | _, _, _ => none

def launch? (flow : Flow) : Option Flow :=
  match flow.held with
  | some envelope =>
      if flow.permits = 0 then none
      else
        some { flow with held := none, permits := flow.permits - 1
                         executing := flow.executing ++ [envelope] }
  | none => none

-- The permit is back before the reply is sent.
def finish? (answer : String → String) (flow : Flow) (index : Nat) : Option Flow :=
  match flow.executing[index]? with
  | some envelope =>
      some { flow with executing := flow.executing.eraseIdx index, permits := flow.permits + 1
                       answered := flow.answered ++ [⟨envelope.clientId, answer envelope.code⟩] }
  | none => none

def send? (flow : Flow) (index : Nat) : Option Flow :=
  match flow.answered[index]? with
  | some reply =>
      if flow.channel.length < room then
        some { flow with answered := flow.answered.eraseIdx index, channel := flow.channel ++ [reply] }
      else none
  | none => none

/-- All lines are read and all requests are answered. -/
def isServed (flow : Flow) : Bool :=
  flow.unread.isEmpty && flow.held.isNone && flow.executing.isEmpty && flow.answered.isEmpty &&
    flow.fault.isNone

def close? (flow : Flow) : Option Flow :=
  if flow.isServed && !flow.closed then some { flow with closed := true } else none

def write? (flow : Flow) : Option Flow :=
  match flow.channel with
  | reply :: rest => some { flow with channel := rest, written := flow.written ++ [reply] }
  | [] => none

/-- The flow after a step, if the step can be taken; `answer` is what executing a code gives. -/
def step? (answer : String → String) (flow : Flow) : Act → Option Flow
  | .read => flow.read?
  | .launch => flow.launch?
  | .finish index => flow.finish? answer index
  | .send index => flow.send? index
  | .close => flow.close?
  | .write => flow.write?

def run? (answer : String → String) (flow : Flow) : List Act → Option Flow
  | [] => some flow
  | act :: rest => (flow.step? answer act).bind fun flow => flow.run? answer rest

end Steps

/-- The worker has come to a good end. -/
def isDone (flow : Flow) : Bool :=
  flow.closed && flow.channel.isEmpty

end Flow
end SnippetRunner.Worker
