import SnippetRunner.Context.Supply

/-!
Sessions: contexts of one factory, each under a name, and what is done with them one thing after another. A
context that takes the name of another takes its place, and the other is let go of.
-/

namespace SnippetRunner.Context
open Files (Tree)

structure Session (φ σ : Type) where
  factory : φ
  files : Tree
  guests : List (String × σ)

inductive Act where
  | create
  | load (image : Bytes)
  | invoke
  -- the context is destroyed while its program runs
  | invokeAndDestroy
  | destroy
  | drop

inductive Answer (σ : Type) where
  | created (answer : Creation σ)
  | done (answer : Except Fault Unit)
  | invoked (reply : Reply)
  | cutShort (reply : Reply) (teardown : Except Fault Unit)
  -- there is no context of that name
  | absent

namespace Session
variable {φ σ : Type}

def new (factory : φ) (files : Tree) : Session φ σ :=
  { factory, files, guests := [] }

def guest? (session : Session φ σ) (name : String) : Option σ :=
  (session.guests.find? fun entry => entry.1 == name).map Prod.snd

def others (session : Session φ σ) (name : String) : List (String × σ) :=
  session.guests.filter fun entry => entry.1 != name

def seat (session : Session φ σ) (name : String) (guest : σ) : Session φ σ :=
  { session with guests := (name, guest) :: session.others name }

def letGo (supply : Supply φ σ) (session : Session φ σ) (name : String) : Session φ σ :=
  match session.guest? name with
  | none => session
  | some guest =>
      let (factory, files) := supply.leave (supply.enter session.factory session.files guest)
      { factory, files, guests := session.others name }

/-- An invocation and a teardown that comes while the program runs. -/
def cutShort (handle : Handle σ) (guest : σ) : Answer σ × σ :=
  let (first, guest) := handle.invoke guest
  let (teardown, guest) := handle.destroy guest
  match first with
  | .running =>
      let (reply, guest) := handle.await guest
      (.cutShort reply teardown, guest)
  | reply => (.cutShort reply teardown, guest)

def use (handle : Handle σ) (guest : σ) : Act → Answer σ × σ
  | .load image =>
      let (answer, guest) := handle.load image guest
      (.done answer, guest)
  | .invoke =>
      let (reply, guest) := handle.invoke guest
      (.invoked reply, guest)
  | .invokeAndDestroy => cutShort handle guest
  | .destroy =>
      let (answer, guest) := handle.destroy guest
      (.done answer, guest)
  | _ => (.absent, guest)

/-- One thing that is done under a name. -/
def step (supply : Supply φ σ) (session : Session φ σ) (name : String) (act : Act) :
    Answer σ × Session φ σ :=
  match act with
  | .create =>
      let (answer, factory, files) := supply.create session.factory session.files
      let session := { session with factory, files }
      match answer with
      | .made guest => (.created answer, (letGo supply session name).seat name guest)
      | _ => (.created answer, session)
  | .drop => (.done (.ok ()), letGo supply session name)
  | _ =>
      match session.guest? name with
      | none => (.absent, session)
      | some guest =>
          let (answer, guest) := use supply.handle (supply.enter session.factory session.files guest) act
          let (factory, files) := supply.outside guest
          (answer, { session with factory, files }.seat name guest)

end Session
end SnippetRunner.Context
