import SnippetRunner.Context.Boxed
import SnippetRunner.Context.Directory

/-!
Where contexts come from: a supply makes them, lends their handles, and takes them back. Settings choose
between throwaway directories and boxes.
-/

namespace SnippetRunner.Context
open Files (Tree)

inductive Creation (σ : Type) where
  | made (guest : σ)
  | refused (fault : Fault)
  -- until another context is destroyed
  | waits

/-- A kind of factory φ, and of guests σ that carry the factory with them. -/
structure Supply (φ σ : Type) where
  create : φ → Tree → Creation σ × φ × Tree
  handle : Handle σ
  -- brings a guest up to date with what has happened around it
  enter : φ → Tree → σ → σ
  outside : σ → φ × Tree
  -- lets go of the context
  leave : σ → φ × Tree
  live : φ → Nat

namespace Supply

def directories (machine : Host.Machine) : Supply Directory.Factory Directory.Guest where
  create factory files :=
    match factory.create files with
    | (.ok context, factory, files) => (.made ⟨context, factory, files⟩, factory, files)
    | (.error fault, factory, files) => (.refused fault, factory, files)
  handle := Directory.handle machine
  enter factory files guest := { guest with factory, files }
  outside guest := (guest.factory, guest.files)
  leave guest := (guest.drop.factory, guest.drop.files)
  live factory := factory.live

def boxes (machine : Host.Machine) : Supply Boxed.Factory Boxed.Guest where
  create factory files :=
    match factory.create machine files with
    | (.made context, factory, files) => (.made ⟨context, factory, files⟩, factory, files)
    | (.refused fault, factory, files) => (.refused fault, factory, files)
    | (.waits, factory, files) => (.waits, factory, files)
  handle := Boxed.handle machine
  enter factory files guest := { guest with factory, files }
  outside guest := (guest.factory, guest.files)
  leave guest :=
    let gone := guest.drop machine
    (gone.factory, gone.files)
  live factory := factory.live

section Either
variable {φ φ' σ σ' : Type}

def carry {α : Type} (wrap : σ → σ') (answer : α × σ) : α × σ' :=
  (answer.1, wrap answer.2)

/-- Either of two supplies; which of them is up to the factory. -/
def either (first : Supply φ σ) (second : Supply φ' σ') : Supply (φ ⊕ φ') (σ ⊕ σ') where
  create factory files :=
    match factory with
    | .inl factory =>
        match first.create factory files with
        | (.made guest, factory, files) => (.made (.inl guest), .inl factory, files)
        | (.refused fault, factory, files) => (.refused fault, .inl factory, files)
        | (.waits, factory, files) => (.waits, .inl factory, files)
    | .inr factory =>
        match second.create factory files with
        | (.made guest, factory, files) => (.made (.inr guest), .inr factory, files)
        | (.refused fault, factory, files) => (.refused fault, .inr factory, files)
        | (.waits, factory, files) => (.waits, .inr factory, files)
  handle :=
    { load := fun image guest =>
        match guest with
        | .inl guest => carry .inl (first.handle.load image guest)
        | .inr guest => carry .inr (second.handle.load image guest)
      invoke := fun guest =>
        match guest with
        | .inl guest => carry .inl (first.handle.invoke guest)
        | .inr guest => carry .inr (second.handle.invoke guest)
      await := fun guest =>
        match guest with
        | .inl guest => carry .inl (first.handle.await guest)
        | .inr guest => carry .inr (second.handle.await guest)
      destroy := fun guest =>
        match guest with
        | .inl guest => carry .inl (first.handle.destroy guest)
        | .inr guest => carry .inr (second.handle.destroy guest) }
  enter factory files guest :=
    match factory, guest with
    | .inl factory, .inl guest => .inl (first.enter factory files guest)
    | .inr factory, .inr guest => .inr (second.enter factory files guest)
    | _, guest => guest
  outside guest :=
    match guest with
    | .inl guest => let (factory, files) := first.outside guest; (.inl factory, files)
    | .inr guest => let (factory, files) := second.outside guest; (.inr factory, files)
  leave guest :=
    match guest with
    | .inl guest => let (factory, files) := first.leave guest; (.inl factory, files)
    | .inr guest => let (factory, files) := second.leave guest; (.inr factory, files)
  live factory :=
    match factory with
    | .inl factory => first.live factory
    | .inr factory => second.live factory

end Either

abbrev AnyFactory := Directory.Factory ⊕ Boxed.Factory
abbrev AnyGuest := Directory.Guest ⊕ Boxed.Guest

def any (machine : Host.Machine) : Supply AnyFactory AnyGuest :=
  either (directories machine) (boxes machine)

/-- The factory that settings ask for. -/
def factoryOf (settings : Settings) : AnyFactory :=
  match settings.sandbox.backend with
  | .process => .inl (.new settings.sandbox.scratchDir)
  | .isolate => .inr (.ofSettings settings)

end Supply
end SnippetRunner.Context
