import SnippetRunner.Context.Fault
import SnippetRunner.Host.Machine

/-!
The slot of the running program. A program is started into the slot and polled until it has ended; teardown
takes it out and closes the slot for good, so a program that waits for its turn never starts afterwards.
-/

namespace SnippetRunner.Run
open Context (Fault)
open Files (Tree)

structure Slot where
  running : Option Host.Ending
  terminated : Bool
  deriving DecidableEq

namespace Slot

def empty : Slot := ⟨none, false⟩

-- A program that was just written can be busy for a moment.
def attempts : Nat := 5

def tryStart (machine : Host.Machine) (slot : Slot) (launch : Host.Launch) (files : Tree) :
    Except Fault (Slot × Host.Effect) :=
  if slot.terminated then .error .destroyed
  else
    match machine.run files launch with
    | .error cause => .error (.spawn cause)
    | .ok effect => .ok ({ slot with running := some effect.ending }, effect)

/-- One attempt to start a program, which is prepared just before. -/
def attempt (machine : Host.Machine) (prepare : Tree → Except Fault (Host.Launch × Tree))
    (slot : Slot) (files : Tree) : Except Fault (Slot × Host.Effect) × Tree :=
  match prepare files with
  | .error fault => (.error fault, files)
  | .ok (launch, prepared) => (tryStart machine slot launch prepared, prepared)

def startWithin (machine : Host.Machine) (prepare : Tree → Except Fault (Host.Launch × Tree))
    (slot : Slot) (files : Tree) : Nat → Except Fault (Slot × Host.Effect) × Tree
  | 0 => attempt machine prepare slot files
  | more + 1 =>
      match attempt machine prepare slot files with
      | (.error (.spawn (.system 26)), prepared) => startWithin machine prepare slot prepared more
      | started => started

/-- Starts a program, again and again for a while if it is busy. -/
def start (machine : Host.Machine) (prepare : Tree → Except Fault (Host.Launch × Tree))
    (slot : Slot) (files : Tree) : Except Fault (Slot × Host.Effect) × Tree :=
  startWithin machine prepare slot files (attempts - 1)

inductive Poll where
  -- nothing runs: teardown was here
  | gone
  | running
  | ended (ending : Host.Ending)
  deriving DecidableEq

/-- Asks how the program in the slot ended. The host can always say so of a child that was not waited for yet; that
it cannot is no outcome here. -/
def poll (slot : Slot) : Poll × Slot :=
  match slot.running with
  | none => (.gone, slot)
  | some .never => (.running, slot)
  | some ending => (.ended ending, { slot with running := none })

/-- Takes the program out, has it killed and waits for its end. The host kills a child of its own, and it has ended
before the grace is over; that the one or the other fails is only logged, and is no outcome here. -/
def terminate (_ : Slot) : Slot :=
  ⟨none, true⟩

end Slot
end SnippetRunner.Run
