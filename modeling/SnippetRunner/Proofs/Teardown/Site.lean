import SnippetRunner.Proofs.Teardown.Shared

/-!
A factory and the contexts it made. Contexts are reserved and made, shared by their worker and the callers of
destroy, and let go of when no call is under way; what a context that was never destroyed is made of is then
taken away in the background. All of these come in any order, and between the steps of others.
-/

namespace SnippetRunner.Context

structure Member (κ : Type) where
  -- as the factory made it
  made : κ
  shared : Shared κ
  dropped : Bool
  -- what came of the removal in the background
  swept : Option (Except Fault Unit)

namespace Member
variable {φ κ : Type} (backend : Backend φ κ)

inductive Act where
  | use (act : Shared.Act)
  | drop
  | sweep (world : World)

section Steps

def new (context : κ) (image : Bytes) : Member κ :=
  { made := context, shared := .new context image, dropped := false, swept := none }

@[simp] abbrev context (member : Member κ) : κ :=
  member.shared.context

def withContext (member : Member κ) (context : κ) : Member κ :=
  { member with shared := { member.shared with context } }

/-- All removals, the last one first. -/
def removals (member : Member κ) : List (Except Fault Unit) :=
  member.swept.toList ++ member.shared.removals

-- No call is under way.
def isIdle (member : Member κ) : Bool :=
  member.shared.lock.isNone && member.shared.callers == 0 && !member.shared.worker.isInside

def use? (member : Member κ) (act : Shared.Act) : Option (Member κ) :=
  if member.dropped then none
  else (member.shared.step? backend act).map fun shared => { member with shared }

def drop? (member : Member κ) : Option (Member κ) :=
  if !member.dropped && member.isIdle then
    some { member.withContext (backend.forgone member.context) with dropped := true }
  else none

def sweep? (member : Member κ) (world : World) : Option (Member κ) :=
  if member.dropped && !(backend.standing member.context).destroyed && member.swept.isNone then
    let (answer, context, _) := backend.remove world.machine member.context world.files
    some { member.withContext context with swept := some answer }
  else none

def step? (member : Member κ) : Act → Option (Member κ)
  | .use act => member.use? backend act
  | .drop => member.drop? backend
  | .sweep world => member.sweep? backend world

end Steps

/-- All that a step of a member can do. -/
inductive Moved (before : Member κ) : Act → Member κ → Prop where
  | use (act : Shared.Act) (shared : Shared κ) (there : before.dropped = false)
      (moved : Shared.Moved backend before.shared act shared) :
      Moved before (.use act) { before with shared }
  | drop (there : before.dropped = false) (free : before.shared.lock = none) :
      Moved before .drop { before.withContext (backend.forgone before.context) with dropped := true }
  | sweep (world : World) (gone : before.dropped = true)
      (live : (backend.standing before.context).destroyed = false) (unswept : before.swept = none) :
      Moved before (.sweep world)
        { before.withContext (backend.remove world.machine before.context world.files).2.1 with
          swept := some (backend.remove world.machine before.context world.files).1 }

theorem step_moved {before after : Member κ} (act : Act) (taken : before.step? backend act = some after) :
    Moved backend before act after := by
  cases act with
  | use act =>
      simp only [step?, use?] at taken
      split at taken
      · cases taken
      · next there =>
          obtain ⟨shared, stepped, rfl⟩ := Option.map_eq_some_iff.mp taken
          exact .use act shared (by simpa using there) (Shared.step_moved backend act stepped)
  | drop =>
      simp only [step?, drop?] at taken
      split at taken
      · next idle =>
          cases taken
          have free : before.dropped = false ∧ before.shared.lock = none := by
            simp_all [isIdle]
          exact .drop free.1 free.2
      · cases taken
  | sweep world =>
      simp only [step?, sweep?] at taken
      split at taken
      · next idle =>
          cases taken
          simp only [Bool.and_eq_true, Bool.not_eq_true', Option.isNone_iff_eq_none] at idle
          exact .sweep world idle.1.1 idle.1.2 idle.2
      · cases taken

end Member

structure Site (φ κ : Type) where
  factory : φ
  -- numbers of contexts that are being made
  making : List Nat
  members : List (Member κ)

namespace Site
variable {φ κ : Type} (backend : Backend φ κ)

inductive Act where
  | reserve (world : World)
  -- by place among those that are being made, and among the members
  | make (index : Nat) (image : Bytes) (world : World)
  | member (index : Nat) (act : Member.Act)

section Steps

def start (factory : φ) : Site φ κ :=
  { factory, making := [], members := [] }

def reserve? (site : Site φ κ) (world : World) : Option (Site φ κ) :=
  (backend.reserve site.factory world.files).map fun (number, factory) =>
    { site with factory, making := site.making ++ [number] }

def make? (site : Site φ κ) (index : Nat) (image : Bytes) (world : World) : Option (Site φ κ) :=
  site.making[index]?.map fun number =>
    let left := site.making.eraseIdx index
    match backend.make world.machine site.factory number world.files with
    | (.error _, factory, _) => { site with factory, making := left }
    | (.ok context, factory, _) =>
        { factory, making := left, members := site.members ++ [.new context image] }

-- The factory takes note of what has become of the context.
def replace (site : Site φ κ) (index : Nat) (old new : Member κ) : Site φ κ :=
  { site with factory := backend.release site.factory old.context new.context
              members := site.members.set index new }

def member? (site : Site φ κ) (index : Nat) (act : Member.Act) : Option (Site φ κ) :=
  site.members[index]?.bind fun old => (old.step? backend act).map (site.replace backend index old)

/-- The site after a step, if the step can be taken. -/
def step? (site : Site φ κ) : Act → Option (Site φ κ)
  | .reserve world => site.reserve? backend world
  | .make index image world => site.make? backend index image world
  | .member index act => site.member? backend index act

def run? (site : Site φ κ) : List Act → Option (Site φ κ)
  | [] => some site
  | act :: rest => (site.step? backend act).bind fun site => site.run? rest

end Steps

/-- All that a step of a site can do. -/
inductive Moved (before : Site φ κ) : Act → Site φ κ → Prop where
  | reserved (world : World) (number : Nat) (factory : φ)
      (found : backend.reserve before.factory world.files = some (number, factory)) :
      Moved before (.reserve world) { before with factory, making := before.making ++ [number] }
  | refused (index : Nat) (image : Bytes) (world : World) (number : Nat) (fault : Fault)
      (there : before.making[index]? = some number)
      (answered : (backend.make world.machine before.factory number world.files).1 = .error fault) :
      Moved before (.make index image world)
        { before with factory := (backend.make world.machine before.factory number world.files).2.1
                      making := before.making.eraseIdx index }
  | made (index : Nat) (image : Bytes) (world : World) (number : Nat) (context : κ)
      (there : before.making[index]? = some number)
      (answered : (backend.make world.machine before.factory number world.files).1 = .ok context) :
      Moved before (.make index image world)
        { factory := (backend.make world.machine before.factory number world.files).2.1
          making := before.making.eraseIdx index
          members := before.members ++ [.new context image] }
  | member (index : Nat) (act : Member.Act) (old new : Member κ)
      (there : before.members[index]? = some old) (moved : Member.Moved backend old act new) :
      Moved before (.member index act) (before.replace backend index old new)

section Cases
variable {before after : Site φ κ}

theorem step_moved (act : Act) (taken : before.step? backend act = some after) :
    Moved backend before act after := by
  cases act with
  | reserve world =>
      obtain ⟨⟨number, factory⟩, found, rfl⟩ := Option.map_eq_some_iff.mp taken
      exact .reserved world number factory found
  | make index image world =>
      obtain ⟨number, there, rfl⟩ := Option.map_eq_some_iff.mp taken
      rcases made : backend.make world.machine before.factory number world.files with ⟨fault | context, factory, files⟩
      · have refused : Moved backend before (.make index image world) _ :=
          .refused index image world number fault there (by rw [made])
        simpa only [made] using refused
      · have created : Moved backend before (.make index image world) _ :=
          .made index image world number context there (by rw [made])
        simpa only [made] using created
  | member index act =>
      obtain ⟨old, there, stepped⟩ := Option.bind_eq_some_iff.mp taken
      obtain ⟨new, moved, rfl⟩ := Option.map_eq_some_iff.mp stepped
      exact .member index act old new there (Member.step_moved backend act moved)

theorem stepwise : Stepwise (step? backend) (run? backend) :=
  ⟨fun _ => rfl, fun _ _ _ => rfl⟩

theorem run_preserves (kept : Site φ κ → Prop)
    (step : ∀ act before after, kept before → Moved backend before act after → kept after)
    (acts : List Act) (start : kept before) (ran : before.run? backend acts = some after) : kept after :=
  (stepwise backend).preserves kept
    (fun act before after now taken => step act before after now (step_moved backend act taken)) acts start ran

end Cases
end Site
end SnippetRunner.Context
