import SnippetRunner.Box.Pool

/-!
Clients that share a pool of box IDs. Each client takes a permit, then an ID; it gives the ID back, then the
permit, or retires the ID and forgets the permit. Clients take these steps one at a time, in any order and
between the steps of others. No ID is lost or held twice, and a client with a permit finds a free ID.
-/

namespace SnippetRunner.Box

inductive Client where
  -- for a permit
  | waiting
  -- a permit and no ID yet
  | permitted
  | leasing (id : Nat)
  -- the ID is back, the permit is not
  | returning
  -- there was no free ID
  | refused
  | gone
  deriving DecidableEq

def Client.id? : Client → Option Nat
  | .leasing id => some id
  | _ => none

structure Sharing where
  pool : Pool
  clients : List Client
  retired : List Nat
  deriving DecidableEq

inductive Act where
  | arrive
  -- by place among the clients
  | acquire (index : Nat)
  | giveUp (index : Nat)
  | pop (index : Nat)
  | push (index : Nat)
  | release (index : Nat)
  | retire (index : Nat)
  deriving DecidableEq

namespace Sharing

def start (first count : Nat) : Sharing :=
  { pool := Pool.new first count, clients := [], retired := [] }

section Steps

-- The client at a place is now this one, and the pool that one.
def update (sharing : Sharing) (index : Nat) (client : Client) (pool : Pool) : Sharing :=
  { sharing with pool := pool, clients := sharing.clients.set index client }

def acquire? (sharing : Sharing) (index : Nat) : Option Sharing :=
  match sharing.clients[index]? with
  | some .waiting => sharing.pool.acquire?.map (sharing.update index .permitted)
  | _ => none

-- A permit that came meanwhile goes back.
def giveUp? (sharing : Sharing) (index : Nat) : Option Sharing :=
  match sharing.clients[index]? with
  | some .waiting => some (sharing.update index .gone sharing.pool)
  | some .permitted => some (sharing.update index .gone sharing.pool.release)
  | _ => none

-- A client that finds no ID gives its permit back.
def pop? (sharing : Sharing) (index : Nat) : Option Sharing :=
  match sharing.clients[index]? with
  | some .permitted =>
      match sharing.pool.pop? with
      | some (id, pool) => some (sharing.update index (.leasing id) pool)
      | none => some (sharing.update index .refused sharing.pool.release)
  | _ => none

def push? (sharing : Sharing) (index : Nat) : Option Sharing :=
  match sharing.clients[index]? with
  | some (.leasing id) => some (sharing.update index .returning (sharing.pool.push id))
  | _ => none

def release? (sharing : Sharing) (index : Nat) : Option Sharing :=
  match sharing.clients[index]? with
  | some .returning => some (sharing.update index .gone sharing.pool.release)
  | _ => none

-- Neither the ID nor the permit comes back.
def retire? (sharing : Sharing) (index : Nat) : Option Sharing :=
  match sharing.clients[index]? with
  | some (.leasing id) =>
      some { sharing.update index .gone sharing.pool with retired := sharing.retired ++ [id] }
  | _ => none

/-- The sharing after a step, if the step can be taken. -/
def step? (sharing : Sharing) : Act → Option Sharing
  | .arrive => some { sharing with clients := sharing.clients ++ [.waiting] }
  | .acquire index => sharing.acquire? index
  | .giveUp index => sharing.giveUp? index
  | .pop index => sharing.pop? index
  | .push index => sharing.push? index
  | .release index => sharing.release? index
  | .retire index => sharing.retire? index

def run? (sharing : Sharing) : List Act → Option Sharing
  | [] => some sharing
  | act :: rest => (sharing.step? act).bind fun sharing => sharing.run? rest

theorem update_update (sharing : Sharing) (index : Nat) (first second : Client) (pool other : Pool) :
    (sharing.update index first pool).update index second other = sharing.update index second other := by
  simp [update, List.set_set]

theorem update_there (sharing : Sharing) (index : Nat) (old new : Client) (pool : Pool)
    (here : sharing.clients[index]? = some old) :
    (sharing.update index new pool).clients[index]? = some new := by
  have bound := (List.getElem?_eq_some_iff.mp here).1
  simp [update, bound]

-- A lease taken or given back in one go is two steps with no other between them.
theorem lease_two_steps (sharing : Sharing) (index id : Nat) (pool : Pool)
    (here : sharing.clients[index]? = some .waiting) (leased : sharing.pool.lease = .leased id pool) :
    sharing.run? [.acquire index, .pop index] = some (sharing.update index (.leasing id) pool) := by
  unfold Pool.lease at leased
  cases acquired : sharing.pool.acquire? with
  | none =>
      rw [acquired] at leased
      cases leased
  | some permitted =>
      have first : sharing.step? (.acquire index) = some (sharing.update index .permitted permitted) := by
        rw [step?, acquire?, here, acquired]
        rfl
      have there := update_there sharing index _ .permitted permitted here
      rw [acquired] at leased
      simp only at leased
      cases popped : permitted.pop? with
      | none =>
          rw [popped] at leased
          cases leased
      | some found =>
          rw [popped] at leased
          cases leased
          have second : (sharing.update index .permitted permitted).step? (.pop index) =
              some (sharing.update index (.leasing found.1) found.2) := by
            have samePool : (sharing.update index .permitted permitted).pool = permitted := rfl
            simp only [step?, pop?, there, samePool, popped, update_update]
          simp only [run?, first, second, Option.bind_some]

theorem giveBack_two_steps (sharing : Sharing) (index id : Nat)
    (here : sharing.clients[index]? = some (.leasing id)) :
    sharing.run? [.push index, .release index] =
      some (sharing.update index .gone (sharing.pool.giveBack id)) := by
  have there := update_there sharing index _ .returning (sharing.pool.push id) here
  simp only [run?, step?, push?, here, Option.bind_some, release?, there, update_update]
  rfl

/-- What a step makes of its client, of the pool and of the retired IDs. -/
inductive Move (pool : Pool) (retired : List Nat) : Client → Client → Pool → List Nat → Prop where
  | acquire (available : pool.permits ≠ 0) :
      Move pool retired .waiting .permitted { pool with permits := pool.permits - 1 } retired
  | giveUp : Move pool retired .waiting .gone pool retired
  | cancel : Move pool retired .permitted .gone pool.release retired
  | pop (id : Nat) (rest : List Nat) (free : pool.free = id :: rest) :
      Move pool retired .permitted (.leasing id) { pool with free := rest } retired
  | refuse (empty : pool.free = []) : Move pool retired .permitted .refused pool.release retired
  | push (id : Nat) : Move pool retired (.leasing id) .returning (pool.push id) retired
  | release : Move pool retired .returning .gone pool.release retired
  | retire (id : Nat) : Move pool retired (.leasing id) .gone pool (retired ++ [id])

/-- A client arrives, or one client moves. -/
theorem step_cases {before after : Sharing} (act : Act) (taken : before.step? act = some after) :
    after = { before with clients := before.clients ++ [.waiting] } ∨
      ∃ index old new pool retired, before.clients[index]? = some old ∧
        Move before.pool before.retired old new pool retired ∧
        after = { before.update index new pool with retired := retired } := by
  cases act with
  | arrive =>
      cases taken
      exact .inl rfl
  | acquire index =>
      simp only [step?, acquire?] at taken
      split at taken
      · next here =>
          obtain ⟨pool, acquired, rfl⟩ := Option.map_eq_some_iff.mp taken
          unfold Pool.acquire? at acquired
          split at acquired
          · cases acquired
          · next available =>
              cases acquired
              exact .inr ⟨index, _, _, _, _, here, .acquire available, rfl⟩
      · cases taken
  | giveUp index =>
      simp only [step?, giveUp?] at taken
      split at taken
      · next here =>
          cases taken
          exact .inr ⟨index, _, _, _, _, here, .giveUp, rfl⟩
      · next here =>
          cases taken
          exact .inr ⟨index, _, _, _, _, here, .cancel, rfl⟩
      · cases taken
  | pop index =>
      simp only [step?, pop?, Pool.pop?] at taken
      split at taken
      · next here =>
          cases free : before.pool.free with
          | nil =>
              rw [free] at taken
              cases taken
              exact .inr ⟨index, _, _, _, _, here, .refuse free, rfl⟩
          | cons id rest =>
              rw [free] at taken
              cases taken
              exact .inr ⟨index, _, _, _, _, here, .pop id rest free, rfl⟩
      · cases taken
  | push index =>
      simp only [step?, push?] at taken
      split at taken
      · next id here =>
          cases taken
          exact .inr ⟨index, _, _, _, _, here, .push id, rfl⟩
      · cases taken
  | release index =>
      simp only [step?, release?] at taken
      split at taken
      · next here =>
          cases taken
          exact .inr ⟨index, _, _, _, _, here, .release, rfl⟩
      · cases taken
  | retire index =>
      simp only [step?, retire?] at taken
      split at taken
      · next id here =>
          cases taken
          exact .inr ⟨index, _, _, _, _, here, .retire id, rfl⟩
      · cases taken

end Steps

/-- The IDs of the leases that are alive. -/
def held (sharing : Sharing) : List Nat :=
  sharing.clients.filterMap Client.id?

def waitingForId (sharing : Sharing) : Nat :=
  sharing.clients.count .permitted

def owingPermit (sharing : Sharing) : Nat :=
  sharing.clients.count .returning

/-- All IDs there are: free, held and retired. -/
def ids (sharing : Sharing) : List Nat :=
  sharing.pool.free ++ sharing.held ++ sharing.retired

/-- What every step keeps: no ID appears or goes away, and each free ID has its permit, which is in the pool,
with a client that has no ID yet, or with one that gave its ID back. -/
structure Sound (initial : List Nat) (sharing : Sharing) : Prop where
  conserved : sharing.ids.Perm initial
  covered : sharing.pool.permits + sharing.waitingForId + sharing.owingPermit = sharing.pool.free.length
  served : Client.refused ∉ sharing.clients

section Invariant

theorem split_at {α : Type} (entries : List α) (index : Nat) (entry : α)
    (here : entries[index]? = some entry) :
    ∃ front back, entries = front ++ entry :: back ∧
      ∀ other, entries.set index other = front ++ other :: back := by
  obtain ⟨bound, rfl⟩ := List.getElem?_eq_some_iff.mp here
  refine ⟨entries.take index, entries.drop (index + 1), ?_, ?_⟩
  · simp
  · intro other
    exact List.set_eq_take_append_cons_drop .. |>.trans (by simp [bound])

theorem sound_start (first count : Nat) : Sound (Pool.new first count).free (start first count) where
  conserved := by simp [ids, held, start]
  covered := by simp [waitingForId, owingPermit, start, Pool.new]
  served := by simp [start]

-- What one client holds and owes.
def idCount (client : Client) (id : Nat) : Nat :=
  client.id?.toList.count id

def permitCount (client : Client) : Nat :=
  [client].count .permitted + [client].count .returning

theorem held_set (clients : List Client) (index : Nat) (old new : Client) (id : Nat)
    (here : clients[index]? = some old) :
    ((clients.set index new).filterMap Client.id?).count id + idCount old id =
      (clients.filterMap Client.id?).count id + idCount new id := by
  obtain ⟨front, back, rfl, replaced⟩ := split_at clients index old here
  rw [replaced]
  have single (client : Client) : (client :: back).filterMap Client.id? =
      client.id?.toList ++ back.filterMap Client.id? := by
    cases known : client.id? <;> simp [known]
  simp only [List.filterMap_append, single, List.count_append, idCount]
  omega

theorem count_set (clients : List Client) (index : Nat) (old new state : Client)
    (here : clients[index]? = some old) :
    (clients.set index new).count state + [old].count state =
      clients.count state + [new].count state := by
  obtain ⟨front, back, rfl, replaced⟩ := split_at clients index old here
  rw [replaced]
  simp only [List.count_append, List.count_cons, List.count_nil]
  omega

section Moves
variable {pool newPool : Pool} {retired newRetired : List Nat} {old new : Client}
  (move : Move pool retired old new newPool newRetired)
include move

-- What the pool, the client and the retired IDs hold together stays the same.
theorem Move.same_ids (id : Nat) :
    newPool.free.count id + idCount new id + newRetired.count id =
      pool.free.count id + idCount old id + retired.count id := by
  cases move with
  | acquire => simp [idCount, Client.id?]
  | giveUp => simp [idCount, Client.id?]
  | cancel => simp [idCount, Client.id?, Pool.release]
  | pop id rest free => simp [idCount, Client.id?, free, List.count_cons]
  | refuse => simp [idCount, Client.id?, Pool.release]
  | push id => simp [idCount, Client.id?, Pool.push, List.count_append]
  | release => simp [idCount, Client.id?, Pool.release]
  | retire id =>
      simp [idCount, Client.id?, List.count_append]
      omega

-- So do the permits, the owed ones with them, against the free IDs.
theorem Move.same_permits :
    newPool.permits + permitCount new + pool.free.length =
      newPool.free.length + pool.permits + permitCount old := by
  cases move with
  | acquire =>
      simp [permitCount]
      omega
  | giveUp =>
      simp [permitCount]
      omega
  | cancel =>
      simp [permitCount, Pool.release]
      omega
  | pop id rest free =>
      simp [permitCount, free]
      omega
  | refuse =>
      simp [permitCount, Pool.release]
      omega
  | push id =>
      simp [permitCount, Pool.push]
      omega
  | release =>
      simp [permitCount, Pool.release]
      omega
  | retire id =>
      simp [permitCount]
      omega

theorem Move.kept (id : Nat) (member : id ∈ retired) : id ∈ newRetired := by
  cases move with
  | retire => exact List.mem_append_left _ member
  | _ => exact member

end Moves

-- A client with a permit has a free ID waiting for it.
theorem Sound.free_of_permitted {initial : List Nat} {sharing : Sharing} (sound : Sound initial sharing)
    (index : Nat) (here : sharing.clients[index]? = some .permitted) : sharing.pool.free ≠ [] := by
  intro empty
  have waiting : 0 < sharing.clients.count .permitted :=
    List.count_pos_iff.mpr (List.mem_of_getElem? here)
  have covered := sound.covered
  simp only [empty, List.length_nil, waitingForId] at covered
  omega

theorem step_sound {initial : List Nat} {before after : Sharing} (act : Act)
    (sound : Sound initial before) (taken : before.step? act = some after) : Sound initial after := by
  rcases step_cases act taken with rfl | ⟨index, old, new, pool, retired, here, move, rfl⟩
  · refine ⟨?_, ?_, ?_⟩
    · have none : [Client.waiting].filterMap Client.id? = [] := rfl
      simpa [ids, held, List.filterMap_append, none] using sound.conserved
    · simpa [waitingForId, owingPermit, List.count_append] using sound.covered
    · simpa using sound.served
  · refine ⟨?_, ?_, ?_⟩
    · apply List.perm_iff_count.mpr
      intro id
      have conserved := List.perm_iff_count.mp sound.conserved id
      have moved := held_set before.clients index old new id here
      have same := move.same_ids id
      simp only [ids, held, update, List.count_append] at conserved ⊢
      omega
    · have covered := sound.covered
      have waiting := count_set before.clients index old new .permitted here
      have owing := count_set before.clients index old new .returning here
      have same := move.same_permits
      simp only [waitingForId, owingPermit, update, permitCount] at covered same ⊢
      omega
    · intro member
      rcases List.mem_or_eq_of_mem_set member with already | refused
      · exact sound.served already
      · subst refused
        cases move with
        | refuse empty => exact sound.free_of_permitted index here empty

theorem run_sound {initial : List Nat} (acts : List Act) {before after : Sharing}
    (sound : Sound initial before) (ran : before.run? acts = some after) : Sound initial after := by
  induction acts generalizing before with
  | nil =>
      cases ran
      exact sound
  | cons act rest ih =>
      obtain ⟨middle, taken, later⟩ := Option.bind_eq_some_iff.mp ran
      exact ih (step_sound act sound taken) later

end Invariant

section Histories

theorem mem_new_iff (first count id : Nat) :
    id ∈ (Pool.new first count).free ↔ first ≤ id ∧ id < min (first + max count 1) Pool.lastId := by
  simp only [Pool.new, List.mem_range'_1]
  omega

theorem new_nodup (first count : Nat) : (Pool.new first count).free.Nodup :=
  List.nodup_range' ..

-- Nothing is taken from the retired IDs.
theorem step_retired {before after : Sharing} (act : Act) (taken : before.step? act = some after)
    (id : Nat) (member : id ∈ before.retired) : id ∈ after.retired := by
  rcases step_cases act taken with rfl | ⟨index, old, new, pool, retired, _, move, rfl⟩
  · exact member
  · exact move.kept id member

theorem run_retired (acts : List Act) {before after : Sharing} (ran : before.run? acts = some after)
    (id : Nat) (member : id ∈ before.retired) : id ∈ after.retired := by
  induction acts generalizing before with
  | nil => cases ran; exact member
  | cons act rest ih =>
      obtain ⟨middle, taken, later⟩ := Option.bind_eq_some_iff.mp ran
      exact ih later (step_retired act taken id member)

-- Two leases with one ID are the same lease.
theorem held_once (clients : List Client) (unique : (clients.filterMap Client.id?).Nodup)
    (left right id : Nat) (atLeft : clients[left]? = some (.leasing id))
    (atRight : clients[right]? = some (.leasing id)) : left = right := by
  have apart := List.pairwise_filterMap.mp unique
  obtain ⟨leftBound, leftEqual⟩ := List.getElem?_eq_some_iff.mp atLeft
  obtain ⟨rightBound, rightEqual⟩ := List.getElem?_eq_some_iff.mp atRight
  rcases Nat.lt_trichotomy left right with below | same | above
  · have differ := List.pairwise_iff_getElem.mp apart left right leftBound rightBound below
    exact absurd rfl (differ id (by rw [leftEqual]; rfl) id (by rw [rightEqual]; rfl))
  · exact same
  · have differ := List.pairwise_iff_getElem.mp apart right left rightBound leftBound above
    exact absurd rfl (differ id (by rw [rightEqual]; rfl) id (by rw [leftEqual]; rfl))

/-- In every history of any number of clients the IDs are those of the pool at its start, each of them free,
held by one client or retired for good; and a client with a permit always finds a free ID. -/
theorem pool_shared_without_loss (first count : Nat) (acts : List Act) (sharing : Sharing)
    (ran : (start first count).run? acts = some sharing) :
    sharing.ids.Nodup ∧
    (∀ id, id ∈ sharing.ids ↔ first ≤ id ∧ id < min (first + max count 1) Pool.lastId) ∧
    (∀ left right id : Nat, sharing.clients[left]? = some (.leasing id) →
      sharing.clients[right]? = some (.leasing id) → left = right) ∧
    (∀ id ∈ sharing.retired, ∀ later after, sharing.run? later = some after →
      id ∉ after.held ∧ id ∉ after.pool.free) ∧
    sharing.pool.permits + sharing.waitingForId ≤ sharing.pool.free.length ∧
    (∀ index : Nat, sharing.clients[index]? = some .permitted →
      ∃ id pool, sharing.pool.pop? = some (id, pool)) ∧
    Client.refused ∉ sharing.clients := by
  have sound := run_sound acts (sound_start first count) ran
  have unique {other : Sharing} (otherSound : Sound (Pool.new first count).free other) : other.ids.Nodup :=
    otherSound.conserved.nodup_iff.mpr (new_nodup first count)
  have apart := unique sound
  refine ⟨apart, ?_, ?_, ?_, ?_, ?_, sound.served⟩
  · intro id
    rw [sound.conserved.mem_iff]
    exact mem_new_iff first count id
  · have heldOnce := (List.nodup_append.mp (List.nodup_append.mp apart).1).2.1
    exact held_once sharing.clients heldOnce
  · intro id member later after continued
    have afterUnique := unique (run_sound later sound continued)
    have retired := run_retired later continued id member
    have disjoint := (List.nodup_append.mp afterUnique).2.2
    constructor
    · intro held
      exact disjoint id (List.mem_append_right _ held) id retired rfl
    · intro free
      exact disjoint id (List.mem_append_left _ free) id retired rfl
  · have covered := sound.covered
    omega
  · intro index here
    cases free : sharing.pool.free with
    | nil => exact absurd free (sound.free_of_permitted index here)
    | cons id rest => exact ⟨id, { sharing.pool with free := rest }, by simp [Pool.pop?, free]⟩

/-- Two clients take the two IDs of a pool; one gives its ID back, the other retires its own, and a third
takes what is left. -/
theorem pool_shared_by_three :
    ∃ sharing, (start 5 2).run? [.arrive, .arrive, .arrive, .acquire 0, .acquire 1, .pop 1, .pop 0,
        .push 0, .retire 1, .release 0, .acquire 2, .pop 2] = some sharing ∧
      sharing.held = [6] ∧ sharing.retired = [5] ∧ sharing.ids.Nodup := by
  have ran : (start 5 2).run? [.arrive, .arrive, .arrive, .acquire 0, .acquire 1, .pop 1, .pop 0,
      .push 0, .retire 1, .release 0, .acquire 2, .pop 2] =
        some ⟨⟨[], 0⟩, [.gone, .gone, .leasing 6], [5]⟩ := by
    decide
  exact ⟨_, ran, rfl, rfl, (pool_shared_without_loss 5 2 _ _ ran).1⟩

end Histories
end Sharing
end SnippetRunner.Box
