/-!
The pool of box IDs. An ID is held by one context at a time; clients first take a permit, then an ID, and
give them back in the opposite order. An ID that is retired never comes back, nor does its permit.
-/

namespace SnippetRunner.Box

structure Pool where
  -- in the order they are handed out
  free : List Nat
  permits : Nat
  deriving DecidableEq

namespace Pool

-- IDs have 32 bits.
def lastId : Nat := 0xffffffff

/-- A pool of IDs from the first one on, at least one if there is room; the last ID of all is left out. -/
def new (first count : Nat) : Pool :=
  let ids := List.range' first (min (first + max count 1) lastId - first)
  { free := ids, permits := ids.length }

section Steps

/-- Takes a permit if there is one; a client waits otherwise. -/
def acquire? (pool : Pool) : Option Pool :=
  if pool.permits = 0 then none else some { pool with permits := pool.permits - 1 }

def pop? (pool : Pool) : Option (Nat × Pool) :=
  match pool.free with
  | [] => none
  | id :: rest => some (id, { pool with free := rest })

def push (pool : Pool) (id : Nat) : Pool :=
  { pool with free := pool.free ++ [id] }

def release (pool : Pool) : Pool :=
  { pool with permits := pool.permits + 1 }

end Steps

inductive Lease where
  | leased (id : Nat) (pool : Pool)
  | waits
  -- a permit without an ID
  | none

/-- Takes a permit and an ID. -/
def lease (pool : Pool) : Lease :=
  match pool.acquire? with
  | none => .waits
  | some pool =>
      match pool.pop? with
      | some (id, pool) => .leased id pool
      | none => .none

/-- Gives an ID back; it is there before its permit is. -/
def giveBack (pool : Pool) (id : Nat) : Pool :=
  (pool.push id).release

def available (pool : Pool) : Nat :=
  pool.permits

end Pool
end SnippetRunner.Box
