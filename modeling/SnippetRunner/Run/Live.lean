/-!
Counters of live contexts. A context holds a token of the counter it was made under as long as it is live;
a counter says how many tokens are held, and clones of a counter share them.
-/

namespace SnippetRunner.Run

structure Live where
  -- for each counter the group it counts for
  counters : List Nat
  groups : Nat
  -- the tokens that are held, by name, each with its group
  tokens : List (String × Nat)

namespace Live

def first : Live :=
  { counters := [0], groups := 1, tokens := [] }

def new (live : Live) : Live :=
  { live with counters := live.counters ++ [live.groups], groups := live.groups + 1 }

def clone (live : Live) (counter : Nat) : Live :=
  match live.counters[counter]? with
  | some group => { live with counters := live.counters ++ [group] }
  | none => live

def drop (live : Live) (name : String) : Live :=
  { live with tokens := live.tokens.filter fun token => token.1 != name }

/-- Takes a token and keeps it under a name, in the place of an older one. -/
def track (live : Live) (counter : Nat) (name : String) : Live :=
  match live.counters[counter]? with
  | some group => { live with tokens := (name, group) :: (live.drop name).tokens }
  | none => live

def count (live : Live) (group : Nat) : Nat :=
  live.tokens.countP fun token => token.2 == group

def counts (live : Live) : List Nat :=
  live.counters.map live.count

end Live
end SnippetRunner.Run
