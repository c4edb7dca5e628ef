import LateBound.HostType

/-!
# The gate before all types

Every type is looked up through the gate. A provider knows the types; a policy says which of them may be
reached. A name that is no type is not found whatever the policy says, so that a plain word never reads
as a refusal.

What the provider said is remembered, also that it knows no such type; what the policy said is not.

A type that is used as a value carries its description along, and the provider is not asked for it again. It
may be one that the provider does not know.
-/

namespace LateBound

/-- A provider of types, a policy on their names, and what the values stand for that are types. There is one
description of each name in play, which is the provider's if it knows the name. -/
structure Gate where
  find? : String → Option HostType
  admits : String → Bool
  describe : String → HostType

/-- The answer of the gate. -/
inductive Lookup
  | found (type : HostType)
  | notFound
  | denied

namespace Gate

/-- The answer of the policy on what the provider knows under a name. -/
def judge (gate : Gate) (name : String) : Option HostType → Lookup
  | none => .notFound
  | some type => if gate.admits name then .found type else .denied

def lookup (gate : Gate) (name : String) : Lookup :=
  gate.judge name (gate.find? name)

end Gate

def Lookup.type? : Lookup → Option HostType
  | found type => some type
  | notFound | denied => none

/-- What the provider said on each name that was asked for, and how often it was asked so far. -/
structure TypeCache where
  entries : List (String × Option HostType)
  calls : Nat

namespace TypeCache

def empty : TypeCache := ⟨[], 0⟩

def size (cache : TypeCache) : Nat :=
  cache.entries.length

/-- Forgets the names; the provider was asked as often as before. -/
def clear (cache : TypeCache) : TypeCache :=
  { cache with entries := [] }

/-- What a provider says on a name that it is asked about at most once. Asking it is an action. -/
def fetch {m : Type → Type} [Monad m] (provider : String → m (Option HostType)) (name : String) :
    StateT TypeCache m (Option HostType) := do
  let cache ← get
  match cache.entries.lookup name with
  | some known => return known
  | none =>
    let answer ← provider name
    set (TypeCache.mk ((name, answer) :: cache.entries) (cache.calls + 1))
    return answer

def lookup (gate : Gate) (name : String) : StateM TypeCache Lookup := do
  return gate.judge name (← fetch (fun name => pure (gate.find? name)) name)

end TypeCache

end LateBound
