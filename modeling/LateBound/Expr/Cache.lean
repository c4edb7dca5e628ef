import LateBound.Expr.Parse
import LateBound.RecentMap

/-!
# Remembered trees

The trees of the texts that were used last. Only trees are remembered: a text that is not an expression is
read again each time.
-/

namespace LateBound

def defaultCapacity : Nat := 512

structure TreeCache extends RecentMap String Expr where
  parses : Nat
  hits : Nat
  deriving Inhabited

namespace TreeCache

/-- An empty cache for at most `capacity` trees; zero asks for the default. -/
def empty (capacity : Nat) : TreeCache :=
  ⟨.empty (if capacity = 0 then defaultCapacity else capacity), 0, 0⟩

def get? (cache : TreeCache) (source : String) : Option Expr × TreeCache :=
  match cache.toRecentMap.get? source with
  | (none, _) => (none, cache)
  | (some tree, kept) => (some tree, { cache with toRecentMap := kept, hits := cache.hits + 1 })

theorem get?_of_lookup {cache : TreeCache} {source : String} {tree : Expr} (found : cache.entries.lookup source = some tree) :
    cache.get? source =
      (some tree, { cache with toRecentMap := (cache.toRecentMap.get? source).2, hits := cache.hits + 1 }) := by
  rw [get?, RecentMap.get?_of_lookup found]

theorem get?_of_lookup_eq_none {cache : TreeCache} {source : String} (isNew : cache.entries.lookup source = none) :
    cache.get? source = (none, cache) := by
  rw [get?, RecentMap.get?_of_lookup_eq_none isNew]

def insert (cache : TreeCache) (source : String) (tree : Expr) : TreeCache :=
  { cache with toRecentMap := cache.put source tree }

def getOrParse (cache : TreeCache) (source : String) : Except SyntaxError Expr × TreeCache :=
  match cache.get? source with
  | (some tree, cache) => (.ok tree, cache)
  | (none, cache) =>
    let cache := { cache with parses := cache.parses + 1 }
    match Expr.parse source with
    | .ok tree => (.ok tree, cache.insert source tree)
    | .error error => (.error error, cache)

def clear (cache : TreeCache) : TreeCache :=
  { cache with toRecentMap := cache.toRecentMap.clear }

end TreeCache

end LateBound
