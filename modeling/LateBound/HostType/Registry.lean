import LateBound.HostType

/-!
# Registries of host types

A fixed set of host types, found by qualified name. Of two types of one name the later one counts.
-/

namespace LateBound

/-- Host types, one per name, the one added last in front. -/
structure Registry where
  types : List HostType

namespace Registry

def empty : Registry := ⟨[]⟩

def insert (registry : Registry) (type : HostType) : Registry :=
  ⟨type :: registry.types.filter (·.name != type.name)⟩

def insertAll (registry : Registry) (types : List HostType) : Registry :=
  types.foldl insert registry

def find? (registry : Registry) (name : String) : Option HostType :=
  registry.types.find? (·.name == name)

@[simp] theorem find?_insert_self (registry : Registry) (type : HostType) :
    (registry.insert type).find? type.name = some type := by
  simp [insert, find?]

theorem find?_insert_of_ne (registry : Registry) {type : HostType} {name : String}
    (h : type.name ≠ name) : (registry.insert type).find? name = registry.find? name := by
  have beside (other : HostType) :
      (!decide (other.name = type.name) && decide (other.name = name)) = (other.name == name) := by
    by_cases hn : other.name = name
    · simp [hn, Ne.symm h]
    · simp [hn]
  simp [insert, find?, h, List.find?_filter, beside]

def names (registry : Registry) : List String :=
  (registry.types.map (·.name)).mergeSort

def size (registry : Registry) : Nat :=
  registry.types.length

end Registry

end LateBound
