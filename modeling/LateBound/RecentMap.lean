/-!
# Maps of what was used last

A map with room for so many entries, the most recently used one first. A key that is found moves to the
front; an entry that is put goes to the front, in place of an older one of its key, and pushes the last one
out when there is no more room.
-/

namespace LateBound

theorem mem_of_lookup_eq_some {α β : Type} [BEq α] [LawfulBEq α] {entries : List (α × β)} {key : α}
    {value : β} (found : entries.lookup key = some value) : (key, value) ∈ entries := by
  obtain ⟨before, behind, rfl, -⟩ := List.lookup_eq_some_iff.1 found
  exact List.mem_append_right before List.mem_cons_self

structure RecentMap (α β : Type) where
  capacity : Nat
  entries : List (α × β)
  deriving Inhabited

namespace RecentMap

variable {α β : Type}

def empty (capacity : Nat) : RecentMap α β :=
  ⟨capacity, []⟩

def clear (map : RecentMap α β) : RecentMap α β :=
  { map with entries := [] }

def keys (map : RecentMap α β) : List α :=
  map.entries.map Prod.fst

variable [BEq α]

def without (key : α) (entries : List (α × β)) : List (α × β) :=
  entries.filter (·.1 != key)

/-- The value of a key, whose entry becomes the most recent one. -/
def get? (map : RecentMap α β) (key : α) : Option β × RecentMap α β :=
  match map.entries.lookup key with
  | none => (none, map)
  | some value => (some value, { map with entries := (key, value) :: without key map.entries })

def put (map : RecentMap α β) (key : α) (value : β) : RecentMap α β :=
  { map with entries := ((key, value) :: without key map.entries).take map.capacity }

theorem get?_of_lookup {map : RecentMap α β} {key : α} {value : β} (found : map.entries.lookup key = some value) :
    map.get? key = (some value, { map with entries := (key, value) :: without key map.entries }) := by
  rw [get?, found]

theorem get?_of_lookup_eq_none {map : RecentMap α β} {key : α} (isNew : map.entries.lookup key = none) :
    map.get? key = (none, map) := by
  rw [get?, isNew]

theorem keys_without (key : α) (entries : List (α × β)) :
    (without key entries).map Prod.fst = (entries.map Prod.fst).filter (· != key) := by
  rw [without, List.filter_map]
  rfl

theorem keys_put (map : RecentMap α β) (key : α) (value : β) :
    (map.put key value).keys = (key :: map.keys.filter (· != key)).take map.capacity := by
  rw [keys, put, List.map_take, List.map_cons, keys_without]
  rfl

theorem length_entries_put_le (map : RecentMap α β) (key : α) (value : β) :
    (map.put key value).entries.length ≤ map.capacity := by
  rw [put, List.length_take]
  exact Nat.min_le_left ..

theorem mem_without {key : α} {entries : List (α × β)} {entry : α × β} :
    entry ∈ without key entries ↔ entry ∈ entries ∧ (entry.1 != key) = true :=
  List.mem_filter

theorem mem_put {map : RecentMap α β} {key : α} {value : β} {entry : α × β}
    (kept : entry ∈ (map.put key value).entries) : entry = (key, value) ∨ entry ∈ without key map.entries :=
  List.mem_cons.1 (List.mem_of_mem_take kept)

end RecentMap

end LateBound
