import LateBound.HostType

/-!
# Imports

Each unit of source text has a table of the types imported into it. A word names the type imported
under it, or else an imported type of which it is the short name. Texts without a unit share one table.
-/

namespace LateBound

theorem lookup_filter_of_ne {α : Type} {name other : String} (differ : other ≠ name) (entries : List (String × α)) :
    (entries.filter (·.1 != name)).lookup other = entries.lookup other := by
  induction entries with
  | nil => rfl
  | cons entry entries inductionHypothesis =>
    obtain ⟨label, value⟩ := entry
    by_cases same : label = name
    · simp [same, List.lookup_cons, inductionHypothesis, beq_eq_false_iff_ne.2 differ]
    · by_cases found : other = label
      · simp [same, found]
      · simp [same, List.lookup_cons, inductionHypothesis, beq_eq_false_iff_ne.2 found]

/-- The types imported into one unit, by the word that stands for them. -/
structure ImportTable where
  entries : List (String × HostType)

namespace ImportTable

def empty : ImportTable := ⟨[]⟩

def insert (table : ImportTable) (type : HostType) (label? : Option String) : ImportTable :=
  let label := label?.getD type.shortName
  ⟨(label, type) :: table.entries.filter (·.1 != label)⟩

def resolve? (table : ImportTable) (name : String) : Option HostType :=
  (table.entries.lookup name).or ((table.entries.map Prod.snd).find? (·.shortName == name))

/-- The labels with the qualified names of their types, sorted by label. -/
def listing (table : ImportTable) : List (String × String) :=
  (table.entries.map fun (label, type) => (label, type.name)).mergeSort fun a b => a.1 ≤ b.1

end ImportTable

/-- The name that stands for texts without a unit. -/
def globalUnit : String := "<global>"

structure Imports where
  tables : List (String × ImportTable)

namespace Imports

def empty : Imports := ⟨[]⟩

def key (unit : Option String) : String :=
  unit.getD globalUnit

def table? (imports : Imports) (unit : Option String) : Option ImportTable :=
  imports.tables.lookup (key unit)

theorem table?_congr {unit other : Option String} (same : key unit = key other) (imports : Imports) :
    imports.table? unit = imports.table? other := by
  unfold table?
  rw [same]

def setTable (imports : Imports) (unit : Option String) (table : ImportTable) : Imports :=
  ⟨(key unit, table) :: imports.tables.filter (·.1 != key unit)⟩

@[simp] theorem table?_setTable_self (imports : Imports) (unit : Option String)
    (table : ImportTable) : (imports.setTable unit table).table? unit = some table := by
  simp [setTable, table?]

theorem table?_setTable_of_ne {unit other : Option String} (differ : key other ≠ key unit) (imports : Imports)
    (table : ImportTable) : (imports.setTable unit table).table? other = imports.table? other := by
  simp [setTable, table?, List.lookup_cons, beq_eq_false_iff_ne.2 differ, lookup_filter_of_ne differ]

def touch (imports : Imports) (unit : Option String) : Imports :=
  match imports.table? unit with
  | some _ => imports
  | none => imports.setTable unit .empty

def insert (imports : Imports) (unit : Option String) (type : HostType) (label? : Option String) :
    Imports :=
  imports.setTable unit (((imports.table? unit).getD .empty).insert type label?)

def resolve? (imports : Imports) (unit : Option String) (name : String) : Option HostType :=
  (imports.table? unit).bind (·.resolve? name)

def remove (imports : Imports) (unit : Option String) : Imports :=
  ⟨imports.tables.filter (·.1 != key unit)⟩

@[simp] theorem table?_remove_self (imports : Imports) (unit : Option String) :
    (imports.remove unit).table? unit = none := by
  apply List.lookup_eq_none_iff.2
  intro entry kept
  have isOther := (List.mem_filter.1 kept).2
  simpa [bne_comm] using isOther

theorem table?_remove_of_ne {unit other : Option String} (differ : key other ≠ key unit) (imports : Imports) :
    (imports.remove unit).table? other = imports.table? other :=
  lookup_filter_of_ne differ imports.tables

def listing (imports : Imports) (unit : Option String) : List (String × String) :=
  match imports.table? unit with
  | some table => table.listing
  | none => []

def size (imports : Imports) : Nat :=
  imports.tables.length

end Imports

end LateBound
