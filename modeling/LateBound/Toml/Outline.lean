import LateBound.Toml

/-!
# Tables in the making

The tables of a document grow while it is read. Each remembers what brought it about, because that says
who may still add to it: a table with a header is complete where its section ends, a table that only
appears inside other headers may get a header of its own once, and one that was made by dotted keys
grows by dotted keys alone.
-/

namespace LateBound.Toml

/-- What brought a table about. -/
inductive Origin
  /-- A header of its own. -/
  | header
  /-- The header of a table inside it. -/
  | inner
  /-- A dotted key. -/
  | dotted
  deriving DecidableEq, Repr

/-- An entry of a table that may still grow: a value, a table, or a series of tables that share one
header, the last in front. -/
inductive Node
  | leaf (value : Toml)
  | table (origin : Origin) (entries : List (String × Node))
  | series (tables : List (List (String × Node)))

namespace Outline

/-- Changes the table that a header names; the tables on the way to it are made if need be, and of a
series the last one is meant. -/
def atHeader? (change : Entries Node → Option (Entries Node)) :
    List String → Entries Node → Option (Entries Node)
  | [], entries => change entries
  | key :: path, entries =>
    alter? key (fun
      | none => (atHeader? change path []).map (.table .inner)
      | some (.table origin entries) => (atHeader? change path entries).map (.table origin)
      | some (.series (last :: before)) =>
        (atHeader? change path last).map fun last => .series (last :: before)
      | some (.series []) | some (.leaf _) => none) entries

/-- Opens the table of a header, which must not have been opened before. -/
def openTable? (path : List String) (key : String) : Entries Node → Option (Entries Node) :=
  atHeader? (alter? key fun
    | none => some (.table .header [])
    | some (.table .inner entries) => some (.table .header entries)
    | some _ => none) path

def openSeries? (path : List String) (key : String) : Entries Node → Option (Entries Node) :=
  atHeader? (alter? key fun
    | none => some (.series [[]])
    | some (.series tables) => some (.series ([] :: tables))
    | some _ => none) path

/-- Gives a key a value. The tables between the parts of a dotted key are made if need be; the last of
them must have been made by dotted keys, and none may have a header. -/
def assign? (value : Toml) : List String → Entries Node → Option (Entries Node)
  | [], _ => none
  | [key], entries =>
    alter? key (fun
      | none => some (.leaf value)
      | some _ => none) entries
  | key :: next :: path, entries =>
    alter? key (fun
      | none => (assign? value (next :: path) []).map (.table .dotted)
      | some (.table .dotted entries) =>
        (assign? value (next :: path) entries).map (.table .dotted)
      | some (.table .inner entries) =>
        if path.isEmpty then none
        else (assign? value (next :: path) entries).map (.table .inner)
      | some (.series (last :: before)) =>
        if path.isEmpty then none
        else (assign? value (next :: path) last).map fun last => .series (last :: before)
      | some (.table .header _) | some (.series []) | some (.leaf _) => none) entries

mutual
def finished : Node → Toml
  | .leaf value => value
  | .table _ entries => .table (sorted (finishedEntries entries))
  | .series tables => .array (finishedTables tables).reverse

def finishedEntries : List (String × Node) → Entries Toml
  | [] => []
  | (key, node) :: rest => (key, finished node) :: finishedEntries rest

def finishedTables : List (List (String × Node)) → List Toml
  | [] => []
  | entries :: rest => .table (sorted (finishedEntries entries)) :: finishedTables rest
end

end Outline

end LateBound.Toml
