import LateBound.Number.Decimal

/-!
# TOML values

The data that a settings file can hold. Tables list their entries by key; dates and times are kept in
parts, so that each has one written form.
-/

namespace LateBound

namespace Toml

structure Date where
  year : Nat
  month : Nat
  day : Nat
  deriving DecidableEq, Repr

structure Time where
  hour : Nat
  minute : Nat
  second : Nat
  nanosecond : Nat
  deriving DecidableEq, Repr

/-- How a local time differs from universal time: not at all, or by some minutes. -/
inductive Shift
  | none
  | minutes (count : Int)
  deriving DecidableEq, Repr

/-- A date, a time, or both, and then perhaps a shift. -/
structure Moment where
  date : Option Date
  time : Option Time
  shift : Option Shift
  deriving DecidableEq, Repr

end Toml

inductive Toml
  | text (value : String)
  | integer (value : Int64)
  | float (value : Float)
  | boolean (value : Bool)
  | moment (value : Toml.Moment)
  | array (items : List Toml)
  | table (entries : List (String × Toml))
  deriving Repr, Inhabited

namespace Toml

def texts? : Toml → Option (List String)
  | array items => items.mapM fun
    | text value => some value
    | _ => none
  | _ => none

/-- A character that a key may hold without quotes. -/
def isKeyChar (c : Char) : Bool :=
  c.isAlphanum || c == '_' || c == '-'

/-- A character that a text or a comment may hold as it is, quotes and backslashes apart: no control
character but the tab. -/
def isPlainChar (c : Char) : Bool :=
  c == '\t' || (0x20 ≤ c.toNat && c.toNat != 0x7F)

/-! ## Entries by key -/

abbrev Entries (α : Type) := List (String × α)

/-- Changes the entry of a key, which may not be there yet; the change may be refused. -/
def alter? {α : Type} (key : String) (change : Option α → Option α) : Entries α → Option (Entries α)
  | [] => (change none).map fun value => [(key, value)]
  | (k, value) :: rest =>
    if k = key then (change (some value)).map fun value => (k, value) :: rest
    else (alter? key change rest).map ((k, value) :: ·)

def sorted {α : Type} (entries : Entries α) : Entries α :=
  entries.mergeSort fun a b => a.1 ≤ b.1

end Toml

end LateBound
