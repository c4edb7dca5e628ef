import LateBound.Settings
import LateBound.Toml.Read
import LateBound.Toml.Write

/-!
# Settings in a file

A settings file is a TOML document with at most one entry per setting and nothing else. What it leaves
out stays as it was, so that a file is a change of settings rather than settings.
-/

namespace LateBound

/-- Which settings a file sets, and to what. -/
structure Overrides where
  treeCapacity : Option Nat
  namespaces : Option (List String)
  subjectWords : Option (List String)
  delimiter : Option Char
  reportsResolution : Option Bool
  deriving DecidableEq, Repr

namespace Overrides

def nothing : Overrides := ⟨none, none, none, none, none⟩

/-- What an entry of a file sets besides. An unknown key and a value of the wrong sort are refused. -/
def add? (overrides : Overrides) (entry : String × Toml) : Option Overrides :=
  match entry with
  | ("ast_cache_size", .integer n) =>
    if 0 ≤ n.toInt then some { overrides with treeCapacity := some n.toInt.toNat } else none
  | ("allowed_namespaces", value) =>
    value.texts?.map fun names => { overrides with namespaces := some names }
  | ("subject_aliases", value) =>
    value.texts?.map fun words => { overrides with subjectWords := some words }
  | ("template_delimiter", .text value) =>
    match value.toList with
    | [c] => some { overrides with delimiter := some c }
    | _ => none
  | ("report_resolution_failures", .boolean value) =>
    some { overrides with reportsResolution := some value }
  | _ => none

def ofEntries? (entries : Toml.Entries Toml) : Option Overrides :=
  entries.foldlM add? nothing

def read? (document : String) : Option Overrides :=
  (Toml.read? document).bind ofEntries?

end Overrides

namespace Settings

def overriddenBy (settings : Settings) (overrides : Overrides) : Settings where
  treeCapacity := overrides.treeCapacity.getD settings.treeCapacity
  namespaces := overrides.namespaces.getD settings.namespaces
  subjectWords := overrides.subjectWords.getD settings.subjectWords
  delimiter := overrides.delimiter.getD settings.delimiter
  reportsResolution := overrides.reportsResolution.getD settings.reportsResolution

/-- The standard settings with what a document sets. -/
def read? (document : String) : Option Settings :=
  (Overrides.read? document).map standard.overriddenBy

/-- The settings as entries of a file. A capacity that TOML has no integer for cannot be written. -/
def entries? (settings : Settings) : Option (Toml.Entries Toml) :=
  (Number.toInt64? settings.treeCapacity).map fun capacity =>
    [("ast_cache_size", .integer capacity),
      ("allowed_namespaces", .array (settings.namespaces.map .text)),
      ("subject_aliases", .array (settings.subjectWords.map .text)),
      ("template_delimiter", .text settings.delimiter.toString),
      ("report_resolution_failures", .boolean settings.reportsResolution)]

end Settings

end LateBound
