import LateBound.Disk
import LateBound.Settings.File

/-!
# Loading settings

Settings come from a file in the home folder, then from the nearest file at or above the folder where
the program runs, then from a variable of the environment; each overrides the ones before. A file in the
home folder that cannot be used is passed over; the nearest one must be usable.
-/

namespace LateBound

/-- What a program finds around it: files, the folder it runs in, the home folder and the variables of
the environment. -/
structure Surroundings where
  disk : Disk
  folder : Path
  home : Option Path
  environment : List (String × String)

def settingsFile : String := ".reflexrc"

/-- The folder that may hold a settings file in place of the folder around it. -/
def settingsFolder : String := ".reflex"

/-- The variable that overrides how many trees are kept. -/
def capacityVariable : String := "REFLEX_AST_CACHE_SIZE"

inductive LoadError
  /-- A text is no settings file. -/
  | malformed
  /-- A file does not hold settings. -/
  | malformedFile (path : Path)
  /-- A file cannot be read. -/
  | unreadable (path : Path) (error : ReadError)
  deriving DecidableEq, Repr

def LoadError.message : LoadError → String
  | malformed => "Failed to parse config"
  | malformedFile path => "Failed to parse " ++ path.text
  | unreadable path _ => "Failed to read config file: " ++ path.text

/-- The text of the error with what is behind it, as far as the wording is this library's own. -/
def LoadError.fullMessage : LoadError → String
  | unreadable path error => (unreadable path error).message ++ ": " ++ error.message
  | error => error.message

/-- The size that a variable asks for: a plus sign, if any, and digits, of at most 64 bits. -/
def readCapacity? (text : String) : Option Nat :=
  let digits :=
    match text.toList with
    | '+' :: cs => cs
    | cs => cs
  (Number.readNatural? digits).filter (· < 18446744073709551616)

namespace Surroundings

def valueOf? (around : Surroundings) (name : String) : Option String :=
  around.environment.lookup name

def capacity? (around : Surroundings) : Option Nat :=
  (around.valueOf? capacityVariable).bind readCapacity?

def settingsIn? (around : Surroundings) (folder : Path) : Option Path :=
  [folder.child settingsFile, (folder.child settingsFolder).child settingsFile].find?
    around.disk.isFile

/-- The settings file at or above the folder of the program that is nearest to it. -/
def nearestSettings? (around : Surroundings) : Option Path :=
  around.folder.upward.findSome? around.settingsIn?

/-- Where the settings file of the home folder is, be it there or not. -/
def homeSettings? (around : Surroundings) : Option Path :=
  around.home.map (·.child settingsFile)

def settingsPlaces (around : Surroundings) : List Path :=
  around.homeSettings?.toList ++ around.folder.upward.flatMap fun folder =>
    [folder.child settingsFile, (folder.child settingsFolder).child settingsFile]

def overridesIn (around : Surroundings) (path : Path) : Except LoadError Overrides :=
  match around.disk.read path with
  | .error error => .error (.unreadable path error)
  | .ok document =>
    match Overrides.read? document with
    | some overrides => .ok overrides
    | none => .error (.malformedFile path)

/-- What the file in the home folder sets, if there is one of use. -/
def homeOverrides (around : Surroundings) : Overrides :=
  match (around.homeSettings?.filter around.disk.isFile).map around.overridesIn with
  | some (.ok overrides) => overrides
  | some (.error _) | none => .nothing

def nearestOverrides (around : Surroundings) : Except LoadError Overrides :=
  match around.nearestSettings? with
  | some path => around.overridesIn path
  | none => .ok .nothing

def settings (around : Surroundings) : Except LoadError Settings :=
  around.nearestOverrides.map fun overrides =>
    let settings := (Settings.standard.overriddenBy around.homeOverrides).overriddenBy overrides
    { settings with treeCapacity := around.capacity?.getD settings.treeCapacity }

def settingsFrom (around : Surroundings) (path : Path) : Except LoadError Settings :=
  (around.overridesIn path).map Settings.standard.overriddenBy

end Surroundings

end LateBound
