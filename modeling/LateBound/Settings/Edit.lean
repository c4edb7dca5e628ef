import LateBound.Settings.Load

/-!
# Reading and changing settings files

One entry of a settings file is shown, set or removed. A change that would make the file unusable is
refused, and the file stays as it was. Files are written with their keys in order.
-/

namespace LateBound

/-- Which settings file is meant: the one of the home folder or the nearest one. -/
inductive Reach
  | everywhere
  | here
  deriving DecidableEq, Repr

def Reach.name : Reach → String
  | everywhere => "global"
  | here => "local"

structure SettingsPlace where
  path : Path
  shown : String
  reach : Reach

inductive EditError
  | noHome
  | noFile (place : SettingsPlace)
  | unreadable (place : SettingsPlace) (error : ReadError)
  | malformed (place : SettingsPlace)
  | noEntry (key : String)
  | unusable (key value : String)

def EditError.message : EditError → String
  | noHome => "Could not determine home directory"
  | noFile place => "No " ++ place.reach.name ++ " config file found at " ++ place.shown
  | unreadable place error => "Failed to read " ++ place.shown ++ ": " ++ error.message
  | malformed place => "Failed to parse " ++ place.shown
  | noEntry key => "Config key '" ++ key ++ "' not found"
  | unusable key value =>
    "'" ++ value ++ "' is not a valid value for " ++ key ++ ": " ++ LoadError.malformed.message

/-- The value that a text on the command line stands for under a key: a list of texts for the settings
that are lists, and else an integer, a boolean or a text. -/
def entryValue (key text : String) : Toml :=
  if key = "allowed_namespaces" ∨ key = "subject_aliases" then
    let parts := (Text.split [','] text.toList).map Text.trimChars
    .array ((parts.filter (!·.isEmpty)).map fun part => .text (String.ofList part))
  else
    match (Number.readInteger? text.toList).bind Number.toInt64? with
    | some n => .integer n
    | none =>
      if text = "true" then .boolean true
      else if text = "false" then .boolean false
      else .text text

/-- The entries with one of them set, in the order of their keys. -/
def withEntry (entries : Toml.Entries Toml) (key : String) (value : Toml) : Toml.Entries Toml :=
  Toml.sorted ((key, value) :: entries.filter (·.1 != key))

def shownValue : Toml → String
  | .text value => value
  | value => Toml.valueText false value

namespace Surroundings

/-- The settings file of a reach. The nearest one is a file of the folder itself when there is none. -/
def place (around : Surroundings) : Reach → Except EditError SettingsPlace
  | .everywhere =>
    match around.homeSettings? with
    | some path => .ok ⟨path, path.text, .everywhere⟩
    | none => .error .noHome
  | .here =>
    .ok <|
      match around.nearestSettings? with
      | some path => ⟨path, path.text, .here⟩
      | none => ⟨around.folder.child settingsFile, settingsFile, .here⟩

def entriesAt (around : Surroundings) (place : SettingsPlace) :
    Except EditError (Toml.Entries Toml) :=
  match around.disk.read place.path with
  | .error error => .error (.unreadable place error)
  | .ok document =>
    match Toml.read? document with
    | some entries => .ok entries
    | none => .error (.malformed place)

def existingEntries (around : Surroundings) (place : SettingsPlace) :
    Except EditError (Toml.Entries Toml) :=
  if around.disk.holds place.path then around.entriesAt place else .error (.noFile place)

def getEntry (around : Surroundings) (place : SettingsPlace) (key : String) :
    Except EditError Toml := do
  match (← around.existingEntries place).lookup key with
  | some value => return value
  | none => throw (.noEntry key)

def setEntry (around : Surroundings) (place : SettingsPlace) (key text : String) :
    Except EditError String := do
  let entries ← if around.disk.holds place.path then around.entriesAt place else pure []
  let entries := withEntry entries key (entryValue key text)
  if (Overrides.ofEntries? entries).isNone then throw (.unusable key text)
  return Toml.write entries

def unsetEntry (around : Surroundings) (place : SettingsPlace) (key : String) :
    Except EditError String := do
  let entries ← around.existingEntries place
  if (entries.lookup key).isNone then throw (.noEntry key)
  return Toml.write (entries.filter (·.1 != key))

end Surroundings

end LateBound
