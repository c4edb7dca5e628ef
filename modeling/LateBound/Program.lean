import LateBound.Arguments
import LateBound.Builtin
import LateBound.Dialogue

/-!
# The program

The program loads its settings, opens a session under them and serves one request: it evaluates texts,
expands a template, shows or changes settings, or holds a dialogue. What it writes, the file it changes
and its exit code are a function of its command line, of what it finds around it, and of the lines that
are typed.
-/

namespace LateBound

def programVersion : String := "0.0.1"

structure Run.Result where
  outputs : List Output
  written : Option (Path × String)
  code : Nat

namespace Program

def failedRun (colours : Bool) (notice : Notice) : Run.Result :=
  ⟨Output.notice colours notice, none, 1⟩

/-- Whether the program writes in colours. They can be asked for and switched off by variables; else they
are for terminals. -/
def coloursIn (around : Surroundings) (onTerminal : Bool) : Bool :=
  let asked (name : String) : Option Bool := (around.valueOf? name).map (· != "0")
  if asked "CLICOLOR_FORCE" = some true then true
  else if (asked "NO_COLOR").isSome then false
  else (asked "CLICOLOR").getD true && onTerminal

/-! ## Sessions -/

/-- An engine over the types that are always there. -/
def engineWith (registry : Registry) (settings : Settings) : Engine Caches :=
  Engine.cached (Engine.gateOf registry settings.allowList) settings

/-- Runs requests up to the first that is refused. -/
def allOf {μ : Type} (action : String → Session.Action μ (Except SessionError Unit)) :
    List String → Session.Action μ (Except SessionError Unit)
  | [] => return .ok ()
  | text :: texts => do
    match ← action text with
    | .ok _ => allOf action texts
    | .error error => return .error error

/-- Makes the imports and sets the variables that the command line asks for. -/
def prepare (options : Options) : Session.Action Caches (Except SessionError Unit) := do
  match ← allOf (fun text => return (← Session.importText text).map fun _ => ()) options.imports with
  | .ok _ => allOf Session.bindText options.bindings
  | .error error => return .error error

/-- Evaluates texts one after the other. The run fails when anything is reported. -/
def evaluateAll (colours : Bool) : List String → Session.Action Caches (List Output × Bool)
  | [] => return ([], true)
  | text :: texts => do
    let outcome ← Session.evaluate text
    let notices := outcome.diagnostics.flatMap fun diagnostic =>
      Output.notice colours (.ofDiagnostic diagnostic)
    let (outputs, succeeded) ← evaluateAll colours texts
    return (notices ++ .line outcome.value.display :: outputs, !outcome.failed && succeeded)

def expandOne (colours : Bool) (text : String) : Session.Action Caches (List Output × Bool) := do
  let outcome ← Session.expand text
  let notices := outcome.diagnostics.flatMap fun diagnostic =>
    Output.notice colours (.ofDiagnostic diagnostic)
  return (notices ++ [.line outcome.value], !outcome.failed)

def opened (settings : Settings) (options : Options) : Except SessionError (Session Caches) :=
  match (prepare options).run (.start (engineWith standardRegistry settings) options.unit) with
  | (.ok _, session) => .ok session
  | (.error error, _) => .error error

/-- Runs an action on the session that the command line asks for. -/
def inSession (colours : Bool) (settings : Settings) (options : Options)
    (action : Session.Action Caches (List Output × Bool)) : Run.Result :=
  match opened settings options with
  | .error error => failedRun colours (.ofSessionError error)
  | .ok session =>
    let (outputs, succeeded) := (action.run session).1
    ⟨outputs, none, if succeeded then 0 else 1⟩

/-! ## Settings -/

def showSettings (colours : Bool) (settings : Settings) : Run.Result :=
  let heading := [.line (paint colours "1;36" "" ++ " Effective configuration"), .line ""]
  match settings.entries? with
  | some entries => ⟨heading ++ [.out (Toml.write entries)], none, 0⟩
  | none =>
    let notice := Notice.ofMessage
      "Failed to render configuration: out-of-range value for u64 type"
    ⟨heading ++ Output.notice colours notice, none, 1⟩

def setEntry (colours : Bool) (around : Surroundings) (place : SettingsPlace)
    (key value : String) : Except EditError Run.Result := do
  let content ← around.setEntry place key value
  let outputs := [
    .line (paint colours "1;32" "" ++ " Set " ++ place.reach.name ++ " config: "
      ++ paint colours "36" key ++ " = " ++ value),
    .line ("  Location: " ++ place.shown)]
  return ⟨outputs, some (place.path, content), 0⟩

def unsetEntry (colours : Bool) (around : Surroundings) (place : SettingsPlace) (key : String) :
    Except EditError Run.Result := do
  let content ← around.unsetEntry place key
  let output := Output.line (paint colours "1;32" "" ++ " Removed " ++ place.reach.name ++ " config: "
    ++ paint colours "36" key)
  return ⟨[output], some (place.path, content), 0⟩

def showEntry (around : Surroundings) (place : SettingsPlace) (key : String) :
    Except EditError Run.Result :=
  return ⟨[.line (shownValue (← around.getEntry place key))], none, 0⟩

def editEntry (colours : Bool) (around : Surroundings) (key : String) (value : Option String)
    (unset inHome : Bool) : Except EditError Run.Result := do
  let place ← around.place (if inHome then .everywhere else .here)
  if unset then unsetEntry colours around place key
  else
    match value with
    | some value => setEntry colours around place key value
    | none => showEntry around place key

/-- Shows the settings, or shows or changes one entry of a settings file. -/
def editSettings (colours : Bool) (around : Surroundings) (settings : Settings)
    (key value : Option String) (unset inHome : Bool) : Run.Result :=
  match key with
  | none => showSettings colours settings
  | some key =>
    match editEntry colours around key value unset inHome with
    | .ok result => result
    | .error error => failedRun colours (.ofMessage error.message)

/-! ## Runs -/

/-- The settings in force, and a warning when the nearest settings file is of no use. -/
def loadSettings (colours : Bool) (around : Surroundings) (options : Options) :
    Settings × List Output :=
  let extended (settings : Settings) : Settings :=
    { settings with namespaces := settings.namespaces ++ options.allowed }
  match around.settings with
  | .ok settings => (extended settings, [])
  | .error error =>
    (extended .standard,
      [.err (paint colours "1;33" "⚠" ++ " Failed to load config: " ++ error.fullMessage ++ "\n")])

/-- Serves a request under settings, `lines` being what is typed. -/
def serve (colours : Bool) (around : Surroundings) (settings : Settings) (options : Options)
    (lines : List String) : Request → Run.Result
  | .evaluate texts => inSession colours settings options (evaluateAll colours texts)
  | .expand text => inSession colours settings options (expandOne colours text)
  | .dialogue =>
    inSession colours settings options do return (← Dialogue.run colours lines, true)
  | .settings key value unset inHome =>
    editSettings colours around settings key value unset inHome

def run (colours : Bool) (around : Surroundings) (words lines : List String) : Run.Result :=
  match CommandLine.ofWords words with
  | .version => ⟨[.line ("reflex " ++ programVersion)], none, 0⟩
  | .help => ⟨[], none, 0⟩
  | .misuse => ⟨[], none, 2⟩
  | .request options request =>
    let (settings, warnings) := loadSettings colours around options
    let result := serve colours around settings options lines request
    { result with outputs := warnings ++ result.outputs }

end Program

end LateBound
