import LateBound.Engine

/-!
# Sessions

A session is an engine together with what a user has set up on it: the unit of the texts, variables, and
the imports made so far, which are made again when the engine has to forget everything.
-/

namespace LateBound

/-- The value of a text with what was reported meanwhile. -/
structure Outcome (α : Type) where
  value : α
  diagnostics : List Diagnostic

def Outcome.failed {α : Type} (outcome : Outcome α) : Bool :=
  !outcome.diagnostics.isEmpty

inductive SessionError
  | failed (failure : Failure)
  | noBinding (text : String)
  | notImportedAgain (names : List String)

def SessionError.message : SessionError → String
  | failed failure => failure.message
  | noBinding text => "expected NAME=VALUE, got '" ++ text ++ "'"
  | notImportedAgain names => "could not re-import " ++ ", ".intercalate names

/-- An engine with the unit, the variables and the imports of its user. -/
structure Session (μ : Type) where
  engine : Engine μ
  unit : Option String
  locals : List (String × Value)
  imports : List (String × Option String)

namespace Session

variable {μ : Type}

def start (engine : Engine μ) (unit : Option String) : Session μ :=
  ⟨engine, unit, [], []⟩

abbrev Action (μ α : Type) := StateM (Session μ) α

def context (session : Session μ) : Context :=
  { Context.empty with unit := session.unit, locals := fun name => session.locals.lookup name }

def onEngine {α : Type} (action : Engine.Action μ α) : Action μ α :=
  modifyGet fun session =>
    let (answer, engine) := action.run session.engine
    (answer, { session with engine })

/-- Runs an action of the engine and collects what it reports. -/
def collecting {α : Type} (action : Context → Engine.Action μ α) : Action μ (Outcome α) := do
  let context := (← get).context
  onEngine do
    let value ← action context
    return ⟨value, ← Engine.takeReports⟩

variable [Memory μ]

def evaluate (text : String) : Action μ (Outcome Value) :=
  collecting fun context => Engine.evaluate context text

def expand (text : String) : Action μ (Outcome String) :=
  collecting fun context => Engine.expandTemplate context text

/-! ## Imports -/

/-- Imports a type, and says under which name it is visible then. -/
def importAs (name : String) (label? : Option String) : Action μ (Except SessionError String) := do
  let unit := (← get).unit
  match ← onEngine (Engine.addImport unit name label?) with
  | .error failure => return .error (.failed failure)
  | .ok type =>
    modify fun session => { session with imports := session.imports ++ [(name, label?)] }
    return .ok (label?.getD type.shortName)

/-- The texts before and behind the first mark of equality. -/
def splitEquals? (cs : List Char) : Option (List Char × List Char) :=
  match cs.dropWhile (· != '=') with
  | [] => none
  | _ :: behind => some (cs.takeWhile (· != '='), behind)

private def trimmed (cs : List Char) : String :=
  String.ofList (Text.trimChars cs)

def importText (text : String) : Action μ (Except SessionError String) :=
  match splitEquals? text.toList with
  | some (name, label) => importAs (trimmed name) (some (trimmed label))
  | none => importAs (trimmed text.toList) none

/-! ## Variables -/

/-- The value of a text that is an expression and is evaluated without a report; any other text stands
for itself. -/
def literal (text : String) : Action μ Value := do
  match ← onEngine (Engine.parse text) with
  | .error _ => return .str text
  | .ok _ =>
    let outcome ← evaluate text
    return if outcome.failed then .str text else outcome.value.unwrapped

def bind (name text : String) : Action μ Unit := do
  let value ← literal text
  modify fun session =>
    { session with locals := (name, value) :: session.locals.filter (·.1 != name) }

def bindText (text : String) : Action μ (Except SessionError Unit) := do
  match splitEquals? text.toList with
  | some (name, value) => return .ok (← bind (trimmed name) (trimmed value))
  | none => return .error (.noBinding text)

/-! ## Starting over -/

/-- Makes imports again, and lists the names of those that fail. -/
def importAll : List (String × Option String) → Action μ (List String)
  | [] => return []
  | (name, label?) :: rest => do
    match ← importAs name label? with
    | .ok _ => importAll rest
    | .error _ => return name :: (← importAll rest)

/-- Makes the engine forget everything, and makes all imports again. -/
def reload : Action μ (Except SessionError Unit) := do
  let imports := (← get).imports
  onEngine Engine.clearAll
  modify fun session => { session with imports := [] }
  match ← importAll imports with
  | [] => return .ok ()
  | lost => return .error (.notImportedAgain lost)

end Session

end LateBound
