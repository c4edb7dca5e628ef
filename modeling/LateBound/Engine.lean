import LateBound.Builtin
import LateBound.Evaluate

/-!
# The engine

An engine is a gate, settings and the state that evaluation runs on, and it counts how often it was told
to forget everything. Its operations evaluate texts, expand templates, import types, and reach members of
the host directly; each yields its answer together with the engine after it.

With `Caches` for a memory the engine keeps what it finds until it is told to forget; with `Unit` it
keeps nothing but the imports.
-/

namespace LateBound

/-- An engine with a memory of some kind. -/
structure Engine (μ : Type) where
  gate : Gate
  settings : Settings
  generation : Nat
  machine : Machine μ

namespace Engine

variable {μ : Type}

/-- The gate of a registry and an allow-list. Values may also carry types that are not registered. -/
def gateOf (registry : Registry) (policy : AllowList) (carried : Registry := .empty) : Gate where
  find? := registry.find?
  admits := policy.admits
  describe name := ((registry.find? name).or (carried.find? name)).getD (.empty name)

def start (gate : Gate) (settings : Settings) (memory : μ) (store : Store := .empty) : Engine μ :=
  ⟨gate, settings, 0, .start memory store⟩

def cached (gate : Gate) (settings : Settings) (store : Store := .empty) : Engine Caches :=
  start gate settings (.empty settings.treeCapacity) store

def withPolicy (engine : Engine μ) (policy : AllowList) : Engine μ :=
  { engine with gate := { engine.gate with admits := policy.admits } }

/-! ## Running actions -/

abbrev Action (μ α : Type) := StateM (Engine μ) α

def run {α : Type} (action : Gate → Run μ α) : Action μ α :=
  modifyGet fun engine =>
    let (answer, machine) := (action engine.gate).run engine.machine
    (answer, { engine with machine })

def attempt {α : Type} (action : Gate → Attempt μ α) : Action μ (Except Failure α) :=
  run fun gate => (action gate).outcome

variable [Memory μ]

/-! ## Evaluation -/

/-- The value of a text, one that holds an expression without a template around it. -/
def evaluateSource (context : Context) (source : String) : Action μ Value := do
  let settings := (← get).settings
  run fun gate => Evaluation.run ⟨gate, settings, context, source⟩

def renderSource (context : Context) (source : String) : Action μ String := do
  let settings := (← get).settings
  run fun gate => do
    let evaluation : Evaluation := ⟨gate, settings, context, source⟩
    evaluation.textOf (← evaluation.run)

/-- Replaces every expression of a template by the text of its value. -/
def expandTemplate (context : Context) (text : String) : Action μ String := do
  Template.expand (← get).settings.delimiter (renderSource context) text

/-- The value of a text, before the host boxes it. A text that is one placeholder has the value of the
expression in it, any other text with a delimiter is a template, and all else is an expression. -/
def evaluateText (context : Context) (text : String) : Action μ Value := do
  let delimiter := (← get).settings.delimiter
  match Template.whole? delimiter text with
  | some source => evaluateSource context source
  | none =>
    if Template.isTemplate delimiter text then .str <$> expandTemplate context text
    else evaluateSource context (Text.trim text)

def evaluate (context : Context) (text : String) : Action μ Value := do
  return context.host.wrap (← evaluateText context text)

def parse (text : String) : Action μ (Except SyntaxError Expr) :=
  run fun _ => Run.remember (Memory.parse text)

/-! ## Imports -/

/-- Imports a type into a unit under a label, or under its short name. -/
def addImport (unit : Option String) (name : String) (label? : Option String) :
    Action μ (Except Failure HostType) :=
  attempt fun gate => do
    let type ← requireType gate name
    Attempt.lift (modify fun machine =>
      { machine with imports := machine.imports.insert unit type label? })
    return type

def imports (unit : Option String) : Action μ (List (String × String)) :=
  return (← get).machine.imports.listing unit

/-- Drops the imports of a unit and says whether it had a table of them. -/
def removeUnit (unit : Option String) : Action μ Bool :=
  modifyGet fun engine =>
    ((engine.machine.imports.table? unit).isSome,
      { engine with
        machine := { engine.machine with imports := engine.machine.imports.remove unit } })

def clearAll : Action μ Unit :=
  modify fun engine =>
    { engine with
      generation := engine.generation + 1
      machine :=
        { engine.machine with
          memory := Memory.forget engine.machine.memory
          imports := .empty } }

/-! ## Members of the host -/

def resolveType (name : String) : Action μ (Except Failure (Option HostType)) :=
  attempt fun gate => lookupType gate name

def isAllowed (name : String) : Action μ Bool :=
  return (← get).gate.admits name

def getField (target : Value) (name : String) : Action μ (Except Failure Value) :=
  attempt fun gate => readField gate target name

def setField (target : Value) (name : String) (value : Value) : Action μ (Except Failure Unit) :=
  attempt fun gate => writeField gate target name value

def callMethod (target : Value) (name : String) (args : List Value) :
    Action μ (Except Failure Value) :=
  attempt fun gate => callMember gate target name args

def constructType (name : String) (args : List Value) : Action μ (Except Failure Value) :=
  attempt fun gate => do construct gate (← requireType gate name) args

/-! ## Reports and statistics -/

def drainReports : Action μ (List Report) :=
  modifyGet fun engine =>
    (engine.machine.reported.reverse,
      { engine with machine := { engine.machine with reported := [] } })

/-- The diagnostics reported since they were last taken, in order. -/
def takeReports : Action μ (List Diagnostic) :=
  return (← drainReports).map Report.diagnostic

/-- What an engine has done and holds. The counts of texts and the sizes are those of this generation,
the others those of the engine's life. -/
structure Statistics where
  generation : Nat
  parses : Nat
  treeHits : Nat
  trees : Nat
  searches : Nat
  handleHits : Nat
  handles : Nat
  types : Nat
  typeLookups : Nat
  importUnits : Nat
  deriving DecidableEq, Repr

def statistics (engine : Engine Caches) : Statistics :=
  let caches := engine.machine.memory
  { generation := engine.generation
    parses := caches.trees.parses
    treeHits := caches.trees.hits
    trees := caches.trees.entries.length
    searches := caches.handles.searches
    handleHits := caches.handles.hits
    handles := caches.handles.size
    types := caches.types.size
    typeLookups := caches.types.calls
    importUnits := engine.machine.imports.size }

end Engine

end LateBound
