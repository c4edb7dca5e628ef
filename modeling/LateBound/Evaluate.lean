import LateBound.Initialiser
import LateBound.Resolution.Invoke
import LateBound.Settings
import LateBound.Template
import LateBound.Text.Alphabetic

/-!
# Evaluating expressions

Evaluation walks over the tree of an expression and never fails: a node that fails reports why, has the
value null, and the node around it goes on with that null. A null target fails silently, so that one
failure is reported once.

The text of an initialiser is read while it is evaluated, and its expressions may hold initialisers in
turn. `room` counts how many may still be opened inside each other; evaluation is by recursion on it,
and within one text on the tree.
-/

namespace LateBound

/-- Hooks into the object model of the host. -/
structure HostModel where
  /-- The value of a word that nothing else claims. -/
  readWord : String → Option Value
  /-- The value of `Name[text]` when `Name` is no type. -/
  readObject : String → Option Value
  /-- The result of an evaluation as the host wants it. -/
  wrap : Value → Value

def HostModel.none : HostModel :=
  ⟨fun _ => .none, fun _ => .none, id⟩

/-- What an evaluation may read besides the engine. -/
structure Context where
  unit : Option String
  subject : Option Value
  locals : String → Option Value
  ambient : String → Option Value
  host : HostModel

def Context.empty : Context :=
  ⟨.none, .none, fun _ => .none, fun _ => .none, .none⟩

/-- One evaluation: the gate and the settings of the engine, the context, and the text whose nodes are
evaluated. -/
structure Evaluation where
  gate : Gate
  settings : Settings
  context : Context
  source : String

/-- How deep initialisers may be nested inside each other. -/
def maxInitialisers : Nat := 64

variable {μ : Type} [Memory μ]

/-! ## Reporting -/

def Settings.reports (settings : Settings) (failure : Failure) : Bool :=
  failure.isReportable && (failure.kind != .resolution || settings.reportsResolution)

/-- The reports, latest first, after one more failure in a source of a unit, which arose at a node of a
text that belongs to the source. -/
def Settings.record (settings : Settings) (source : String) (unit : Option String) (text : String)
    (node? : Option Expr) (failure : Failure) (reported : List Report) : List Report :=
  if settings.reports failure then ⟨.ofFailure failure source unit, text, node?⟩ :: reported else reported

namespace Evaluation

def report (evaluation : Evaluation) (text : String) (node? : Option Expr) (failure : Failure) :
    Run μ Unit :=
  modify fun machine =>
    { machine with
      reported := evaluation.settings.record evaluation.source evaluation.context.unit text node? failure
        machine.reported }

/-- The value of a node of a text, null if it fails. -/
def recover (evaluation : Evaluation) (text : String) (node : Expr) (action : Attempt μ Value) :
    Run μ Value := do
  match ← action.outcome with
  | .ok value => return value
  | .error failure =>
    evaluation.report text (some node) (failure.orAt node.span)
    return .null

/-! ## Names -/

/-- Whether a word may name a type: a letter or an underscore, and then letters, digits, underscores
and dollar signs. -/
def isPlainWord (word : String) : Bool :=
  match word.toList with
  | [] => false
  | c :: cs =>
    (Text.isAlphabetic c || c == '_')
      && (c :: cs).all fun c => Text.isAlphanumeric c || c == '_' || c == '$'

def imported? (evaluation : Evaluation) (word : String) : Run μ (Option HostType) := do
  return (← get).imports.resolve? evaluation.context.unit word

/-- The type that a plain word names: an imported one, or else the one of this qualified name. -/
def wordType? (evaluation : Evaluation) (word : String) : Attempt μ (Option HostType) := do
  match ← Attempt.lift (evaluation.imported? word) with
  | some type =>
    checkAdmitted evaluation.gate type.name
    return some type
  | none => lookupType evaluation.gate word

def wordValue (evaluation : Evaluation) (word : String) : Value :=
  let context := evaluation.context
  let subject := if evaluation.settings.namesSubject word then context.subject else none
  (((subject.or (context.locals word)).or (context.ambient word)).or
    (context.host.readWord word)).getD (.str word)

/-- The value of a word. A word that nobody claims stands for itself, so that dotted names can be put
together from their segments. -/
def word (evaluation : Evaluation) (word : String) : Attempt μ Value :=
  if isPlainWord word then do
    match ← evaluation.wordType? word with
    | some type => return .type type.ref
    | none => return evaluation.wordValue word
  else return evaluation.wordValue word

/-- The type named in a construction: an imported one, or else the one of this qualified name. -/
def namedType (evaluation : Evaluation) (name : String) : Attempt μ HostType := do
  match ← Attempt.lift (evaluation.imported? name) with
  | some type =>
    checkAdmitted evaluation.gate type.name
    return type
  | none => requireType evaluation.gate name

/-! ## Nodes -/

def literalValue : Literal → Value
  | .null => .null
  | .bool value => .bool value
  | .int value => .int value
  | .long value => .long value
  | .float value => .float value
  | .double value => .double value
  | .string text => .str text

/-- The value of `target.name`. Behind a text it is one more segment of a qualified name. -/
def member (evaluation : Evaluation) (target : Value) (name : String) : Attempt μ Value := do
  match target.unwrapped with
  | .str qualifier =>
    let qualified := qualifier ++ "." ++ name
    match ← lookupType evaluation.gate qualified with
    | some type => return .type type.ref
    | none => return .str qualified
  | target => readField evaluation.gate target name

mutual
/-- The value of an expression in a text, `initialise` being what a target in front of a bracket comes to. -/
def expression (evaluation : Evaluation) (initialise : Value → String → Attempt μ Value) (text : String)
    (tree : Expr) : Run μ Value :=
  match tree with
  | .literal value _ => return literalValue value
  | .ident name _ => evaluation.recover text tree (evaluation.word name)
  | .field target name _ => do
    let target ← evaluation.expression initialise text target
    evaluation.recover text tree (evaluation.member target name)
  | .call target name args _ => do
    let target ← evaluation.expression initialise text target
    let args ← evaluation.arguments initialise text args
    evaluation.recover text tree (callMember evaluation.gate target name args)
  | .construct typeName args _ => do
    let args ← evaluation.arguments initialise text args
    evaluation.recover text tree do
      construct evaluation.gate (← evaluation.namedType typeName) args
  | .initialise target raw _ => do
    let target ← evaluation.expression initialise text target
    evaluation.recover text tree (initialise target raw)

def arguments (evaluation : Evaluation) (initialise : Value → String → Attempt μ Value) (text : String)
    (args : List Expr) : Run μ (List Value) :=
  match args with
  | [] => return []
  | arg :: args => do
    let value ← evaluation.expression initialise text arg
    return value.unwrapped :: (← evaluation.arguments initialise text args)
end

/-! ## Initialisers -/

/-- The type named in front of a bracket, if it names one. -/
def bracketType? (evaluation : Evaluation) (name : String) : Attempt μ (Option HostType) := do
  match ← Attempt.lift (evaluation.imported? name) with
  | some type => return some (← evaluation.namedType type.name)
  | none => lookupType evaluation.gate name

/-- What the host makes of a bracket and the text in front of it. -/
def interpreted (evaluation : Evaluation) (text : String) : Attempt μ Value :=
  match evaluation.context.host.readObject text with
  | some value => return value
  | none => Attempt.fail (.notInterpreted text)

/-- What a target in front of a bracket stands for: a type to be initialised, or a value that the host
makes of the whole. -/
def initialised (evaluation : Evaluation) (target : Value) (raw : String) :
    Attempt μ (HostType ⊕ Value) := do
  match target.unwrapped with
  | .type ref => return .inl (evaluation.gate.describe ref.name)
  | .str name =>
    match ← evaluation.bracketType? name with
    | some type => return .inl type
    | none => return .inr (← evaluation.interpreted (name ++ "[" ++ raw ++ "]"))
  | .null => Attempt.fail .nothing
  | other => Attempt.fail (.notInitialisable other.display raw)

/-- The value of a segment: that of the expression in it, or its own text if it is none. -/
def segment (evaluation : Evaluation) (initialise : Value → String → Attempt μ Value)
    (text : List Char) : Run μ Value := do
  let text := String.ofList (Text.trimChars text)
  match ← Run.remember (Memory.parse text) with
  | .ok tree => return (← evaluation.expression initialise text tree).unwrapped
  | .error _ => return .str text

/-- Writes the fields that segments assign, in order, up to the first that fails. -/
def assignAll (evaluation : Evaluation) (initialise : Value → String → Attempt μ Value)
    (object : Value) (raw : String) : List (List Char) → Attempt μ Unit
  | [] => return ()
  | text :: rest => do
    match Initialiser.assignment? text with
    | none => Attempt.fail (.notAssignment raw (String.ofList text))
    | some (name, value) =>
      let value ← Attempt.lift (evaluation.segment initialise value)
      writeField evaluation.gate object (String.ofList (Text.trimChars name)) value
      evaluation.assignAll initialise object raw rest

/-- An instance of a type made from the text between brackets. With an assignment among the segments
it is one made without arguments, whose fields are written; otherwise the segments are arguments. -/
def fill (evaluation : Evaluation) (initialise : Value → String → Attempt μ Value)
    (type : HostType) (raw : String) : Attempt μ Value := do
  let segments := Initialiser.segments raw.toList
  if segments.any fun segment => (Initialiser.assignment? segment).isSome then
    let object ← construct evaluation.gate type []
    evaluation.assignAll initialise object raw
      ((segments.map Text.trimChars).filter (!·.isEmpty))
    return object
  else
    let given := segments.filter fun segment => !segment.all Text.isBlank
    let args ← Attempt.lift (given.mapM (evaluation.segment initialise))
    construct evaluation.gate type args

/-- The value of a target with an initialiser, of which `room` may still be opened. -/
def initialise (evaluation : Evaluation) : Nat → Value → String → Attempt μ Value
  | 0, target, raw => do
    match ← evaluation.initialised target raw with
    | .inr value => return value
    | .inl _ => Attempt.fail (.initialisersTooDeep maxInitialisers)
  | room + 1, target, raw => do
    match ← evaluation.initialised target raw with
    | .inr value => return value
    | .inl type => evaluation.fill (evaluation.initialise room) type raw

def value (evaluation : Evaluation) (tree : Expr) : Run μ Value :=
  evaluation.expression (evaluation.initialise maxInitialisers) evaluation.source tree

/-- The value of the text that is evaluated, null if it is blank or no expression. -/
def run (evaluation : Evaluation) : Run μ Value := do
  if evaluation.source = "" then return .null
  match ← Run.remember (Memory.parse evaluation.source) with
  | .ok tree => evaluation.value tree
  | .error error =>
    evaluation.report evaluation.source none (.ofSyntax error)
    return .null

/-! ## Texts of values -/

/-- The text of a value as templates show it: for an object, what its own `toString` returns. -/
def textOf (evaluation : Evaluation) (value : Value) : Run μ String := do
  match value.unwrapped with
  | .object ref =>
    match ← (invokeInstance evaluation.gate (.object ref) "toString" []).outcome with
    | .ok text => return text.display
    | .error _ => return Value.objectText ref
  | other => return other.display

end Evaluation

end LateBound
