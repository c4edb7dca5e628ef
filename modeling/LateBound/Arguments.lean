/-!
# The command line

A command line is a request with its operands, and options that hold for all requests. Options may stand
before and behind the word of the request; behind `--` everything is an operand. An option that stands
on both sides of the word counts as it stands behind it.
-/

namespace LateBound

structure Options where
  allowed : List String
  imports : List String
  unit : Option String
  bindings : List String
  deriving DecidableEq, Repr, Inhabited

/-- What a command line asks for. -/
inductive Request
  | evaluate (texts : List String)
  | expand (text : String)
  | dialogue
  | settings (key value : Option String) (unset inHome : Bool)
  deriving DecidableEq, Repr

/-- What becomes of a command line. -/
inductive CommandLine
  | request (options : Options) (request : Request)
  | version
  | help
  | misuse
  deriving DecidableEq, Repr

namespace CommandLine

/-- The word of a request, which says what operands and options it takes. -/
inductive Verb
  | eval
  | template
  | repl
  | config
  deriving DecidableEq, Repr

def verb? : String → Option Verb
  | "eval" => some .eval
  | "template" => some .template
  | "repl" => some .repl
  | "config" => some .config
  | _ => none

/-- Whether a request takes one more operand than it has. -/
def Verb.takesOperand (verb : Verb) (count : Nat) : Bool :=
  match verb with
  | eval => true
  | template => count < 1
  | repl => false
  | config => count < 2

/-- What was read on one side of the word of the request. -/
structure Side where
  options : Options
  unset : Bool
  inHome : Bool
  operands : List String
  escaped : Bool
  deriving Inhabited

def Side.empty : Side := ⟨⟨[], [], none, []⟩, false, false, [], false⟩

/-- An option that has a value. -/
inductive Valued
  | allow
  | importType
  | unit
  | set
  deriving DecidableEq, Repr

def valued? : String → Option Valued
  | "allow" => some .allow
  | "import" => some .importType
  | "unit" => some .unit
  | "set" => some .set
  | _ => none

/-- Gives an option a value; only the unit may not be given twice. -/
def Side.give? (side : Side) (option : Valued) (value : String) : Option Side :=
  let options := side.options
  let updated (options : Options) : Option Side := some { side with options }
  match option with
  | .allow => updated { options with allowed := options.allowed ++ [value] }
  | .importType => updated { options with imports := options.imports ++ [value] }
  | .set => updated { options with bindings := options.bindings ++ [value] }
  | .unit => if options.unit.isSome then none else updated { options with unit := some value }

def isOption (word : List Char) : Bool :=
  match word with
  | '-' :: _ :: _ => true
  | _ => false

/-- An option without a value, by its long name. `verb` is the word of the request, once it is read. -/
def Side.flag (side : Side) (verb : Option Verb) (name : String) : Except CommandLine Side :=
  match name, verb with
  | "help", _ => .error .help
  | "version", none => .error .version
  | "verbose", _ => .ok side
  | "unset", some .config => if side.unset then .error .misuse else .ok { side with unset := true }
  | "global", some .config =>
    if side.inHome then .error .misuse else .ok { side with inHome := true }
  | _, _ => .error .misuse

def longName : Char → String
  | 'h' => "help"
  | 'V' => "version"
  | 'v' => "verbose"
  | 'u' => "unset"
  | 'g' => "global"
  | _ => ""

def Side.letters (side : Side) (verb : Option Verb) (letters : List Char) : Except CommandLine Side :=
  letters.foldlM (fun side c => side.flag verb (longName c)) side

def splitOption (word : List Char) : String × Option String :=
  let name := String.ofList (word.takeWhile (· != '='))
  match word.dropWhile (· != '=') with
  | [] => (name, none)
  | _ :: value => (name, some (String.ofList value))

/-- Reads words up to the word of the request, if it is still to come, or else to the end. It is handed
over with what stands behind it. -/
def read (verb : Option Verb) : Side → List String → Except CommandLine (Side × List String)
  | side, [] => .ok (side, [])
  | side, word :: words =>
    let operand : Except CommandLine (Side × List String) :=
      match verb with
      | none => .ok (side, word :: words)
      | some verb =>
        if verb.takesOperand side.operands.length then
          read (some verb) { side with operands := side.operands ++ [word] } words
        else .error .misuse
    match side.escaped, word.toList with
    | true, _ => if verb.isNone then .error .misuse else operand
    | false, ['-', '-'] => read verb { side with escaped := true } words
    | false, '-' :: '-' :: name =>
      let (name, value?) := splitOption name
      match valued? name, value? with
      | some option, some value =>
        match side.give? option value with
        | some side => read verb side words
        | none => .error .misuse
      | some option, none =>
        match words with
        | [] => .error .misuse
        | value :: words =>
          match isOption value.toList, side.give? option value with
          | false, some side => read verb side words
          | _, _ => .error .misuse
      | none, some _ => .error .misuse
      | none, none => do read verb (← side.flag verb name) words
    | false, '-' :: c :: letters => do read verb (← side.letters verb (c :: letters)) words
    | false, _ => operand

/-- The options of both sides; a list or a unit given behind the word replaces the one before it. -/
def merged (before behind : Options) : Options where
  allowed := if behind.allowed.isEmpty then before.allowed else behind.allowed
  imports := if behind.imports.isEmpty then before.imports else behind.imports
  unit := behind.unit.or before.unit
  bindings := if behind.bindings.isEmpty then before.bindings else behind.bindings

def requestOf (verb : Verb) (side : Side) : Option Request :=
  match verb, side.operands with
  | .eval, [] => none
  | .eval, texts => some (.evaluate texts)
  | .template, [text] => some (.expand text)
  | .template, _ => none
  | .repl, _ => some .dialogue
  | .config, operands => some (.settings operands[0]? operands[1]? side.unset side.inHome)

/-- What the words of a request for help come to: each must be the word of a request. -/
def helpOn (words : List String) : CommandLine :=
  match words with
  | [] => .help
  | [word] => if (verb? word).isSome || word == "help" then .help else .misuse
  | _ => .misuse

def outcome (words : List String) : Except CommandLine CommandLine := do
  match ← read none .empty words with
  | (_, []) => return .misuse
  | (_, "help" :: rest) => return helpOn rest
  | (before, word :: rest) =>
    match verb? word with
    | none => return .misuse
    | some verb =>
      let (behind, _) ← read (some verb) .empty rest
      match requestOf verb behind with
      | some asked => return .request (merged before.options behind.options) asked
      | none => return .misuse

def ofWords (words : List String) : CommandLine :=
  match outcome words with
  | .ok line => line
  | .error line => line

end CommandLine

end LateBound
