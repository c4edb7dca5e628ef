import LateBound.Notice

/-!
# Dialogues

A dialogue goes through lines that a user types. A line that starts with a colon is a command to the
session; any other line that is not blank is evaluated. Every line is answered before the next is read.
-/

namespace LateBound

/-- What a line asks for. -/
inductive Command
  | nothing
  | quit
  | help
  | reload
  | stats
  | importType (name : String) (label : Option String)
  | set (name value : String)
  | evaluate (text : String)
  | unknown (text : String)
  deriving DecidableEq, Repr

namespace Command

def words (cs : List Char) : List String :=
  ((cs.splitBy fun a b => Text.isBlank a == Text.isBlank b).filter
    fun run => !run.all Text.isBlank).map String.ofList

/-- The command behind a colon, `line` being the whole line. -/
def ofColon (line : String) (rest : List Char) : Command :=
  let args := (rest.dropWhile (!Text.isBlank ·)).drop 1
  match String.ofList (rest.takeWhile (!Text.isBlank ·)) with
  | "q" | "quit" | "exit" => quit
  | "h" | "help" => help
  | "reload" => reload
  | "stats" => stats
  | "import" =>
    match words args with
    | name :: more => importType name more.head?
    | [] => unknown line
  | "set" =>
    let args := Text.trimChars args
    match args.dropWhile (!Text.isBlank ·) with
    | [] => unknown line
    | _ :: value =>
      set (String.ofList (args.takeWhile (!Text.isBlank ·)))
        (String.ofList (Text.trimChars value))
  | _ => unknown line

def ofLine (line : String) : Command :=
  let line := Text.trim line
  match line.toList with
  | [] => nothing
  | ':' :: rest => ofColon line rest
  | _ => evaluate line

end Command

namespace Dialogue

def helpLines (colours : Bool) : List String :=
  let command := paint colours "36"
  [paint colours "1;36" "Commands:",
    "  " ++ command ":import <name> [alias]" ++ "   import a type, optionally under an alias",
    "  " ++ command ":set <name> <value>" ++ "            bind a local variable",
    "  " ++ command ":reload" ++ "                        clear every cache and replay imports",
    "  " ++ command ":stats" ++ "                         show cache counters",
    "  " ++ command ":quit" ++ "                          leave",
    "Anything else is evaluated; text with %expr% placeholders is a template."]

def statsLines (colours : Bool) (stats : Engine.Statistics) : List String :=
  let count (n : Nat) : String := toString n
  [paint colours "1;36" "" ++ " generation " ++ count stats.generation,
    "  parses:         " ++ count stats.parses ++ " (" ++ count stats.treeHits ++ " cache hits, "
      ++ count stats.trees ++ " cached)",
    "  resolutions:    " ++ count stats.searches ++ " (" ++ count stats.handleHits
      ++ " handle hits, " ++ count stats.handles ++ " cached)",
    "  type lookups:   " ++ count stats.typeLookups ++ " (" ++ count stats.types ++ " cached)",
    "  import units:   " ++ count stats.importUnits]

/-- The answer to an evaluation. A failure that leaves null shows no value. -/
def valueOutput (colours : Bool) (outcome : Outcome Value) : List Output :=
  outcome.diagnostics.flatMap (fun diagnostic => Output.notice colours (.ofDiagnostic diagnostic))
    ++ if !outcome.failed || !outcome.value.isNull then [.line outcome.value.display] else []

/-- The answer to a request that says something when it succeeds. -/
def requestOutput {α : Type} (colours : Bool) (success : α → String) :
    Except SessionError α → List Output
  | .ok value => [.line (paint colours "1;32" "" ++ " " ++ success value)]
  | .error error => Output.notice colours (.ofSessionError error)

/-- Obeys a command; there is no answer when the dialogue is to end. -/
def obey (colours : Bool) : Command → Session.Action Caches (Option (List Output))
  | .nothing => return some []
  | .quit => return none
  | .help => return some ((helpLines colours).map .line)
  | .reload => do
    let success (_ : Unit) := paint colours "2" "Caches cleared"
    return some (requestOutput colours success (← Session.reload))
  | .stats => return some ((statsLines colours (← get).engine.statistics).map .line)
  | .importType name label => do
    let success (visible : String) :=
      paint colours "2" "Imported as" ++ " " ++ paint colours "36" visible
    return some (requestOutput colours success (← Session.importAs name label))
  | .set name value => do
    Session.bind name value
    return some []
  | .evaluate text => return some (valueOutput colours (← Session.evaluate text))
  | .unknown text =>
    let notice : Notice :=
      { Notice.plain ("Unknown command: " ++ text) with
        help := some "Type :help for the list of commands" }
    return some (Output.notice colours notice)

def greeting (colours : Bool) : Output :=
  .line (paint colours "1;36" "reflex" ++ " " ++ paint colours "2" "- type :help for commands")

def prompt (colours : Bool) : Output :=
  .out (paint colours "1;36" ">" ++ " ")

/-- The answers to lines, up to the one that ends the dialogue. -/
def answers (colours : Bool) : List String → Session.Action Caches (List Output)
  | [] => return [prompt colours, .line ""]
  | line :: lines => do
    match ← obey colours (.ofLine line) with
    | none => return [prompt colours]
    | some answer => return prompt colours :: answer ++ (← answers colours lines)

def run (colours : Bool) (lines : List String) : Session.Action Caches (List Output) := do
  return greeting colours :: (← answers colours lines)

end Dialogue

end LateBound
