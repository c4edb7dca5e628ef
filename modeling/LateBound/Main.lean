import LateBound.Program

/-!
# Running the program

The program on a real machine: its surroundings are looked up, what it writes is written, and a dialogue
reads one line after the other.
-/

namespace LateBound.Console

def pathOfText (text : String) : Path :=
  ⟨"", (text.splitOn "/").filter (!·.isEmpty)⟩

/-- Reads a file into a disk, if there is one, and otherwise notes a folder. -/
def noteFile (disk : Disk) (path : Path) : IO Disk := do
  try
    return disk.write path (← IO.FS.readFile path.text)
  catch
    | .noFileOrDirectory .. => return disk
    | _ => return { disk with folders := path :: disk.folders }

/-- The variables of the environment that the program knows. -/
def knownVariables : List String :=
  [capacityVariable, "CLICOLOR", "CLICOLOR_FORCE", "NO_COLOR"]

def lookAround : IO Surroundings := do
  let mut environment := []
  for name in knownVariables do
    if let some value ← IO.getEnv name then environment := (name, value) :: environment
  let around : Surroundings :=
    { disk := ⟨[], []⟩
      folder := pathOfText (← IO.currentDir).toString
      home := (← IO.getEnv "HOME").map pathOfText
      environment }
  return { around with disk := ← around.settingsPlaces.foldlM noteFile around.disk }

def emit (outputs : List Output) : IO Unit := do
  for output in outputs do
    match output with
    | .out text => IO.print text
    | .err text => IO.eprint text
  (← IO.getStdout).flush

/-- Reads lines and answers each, until the dialogue or the input ends. -/
partial def converse (colours : Bool) (session : Session Caches) : IO Unit := do
  emit [Dialogue.prompt colours]
  let line ← (← IO.getStdin).getLine
  if line.isEmpty then emit [.line ""]
  else
    match (Dialogue.obey colours (.ofLine line)).run session with
    | (some answer, session) => do
      emit answer
      converse colours session
    | (none, _) => return

/-- Writes what a run has written, and ends with its exit code. -/
def finish (result : Run.Result) : IO UInt32 := do
  if let some (path, content) := result.written then IO.FS.writeFile path.text content
  emit result.outputs
  return result.code.toUInt32

/-- Holds a dialogue under the settings that are in force. -/
def holdDialogue (colours : Bool) (around : Surroundings) (options : Options) : IO UInt32 := do
  let (settings, warnings) := Program.loadSettings colours around options
  emit warnings
  match Program.opened settings options with
  | .error error => finish (Program.failedRun colours (.ofSessionError error))
  | .ok session => do
    emit [Dialogue.greeting colours]
    converse colours session
    return 0

end LateBound.Console

open LateBound Console in
def main (words : List String) : IO UInt32 := do
  let around ← lookAround
  let colours := Program.coloursIn around (← (← IO.getStdout).isTty)
  match CommandLine.ofWords words with
  | .request options .dialogue => holdDialogue colours around options
  | _ => finish (Program.run colours around words [])
