/-!
# Reading from the front

A reader takes something off the front of a text or refuses. Repetition goes on as long as something is
taken, so that it ends with the text at the latest.
-/

namespace LateBound.Toml

/-- Takes something off the front of a text, or refuses. -/
abbrev Reader (α : Type) := StateT (List Char) Option α

namespace Reader

variable {α : Type}

def refuse : Reader α :=
  fun _ => none

def ofOption : Option α → Reader α
  | some value => pure value
  | none => refuse

/-- Takes the next character, which must be of a class. -/
def char (allowed : Char → Bool) : Reader Char := do
  match ← get with
  | c :: rest =>
    if allowed c then
      set rest
      return c
    else refuse
  | [] => refuse

def skip (text : String) : Reader Unit := do
  let cs ← get
  if text.toList.isPrefixOf cs then set (cs.drop text.length)
  else refuse

/-- Takes the longest run of characters of a class. -/
def chars (allowed : Char → Bool) : Reader (List Char) := do
  let cs ← get
  set (cs.dropWhile allowed)
  return cs.takeWhile allowed

/-- Takes the longest run of characters of a class, of which there must be one. -/
def someChars (allowed : Char → Bool) : Reader (List Char) := do
  match ← chars allowed with
  | [] => refuse
  | taken => return taken

/-- As many items as there are, and the rest. An item of nothing ends the repetition. -/
def manyFrom (item : Reader α) (cs : List Char) : List α × List Char :=
  match StateT.run item cs with
  | some (value, rest) =>
    if rest.length < cs.length then
      let (values, last) := manyFrom item rest
      (value :: values, last)
    else ([], cs)
  | none => ([], cs)
termination_by cs.length

def many (item : Reader α) : Reader (List α) :=
  fun cs => some (manyFrom item cs)

def optional? (item : Reader α) : Reader (Option α) :=
  some <$> item <|> pure none

/-- What a reader takes that must take the whole text. -/
def whole? (reader : Reader α) (cs : List Char) : Option α :=
  match StateT.run reader cs with
  | some (value, []) => some value
  | _ => none

end Reader

end LateBound.Toml
