import LateBound.Toml.Outline
import LateBound.Toml.Scalar

/-!
# Reading TOML

A document is a sequence of lines: blank ones, headers of tables, and assignments. Texts, arrays and
inline tables are read by their own rules; an array may run over several lines, an inline table may not.

Arrays and inline tables are read by recursion on how many of them may still be opened inside each
other.
-/

namespace LateBound.Toml

open Reader

/-! ## Blanks and line ends -/

def blanks : Reader Unit := do
  let _ ← chars fun c => c == ' ' || c == '\t'

def newline : Reader Unit :=
  skip "\n" <|> skip "\r\n"

def comment : Reader Unit := do
  skip "#"
  let _ ← chars isPlainChar

def gap : Reader Unit := do
  let _ ← many (newline <|> comment <|> do
    let _ ← someChars fun c => c == ' ' || c == '\t')

/-- Takes the rest of a line that holds nothing more. -/
def lineEnd : Reader Unit := do
  blanks
  let _ ← optional? comment
  match ← get with
  | [] => return
  | _ => newline

/-! ## Texts -/

/-- The character of a code point, which must be one. -/
def charOfCode (code : Nat) : Reader Char :=
  if code.isValidChar then pure (Char.ofNat code) else refuse

/-- Takes a code point of so many digits in base sixteen. -/
def codePoint (count : Nat) : Reader Char := do
  let digits := (← get).take count
  if digits.length = count ∧ digits.all (fun c => (digit? 16 c).isSome) then
    modify (·.drop count)
    charOfCode ((digits? 16 digits).getD 0)
  else refuse

/-- Takes what stands behind a backslash for one character. -/
def escaped : Reader Char := do
  match ← Reader.char fun _ => true with
  | 'b' => return '\x08'
  | 't' => return '\t'
  | 'n' => return '\n'
  | 'f' => return '\x0c'
  | 'r' => return '\r'
  | '"' => return '"'
  | '\\' => return '\\'
  | 'u' => codePoint 4
  | 'U' => codePoint 8
  | _ => refuse

def escape : Reader (List Char) := do
  skip "\\"
  return [← escaped]

def plain (special : List Char) : Reader (List Char) :=
  someChars fun c => isPlainChar c && !special.contains c

/-- Takes a line end inside a text, which is a line feed however it is written. -/
def innerNewline : Reader (List Char) := do
  newline
  return ['\n']

/-- Takes a backslash at the end of a line, with all blanks and line ends behind it. -/
def foldedNewline : Reader (List Char) := do
  skip "\\"
  blanks
  newline
  let _ ← many (newline <|> do
    let _ ← someChars fun c => c == ' ' || c == '\t')
  return []

/-- Takes one or two quotes that do not end a text between triple quotes. -/
def innerQuotes (quote : Char) : Reader (List Char) := do
  let quotes ← someChars (· == quote)
  if quotes.length ≤ 2 then return quotes else refuse

/-- Takes the quotes at the end of a text between triple quotes, of which up to two belong to the
text. -/
def closingQuotes (quote : Char) : Reader (List Char) := do
  let quotes ← chars (· == quote)
  if 3 ≤ quotes.length ∧ quotes.length ≤ 5 then return quotes.drop 3 else refuse

/-- Takes a text between triple quotes; a line end right behind them does not count. -/
def longText (quote : Char) (piece : Reader (List Char)) : Reader String := do
  skip (String.ofList [quote, quote, quote])
  let _ ← optional? newline
  let pieces ← many (innerQuotes quote <|> innerNewline <|> piece)
  let last ← closingQuotes quote
  return String.ofList (pieces.flatten ++ last)

def shortText (quote : Char) (piece : Reader (List Char)) : Reader String := do
  let _ ← Reader.char (· == quote)
  let pieces ← many piece
  let _ ← Reader.char (· == quote)
  return String.ofList pieces.flatten

/-- Takes a text on one line, between quotes with escapes or between apostrophes without. -/
def lineText : Reader String :=
  shortText '"' (plain ['"', '\\'] <|> escape) <|> shortText '\'' (plain ['\''])

def anyText : Reader String :=
  longText '"' (plain ['"', '\\'] <|> escape <|> foldedNewline)
    <|> longText '\'' (plain ['\''])
    <|> do
      if "\"\"\"".toList.isPrefixOf (← get) || "'''".toList.isPrefixOf (← get) then refuse
      else lineText

/-! ## Keys -/

def keyPart : Reader String :=
  lineText <|> String.ofList <$> someChars isKeyChar

/-- How many parts a key may have, and how deep collections may be nested. -/
def nestingLimit : Nat := 79

def key : Reader (List String) := do
  blanks
  let first ← keyPart
  let rest ← many do
    blanks
    skip "."
    blanks
    keyPart
  blanks
  if rest.length < nestingLimit then return first :: rest else refuse

/-! ## Values -/

def arrayOf (item : Reader Toml) : Reader Toml := do
  skip "["
  gap
  let items ← many do
    let value ← item
    gap
    skip ","
    gap
    return value
  let last ← optional? do
    let value ← item
    gap
    return value
  skip "]"
  return .array (items ++ last.toList)

/-- Takes a key, the mark of equality and a value. -/
def assignment (value : Reader Toml) : Reader (List String × Toml) := do
  let path ← key
  skip "="
  blanks
  return (path, ← value)

def inlineTable (value : Reader Toml) : Reader Toml := do
  skip "\x7b"
  blanks
  let first ← optional? (assignment value)
  blanks
  let rest ← if first.isNone then pure [] else many do
    skip ","
    let entry ← assignment value
    blanks
    return entry
  skip "\x7d"
  let entries ← ofOption ((first.toList ++ rest).foldlM
    (fun entries (path, value) => Outline.assign? value path entries) [])
  return .table (sorted (Outline.finishedEntries entries))

/-- Takes a value, in which `room` collections may still be opened inside each other. -/
def value : Nat → Reader Toml
  | 0 => .text <$> anyText <|> scalar
  | room + 1 =>
    .text <$> anyText <|> arrayOf (value room) <|> inlineTable (value room) <|> scalar

/-! ## Documents -/

/-- A line that says something. -/
inductive Statement
  | tableHeader (path : List String) (key : String)
  | seriesHeader (path : List String) (key : String)
  | entry (path : List String) (value : Toml)

/-- Takes the key of a header, as the parts before the last and the last. -/
def headerKey : Reader (List String × String) := do
  let path ← key
  match path.getLast? with
  | some last => return (path.dropLast, last)
  | none => refuse

def seriesHeader : Reader Statement := do
  skip "[["
  let (path, key) ← headerKey
  skip "]]"
  return .seriesHeader path key

def tableHeader : Reader Statement := do
  skip "["
  let (path, key) ← headerKey
  skip "]"
  return .tableHeader path key

def entry : Reader Statement := do
  let (path, value) ← assignment (value nestingLimit)
  return .entry path value

def line : Reader (Option Statement) := do
  blanks
  let statement ← optional? (seriesHeader <|> tableHeader <|> entry)
  lineEnd
  return statement

/-- A table in the making, and the key of the header under which lines stand. -/
structure Draft where
  under : List String
  entries : Entries Node

def Draft.obey? (draft : Draft) : Statement → Option Draft
  | .tableHeader path key =>
    (Outline.openTable? path key draft.entries).map (⟨path ++ [key], ·⟩)
  | .seriesHeader path key =>
    (Outline.openSeries? path key draft.entries).map (⟨path ++ [key], ·⟩)
  | .entry path value =>
    (Outline.atHeader? (Outline.assign? value path) draft.under draft.entries).map
      (⟨draft.under, ·⟩)

/-- The text without a mark of byte order in front. -/
def dropMark : List Char → List Char
  | c :: cs => if c.toNat = 0xFEFF then cs else c :: cs
  | [] => []

/-- The table that a document describes, its entries in the order of their keys. -/
def read? (document : String) : Option (Entries Toml) := do
  let lines ← (many line).whole? (dropMark document.toList)
  let draft ← (lines.filterMap id).foldlM Draft.obey? ⟨[], []⟩
  return sorted (Outline.finishedEntries draft.entries)

end LateBound.Toml
