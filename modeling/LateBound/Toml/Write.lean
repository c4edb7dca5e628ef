import LateBound.Text.Styled
import LateBound.Toml

/-!
# Writing TOML

A document is written as the assignments of its root and then a section for each table, with a blank
line in front of every header but the first. Tables inside arrays of other things are written inline.

Texts take the plainest quotes that show them as they are; only where none does are characters escaped.
-/

namespace LateBound.Toml

/-! ## Texts -/

/-- The quotes around a written text. -/
inductive Quoting
  | basic
  | raw
  | longBasic
  | longRaw
  deriving DecidableEq, Repr

def longestRun (c : Char) (cs : List Char) : Nat :=
  (cs.foldl (fun (longest, current) d =>
    if d = c then (max longest (current + 1), current + 1) else (longest, 0)) (0, 0)).1

/-- Whether a text holds a character that only an escape can show. -/
def needsEscape (cs : List Char) : Bool :=
  cs.any fun c => !isPlainChar c && c != '\n'

def quotingOf (cs : List Char) : Quoting :=
  let hasNewline := cs.contains '\n'
  let hasBackslash := cs.contains '\\'
  let quotes := longestRun '"' cs
  let apostrophes := longestRun '\'' cs
  if needsEscape cs then (if hasNewline then .longBasic else .basic)
  else if !hasBackslash && quotes == 0 && !hasNewline then .basic
  else if apostrophes == 0 && !hasNewline then .raw
  else if !hasBackslash && quotes ≤ 2 then .longBasic
  else if apostrophes ≤ 2 then .longRaw
  else if hasNewline then .longBasic
  else .basic

/-- A code point in four digits of base sixteen, behind a backslash. -/
def codeEscape (c : Char) : List Char :=
  '\\' :: 'u' :: (Text.padWith '0' 4 ((Nat.toDigits 16 c.toNat).map Char.toUpper))

/-- A character between quotes, where `quotes` of them may stand in a row and line ends may or may not
stand for themselves; `before` is how many quotes stand right before it. -/
def escapedChar (long : Bool) (before : Nat) (c : Char) : List Char :=
  if c = '"' then (if long && before < 2 then [c] else ['\\', c])
  else if c = '\\' then ['\\', '\\']
  else if c = '\x08' then ['\\', 'b']
  else if c = '\t' then ['\\', 't']
  else if c = '\n' then (if long then [c] else ['\\', 'n'])
  else if c = '\x0c' then ['\\', 'f']
  else if c = '\r' then ['\\', 'r']
  else if isPlainChar c then [c]
  else codeEscape c

/-- The characters between quotes, `before` of the quotes that are left as they are standing right
before them. -/
def escapedFrom (long : Bool) (before : Nat) : List Char → List Char
  | [] => []
  | c :: cs =>
    let behind := if c = '"' then (if before < 2 then before + 1 else 0) else 0
    escapedChar long before c ++ escapedFrom long behind cs

def quotedAs (quoting : Quoting) (cs : List Char) : List Char :=
  let start : List Char := if cs.contains '\n' then ['\n'] else []
  let quotes := ['"', '"', '"']
  let apostrophes := ['\'', '\'', '\'']
  match quoting with
  | .basic => '"' :: escapedFrom false 0 cs ++ ['"']
  | .raw => '\'' :: cs ++ ['\'']
  | .longBasic => quotes ++ start ++ escapedFrom true 0 cs ++ quotes
  | .longRaw => apostrophes ++ start ++ cs ++ apostrophes

def quotedText (text : String) : String :=
  String.ofList (quotedAs (quotingOf text.toList) text.toList)

def keyText (key : String) : String :=
  let cs := key.toList
  if !cs.isEmpty && cs.all isKeyChar then key
  else
    let isRaw := quotingOf cs == .raw
    String.ofList (quotedAs (if isRaw then .raw else .basic) cs)

/-! ## Other values -/

def padded (width n : Nat) : String :=
  String.ofList (Text.padWith '0' width (Nat.toDigits 10 n))

/-- A floating-point number: all its digits, and a fraction in any case. -/
def floatText (x : Float) : String :=
  if x.isNaN then (if x.toBits ≥ 0x8000000000000000 then "-nan" else "nan")
  else
    let text := Number.Layout.plain.double x
    if text.toList.all fun c => c.isDigit || c == '-' then text ++ ".0" else text

def Date.text (date : Date) : String :=
  padded 4 date.year ++ "-" ++ padded 2 date.month ++ "-" ++ padded 2 date.day

/-- The digits behind the point of a second, without zeros at the end. -/
def fractionText (nanosecond : Nat) : String :=
  let digits := Text.padWith '0' 9 (Nat.toDigits 10 nanosecond)
  "." ++ String.ofList ((digits.reverse.dropWhile (· == '0')).reverse)

def Time.text (time : Time) : String :=
  padded 2 time.hour ++ ":" ++ padded 2 time.minute ++ ":" ++ padded 2 time.second
    ++ if time.nanosecond = 0 then "" else fractionText time.nanosecond

def Shift.text : Shift → String
  | none => "Z"
  | minutes count =>
    (if count < 0 then "-" else "+") ++ padded 2 (count.natAbs / 60) ++ ":"
      ++ padded 2 (count.natAbs % 60)

/-- A date, a time, or both with a letter between them. -/
def Moment.text (moment : Moment) : String :=
  let date := (moment.date.map Date.text).getD ""
  let time := (moment.time.map Time.text).getD ""
  let mark := if moment.date.isSome && moment.time.isSome then "T" else ""
  date ++ mark ++ time ++ (moment.shift.map Shift.text).getD ""

/-- The items of an array, written on one line or, if there are several, on lines of their own. -/
def arrayText (lines : Bool) (items : List String) : String :=
  if lines && items.length ≥ 2 then
    "[\n" ++ String.join (items.map fun item => "    " ++ item ++ ",\n") ++ "]"
  else "[" ++ ", ".intercalate items ++ "]"

def inlineText (entries : List (String × String)) : String :=
  if entries.isEmpty then "\x7b\x7d"
  else
    "\x7b " ++ ", ".intercalate (entries.map fun (key, value) => keyText key ++ " = " ++ value)
      ++ " \x7d"

mutual
/-- A value; `lines` says whether arrays of several items take lines of their own. -/
def valueText (lines : Bool) : Toml → String
  | .text value => quotedText value
  | .integer value => toString value.toInt
  | .float value => floatText value
  | .boolean value => toString value
  | .moment value => value.text
  | .array items => arrayText lines (valueTexts lines items)
  | .table entries => inlineText (entryTexts lines entries)

def valueTexts (lines : Bool) : List Toml → List String
  | [] => []
  | item :: items => valueText lines item :: valueTexts lines items

def entryTexts (lines : Bool) : List (String × Toml) → List (String × String)
  | [] => []
  | (key, value) :: rest => (key, valueText lines value) :: entryTexts lines rest
end

/-! ## Documents -/

def isTable : Toml → Bool
  | .table _ => true
  | _ => false

/-- Whether a value is written as sections of its own: a table, or an array of nothing but tables. -/
def hasSections : Toml → Bool
  | .table _ => true
  | .array items => !items.isEmpty && items.all isTable
  | _ => false

/-- A section: the key in its header, whether the header is that of a series, and the entries. -/
structure Section where
  path : List String
  inSeries : Bool
  entries : List (String × Toml)

mutual
def sectionsOf (path : List String) : Toml → List Section
  | .table entries => ⟨path, false, entries⟩ :: innerSections path entries
  | .array items => seriesSections path items
  | _ => []

/-- The sections that the entries of a table take. -/
def innerSections (path : List String) : List (String × Toml) → List Section
  | [] => []
  | (key, value) :: rest =>
    (if hasSections value then sectionsOf (path ++ [key]) value else [])
      ++ innerSections path rest

/-- The sections that the tables of a series take. -/
def seriesSections (path : List String) : List Toml → List Section
  | [] => []
  | .table entries :: rest =>
    ⟨path, true, entries⟩ :: (innerSections path entries ++ seriesSections path rest)
  | _ :: rest => seriesSections path rest
end

def bodyText (entries : List (String × Toml)) : String :=
  String.join ((entries.filter fun (_, value) => !hasSections value).map fun (key, value) =>
    keyText key ++ " = " ++ valueText true value ++ "\n")

/-- A section with its header. A table that holds nothing but other tables needs none. -/
def Section.text (content : Section) : String :=
  let path := ".".intercalate (content.path.map keyText)
  let body := bodyText content.entries
  if content.inSeries then "[[" ++ path ++ "]]\n" ++ body
  else if body.isEmpty && !content.entries.isEmpty then ""
  else "[" ++ path ++ "]\n" ++ body

def write (entries : Entries Toml) : String :=
  let parts := bodyText entries :: (innerSections [] entries).map Section.text
  "\n".intercalate (parts.filter (!·.isEmpty))

end LateBound.Toml
