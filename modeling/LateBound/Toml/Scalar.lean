import LateBound.Toml
import LateBound.Toml.Reader

/-!
# Numbers, dates and times in TOML

Every value that is no text and no collection is written as one word, but for a date and a time that a
blank separates. A word is an integer, a floating-point number, a boolean, a date or a time, or it is
nothing.
-/

namespace LateBound.Toml

open Reader

/-! ## Numbers -/

def digit? (base : Nat) (c : Char) : Option Nat :=
  let value :=
    if c.isDigit then c.toNat - '0'.toNat
    else if 'a' ≤ c.toLower && c.toLower ≤ 'f' then c.toLower.toNat - 'a'.toNat + 10
    else base
  if value < base then some value else none

/-- The number that digits continue; an underscore may stand between two of them. -/
def digitsFrom? (base : Nat) (value : Nat) (behindDigit : Bool) : List Char → Option Nat
  | [] => if behindDigit then some value else none
  | '_' :: cs => if behindDigit then digitsFrom? base value false cs else none
  | c :: cs => (digit? base c).bind fun digit => digitsFrom? base (base * value + digit) true cs

def digits? (base : Nat) (cs : List Char) : Option Nat :=
  digitsFrom? base 0 false cs

/-- The number that decimal digits make; a zero in front stands alone. -/
def decimal? : List Char → Option Nat
  | '0' :: _ :: _ => none
  | cs => digits? 10 cs

/-- The sign in front, and what it stands in front of. -/
def splitSign : List Char → Option Char × List Char
  | '+' :: cs => (some '+', cs)
  | '-' :: cs => (some '-', cs)
  | cs => (none, cs)

def whole? (word : List Char) : Option Int :=
  match word with
  | '0' :: 'x' :: cs => (digits? 16 cs).map Int.ofNat
  | '0' :: 'o' :: cs => (digits? 8 cs).map Int.ofNat
  | '0' :: 'b' :: cs => (digits? 2 cs).map Int.ofNat
  | word =>
    let (sign, cs) := splitSign word
    (decimal? cs).map fun n => if sign = some '-' then -(n : Int) else n

/-- Whether a word is an exponent behind its letter. -/
def isExponent (cs : List Char) : Bool :=
  (digits? 10 (splitSign cs).2).isSome

/-- Whether a word has the shape of a floating-point number: digits with a fraction, an exponent or
both. -/
def isFloat (word : List Char) : Bool :=
  let isMark (c : Char) : Bool := c == 'e' || c == 'E'
  let mantissa := (splitSign word).2.takeWhile (!isMark ·)
  let exponent := (splitSign word).2.dropWhile (!isMark ·)
  let fraction := mantissa.dropWhile (· != '.')
  (decimal? (mantissa.takeWhile (· != '.'))).isSome
    && (fraction.isEmpty || (digits? 10 (fraction.drop 1)).isSome)
    && (exponent.isEmpty || isExponent (exponent.drop 1))
    && (!fraction.isEmpty || !exponent.isEmpty)

/-- The floating-point number that a word denotes. One above all finite numbers is refused. -/
def float? (word : List Char) : Option Float :=
  let (sign, cs) := splitSign word
  let signed (x : Float) : Float := if sign = some '-' then -x else x
  if cs = "inf".toList then some (signed (1 / 0))
  else if cs = "nan".toList then
    some (Float.ofBits (if sign = some '-' then 0xFFF8000000000000 else 0x7FF8000000000000))
  else if isFloat word then
    (Number.readDouble? (word.filter (· != '_'))).filter (· < 1 / 0)
  else none

/-! ## Dates and times -/

def digitGroup : Nat → Reader Nat
  | 0 => pure 0
  | count + 1 => do
    let high ← Reader.char Char.isDigit
    let low ← digitGroup count
    return Number.digitValue high * Number.pow10 count + low

def daysIn (year month : Nat) : Nat :=
  if month = 2 then
    if year % 4 = 0 ∧ (year % 100 ≠ 0 ∨ year % 400 = 0) then 29 else 28
  else if month = 4 ∨ month = 6 ∨ month = 9 ∨ month = 11 then 30
  else 31

def date : Reader Date := do
  let year ← digitGroup 4
  skip "-"
  let month ← digitGroup 2
  skip "-"
  let day ← digitGroup 2
  if 1 ≤ month ∧ month ≤ 12 ∧ 1 ≤ day ∧ day ≤ daysIn year month then return ⟨year, month, day⟩
  else refuse

/-- The nanoseconds that the digits behind the point of a second make; what lies below is cut off. -/
def nanoseconds (digits : List Char) : Nat :=
  Number.ofDigits ((digits ++ List.replicate 9 '0').take 9)

def time : Reader Time := do
  let hour ← digitGroup 2
  skip ":"
  let minute ← digitGroup 2
  skip ":"
  let second ← digitGroup 2
  let fraction ← optional? do
    skip "."
    someChars Char.isDigit
  if hour ≤ 23 ∧ minute ≤ 59 ∧ second ≤ 60 then
    return ⟨hour, minute, second, (fraction.map nanoseconds).getD 0⟩
  else refuse

def shift : Reader Shift := do
  match ← Reader.char fun c => c == 'Z' || c == 'z' || c == '+' || c == '-' with
  | 'Z' | 'z' => return .none
  | sign => do
    let hours ← digitGroup 2
    skip ":"
    let minutes ← digitGroup 2
    if hours ≤ 23 ∧ minutes ≤ 59 then
      let count : Int := hours * 60 + minutes
      return .minutes (if sign = '-' then -count else count)
    else refuse

def timeAndShift : Reader (Time × Option Shift) := do
  return (← time, ← optional? shift)

def dateAndTime : Reader Moment := do
  let date ← date
  let rest ← optional? do
    let _ ← Reader.char fun c => c == 'T' || c == 't'
    timeAndShift
  return ⟨some date, rest.map Prod.fst, rest.bind Prod.snd⟩

def timeAlone : Reader Moment := do
  return ⟨none, some (← time), none⟩

/-! ## Words -/

def isWordChar (c : Char) : Bool :=
  c.isAlphanum || "+-_.:".toList.contains c

/-- A date that stands alone, together with the time behind the blank that follows it, if there is
one. -/
def completed (moment : Moment) : Reader Moment := do
  if moment.date.isSome && moment.time.isNone then
    let rest ← optional? do
      skip " "
      ofOption (Reader.whole? timeAndShift (← someChars isWordChar))
    return { moment with time := rest.map Prod.fst, shift := rest.bind Prod.snd }
  else return moment

def scalar : Reader Toml := do
  let word ← someChars isWordChar
  if word = "true".toList then return .boolean true
  else if word = "false".toList then return .boolean false
  else
    match (Reader.whole? dateAndTime word).or (Reader.whole? timeAlone word) with
    | some found => return .moment (← completed found)
    | none =>
      match whole? word with
      | some n => .integer <$> ofOption (Number.toInt64? n)
      | none => .float <$> ofOption (float? word)

end LateBound.Toml
