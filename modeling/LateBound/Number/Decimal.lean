import LateBound.Number.Binary
import LateBound.Number.Integer

/-!
# Decimal text of floating-point numbers

`shortest` finds, for a positive `m · 2^q`, the fewest decimal digits that read back as the same word
of the format, and of those the nearest to the number. Two layouts write these digits: `plain`, which
is always positional, and `precise`, which turns to an exponent outside `[10^-4, 10^16)` and otherwise
keeps a fraction. Reading takes any digits, a point, an exponent and the names of the non-finite
numbers.
-/

namespace LateBound.Number

/-! ## The fewest digits -/

/-- The numbers that round to one word: those between two bounds, which are given as multiples of
`2^scale` and belong to the interval when `closed` holds. -/
structure Interval where
  low : Nat
  value : Nat
  high : Nat
  scale : Int
  closed : Bool

/-- What rounds to `m · 2^q`. The gap below a power of two is half of the gap above it. -/
def Format.interval (format : Format) (m : Nat) (q : Int) : Interval where
  low := if m = pow2 format.fraction ∧ format.lowest < q then 4 * m - 1 else 4 * m - 2
  value := 4 * m
  high := 4 * m + 2
  scale := q - 2
  closed := m % 2 == 0

structure Decimal where
  digits : Nat
  power : Int
  deriving DecidableEq, Repr

/-- A multiple `k · 10^power` inside the interval next to its value, nearest first and the larger of
two that are equally near. -/
def Interval.hit? (interval : Interval) (power : Int) : Option Nat :=
  -- one unit of the grid is `unit / base` units of the interval
  let two := pow2 interval.scale.natAbs
  let ten := pow10 power.natAbs
  let unit := (if 0 ≤ power then ten else 1) * (if interval.scale < 0 then two else 1)
  let base := (if power < 0 then ten else 1) * (if 0 ≤ interval.scale then two else 1)
  let inside (k : Nat) : Bool :=
    let (point, low, high) := (k * unit, interval.low * base, interval.high * base)
    if interval.closed then low ≤ point && point ≤ high else low < point && point < high
  let below := interval.value * base / unit
  let remainder := interval.value * base % unit
  match inside below, inside (below + 1) with
  | true, true => some (if 2 * remainder < unit then below else below + 1)
  | true, false => some below
  | false, true => some (below + 1)
  | false, false => none

/-- The first grid with a hit, from the grid `10^power` on to finer ones. -/
def Interval.search (interval : Interval) : Nat → Int → Decimal
  | 0, power => ⟨0, power⟩
  | steps + 1, power =>
    match interval.hit? power with
    | some digits => ⟨digits, power⟩
    | none => interval.search steps (power - 1)

/-- An exponent of ten that is too coarse a grid for `m · 2^q`, by no more than two. -/
def coarsePower (m : Nat) (q : Int) : Int :=
  Int.fdiv (((Nat.log2 m : Int) + 1 + q) * 30103) 100000 + 1

/-- The fewest digits that read back as `m · 2^q`, nearest to it. -/
def Format.shortest (format : Format) (m : Nat) (q : Int) : Decimal :=
  (format.interval m q).search (format.fraction + 4) (coarsePower m q)

/-! ## Layouts -/

/-- The digits and where the point stands: `point` digits are before it (none or fewer than none when
the number is below one tenth). -/
def Decimal.digitsAndPoint (decimal : Decimal) : List Char × Int :=
  let digits := Nat.toDigits 10 decimal.digits
  ((digits.reverse.dropWhile (· = '0')).reverse, (digits.length : Int) + decimal.power)

/-- Positional notation without an exponent; the fraction is left out when it is empty. -/
def positional (digits : List Char) (point : Int) : List Char :=
  if point ≤ 0 then
    ['0', '.'] ++ List.replicate (-point).toNat '0' ++ digits
  else if digits.length ≤ point.toNat then
    digits ++ List.replicate (point.toNat - digits.length) '0'
  else
    digits.take point.toNat ++ '.' :: digits.drop point.toNat

/-- One digit, the others behind a point, and the exponent of ten. -/
def scientific (digits : List Char) (point : Int) : List Char :=
  let mantissa :=
    match digits with
    | [] => ['0']
    | [d] => [d]
    | d :: ds => d :: '.' :: ds
  mantissa ++ 'e' :: (toString (point - 1)).toList

/-- How finite numbers are laid out. -/
structure Layout where
  /-- Positional text of a whole number ends in `.0`. -/
  keepsFraction : Bool
  /-- Exponents of ten from `first` below `last` are written positionally; all of them if absent. -/
  window : Option (Int × Int)

def Layout.plain : Layout := ⟨false, none⟩

/-- Always a fraction or an exponent, the exponent from `10^16` on and below `10^-4`. -/
def Layout.precise : Layout := ⟨true, some (-4, 16)⟩

def Layout.write (layout : Layout) (decimal : Decimal) : List Char :=
  let (digits, point) := decimal.digitsAndPoint
  let fixed := positional digits point
  let fixed := if layout.keepsFraction && !fixed.contains '.' then fixed ++ ['.', '0'] else fixed
  match layout.window with
  | none => fixed
  | some (first, last) =>
    if first ≤ point - 1 ∧ point - 1 < last then fixed else scientific digits point

def Layout.text (layout : Layout) (format : Format) (x : Exact) : String :=
  match x with
  | .notANumber => "NaN"
  | .infinite negative => if negative then "-inf" else "inf"
  | .finite negative m q =>
    let magnitude :=
      if m = 0 then (if layout.keepsFraction then ['0', '.', '0'] else ['0'])
      else layout.write (format.shortest m q)
    String.ofList (if negative then '-' :: magnitude else magnitude)

def Layout.double (layout : Layout) (x : Float) : String :=
  layout.text .double (ofFloat x)

def Layout.single (layout : Layout) (x : Float32) : String :=
  layout.text .single (ofFloat32 x)

/-! ## Reading -/

private def readExponent? : List Char → Option Int
  | [] => some 0
  | c :: cs => if c = 'e' ∨ c = 'E' then readInteger? cs else none

private def readMagnitude (format : Format) (negative : Bool) (cs : List Char) : Option Nat :=
  let name := String.ofList (cs.map Char.toLower)
  if name = "inf" ∨ name = "infinity" then some (format.withSign negative format.infinity)
  else if name = "nan" then some (format.withSign negative format.notANumber)
  else
    let whole := cs.takeWhile Char.isDigit
    let behind := cs.dropWhile Char.isDigit
    let (fraction, behind) :=
      match behind with
      | '.' :: behind => (behind.takeWhile Char.isDigit, behind.dropWhile Char.isDigit)
      | behind => ([], behind)
    if whole.isEmpty && fraction.isEmpty then none
    else
      (readExponent? behind).map fun exponent =>
        format.ofDecimal negative (ofDigits (whole ++ fraction)) (exponent - fraction.length)

/-- The word of a format that a text denotes: an optional sign, then digits with an optional point
and exponent, or the name of a number that is not finite. -/
def Format.read? (format : Format) : List Char → Option Nat
  | '-' :: cs => readMagnitude format true cs
  | '+' :: cs => readMagnitude format false cs
  | cs => readMagnitude format false cs

def readDouble? (cs : List Char) : Option Float :=
  (Format.double.read? cs).map fun word => Float.ofBits (UInt64.ofNat word)

def readSingle? (cs : List Char) : Option Float32 :=
  (Format.single.read? cs).map fun word => Float32.ofBits (UInt32.ofNat word)

end LateBound.Number
