import LateBound.Number.Power

/-!
# Binary floating-point formats

A format has `fraction` stored bits behind the leading one and `exponent` bits for the scale. Its
words are decoded into exact numbers `m · 2^q` and made from exact quotients by rounding to nearest,
ties to even; reading, printing and every conversion of the two formats of the language go through
these two functions, so that they are exact where a number is and rounded once where it is not.
-/

namespace LateBound.Number

structure Format where
  fraction : Nat
  exponent : Nat

namespace Format

def single : Format := ⟨23, 8⟩

def double : Format := ⟨52, 11⟩

variable (format : Format)

/-- The scale of the smallest positive number: the numbers below `2^(fraction + lowest + 1)` are
multiples of `2^lowest`. -/
def lowest : Int :=
  2 - pow2 (format.exponent - 1) - format.fraction

def infinity : Nat :=
  (pow2 format.exponent - 1) * pow2 format.fraction

def notANumber : Nat :=
  format.infinity + pow2 (format.fraction - 1)

def signBit : Nat :=
  pow2 (format.fraction + format.exponent)

end Format

/-- What a word of a format stands for: a finite one is `m · 2^q` with a sign. -/
inductive Exact
  | notANumber
  | infinite (negative : Bool)
  | finite (negative : Bool) (m : Nat) (q : Int)
  deriving DecidableEq, Repr

namespace Format

variable (format : Format)

def decode (word : Nat) : Exact :=
  let negative := word / format.signBit % 2 == 1
  let field := word / pow2 format.fraction % pow2 format.exponent
  let rest := word % pow2 format.fraction
  if field = pow2 format.exponent - 1 then
    if rest = 0 then .infinite negative else .notANumber
  else if field = 0 then .finite negative rest format.lowest
  else .finite negative (pow2 format.fraction + rest) (format.lowest + (field - 1))

/-- The quotient rounded to the nearest whole number, a half to the even one. -/
def divideToEven (numerator denominator : Nat) : Nat :=
  let quotient := numerator / denominator
  let twice := 2 * (numerator % denominator)
  if twice < denominator then quotient
  else if denominator < twice then quotient + 1
  else quotient + quotient % 2

/-- Numerator and denominator of `numerator / denominator / 2^q`. -/
def scaleDown (numerator denominator : Nat) (q : Int) : Nat × Nat :=
  if 0 ≤ q then (numerator, denominator * pow2 q.toNat) else (numerator * pow2 (-q).toNat, denominator)

/-- The scale at which a positive quotient has `fraction + 1` bits, or the lowest scale. -/
def scaleOf (numerator denominator : Nat) : Int :=
  let guess : Int := (Nat.log2 numerator : Int) - Nat.log2 denominator - format.fraction
  let (n, d) := scaleDown numerator denominator guess
  let exact := if n < d * pow2 format.fraction then guess - 1 else guess
  max exact format.lowest

/-- The word of the positive number nearest to a quotient, ties to even; what is too large becomes
infinite. A significand that rounds up to a power of two carries into the scale by itself. -/
def roundQuotient (numerator denominator : Nat) : Nat :=
  if numerator = 0 then 0
  else
    let q := format.scaleOf numerator denominator
    let (n, d) := scaleDown numerator denominator q
    min ((q - format.lowest).toNat * pow2 format.fraction + divideToEven n d) format.infinity

def withSign (negative : Bool) (word : Nat) : Nat :=
  if negative then format.signBit + word else word

def roundScaled (negative : Bool) (m : Nat) (q : Int) : Nat :=
  format.withSign negative <|
    if 0 ≤ q then format.roundQuotient (m * pow2 q.toNat) 1
    else format.roundQuotient m (pow2 (-q).toNat)

/-- The word nearest to the meaning of a word of any format. -/
def encode : Exact → Nat
  | .notANumber => format.notANumber
  | .infinite negative => format.withSign negative format.infinity
  | .finite negative m q => format.roundScaled negative m q

/-- The word nearest to `digits · 10^power`. Powers that are out of the format's reach on either side
are answered without being computed. -/
def ofDecimal (negative : Bool) (digits : Nat) (power : Int) : Nat :=
  let reach : Int := pow2 format.exponent
  let length : Int := Nat.log2 digits
  format.withSign negative <|
    if digits = 0 then 0
    else if power > reach then format.infinity
    else if power < 0 ∧ length + 1 + power < -reach then 0
    else if 0 ≤ power then format.roundQuotient (digits * pow10 power.toNat) 1
    else format.roundQuotient digits (pow10 (-power).toNat)

end Format

namespace Exact

/-- The whole number left when the fraction is cut off; none for infinities and not-a-number. -/
def truncate? : Exact → Option Int
  | .finite negative m q =>
    let magnitude := if 0 ≤ q then m * pow2 q.toNat else m / pow2 (-q).toNat
    some (if negative then -(magnitude : Int) else magnitude)
  | _ => none

end Exact

def ofFloat (x : Float) : Exact :=
  Format.double.decode x.toBits.toNat

def ofFloat32 (x : Float32) : Exact :=
  Format.single.decode x.toBits.toNat

def Exact.toFloat (x : Exact) : Float :=
  Float.ofBits (UInt64.ofNat (Format.double.encode x))

def Exact.toFloat32 (x : Exact) : Float32 :=
  Float32.ofBits (UInt32.ofNat (Format.single.encode x))

/-- The whole part of a number as a 64-bit word: the nearest word when it is too large, and zero for
not-a-number. -/
def Exact.toInt64 (x : Exact) : Int :=
  match x with
  | .notANumber => 0
  | .infinite negative => if negative then -9223372036854775808 else 9223372036854775807
  | .finite .. =>
    max (-9223372036854775808) (min (x.truncate?.getD 0) 9223372036854775807)

end LateBound.Number
