import LateBound.Number.Binary

/-!
# Exact roots

The whole part of a root, found bit by bit, and with it the cube root of a floating-point number and the
length of a vector of two, each rounded once.
-/

namespace LateBound.Number

/-- Adds the bits below `bits` to a root as long as its power stays within `n`. -/
def refineRoot (degree n : Nat) : Nat → Nat → Nat
  | 0, root => root
  | bits + 1, root =>
    let next := root + pow2 bits
    refineRoot degree n bits (if next.pow degree ≤ n then next else root)

/-- The largest number whose power of the degree is at most `n`, for degrees from one up. -/
def floorRoot (degree n : Nat) : Nat :=
  refineRoot degree n (Nat.log2 n / degree + 1) 0

/-- The root of `n · 2^(degree · q)`, with a last bit that tells whether something was cut off. Enough
bits are kept for it to be rounded once, later. -/
def scaledRoot (degree : Nat) (negative : Bool) (n : Nat) (q : Int) : Exact :=
  let spare : Nat := 64
  let scaled := n * pow2 (degree * spare)
  let root := floorRoot degree scaled
  .finite negative (2 * root + (if root.pow degree = scaled then 0 else 1)) (q - spare - 1)

/-- The length of the vector with two components. An infinite component outweighs one that is not a
number. -/
def vectorLength (x y : Exact) : Exact :=
  match x, y with
  | .infinite _, _ | _, .infinite _ => .infinite false
  | .finite _ m p, .finite _ n q =>
    let scale := min p q
    let a := m * pow2 (p - scale).toNat
    let b := n * pow2 (q - scale).toNat
    scaledRoot 2 false (a * a + b * b) scale
  | _, _ => .notANumber

def hypotenuse (x y : Float) : Float :=
  (vectorLength (ofFloat x) (ofFloat y)).toFloat

def Exact.cubeRoot : Exact → Exact
  | .finite negative m q =>
    scaledRoot 3 negative (m * pow2 (Int.fmod q 3).toNat) (Int.fdiv q 3)
  | other => other

def cubeRoot (x : Float) : Float :=
  (ofFloat x).cubeRoot.toFloat

end LateBound.Number
