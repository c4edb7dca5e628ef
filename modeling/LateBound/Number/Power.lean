/-!
# Powers of two and ten

The scales of the binary words that hold numbers and of the decimals that show them.
-/

namespace LateBound.Number

def pow2 (exponent : Nat) : Nat :=
  Nat.pow 2 exponent

def pow10 (exponent : Nat) : Nat :=
  Nat.pow 10 exponent

end LateBound.Number
