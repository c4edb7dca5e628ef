/-!
# Ranges of code points

A Unicode class above the ASCII block is given as a list of closed ranges of code points; below it
each class states its own rule, so that facts about ASCII text need no table.
-/

namespace LateBound.Text

/-- A class of characters as closed ranges of code points. -/
abbrev Ranges := List (Nat × Nat)

/-- Whether the code point of a character lies in one of the ranges. -/
def Ranges.admits (ranges : Ranges) (c : Char) : Bool :=
  ranges.any fun (first, last) => first ≤ c.toNat && c.toNat ≤ last

end LateBound.Text
