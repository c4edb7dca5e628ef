/-!
# Searching in texts

Where a pattern occurs in a text, and cutting and rebuilding a text at the occurrences of a pattern,
from left to right and without overlaps. Places are byte offsets.
-/

namespace LateBound.Text

/-- The offset of the first occurrence in a text that begins at `offset`. -/
def findFrom? (pattern : List Char) (offset : Nat) : List Char → Option Nat
  | [] => if pattern.isEmpty then some offset else none
  | c :: cs =>
    if pattern.isPrefixOf (c :: cs) then some offset
    else findFrom? pattern (offset + c.utf8Size) cs

/-- The offset of the last occurrence in a text that begins at `offset`. -/
def rfindFrom? (pattern : List Char) (offset : Nat) : List Char → Option Nat
  | [] => if pattern.isEmpty then some offset else none
  | c :: cs =>
    match rfindFrom? pattern (offset + c.utf8Size) cs with
    | some place => some place
    | none => if pattern.isPrefixOf (c :: cs) then some offset else none

def find? (pattern text : List Char) : Option Nat :=
  findFrom? pattern 0 text

def rfind? (pattern text : List Char) : Option Nat :=
  rfindFrom? pattern 0 text

def consFirst (c : Char) : List (List Char) → List (List Char)
  | [] => [[c]]
  | piece :: pieces => (c :: piece) :: pieces

/-- The pieces between the occurrences of a pattern; `skip` characters of an occurrence are still to
be passed over. -/
def splitFrom (pattern : List Char) (skip : Nat) : List Char → List (List Char)
  | [] => [[]]
  | c :: cs =>
    match skip with
    | skip + 1 => splitFrom pattern skip cs
    | 0 =>
      if pattern.isPrefixOf (c :: cs) then [] :: splitFrom pattern (pattern.length - 1) cs
      else consFirst c (splitFrom pattern 0 cs)

/-- The pieces between the occurrences of a pattern; the empty pattern cuts out every character. -/
def split (pattern text : List Char) : List (List Char) :=
  if pattern.isEmpty then text.map ([·]) else splitFrom pattern 0 text

/-- The text with a replacement for every occurrence of a pattern; the empty pattern occurs around
every character. -/
def replaceAll (pattern replacement text : List Char) : List Char :=
  if pattern.isEmpty then replacement ++ text.flatMap (· :: replacement)
  else replacement.intercalate (splitFrom pattern 0 text)

end LateBound.Text
