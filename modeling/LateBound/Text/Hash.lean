/-!
# Hashing a text

A fast multiplicative hash of 64 bits over the bytes of a text, closed by a mark byte. Short texts mix
two overlapping words; longer ones are taken in steps of sixteen bytes, the last sixteen of them
always at the end.
-/

namespace LateBound.Text

/-- The multiplier that spreads one word into the next. -/
def hashFactor : UInt64 := 0xf1357aea2e62a9c5

/-- The two starting words, and the word that is mixed into the second half of each step. -/
def hashSeeds : UInt64 × UInt64 × UInt64 :=
  (0x243f6a8885a308d3, 0x13198a2e03707344, 0xa4093822299f31d0)

/-- The two halves of the full product, added without carries. -/
def foldedProduct (x y : UInt64) : UInt64 :=
  let product := x.toNat * y.toNat
  UInt64.ofNat product ^^^ UInt64.ofNat (product / 18446744073709551616)

/-- The word that the first bytes of a list make, the least significant first. -/
def littleEndian (count : Nat) (bytes : List UInt8) : UInt64 :=
  (bytes.take count).foldr (fun byte word => word * 256 + byte.toUInt64) 0

/-- The state after all whole steps of sixteen bytes. -/
def hashSteps : Nat → UInt64 × UInt64 → List UInt8 → UInt64 × UInt64
  | 0, state, _ => state
  | steps + 1, (first, second), bytes =>
    let mixed := foldedProduct (first ^^^ littleEndian 8 bytes)
      (hashSeeds.2.2 ^^^ littleEndian 8 (bytes.drop 8))
    hashSteps steps (second, mixed) (bytes.drop 16)

def hashBytes (bytes : List UInt8) : UInt64 :=
  let length := bytes.length
  let (first, second, _) := hashSeeds
  let (first, second) :=
    if 16 < length then
      let (first, second) := hashSteps ((length - 1) / 16) (first, second) bytes
      let last := bytes.drop (length - 16)
      (first ^^^ littleEndian 8 last, second ^^^ littleEndian 8 (last.drop 8))
    else if 8 ≤ length then
      (first ^^^ littleEndian 8 bytes, second ^^^ littleEndian 8 (bytes.drop (length - 8)))
    else if 4 ≤ length then
      (first ^^^ littleEndian 4 bytes, second ^^^ littleEndian 4 (bytes.drop (length - 4)))
    else
      match bytes with
      | [] => (first, second)
      | byte :: _ =>
        let middle := littleEndian 1 (bytes.drop (length / 2))
        let last := littleEndian 1 (bytes.drop (length - 1))
        (first ^^^ byte.toUInt64, second ^^^ (last * 256 ||| middle))
  foldedProduct first second ^^^ UInt64.ofNat length

def hash (text : String) : UInt64 :=
  let body := hashBytes text.toUTF8.toList * hashFactor
  let closed := (body + 0xff) * hashFactor
  closed <<< 26 ||| closed >>> 38

/-- The low half of the hash of a text, as a 32-bit word. -/
def hashCode (text : String) : Int32 :=
  (hash text).toUInt32.toInt32

end LateBound.Text
