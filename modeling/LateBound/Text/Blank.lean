/-!
# Blank characters

The separators of the language are the characters with the Unicode property White_Space; trimming
takes them off both ends of a text.
-/

namespace LateBound.Text

def isBlank (c : Char) : Bool :=
  let code := c.toNat
  (0x9 ≤ code && code ≤ 0xD) || code == 0x20 || code == 0x85 || code == 0xA0 || code == 0x1680 ||
    (0x2000 ≤ code && code ≤ 0x200A) || code == 0x2028 || code == 0x2029 || code == 0x202F ||
    code == 0x205F || code == 0x3000

def trimChars (cs : List Char) : List Char :=
  ((cs.dropWhile isBlank).reverse.dropWhile isBlank).reverse

theorem trimChars_of_filled {cs : List Char} (filled : ∀ c ∈ cs, isBlank c = false) : trimChars cs = cs := by
  have kept (cs : List Char) (filled : ∀ c ∈ cs, isBlank c = false) : cs.dropWhile isBlank = cs := by
    cases cs with
    | nil => rfl
    | cons c _ => exact List.dropWhile_cons_of_neg (Bool.eq_false_iff.1 (filled c List.mem_cons_self))
  rw [trimChars, kept cs filled, kept cs.reverse fun c inside => filled c (List.mem_reverse.1 inside),
    List.reverse_reverse]

def trim (text : String) : String :=
  String.ofList (trimChars text.toList)

def allBlank (text : String) : Bool :=
  text.toList.all isBlank

end LateBound.Text
