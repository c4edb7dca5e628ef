import LateBound.Text.Printable

/-!
# Quoted text

The written form of a text inside another: double quotes around it, a backslash before a quote or a
backslash, short names for the usual control characters, and the code point in braces for every
other character that is not printable.
-/

namespace LateBound.Text

/-- The digits of a number in base sixteen, small letters. -/
def hexDigits (n : Nat) : List Char :=
  Nat.toDigits 16 n

def escapeChar (c : Char) : List Char :=
  if c = '"' then ['\\', '"']
  else if c = '\\' then ['\\', '\\']
  else if c = '\n' then ['\\', 'n']
  else if c = '\r' then ['\\', 'r']
  else if c = '\t' then ['\\', 't']
  else if c.toNat = 0 then ['\\', '0']
  else if isPrintable c then [c]
  else ['\\', 'u', Char.ofNat 0x7B] ++ hexDigits c.toNat ++ [Char.ofNat 0x7D]

def escape (cs : List Char) : List Char :=
  cs.flatMap escapeChar

def quoted (text : String) : String :=
  String.ofList ('"' :: escape text.toList ++ ['"'])

end LateBound.Text
