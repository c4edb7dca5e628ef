import LateBound.Text.Search

/-!
# Text for terminals

Styles of a terminal, given by their codes, and filling up to a width.
-/

namespace LateBound.Text

def plainCode : String := "\x1b[0m"

def styleCode (code : String) : String :=
  "\x1b[" ++ code ++ "m"

/-- A text in a style. Where a style inside it ends, the outer one begins again. -/
def styled (code text : String) : String :=
  let inner := replaceAll plainCode.toList (plainCode ++ styleCode code).toList text.toList
  styleCode code ++ String.ofList inner ++ plainCode

def repeated (count : Nat) (c : Char) : String :=
  String.ofList (List.replicate count c)

/-- The characters with others in front, up to a width. -/
def padWith (c : Char) (width : Nat) (cs : List Char) : List Char :=
  List.replicate (width - cs.length) c ++ cs

def padLeft (width : Nat) (text : String) : String :=
  String.ofList (padWith ' ' width text.toList)

end LateBound.Text
