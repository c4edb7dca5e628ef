import LateBound.Text.Blank

/-!
# Templates

A template is a text with expressions between delimiters: `%expr%`, or `%<expr>%` for the same. A
doubled delimiter is a plain one, and an expression that is not closed is plain text together with its
delimiter.

`Template.pieces` cuts a template up; expanding it renders the expressions and leaves the rest alone, so
that what an expression renders to is never looked into again.
-/

namespace LateBound.Template

inductive Piece
  | literal (c : Char)
  | placeholder (expression : List Char)
  deriving DecidableEq, Repr

/-- The text without the angle brackets around it, if it has both. -/
def stripAngles (cs : List Char) : List Char :=
  match cs with
  | '<' :: rest => if rest.getLast? = some '>' then rest.dropLast else cs
  | _ => cs

def expressionOf (inner : List Char) : List Char :=
  Text.trimChars (stripAngles inner)

/-- Cuts up a text. `inner` holds, in reverse, what was read behind an opening delimiter, if one is
open. -/
def pieces (delimiter : Char) : Option (List Char) → List Char → List Piece
  | none, [] => []
  | some inner, [] => (delimiter :: inner.reverse).map .literal
  | none, c :: cs =>
    if c = delimiter then pieces delimiter (some []) cs
    else .literal c :: pieces delimiter none cs
  | some inner, c :: cs =>
    if c = delimiter then
      (if inner.isEmpty then .literal c else .placeholder (expressionOf inner.reverse))
        :: pieces delimiter none cs
    else pieces delimiter (some (c :: inner)) cs

def ofText (delimiter : Char) (text : String) : List Piece :=
  pieces delimiter none text.toList

variable {m : Type → Type} [Monad m]

/-- The text of the pieces, each expression rendered in its turn. -/
def render (renderer : String → m String) : List Piece → m (List Char)
  | [] => pure []
  | .literal c :: rest => return c :: (← render renderer rest)
  | .placeholder expression :: rest => do
    let rendered ← renderer (String.ofList expression)
    return rendered.toList ++ (← render renderer rest)

/-- Replaces every expression in a text by what it renders to. -/
def expand (delimiter : Char) (renderer : String → m String) (text : String) : m String :=
  return String.ofList (← render renderer (ofText delimiter text))

/-- The expression of a text that is nothing but one placeholder, blanks around it apart. -/
def whole? (delimiter : Char) (text : String) : Option String :=
  match Text.trimChars text.toList with
  | [] => none
  | c :: rest =>
    let inner := rest.dropLast
    if c = delimiter ∧ rest.getLast? = some delimiter ∧ inner ≠ [] ∧ delimiter ∉ inner then
      some (String.ofList (expressionOf inner))
    else none

def isTemplate (delimiter : Char) (text : String) : Bool :=
  text.toList.contains delimiter

end LateBound.Template
