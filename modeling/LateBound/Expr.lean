import LateBound.Number.Decimal
import LateBound.Source
import LateBound.Text.Quoted

/-!
# Expressions

The tree of an expression: literals and names, member access, calls, construction, and a target with
a bracketed initialiser whose text is read only when the target is known. Every node carries the
stretch of text that it was read from.

`Expr.text` writes the structure of a tree without its spans; two trees with one text differ at most
in spans and in the literals of floating-point numbers.
-/

namespace LateBound

inductive Literal
  | null
  | bool (value : Bool)
  | int (value : Int32)
  | long (value : Int64)
  | float (value : Float32)
  | double (value : Float)
  | string (text : String)
  deriving Repr, Inhabited

inductive Expr
  | literal (value : Literal) (span : Span)
  | ident (name : String) (span : Span)
  | field (target : Expr) (name : String) (span : Span)
  | call (target : Expr) (name : String) (args : List Expr) (span : Span)
  | construct (typeName : String) (args : List Expr) (span : Span)
  | initialise (target : Expr) (raw : String) (span : Span)
  deriving Repr, Inhabited

def Literal.text : Literal → String
  | null => "null"
  | bool value => toString value
  | int value => toString value.toInt
  | long value => toString value.toInt ++ "L"
  | float value => Number.Layout.plain.single value ++ "F"
  | double value => Number.Layout.precise.double value
  | string text => Text.quoted text

namespace Expr

def span : Expr → Span
  | literal _ span | ident _ span | field _ _ span | call _ _ _ span | construct _ _ span
  | initialise _ _ span => span

def kindName : Expr → String
  | literal .. => "Literal"
  | ident .. => "Variable"
  | field .. => "FieldAccess"
  | call .. => "MethodCall"
  | construct .. => "New"
  | initialise .. => "BracketInit"

mutual
def text : Expr → String
  | literal value _ => "Literal(" ++ value.text ++ ")"
  | ident name _ => "Variable(" ++ Text.quoted name ++ ")"
  | field target name _ => "FieldAccess(" ++ target.text ++ ", " ++ Text.quoted name ++ ")"
  | call target name args _ =>
    "MethodCall(" ++ target.text ++ ", " ++ Text.quoted name ++ ", [" ++ argsText args ++ "])"
  | construct typeName args _ => "New(" ++ Text.quoted typeName ++ ", [" ++ argsText args ++ "])"
  | initialise target raw _ => "BracketInit(" ++ target.text ++ ", " ++ Text.quoted raw ++ ")"

/-- The structures of an argument list, separated by commas. -/
def argsText : List Expr → String
  | [] => ""
  | [arg] => arg.text
  | arg :: next :: args => arg.text ++ ", " ++ argsText (next :: args)
end

mutual
/-- A tree with everything below it: node, target, arguments. -/
def nodes (tree : Expr) : List Expr :=
  tree :: match tree with
    | literal .. | ident .. => []
    | field target _ _ => target.nodes
    | call target _ args _ => target.nodes ++ argNodes args
    | construct _ args _ => argNodes args
    | initialise target _ _ => target.nodes

def argNodes : List Expr → List Expr
  | [] => []
  | arg :: args => arg.nodes ++ argNodes args
end

end Expr

end LateBound
