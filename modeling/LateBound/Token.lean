import LateBound.Source
import LateBound.Number.Decimal

/-!
# Tokens

The words of an expression. Numbers carry their value in the width that the literal chose; the text
between a balanced pair of square brackets is one token, left unread until the type before it is known.
-/

namespace LateBound

inductive Token
  | newKeyword
  | trueKeyword
  | falseKeyword
  | nullKeyword
  | leftParen
  | rightParen
  | comma
  | dot
  | bracket (raw : String)
  | identifier (name : String)
  | string (text : String)
  | int (value : Int32)
  | long (value : Int64)
  | float (value : Float32)
  | double (value : Float)
  | endOfText
  deriving Repr, Inhabited

namespace Token

def describe : Token → String
  | newKeyword => "keyword 'new'"
  | trueKeyword => "keyword 'true'"
  | falseKeyword => "keyword 'false'"
  | nullKeyword => "keyword 'null'"
  | leftParen => "'('"
  | rightParen => "')'"
  | comma => "','"
  | dot => "'.'"
  | bracket _ => "'[...]'"
  | identifier name => "'" ++ name ++ "'"
  | string text => "string \"" ++ text ++ "\""
  | int value => "number " ++ toString value.toInt
  | long value => "number " ++ toString value.toInt ++ "L"
  | float value => "number " ++ Number.Layout.plain.single value ++ "F"
  | double value => "number " ++ Number.Layout.plain.double value
  | endOfText => "end of expression"

/-- The token written plainly: like its source text, with literals in their normal form. -/
def text : Token → String
  | newKeyword => "new"
  | trueKeyword => "true"
  | falseKeyword => "false"
  | nullKeyword => "null"
  | leftParen => "("
  | rightParen => ")"
  | comma => ","
  | dot => "."
  | bracket raw => "[" ++ raw ++ "]"
  | identifier name => name
  | string text => "\"" ++ text ++ "\""
  | int value => toString value.toInt
  | long value => toString value.toInt ++ "L"
  | float value => Number.Layout.plain.single value ++ "F"
  | double value => Number.Layout.plain.double value
  | endOfText => "<eof>"

end Token

structure LocatedToken where
  token : Token
  span : Span
  deriving Repr, Inhabited

def LocatedToken.lexeme (located : LocatedToken) (source : String) : String :=
  String.ofList ((Source.slice? source.toList located.span.start located.span.stop).getD [])

end LateBound
