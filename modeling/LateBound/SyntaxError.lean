import LateBound.Source
import LateBound.Text.Styled

/-!
# Syntax errors

Why a text is not an expression: a word that cannot be read, a token in the wrong place, an end that
comes too early, or nesting beyond the limit. `SyntaxError.render` draws the error under the line of
the text where it happened.
-/

namespace LateBound

inductive LexicalError
  | unexpectedChar (c : Char) (span : Span)
  | unterminatedString (span : Span)
  | unterminatedBracket (span : Span)
  | invalidNumber (text : String) (span : Span)
  deriving DecidableEq, Repr

def LexicalError.span : LexicalError → Span
  | unexpectedChar _ span => span
  | unterminatedString span => span
  | unterminatedBracket span => span
  | invalidNumber _ span => span

def LexicalError.message : LexicalError → String
  | unexpectedChar c _ => "unexpected character '" ++ c.toString ++ "'"
  | unterminatedString _ => "unterminated string literal"
  | unterminatedBracket _ => "unterminated '[' initializer"
  | invalidNumber text _ => "invalid number: '" ++ text ++ "'"

inductive SyntaxError
  | unexpectedToken (expected found : String) (span : Span)
  | unexpectedEnd (expected : String) (context : Option String)
  | tooDeep (span : Span)
  | lexical (error : LexicalError)
  deriving DecidableEq, Repr

namespace SyntaxError

open Text

/-- Where the error is; an early end has no place. -/
def span? : SyntaxError → Option Span
  | unexpectedToken _ _ span => some span
  | unexpectedEnd _ _ => none
  | tooDeep span => some span
  | lexical error => some error.span

def message : SyntaxError → String
  | unexpectedToken expected found _ => "expected " ++ expected ++ ", found " ++ found
  | unexpectedEnd expected (some context) =>
    "unexpected end of expression while parsing " ++ context ++ ", expected " ++ expected
  | unexpectedEnd expected none => "unexpected end of expression, expected " ++ expected
  | tooDeep _ => "expression is nested too deeply"
  | lexical error => error.message

/-! ## Drawing an error -/

def label : SyntaxError → String
  | lexical _ => "lexical error"
  | _ => "parse error"

/-- How many carets mark a span: one per character, and at least one. -/
def caretCount (source : String) (span : Span) : Nat :=
  match Source.slice? source.toList span.start span.stop with
  | some cs => max cs.length 1
  | none => 1

/-- The line of a text where a span starts, with carets under the span. -/
def excerpt (source : String) (span : Span) (label : String) : String :=
  let lines := Source.lines source
  match if span.line = 0 then none else lines[span.line - 1]? with
  | none => ""
  | some line =>
    let width := max (toString span.line).length 2
    let bar := styled "1;34" "|"
    let carets := repeated (caretCount source span) '^'
    let indent := repeated (span.column - 1) ' '
    "  " ++ styled "1;34" "-->" ++ " col " ++ toString span.column ++ "\n"
      ++ " " ++ padLeft width (toString span.line) ++ " " ++ bar ++ " " ++ line ++ "\n"
      ++ " " ++ padLeft width "" ++ " " ++ bar ++ " " ++ indent ++ styled "1;31" carets
      ++ " " ++ label ++ "\n"

/-- The error with the line of the text where it happened. -/
def render (source : String) (error : SyntaxError) : String :=
  let header := styled "1;31" "error" ++ ": " ++ error.message ++ "\n"
  match error.span? with
  | none => header ++ "   " ++ styled "1;34" "|" ++ " " ++ error.label ++ "\n"
  | some span => header ++ excerpt source span error.label

end SyntaxError

end LateBound
