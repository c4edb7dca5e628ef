import LateBound.Expr
import LateBound.Token.Scan

/-!
# Reading expressions

The grammar, over tokens:

    expr    := primary ('.' NAME ('(' args ')')? | BRACKET)*
    primary := LITERAL | NAME | 'new' NAME ('.' NAME)* '(' args ')' | '(' expr ')'
    args    := (expr (',' expr)*)?

Each reader returns its tree together with the tokens behind it, which are fewer than it was given;
that is why the recursion ends. The nesting of parentheses, filled argument lists and links of one
chain is limited: `depth` counts those around the token being read.
-/

namespace LateBound

/-- The deepest nesting of parentheses, argument lists and member chains. -/
def maxDepth : Nat := 256

/-- Something read from the head of `tokens`, and what follows it. -/
structure Parsed (α : Type) (tokens : List LocatedToken) where
  value : α
  rest : List LocatedToken
  shorter : rest.length < tokens.length

/-- Something, possibly nothing, read from the head of `tokens`, and what follows it. -/
structure ParsedMaybe (α : Type) (tokens : List LocatedToken) where
  value : α
  rest : List LocatedToken
  within : rest.length ≤ tokens.length

namespace Expr

/-- The complaint that the next token is not what was expected. -/
def unexpected (expected : String) : List LocatedToken → SyntaxError
  | [] | ⟨.endOfText, _⟩ :: _ => .unexpectedEnd expected none
  | ⟨token, span⟩ :: _ => .unexpectedToken expected token.describe span

def nextSpan : List LocatedToken → Span
  | [] => default
  | located :: _ => located.span

def descend (depth : Nat) (tokens : List LocatedToken) : Except SyntaxError Nat :=
  if depth < maxDepth then .ok (depth + 1) else .error (.tooDeep (nextSpan tokens))

def parseName : (tokens : List LocatedToken) → Except SyntaxError (Parsed (String × Span) tokens)
  | ⟨.identifier name, span⟩ :: rest => .ok ⟨(name, span), rest, by simp⟩
  | tokens => .error (unexpected "identifier" tokens)

def parseLeftParen : (tokens : List LocatedToken) → Except SyntaxError (Parsed Span tokens)
  | ⟨.leftParen, span⟩ :: rest => .ok ⟨span, rest, by simp⟩
  | tokens => .error (unexpected Token.leftParen.describe tokens)

def parseRightParen : (tokens : List LocatedToken) → Except SyntaxError (Parsed Span tokens)
  | ⟨.rightParen, span⟩ :: rest => .ok ⟨span, rest, by simp⟩
  | tokens => .error (unexpected Token.rightParen.describe tokens)

/-- The further parts of a dotted name, appended to what was read of it. -/
def parseDotted (name : String) :
    (tokens : List LocatedToken) → Except SyntaxError (ParsedMaybe String tokens)
  | ⟨.dot, _⟩ :: rest =>
    match rest with
    | ⟨.identifier part, _⟩ :: rest => do
      let ⟨full, rest, within⟩ ← parseDotted (name ++ "." ++ part) rest
      return ⟨full, rest, by simp only [List.length_cons]; omega⟩
    | rest => .error (unexpected "identifier" rest)
  | tokens => .ok ⟨name, tokens, Nat.le_refl _⟩

def literal? : Token → Option Literal
  | .trueKeyword => some (.bool true)
  | .falseKeyword => some (.bool false)
  | .nullKeyword => some .null
  | .int value => some (.int value)
  | .long value => some (.long value)
  | .float value => some (.float value)
  | .double value => some (.double value)
  | .string text => some (.string text)
  | _ => none

mutual
def parseExpr (depth : Nat) (tokens : List LocatedToken) :
    Except SyntaxError (Parsed Expr tokens) := do
  let ⟨target, rest, shorter⟩ ← parsePrimary depth tokens
  let ⟨chain, rest, within⟩ ← parseLinks depth target rest
  return ⟨chain, rest, by omega⟩
termination_by (tokens.length, 1)

/-- A literal, a name, a construction or an expression in parentheses. -/
def parsePrimary (depth : Nat) (tokens : List LocatedToken) :
    Except SyntaxError (Parsed Expr tokens) :=
  match tokens with
  | [] => .error (unexpected "expression" [])
  | ⟨token, span⟩ :: rest =>
    match token with
    | .identifier name => .ok ⟨.ident name span, rest, by simp⟩
    | .newKeyword => do
      let ⟨(first, _), rest, shorter⟩ ← parseName rest
      let ⟨typeName, rest, within⟩ ← parseDotted first rest
      let ⟨_, rest, opened⟩ ← parseLeftParen rest
      let ⟨args, rest, filled⟩ ← parseArgs depth rest
      let ⟨last, rest, closed⟩ ← parseRightParen rest
      return ⟨.construct typeName args (span.merge last), rest, by
        simp only [List.length_cons]; omega⟩
    | .leftParen => do
      let inside ← descend depth rest
      let ⟨inner, rest, shorter⟩ ← parseExpr inside rest
      let ⟨_, rest, closed⟩ ← parseRightParen rest
      return ⟨inner, rest, by simp only [List.length_cons]; omega⟩
    | token =>
      match literal? token with
      | some value => .ok ⟨.literal value span, rest, by simp⟩
      | none => .error (unexpected "expression" (⟨token, span⟩ :: rest))
termination_by (tokens.length, 0)

/-- The links of a chain behind `target`. Each link is one level deeper than the one before it. -/
def parseLinks (depth : Nat) (target : Expr) (tokens : List LocatedToken) :
    Except SyntaxError (ParsedMaybe Expr tokens) :=
  match tokens with
  | ⟨.dot, span⟩ :: rest => do
    let inside ← descend depth (⟨.dot, span⟩ :: rest)
    let ⟨(name, nameSpan), rest, named⟩ ← parseName rest
    match rest, named with
    | ⟨.leftParen, _⟩ :: rest, named => do
      have named := Nat.lt_of_succ_lt named
      let ⟨args, rest, filled⟩ ← parseArgs inside rest
      let ⟨last, rest, closed⟩ ← parseRightParen rest
      let ⟨chain, rest, within⟩ ←
        parseLinks inside (.call target name args (target.span.merge last)) rest
      return ⟨chain, rest, by simp only [List.length_cons] at *; omega⟩
    | rest, named => do
      let ⟨chain, rest, within⟩ ←
        parseLinks inside (.field target name (target.span.merge nameSpan)) rest
      return ⟨chain, rest, by simp only [List.length_cons] at *; omega⟩
  | ⟨.bracket raw, span⟩ :: rest => do
    let inside ← descend depth (⟨.bracket raw, span⟩ :: rest)
    let ⟨chain, rest, within⟩ ←
      parseLinks inside (.initialise target raw (target.span.merge span)) rest
    return ⟨chain, rest, by simp only [List.length_cons]; omega⟩
  | tokens => .ok ⟨target, tokens, Nat.le_refl _⟩
termination_by (tokens.length, 0)

/-- The arguments up to, and without, the closing parenthesis. -/
def parseArgs (depth : Nat) (tokens : List LocatedToken) :
    Except SyntaxError (ParsedMaybe (List Expr) tokens) :=
  match tokens with
  | ⟨.rightParen, span⟩ :: rest => .ok ⟨[], ⟨.rightParen, span⟩ :: rest, Nat.le_refl _⟩
  | tokens => do
    let inside ← descend depth tokens
    let ⟨args, rest, shorter⟩ ← parseItems inside tokens
    return ⟨args, rest, by omega⟩
termination_by (tokens.length, 3)

def parseItems (depth : Nat) (tokens : List LocatedToken) :
    Except SyntaxError (Parsed (List Expr) tokens) := do
  let ⟨first, rest, shorter⟩ ← parseExpr depth tokens
  match rest, shorter with
  | ⟨.comma, _⟩ :: rest, shorter => do
    have shorter := Nat.lt_of_succ_lt shorter
    let ⟨others, rest, fewer⟩ ← parseItems depth rest
    return ⟨first :: others, rest, by simp only [List.length_cons] at *; omega⟩
  | rest, shorter => return ⟨[first], rest, shorter⟩
termination_by (tokens.length, 2)
end

/-- The one expression that a list of tokens makes up. -/
def ofTokens (tokens : List LocatedToken) : Except SyntaxError Expr := do
  let ⟨tree, rest, _⟩ ← parseExpr 0 tokens
  match rest with
  | [] | ⟨.endOfText, _⟩ :: _ => return tree
  | rest => .error (unexpected "end of expression" rest)

def parse (source : String) : Except SyntaxError Expr :=
  match tokenize source with
  | .error error => .error (.lexical error)
  | .ok tokens => ofTokens tokens

end Expr

end LateBound
