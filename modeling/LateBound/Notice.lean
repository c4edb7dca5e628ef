import LateBound.Session
import LateBound.Settings.Edit

/-!
# Notices

What a user is told of an error: the message, where it arose, the line of the text with carets under the
place, and what may help. Notices are drawn in colours or without.
-/

namespace LateBound

/-- Draws a text in a style, if there are colours. -/
def paint (colours : Bool) (code text : String) : String :=
  if colours then Text.styled code text else text

structure Notice where
  message : String
  span : Option Span
  unit : Option String
  source : Option String
  suggestion : Option String
  help : Option String

namespace Notice

def plain (message : String) : Notice :=
  ⟨message, none, none, none, none, none⟩

/-- The notice with what may help against a sort of failure. -/
def withHints (notice : Notice) : FailureKind → Notice
  | .malformed =>
    { notice with
      suggestion := some "Check for unbalanced parentheses, brackets or quotes" }
  | .resolution =>
    { notice with
      suggestion := some "Check the member name and the number and types of arguments"
      help := some
        ("Types are found by qualified name (lang.Math) or after \x60--import lang.Math\x60") }
  | .permission =>
    { notice with
      suggestion := some "Allow the type's namespace with \x60--allow <prefix>\x60"
      help := some "Only \x60lang\x60 is allowed unless the config says otherwise" }
  | .coercion =>
    { notice with
      suggestion := some
        "Text arguments are only converted when they parse as the parameter type" }
  | .invocation | .nothing => notice

def ofDiagnostic (diagnostic : Diagnostic) : Notice :=
  withHints
    ⟨diagnostic.kind.name ++ ": " ++ diagnostic.message, diagnostic.span, diagnostic.unit,
      some diagnostic.source, none, none⟩
    diagnostic.kind

/-- The notice of an error that no evaluation has reported. One that speaks of a settings file comes
with a hint at it. -/
def ofMessage (message : String) : Notice :=
  if (Text.find? settingsFile.toList message.toList).isSome then
    { plain message with
      suggestion := some "Fix or remove the config file"
      help := some "Run \x60reflex config\x60 to see the effective configuration" }
  else plain message

def ofSessionError : SessionError → Notice
  | .failed failure => (plain failure.message).withHints failure.kind
  | error => ofMessage error.message

/-! ## Drawing -/

/-- How many carets mark a span: one per byte, and at least one. -/
def caretCount (span : Span) : Nat :=
  max (span.stop - span.start) 1

/-- The line of a text where a span starts, with carets under the span; the first line without any when
there is no span. -/
def excerpt (colours : Bool) (source : String) (span? : Option Span) : List String :=
  let index := ((span?.map Span.line).getD 1) - 1
  match (Source.lines source)[index]? with
  | none => []
  | some line =>
    let number := toString (index + 1)
    let bar := paint colours "1;34" "|"
    let numbered := paint colours "1;34" number ++ " " ++ bar ++ " " ++ line
    match span? with
    | none => [numbered]
    | some span =>
      let carets := paint colours "1;31" (Text.repeated (caretCount span) '^')
      [numbered,
        Text.repeated number.length ' ' ++ " " ++ bar ++ " "
          ++ Text.repeated (span.column - 1) ' ' ++ carets]

def placeLine (colours : Bool) (unit : String) (span? : Option Span) : String :=
  "  " ++ paint colours "1;34" "-->" ++ " " ++ unit
    ++ match span? with
      | some span => ":" ++ toString span.line ++ ":" ++ toString span.column
      | none => ""

def advice (colours : Bool) (code label : String) : Option String → List String
  | some text => ["", paint colours code label ++ " " ++ text]
  | none => []

def lines (colours : Bool) (notice : Notice) : List String :=
  (paint colours "1;31" "error:" ++ " " ++ paint colours "1" notice.message)
    :: (notice.unit.map (placeLine colours · notice.span)).toList
    ++ (match notice.source with
      | some source => "" :: excerpt colours source notice.span
      | none => [])
    ++ advice colours "1;32" "suggestion:" notice.suggestion
    ++ advice colours "1;36" "help:" notice.help

end Notice

/-! ## Output -/

/-- A piece of what a program writes, to its output or to its error output. -/
inductive Output
  | out (text : String)
  | err (text : String)
  deriving DecidableEq, Repr

namespace Output

def line (text : String) : Output :=
  out (text ++ "\n")

def notice (colours : Bool) (notice : Notice) : List Output :=
  (notice.lines colours).map fun text => err (text ++ "\n")

def outText (outputs : List Output) : String :=
  String.join (outputs.map fun
    | out text => text
    | err _ => "")

def errText (outputs : List Output) : String :=
  String.join (outputs.map fun
    | err text => text
    | out _ => "")

end Output

end LateBound
