import LateBound.SyntaxError
import LateBound.Value

/-!
# Failures of an evaluation

Why a node of an expression has no value. A `Cause` says what went wrong, in the terms of the
language; its kind and its text are read off it. A failure is a cause with a place, once a place is
known, and a diagnostic is a failure tied to the text that was evaluated.
-/

namespace LateBound

/-- What sort of failure it is. -/
inductive FailureKind
  /-- A text is not an expression. -/
  | malformed
  /-- No type, member or overload fits. -/
  | resolution
  /-- The policy refuses a type. -/
  | permission
  /-- An argument cannot be made what a parameter wants. -/
  | coercion
  /-- A member of a host type failed. -/
  | invocation
  /-- Something expected to be absent at times is absent; nobody is told. -/
  | nothing
  deriving DecidableEq, Repr, Inhabited

def FailureKind.name : FailureKind → String
  | malformed => "syntax error"
  | resolution => "resolution error"
  | permission => "permission denied"
  | coercion => "coercion error"
  | invocation => "invocation error"
  | nothing => "nothing"

/-- The shape of a call: the type it is looked up on, the member's name and the tags of the
arguments. -/
structure CallShape where
  owner : String
  name : String
  signature : List Tag
  deriving DecidableEq, Repr, Inhabited

def CallShape.text (shape : CallShape) : String :=
  shape.owner ++ "." ++ shape.name ++ "(" ++ ", ".intercalate (shape.signature.map Tag.text) ++ ")"

inductive Access
  | reading
  | writing
  deriving DecidableEq, Repr

def Access.name : Access → String
  | reading => "reading"
  | writing => "writing"

/-- Why a node has no value. Members are named by the type that declares them and their signature. -/
inductive Cause
  | malformed (error : SyntaxError)
  | initialisersTooDeep (limit : Nat)
  | denied (typeName : String)
  | unknownType (typeName : String)
  | noMethod (shape : CallShape)
  | noConstructor (shape : CallShape)
  | noField (name owner : String)
  | fieldNotStatic (owner name : String)
  | fieldNeedsInstance (owner name : String)
  | fieldIsStatic (declaring name : String)
  | fieldIsFinal (declaring name : String)
  | notInterpreted (text : String)
  | notInitialisable (shown raw : String)
  | notAssignment (raw segment : String)
  | argumentMismatch (member : String) (index : Nat) (shown : String) (param : ParamType)
  | memberFailed (member message : String)
  | memberPanicked (member message : String)
  | fieldFailed (access : Access) (declaring name message : String)
  | fieldPanicked (access : Access) (declaring name message : String)
  | raised (kind : FailureKind) (message : String)
  | nothing
  deriving Repr

namespace Cause

def kind : Cause → FailureKind
  | malformed _ | initialisersTooDeep _ => .malformed
  | denied _ => .permission
  | unknownType _ | noMethod _ | noConstructor _ | noField .. | fieldNotStatic ..
  | notInterpreted _ | notInitialisable .. | notAssignment .. => .resolution
  | argumentMismatch .. => .coercion
  | fieldNeedsInstance .. | fieldIsStatic .. | fieldIsFinal .. | memberFailed ..
  | memberPanicked .. | fieldFailed .. | fieldPanicked .. => .invocation
  | raised kind _ => kind
  | nothing => .nothing

def message : Cause → String
  | malformed error => error.message
  | initialisersTooDeep limit => "initializers nested deeper than " ++ toString limit
  | denied typeName => "access to type " ++ typeName ++ " is denied"
  | unknownType typeName => "unknown type " ++ typeName
  | noMethod shape => "no method matching " ++ shape.text
  | noConstructor shape => "no constructor matching " ++ shape.text
  | noField name owner => "no field " ++ name ++ " on " ++ owner
  | fieldNotStatic owner name => "field " ++ owner ++ "." ++ name ++ " is not static"
  | fieldNeedsInstance owner name =>
    "instance field " ++ owner ++ "." ++ name ++ " needs an instance"
  | fieldIsStatic declaring name =>
    "static field " ++ declaring ++ "." ++ name ++ " cannot be set through an instance"
  | fieldIsFinal declaring name => "field " ++ declaring ++ "." ++ name ++ " is final"
  | notInterpreted text => "cannot interpret " ++ text
  | notInitialisable shown raw => "cannot initialise " ++ shown ++ " with [" ++ raw ++ "]"
  | notAssignment raw segment =>
    "expected name=value in [" ++ raw ++ "], found '" ++ segment ++ "'"
  | argumentMismatch member index shown param =>
    member ++ ": argument " ++ toString index ++ " (" ++ shown ++ ") is not a valid " ++ param.text
  | memberFailed member message => member ++ " failed: " ++ message
  | memberPanicked member message => member ++ " panicked: " ++ message
  | fieldFailed access declaring name message =>
    access.name ++ " " ++ declaring ++ "." ++ name ++ " failed: " ++ message
  | fieldPanicked access declaring name message =>
    access.name ++ " " ++ declaring ++ "." ++ name ++ " panicked: " ++ message
  | raised _ message => message
  | nothing => ""

end Cause

structure Failure where
  cause : Cause
  span : Option Span
  deriving Repr

namespace Failure

def of (cause : Cause) : Failure :=
  ⟨cause, none⟩

/-- The failure of a text that is not an expression. -/
def ofSyntax (error : SyntaxError) : Failure :=
  ⟨.malformed error, error.span?⟩

def kind (failure : Failure) : FailureKind :=
  failure.cause.kind

def message (failure : Failure) : String :=
  failure.cause.message

/-- The failure at a place, unless it already has a narrower one. -/
def orAt (failure : Failure) (span : Span) : Failure :=
  { failure with span := failure.span.or (some span) }

/-- Whether anybody should be told of the failure. -/
def isReportable (failure : Failure) : Bool :=
  failure.kind != .nothing && failure.message != ""

end Failure

/-- A reported failure: the text in which it arose, the place there, and the unit of that text. -/
structure Diagnostic where
  cause : Cause
  source : String
  span : Option Span
  unit : Option String
  deriving Repr

namespace Diagnostic

def ofFailure (failure : Failure) (source : String) (unit : Option String) : Diagnostic :=
  ⟨failure.cause, source, failure.span, unit⟩

def kind (diagnostic : Diagnostic) : FailureKind :=
  diagnostic.cause.kind

def message (diagnostic : Diagnostic) : String :=
  diagnostic.cause.message

def text (diagnostic : Diagnostic) : String :=
  diagnostic.kind.name ++ ": " ++ diagnostic.message ++ " in \x60" ++ diagnostic.source ++ "\x60"
    ++ match diagnostic.span with
      | some span => " at column " ++ toString span.column
      | none => ""

end Diagnostic

end LateBound
