import LateBound.HostType
import LateBound.Number.Decimal

/-!
# Converting arguments

A value is brought to the type of the parameter it is passed to: numbers are wrapped or rounded to the
declared width, and texts are read as primitives or enum constants. What cannot be converted is passed
as it is, without its box; the member sees the mismatch for itself.
-/

namespace LateBound

/-- A number at the width of a primitive, when it has one there. -/
def convertNumber? (value : Value) : Primitive → Option Value
  | .bool => none
  | .byte => value.toInteger?.map (.byte <| Int8.ofInt ·)
  | .short => value.toInteger?.map (.short <| Int16.ofInt ·)
  | .int => value.toInteger?.map (.int <| Int32.ofInt ·)
  | .long => value.toInteger?.map (.long <| Int64.ofInt ·)
  | .float => value.toFloat32?.map .float
  | .double => value.toFloat?.map .double
  | .char => (value.toInteger?.bind Value.charOfCode?).map .char

/-- The value of a primitive that a text denotes, blanks at its ends apart. -/
def readPrimitive? (text : String) (kind : Primitive) : Option Value :=
  let cs := Text.trimChars text.toList
  let whole {α : Type} (fit? : Int → Option α) := (Number.readInteger? cs).bind fit?
  match kind with
  | .bool =>
    if HostType.equalsIgnoringCase (String.ofList cs) "true" then some (.bool true)
    else if HostType.equalsIgnoringCase (String.ofList cs) "false" then some (.bool false)
    else none
  | .char =>
    match cs with
    | [c] => some (.char c)
    | _ => none
  | .byte => (whole Number.toInt8?).map .byte
  | .short => (whole Number.toInt16?).map .short
  | .int => (whole Number.toInt32?).map .int
  | .long => (whole Number.toInt64?).map .long
  | .float => (Number.readSingle? cs).map .float
  | .double => (Number.readDouble? cs).map .double

/-- The conversion of an unboxed value to a parameter's type, if there is one. -/
def convert? (find? : String → Option HostType) (value : Value) (param : ParamType) : Option Value :=
  match param, value with
  | .primitive kind, .str text => readPrimitive? text kind
  | .primitive kind, value =>
    if kind.isNumeric && value.isNumeric then convertNumber? value kind else none
  | .enum typeName, .str text => (find? typeName).bind (·.constant? text)
  | _, _ => none

/-- The value brought to a parameter's type as far as it goes. -/
def coerce (find? : String → Option HostType) (value : Value) (param : ParamType) : Value :=
  (convert? find? value.unwrapped param).getD value.unwrapped

/-- The type that must be known to bring a value to a parameter's type. -/
def neededType? (value : Value) (param : ParamType) : Option String :=
  match param, value.unwrapped with
  | .enum typeName, .str _ => some typeName
  | _, _ => none

/-- Whether a value has the shape that a parameter declares. -/
def conforms (value : Value) (param : ParamType) : Bool :=
  match param with
  | .enum typeName =>
    match value with
    | .enum constant => constant.typeName == typeName
    | .null => true
    | _ => false
  | .primitive kind => value.tag == .primitive kind
  | _ => true

end LateBound
