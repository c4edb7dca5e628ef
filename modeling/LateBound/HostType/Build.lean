import LateBound.HostType
import LateBound.Value.Convert

/-!
# Describing host types

A type is described by adding members to an empty class or to an enum. An instance member that is run
without a receiver fails by itself, so that those who describe one only say what it does with its
receiver.
-/

namespace LateBound

def Host.ofExcept {α : Type} : Except String α → Host α
  | .ok value => pure value
  | .error message => Host.fail message

/-- The message about an instance member that is run without a receiver. -/
def notStaticMessage (label : String) : String :=
  label ++ " is not static"

/-- Runs an action on the receiver, which an instance member must have. -/
def Host.onReceiver {α : Type} (label : String) (action : Value → Host α)
    (receiver : Option Value) : Host α :=
  match receiver with
  | some receiver => action receiver
  | none => Host.fail (notStaticMessage label)

namespace HostType

def empty (name : String) : HostType :=
  ⟨name, none, none, [], [], []⟩

def withParent (type : HostType) (parent : String) : HostType :=
  { type with declaredParent? := some parent }

/-! ## Constructors and methods -/

def addConstructor (type : HostType) (member : Member) : HostType :=
  { type with constructors := type.constructors ++ [member] }

def addMethod (type : HostType) (member : Member) : HostType :=
  { type with methods := type.methods ++ [member] }

def constructor (type : HostType) (params : List ParamType) (run : List Value → Host Value)
    (isPublic : Bool := true) : HostType :=
  type.addConstructor ⟨type.shortName, params, true, isPublic, fun _ => run⟩

def method (type : HostType) (name : String) (params : List ParamType)
    (run : Value → List Value → Host Value) (isPublic : Bool := true) : HostType :=
  type.addMethod
    ⟨name, params, false, isPublic, fun receiver args =>
      Host.onReceiver (type.name ++ "." ++ name) (run · args) receiver⟩

def staticMethod (type : HostType) (name : String) (params : List ParamType)
    (run : List Value → Host Value) : HostType :=
  type.addMethod ⟨name, params, true, true, fun _ => run⟩

/-! ## Fields -/

/-- Adds a field in place of an earlier one of its name. -/
def addField (type : HostType) (field : Field) : HostType :=
  { type with fields := type.fields.filter (·.name != field.name) ++ [field] }

def field (type : HostType) (name : String) (declared : ParamType)
    (read : Value → Host Value) : HostType :=
  type.addField
    ⟨name, declared, false, true, true, Host.onReceiver (type.name ++ "." ++ name) read, none⟩

def mutableField (type : HostType) (name : String) (declared : ParamType)
    (read : Value → Host Value) (write : Value → Value → Host Unit) : HostType :=
  let label := type.name ++ "." ++ name
  type.addField
    ⟨name, declared, false, false, true, Host.onReceiver label read,
      some fun receiver value => Host.onReceiver label (write · value) receiver⟩

def staticField (type : HostType) (name : String) (declared : ParamType)
    (read : Host Value) : HostType :=
  type.addField ⟨name, declared, true, true, true, fun _ => read, none⟩

def staticMutableField (type : HostType) (name : String) (declared : ParamType)
    (read : Host Value) (write : Value → Host Unit) : HostType :=
  type.addField ⟨name, declared, true, false, true, fun _ => read, some fun _ => write⟩

/-! ## Enums -/

private def onConstant (label : String) (read : EnumValue → Value) (receiver : Value) : Host Value :=
  match receiver.unwrapped with
  | .enum constant => pure (read constant)
  | other => Host.fail (label ++ "() called on " ++ other.display)

/-- The text of the argument at a place; no text counts as the empty one. -/
private def textArg (args : List Value) : String :=
  ((args.head?).bind Value.text?).getD ""

def constantValues (name : String) (constants : List String) : List Value :=
  constants.mapIdx fun ordinal constant => .enum ⟨name, constant, ordinal⟩

def namedValues (name : String) (constants : List String) : List (String × Value) :=
  constants.zip (constantValues name constants)

def constantNamed (name : String) (constants : List String) (text : String) : Host Value :=
  match (namedValues name constants).lookup text with
  | some value => pure value
  | none => Host.fail ("no constant " ++ text ++ " in " ++ name)

def constantFields (type : HostType) (constants : List String) : HostType :=
  let declared := ParamType.enum type.name
  (namedValues type.name constants).foldl
    (fun type (constant, value) => type.staticField constant declared (pure value)) type

def constantMethods (type : HostType) (constants : List String) : HostType :=
  let name := type.name
  type
    |>.staticMethod "values" [] (fun _ => pure (.list (constantValues name constants)))
    |>.staticMethod "valueOf" [.str] (fun args => constantNamed name constants (textArg args))
    |>.method "name" [] (fun receiver _ => onConstant "name" (.str ·.constant) receiver)
    |>.method "ordinal" [] (fun receiver _ =>
      onConstant "ordinal" (fun constant => .int (Int32.ofNat constant.ordinal)) receiver)

/-- An enum: each constant is a static field, and there are `values`, `valueOf`, `name` and
`ordinal`. -/
def enumeration (name : String) (constants : List String) : HostType :=
  let base : HostType := { HostType.empty name with constants? := some constants }
  (base.constantFields constants).constantMethods constants

end HostType

end LateBound
