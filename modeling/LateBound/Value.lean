import LateBound.Number.Decimal

/-!
# Values

What expressions compute: null, the primitives, texts, enum constants, references to host objects,
host types themselves, lists, and values that the host has boxed in its own object model.

A value has a *tag*, by which calls are resolved, and a *runtime type*, which owns its members. Both
look through the box, as do the display text and equality: a boxed value is the value inside.
-/

namespace LateBound

/-! ## Declared types -/

inductive Primitive
  | bool | byte | short | int | long | float | double | char
  deriving DecidableEq, Repr, Inhabited

/-- The name by which a signature mentions a primitive. -/
def Primitive.name : Primitive → String
  | bool => "boolean"
  | byte => "byte"
  | short => "short"
  | int => "int"
  | long => "long"
  | float => "float"
  | double => "double"
  | char => "char"

/-- Whether values of the primitive convert into each other; all do but booleans. -/
def Primitive.isNumeric : Primitive → Bool
  | bool => false
  | _ => true

/-- The runtime shape of an argument, by which a call is resolved. -/
inductive Tag
  | null
  | primitive (kind : Primitive)
  | str
  | enum (typeName : String)
  | object (typeName : String)
  | type
  | list
  deriving DecidableEq, Repr, Inhabited

namespace Tag

def text : Tag → String
  | null => "null"
  | primitive kind => kind.name
  | str => "String"
  | enum typeName | object typeName => typeName
  | type => "type"
  | list => "List"

def isNumeric : Tag → Bool
  | primitive kind => kind.isNumeric
  | _ => false

/-- The qualified name of the type that owns the members of values with this tag. -/
def runtimeTypeName? : Tag → Option String
  | null => none
  | primitive .bool => some "lang.Boolean"
  | primitive .byte => some "lang.Byte"
  | primitive .short => some "lang.Short"
  | primitive .int => some "lang.Integer"
  | primitive .long => some "lang.Long"
  | primitive .float => some "lang.Float"
  | primitive .double => some "lang.Double"
  | primitive .char => some "lang.Character"
  | str => some "lang.String"
  | enum typeName | object typeName => some typeName
  | type => some "lang.Class"
  | list => some "lang.List"

end Tag

inductive ParamType
  | primitive (kind : Primitive)
  | str
  | enum (typeName : String)
  | object (typeName : String)
  | list
  | any
  deriving DecidableEq, Repr, Inhabited

namespace ParamType

def isPrimitive : ParamType → Bool
  | primitive _ => true
  | _ => false

def isNumeric : ParamType → Bool
  | primitive kind => kind.isNumeric
  | _ => false

/-- The one tag that fits the type exactly; a type that takes anything has none. -/
def exactTag? : ParamType → Option Tag
  | primitive kind => some (.primitive kind)
  | str => some .str
  | enum typeName => some (.enum typeName)
  | object typeName => some (.object typeName)
  | list => some .list
  | any => none

def text (type : ParamType) : String :=
  match type.exactTag? with
  | some tag => tag.text
  | none => "Object"

end ParamType

/-! ## Values -/

structure EnumValue where
  typeName : String
  constant : String
  ordinal : Nat
  deriving DecidableEq, Repr, Inhabited

/-- A reference to a host object; two references are to the same object when their numbers agree. -/
structure ObjectRef where
  typeName : String
  id : Nat
  deriving DecidableEq, Repr, Inhabited

/-- A host type used as a value: its qualified name and whether it is an enum. -/
structure TypeRef where
  name : String
  isEnum : Bool
  deriving DecidableEq, Repr, Inhabited

inductive Value
  | null
  | bool (value : Bool)
  | byte (value : Int8)
  | short (value : Int16)
  | int (value : Int32)
  | long (value : Int64)
  | float (value : Float32)
  | double (value : Float)
  | char (value : Char)
  | str (text : String)
  | enum (constant : EnumValue)
  | object (ref : ObjectRef)
  | type (ref : TypeRef)
  | list (items : List Value)
  | wrapped (origin : String) (inner : Value)
  deriving Repr, Inhabited

def shortName (name : String) : String :=
  String.ofList ((name.toList.reverse.takeWhile (· != '.')).reverse)

namespace Value

/-! ### Boxes -/

def unwrapped : Value → Value
  | wrapped _ inner => inner.unwrapped
  | value => value

/-- The value in a box of the host; a box is never put into another. -/
def wrap (origin : String) (value : Value) : Value :=
  wrapped origin value.unwrapped

@[simp] theorem unwrapped_unwrapped : ∀ value : Value, value.unwrapped.unwrapped = value.unwrapped
  | wrapped _ inner => by simpa only [unwrapped] using unwrapped_unwrapped inner
  | null | bool _ | byte _ | short _ | int _ | long _ | float _ | double _ | char _ | str _
  | enum _ | object _ | type _ | list _ => rfl

@[simp] theorem unwrapped_wrap (origin : String) (value : Value) :
    (value.wrap origin).unwrapped = value.unwrapped := by
  simp only [wrap, unwrapped, unwrapped_unwrapped]

/-! ### Tags -/

def tag : Value → Tag
  | null => .null
  | bool _ => .primitive .bool
  | byte _ => .primitive .byte
  | short _ => .primitive .short
  | int _ => .primitive .int
  | long _ => .primitive .long
  | float _ => .primitive .float
  | double _ => .primitive .double
  | char _ => .primitive .char
  | str _ => .str
  | enum constant => .enum constant.typeName
  | object ref => .object ref.typeName
  | type _ => .type
  | list _ => .list
  | wrapped _ inner => inner.tag

theorem tag_unwrapped : ∀ value : Value, value.unwrapped.tag = value.tag
  | wrapped _ inner => tag_unwrapped inner
  | null | bool _ | byte _ | short _ | int _ | long _ | float _ | double _ | char _ | str _ | enum _ | object _
  | type _ | list _ => rfl

def isNull (value : Value) : Bool :=
  value.tag == .null

def isNumeric (value : Value) : Bool :=
  value.tag.isNumeric

/-- The qualified name of the type that owns the members of the value. -/
def runtimeTypeName? (value : Value) : Option String :=
  value.tag.runtimeTypeName?

/-! ### Numbers -/

/-- The whole part of a number as a 64-bit word, nearest where it does not fit, or the code point of a
character. -/
def toInteger? (value : Value) : Option Int :=
  match value.unwrapped with
  | byte n => some n.toInt
  | short n => some n.toInt
  | int n => some n.toInt
  | long n => some n.toInt
  | float x => some (Number.ofFloat32 x).toInt64
  | double x => some (Number.ofFloat x).toInt64
  | char c => some c.toNat
  | _ => none

/-- The exact meaning of a number or of a character's code point. -/
def toExact? (value : Value) : Option Number.Exact :=
  match value.unwrapped with
  | float x => some (Number.ofFloat32 x)
  | double x => some (Number.ofFloat x)
  | other => other.toInteger?.map fun n => .finite (n < 0) n.natAbs 0

def toFloat? (value : Value) : Option Float :=
  match value.unwrapped with
  | double x => some x
  | other => other.toExact?.map Number.Exact.toFloat

/-- The number as a 32-bit floating-point number, by way of the 64-bit one. -/
def toFloat32? (value : Value) : Option Float32 :=
  match value.unwrapped with
  | float x => some x
  | other => other.toFloat?.map fun x => (Number.ofFloat x).toFloat32

def text? (value : Value) : Option String :=
  match value.unwrapped with
  | str text => some text
  | _ => none

def charOfCode? (code : Int) : Option Char :=
  if 0 ≤ code ∧ code.toNat.isValidChar then some (Char.ofNat code.toNat) else none

/-! ### Display -/

/-- The place of an object, a number of twelve digits in base sixteen that no two objects share. -/
def objectPlace (ref : ObjectRef) : Nat :=
  0x550000000000 + 16 * ref.id

/-- What an object shows that has no text of its own: its type and its place. -/
def objectText (ref : ObjectRef) : String :=
  ref.typeName ++ "@" ++ String.ofList (Nat.toDigits 16 (objectPlace ref))

mutual
def display : Value → String
  | null => "null"
  | bool value => toString value
  | byte n => toString n.toInt
  | short n => toString n.toInt
  | int n => toString n.toInt
  | long n => toString n.toInt
  | float x => Number.Layout.precise.single x
  | double x => Number.Layout.precise.double x
  | char c => c.toString
  | str text => text
  | enum constant => constant.constant
  | object ref => objectText ref
  | type ref => ref.name
  | list items => "[" ++ displayItems items ++ "]"
  | wrapped _ inner => inner.display

def displayItems : List Value → String
  | [] => ""
  | [item] => item.display
  | item :: next :: items => item.display ++ ", " ++ displayItems (next :: items)
end

/-! ### Equality -/

mutual
/-- Whether two values are equal: of one kind and with equal contents, objects by identity, types by
name and floating-point numbers by value. -/
def equals : Value → Value → Bool
  | wrapped _ inner, other => inner.equals other
  | value, other =>
    match value, other.unwrapped with
    | null, null => true
    | bool a, bool b => a == b
    | byte a, byte b => a == b
    | short a, short b => a == b
    | int a, int b => a == b
    | long a, long b => a == b
    | float a, float b => a == b
    | double a, double b => a == b
    | char a, char b => a == b
    | str a, str b => a == b
    | enum a, enum b => a == b
    | object a, object b => a.id == b.id
    | type a, type b => a.name == b.name
    | list a, list b => equalItems a b
    | _, _ => false

def equalItems : List Value → List Value → Bool
  | [], [] => true
  | a :: as, b :: bs => a.equals b && equalItems as bs
  | _, _ => false
end

theorem wrapped_equals (origin : String) (inner second : Value) :
    (wrapped origin inner).equals second = inner.equals second := by
  rw [equals]

theorem list_equals (items : List Value) (second : Value) :
    (list items).equals second = match second.unwrapped with
      | list others => equalItems items others
      | _ => false := by
  cases shape : second.unwrapped <;> simp only [equals.eq_def, shape]

theorem type_equals (ref : TypeRef) (second : Value) :
    (type ref).equals second = match second.unwrapped with
      | type other => ref.name == other.name
      | _ => false := by
  cases shape : second.unwrapped <;> simp only [equals.eq_def, shape]

end Value

end LateBound
