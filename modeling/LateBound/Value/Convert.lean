import LateBound.Value

/-!
# Reading values as data of the host

A member of a host type works on numbers, characters and texts of a fixed width. Reading is tolerant
where no information is in doubt: any number or character is read at any width, wrapped to it as a
machine word or rounded to it as a floating-point number, and any value but null is read as its text.
-/

namespace LateBound.Value

/-- The complaint about a value that cannot be read as what was wanted. -/
def unreadable (wanted : String) (value : Value) : String :=
  "expected " ++ wanted ++ ", got " ++ value.display

def readAs {α : Type} (wanted : String) (result : Option α) (value : Value) : Except String α :=
  match result with
  | some read => .ok read
  | none => .error (value.unreadable wanted)

def readInt8 (value : Value) : Except String Int8 :=
  value.readAs "i8" (value.toInteger?.map Int8.ofInt)

def readInt16 (value : Value) : Except String Int16 :=
  value.readAs "i16" (value.toInteger?.map Int16.ofInt)

def readInt32 (value : Value) : Except String Int32 :=
  value.readAs "i32" (value.toInteger?.map Int32.ofInt)

def readInt64 (value : Value) : Except String Int64 :=
  value.readAs "i64" (value.toInteger?.map Int64.ofInt)

def readFloat32 (value : Value) : Except String Float32 :=
  value.readAs "f32" value.toFloat32?

def readFloat (value : Value) : Except String Float :=
  value.readAs "f64" value.toFloat?

def readBool (value : Value) : Except String Bool :=
  match value.unwrapped with
  | bool b => .ok b
  | _ => .error (value.unreadable "boolean")

/-- The value as a character: one, or a number that is a code point. -/
def readChar (value : Value) : Except String Char :=
  value.readAs "char" (value.toInteger?.bind charOfCode?)

def readText (value : Value) : Except String String :=
  match value.unwrapped with
  | str text => .ok text
  | null => .error (value.unreadable "String")
  | other => .ok other.display

def readEnum (value : Value) : Except String EnumValue :=
  match value.unwrapped with
  | enum constant => .ok constant
  | _ => .error (value.unreadable "enum constant")

def readObject (value : Value) : Except String ObjectRef :=
  match value.unwrapped with
  | object ref => .ok ref
  | _ => .error (value.unreadable "object")

def readList (value : Value) : Except String (List Value) :=
  match value.unwrapped with
  | list items => .ok items
  | _ => .error (value.unreadable "list")

end LateBound.Value
