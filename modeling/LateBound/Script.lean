import LateBound.HostType.Native
import LateBound.Sample.Counter

/-!
# Scripted types

Host types whose members are given as data: each member runs one small command. Objects of scripted
types are records, and their static fields are slots of the store.
-/

namespace LateBound

/-! ## Conversions -/

/-- A type of the host that a value can be converted to and back. -/
inductive Conversion
  | int8 | int16 | int32 | int64 | float32 | float | bool | char | text | value | enum | object | list
  | maybeInt32 | maybeText | counter | unit
  deriving DecidableEq, Repr

/-- Reads a value at a type of the host and gives it back. -/
def through (α : Type) [HostArg α] [HostResult α] (value : Value) : Host Value := do
  HostResult.give (← HostArg.read (α := α) value)

/-- Reads any value but null at a type of the host, and gives it back. -/
def throughUnlessNull (α : Type) [HostArg α] [HostResult α] (value : Value) : Host Value :=
  if value.isNull then pure .null else through α value

/-- The value read at a type of the host and given back. -/
def Conversion.run (conversion : Conversion) (value : Value) : Host Value :=
  match conversion with
  | int8 => through Int8 value
  | int16 => through Int16 value
  | int32 => through Int32 value
  | int64 => through Int64 value
  | float32 => through Float32 value
  | float => through Float value
  | bool => through Bool value
  | char => through Char value
  | text => through String value
  | Conversion.value => through Value value
  | enum => return .enum (← Host.ofExcept value.readEnum)
  | object => return .object (← Host.ofExcept value.readObject)
  | list => through (List Value) value
  | maybeInt32 => throughUnlessNull Int32 value
  | maybeText => throughUnlessNull String value
  | counter => through Sample.Counter value
  | unit => pure .null

/-! ## Records -/

/-- The fields of a record by name, the ones set last in front. -/
abbrev Fields := List (String × Value)

def Fields.set (fields : Fields) (name : String) (value : Value) : Fields :=
  (name, value) :: fields.filter (·.1 != name)

def Host.record (receiver : Option Value) : Host (ObjectRef × Fields) :=
  match receiver.map Value.unwrapped with
  | some (.object ref) => do
    let fields ← Host.view ref fun
      | .record fields => some fields
      | _ => none
    return (ref, fields)
  | _ => Host.fail "not a record"

/-- The field of a record, null when it is not set. -/
def Host.getField (receiver : Option Value) (name : String) : Host Value := do
  let (_, fields) ← Host.record receiver
  return (fields.lookup name).getD .null

def Host.putField (receiver : Option Value) (name : String) (value : Value) : Host Unit := do
  let (ref, fields) ← Host.record receiver
  Host.setState ref (.record (fields.set name value))

/-! ## Commands -/

/-- What a scripted member does. -/
inductive Script
  /-- Returns a value. -/
  | const (value : Value)
  /-- Returns a label with the tags and texts of the arguments. -/
  | tag (label : String)
  /-- Returns an argument. -/
  | arg (index : Nat)
  /-- Returns the receiver, null if there is none. -/
  | self
  /-- Returns the list of all arguments. -/
  | args
  /-- Fails, with an error that is classified or not, or panics. -/
  | fault (fault : Fault)
  /-- Returns a new record with the given fields, the named ones taken from the arguments in order. -/
  | create (typeName : String) (fields : Fields) (fromArgs : List String)
  /-- Returns a field of the receiver. -/
  | get (field : String)
  /-- Stores an argument in a field of the receiver. -/
  | put (field : String) (index : Nat)
  /-- Converts an argument. -/
  | convert (conversion : Conversion) (index : Nat)

namespace Script

def argument (args : List Value) (index : Nat) : Host Value :=
  match args[index]? with
  | some value => pure value
  | none => Host.fail ("missing argument " ++ toString (index + 1))

/-- A label with the tags and texts of some values. -/
def tagged (label : String) (args : List Value) : String :=
  label ++ "(" ++ ", ".intercalate (args.map fun arg => arg.tag.text ++ ":" ++ arg.display) ++ ")"

def run (script : Script) (receiver : Option Value) (values : List Value) : Host Value :=
  match script with
  | const value => pure value
  | tag label => pure (.str (tagged label values))
  | arg index => argument values index
  | self => pure (receiver.getD .null)
  | args => pure (.list values)
  | fault cause => throw cause
  | create typeName fields fromArgs => do
    let mut fields := fields
    for (name, index) in fromArgs.zipIdx do
      fields := Fields.set fields name (← argument values index)
    Host.create typeName (.record fields)
  | get field => Host.getField receiver field
  | put field index => do
    let value ← argument values index
    Host.putField receiver field value
    return .null
  | convert conversion index => do conversion.run (← argument values index)

end Script

/-! ## Fields -/

/-- What writing a scripted field does. -/
inductive WriteRule
  | store
  | fail
  | panic
  | absent
  deriving DecidableEq, Repr

/-- A scripted field. One that is `exact` has just the flags given, and can be written unless its rule
says `absent`; otherwise a final field cannot be written. -/
structure ScriptedField where
  name : String
  type : ParamType
  isStatic : Bool
  isFinal : Bool
  isPublic : Bool
  exact : Bool
  initial : Value
  get? : Option Script
  rule : WriteRule

namespace ScriptedField

def read (field : ScriptedField) (owner : String) (receiver : Option Value) : Host Value :=
  match field.get? with
  | some script => script.run receiver []
  | none =>
    if field.isStatic then Host.slot owner field.name field.initial
    else Host.getField receiver field.name

def write (field : ScriptedField) (owner : String) (receiver : Option Value) (value : Value) :
    Host Unit :=
  match field.rule with
  | .fail => Host.fail "setter refused"
  | .panic => throw (.panic (some "setter bug"))
  | .store | .absent =>
    if field.isStatic then Host.setSlot owner field.name value
    else Host.putField receiver field.name value

def addTo (field : ScriptedField) (type : HostType) : HostType :=
  let read := field.read type.name
  let write := field.write type.name
  if field.exact || !field.isPublic then
    type.addField
      ⟨field.name, field.type, field.isStatic, field.isFinal, field.isPublic, read,
        if field.rule = .absent then none else some write⟩
  else
    match field.isStatic, field.isFinal with
    | true, true => type.staticField field.name field.type (read none)
    | true, false => type.staticMutableField field.name field.type (read none) (write none)
    | false, true => type.field field.name field.type fun receiver => read (some receiver)
    | false, false =>
      type.mutableField field.name field.type (fun receiver => read (some receiver))
        fun receiver => write (some receiver)

end ScriptedField

/-! ## Types -/

structure ScriptedMember where
  name : String
  params : List ParamType
  isStatic : Bool
  isPublic : Bool
  script : Script

structure ScriptedType where
  name : String
  parent? : Option String
  constants? : Option (List String)
  constructors : List ScriptedMember
  methods : List ScriptedMember
  fields : List ScriptedField

namespace ScriptedType

def addMethod (type : HostType) (member : ScriptedMember) : HostType :=
  if member.isStatic then
    type.addMethod
      ⟨member.name, member.params, true, member.isPublic, fun _ => member.script.run none⟩
  else
    type.method member.name member.params (fun receiver => member.script.run (some receiver))
      member.isPublic

def hostType (scripted : ScriptedType) : HostType :=
  let base :=
    match scripted.constants? with
    | some constants => HostType.enumeration scripted.name constants
    | none => HostType.empty scripted.name
  let base :=
    match scripted.parent? with
    | some parent => base.withParent parent
    | none => base
  let base := scripted.constructors.foldl
    (fun type member => type.constructor member.params (member.script.run none) member.isPublic) base
  let base := scripted.methods.foldl addMethod base
  scripted.fields.foldl (fun type field => field.addTo type) base

end ScriptedType

end LateBound
