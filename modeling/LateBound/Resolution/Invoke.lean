import LateBound.Machine
import LateBound.Resolution.Coerce
import LateBound.Resolution.Search

/-!
# Calling members and reaching fields

A call is resolved by the tags of its arguments, the arguments are brought to the declared types, and
the member is run. When the member then fails with a plain error and an argument had not come to its
declared type, that argument is to blame; errors that the host has classified itself are left as they
are, but for those it calls failed invocations.

Static members are reached through a type, which must be admitted; instance members through a value,
by way of the type that owns its members.
-/

namespace LateBound

variable {μ : Type} [Memory μ]

/-! ## Types -/

/-- The type of a name, if there is one; it is a failure when it is denied. -/
def lookupType (gate : Gate) (name : String) : Attempt μ (Option HostType) := do
  match ← Attempt.lift (Run.remember (Memory.lookup gate name)) with
  | .found type => return some type
  | .notFound => return none
  | .denied => Attempt.fail (.denied name)

def requireType (gate : Gate) (name : String) : Attempt μ HostType := do
  match ← lookupType gate name with
  | some type => return type
  | none => Attempt.fail (.unknownType name)

def checkAdmitted (gate : Gate) (name : String) : Attempt μ Unit :=
  if gate.admits name then pure () else Attempt.fail (.denied name)

def runtimeType (gate : Gate) (value : Value) : Attempt μ HostType :=
  match value.runtimeTypeName? with
  | some name => requireType gate name
  | none => Attempt.fail .nothing

/-! ## Calls -/

def coerceArg (gate : Gate) (value : Value) (param : ParamType) : Run μ Value := do
  match neededType? value param with
  | none => return coerce (fun _ => none) value param
  | some name =>
    let answer ← Run.remember (Memory.lookup gate name)
    return coerce (fun _ => answer.type?) value param

/-- The arguments of a call brought to the parameters of a member. -/
def coerceArgs (gate : Gate) (args : List Value) (params : List ParamType) : Run μ (List Value) :=
  (args.zip params).mapM fun (value, param) => coerceArg gate value param

/-- The first argument that does not have the declared shape, with its place counted from one. -/
def firstMismatch? (args : List Value) (params : List ParamType) : Option (Nat × Value × ParamType) :=
  ((args.zip params).zipIdx 1).findSome? fun ((value, param), index) =>
    if conforms value param then none else some (index, value, param)

def MethodHandle.label (handle : MethodHandle) : String :=
  handle.declaring ++ "." ++ handle.member.signature

/-- The failure of a call whose member has ended in a fault. -/
def callFailure (handle : MethodHandle) (args : List Value) (fault : Fault) : Failure :=
  let blamed (span : Option Span) : Failure :=
    match firstMismatch? args handle.member.params with
    | some (index, value, param) =>
      ⟨.argumentMismatch handle.label index value.display param, span⟩
    | none => ⟨.memberFailed handle.label fault.message, span⟩
  match fault with
  | .panic _ => .of (.memberPanicked handle.label fault.message)
  | .error _ => blamed none
  | .raised .invocation _ span => blamed span
  | .raised kind message span => ⟨.raised kind message, span⟩

def MethodHandle.run (handle : MethodHandle) (receiver : Option Value) (args : List Value) :
    Run μ (Except Fault Value) :=
  Run.host ⟨handle.declaring, .method handle.member.signature, receiver, args⟩
    (handle.member.run receiver args)

def invoke (gate : Gate) (handle : MethodHandle) (receiver : Option Value) (args : List Value) :
    Attempt μ Value := do
  let args ← Attempt.lift (coerceArgs gate args handle.member.params)
  match ← Attempt.lift (handle.run receiver args) with
  | .ok value => return value
  | .error fault => throw (callFailure handle args fault)

def methodHandle (gate : Gate) (type : HostType) (name : String) (args : List Value) : Attempt μ MethodHandle := do
  let shape := CallShape.of type.name name args
  match ← Attempt.lift (Run.remember (MemberSort.method.find gate type shape)) with
  | some handle => return handle
  | none => Attempt.fail (.noMethod shape)

def constructorHandle (gate : Gate) (type : HostType) (args : List Value) : Attempt μ MethodHandle := do
  let shape := CallShape.of type.name constructorName args
  match ← Attempt.lift (Run.remember (MemberSort.constructor.find gate type shape)) with
  | some handle => return handle
  | none => Attempt.fail (.noConstructor shape)

def invokeStatic (gate : Gate) (type : HostType) (name : String) (args : List Value) : Attempt μ Value := do
  checkAdmitted gate type.name
  invoke gate (← methodHandle gate type name args) none args

def invokeInstance (gate : Gate) (receiver : Value) (name : String) (args : List Value) : Attempt μ Value := do
  let receiver := receiver.unwrapped
  let type ← runtimeType gate receiver
  invoke gate (← methodHandle gate type name args) (some receiver) args

def construct (gate : Gate) (type : HostType) (args : List Value) : Attempt μ Value := do
  checkAdmitted gate type.name
  invoke gate (← constructorHandle gate type args) none args

/-- Calls a method on a value, or a static one when the value is a type. -/
def callMember (gate : Gate) (target : Value) (name : String) (args : List Value) : Attempt μ Value :=
  match target.unwrapped with
  | .type ref => invokeStatic gate (gate.describe ref.name) name args
  | receiver => invokeInstance gate receiver name args

/-! ## Fields -/

def fieldHandle (gate : Gate) (type : HostType) (name : String) : Attempt μ FieldHandle := do
  let shape := CallShape.of type.name name []
  match ← Attempt.lift (Run.remember (MemberSort.field.find gate type shape)) with
  | some handle => return handle
  | none => Attempt.fail (.noField name type.name)

def FieldHandle.read (handle : FieldHandle) (receiver : Option Value) : Run μ (Except Fault Value) :=
  Run.host ⟨handle.declaring, .getter handle.field.name, receiver, []⟩ (handle.field.read receiver)

def FieldHandle.write (handle : FieldHandle) (setter : Option Value → Value → Host Unit)
    (receiver : Option Value) (value : Value) : Run μ (Except Fault Unit) :=
  Run.host ⟨handle.declaring, .setter handle.field.name, receiver, [value]⟩ (setter receiver value)

def fieldOutcome {α : Type} (access : Access) (handle : FieldHandle) (name : String) :
    Except Fault α → Attempt μ α
  | .ok value => pure value
  | .error (.panic message) =>
    Attempt.fail (.fieldPanicked access handle.declaring name (Fault.panic message).message)
  | .error fault => Attempt.fail (.fieldFailed access handle.declaring name fault.message)

/-- A field reached under a name: through a type, which must be admitted, or on a value. -/
def reachField {α : Type} (gate : Gate) (target : Value) (name : String)
    (onType : TypeRef → FieldHandle → Attempt μ α) (onValue : Value → FieldHandle → Attempt μ α) :
    Attempt μ α :=
  match target.unwrapped with
  | .null => Attempt.fail .nothing
  | .type ref => do
    checkAdmitted gate ref.name
    onType ref (← fieldHandle gate (gate.describe ref.name) name)
  | value => do
    onValue value (← fieldHandle gate (← runtimeType gate value) name)

/-- The field that is read under a name, with the receiver it is read on. A type has its static
fields. -/
def readableField (gate : Gate) (target : Value) (name : String) :
    Attempt μ (FieldHandle × Option Value) :=
  reachField gate target name
    (fun ref handle =>
      if handle.field.isStatic then return (handle, none)
      else Attempt.fail (.fieldNotStatic ref.name name))
    fun value handle => return (handle, some value)

/-- Reads a field of a value, or a static one when the value is a type. -/
def readField (gate : Gate) (target : Value) (name : String) : Attempt μ Value := do
  let (handle, receiver) ← readableField gate target name
  fieldOutcome .reading handle name (← Attempt.lift (handle.read receiver))

/-- The field that is written under a name, with the receiver it is written on. Static fields are
written through their type alone. -/
def writableField (gate : Gate) (target : Value) (name : String) :
    Attempt μ (FieldHandle × Option Value) :=
  reachField gate target name
    (fun ref handle =>
      if handle.field.isStatic then return (handle, none)
      else Attempt.fail (.fieldNeedsInstance ref.name name))
    fun value handle =>
      if handle.field.isStatic then Attempt.fail (.fieldIsStatic handle.declaring name)
      else return (handle, some value)

/-- Writes a field of a value, or a static one when the value is a type. -/
def writeField (gate : Gate) (target : Value) (name : String) (written : Value) : Attempt μ Unit := do
  let (handle, receiver) ← writableField gate target name
  match handle.field.write?, handle.field.isFinal with
  | some setter, false => do
    let value ← Attempt.lift (coerceArg gate written handle.field.type)
    fieldOutcome .writing handle name (← Attempt.lift (handle.write setter receiver value))
  | _, _ => Attempt.fail (.fieldIsFinal handle.declaring name)

end LateBound
