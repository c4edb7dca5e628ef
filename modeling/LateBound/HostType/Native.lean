import LateBound.HostType.Build

/-!
# Structures as host types

A structure of the host becomes a host type by naming it and by saving its values into an object's
state. Its functions become members: the parameters of a function declare the parameters of the
member, and its body works without a receiver, reads one or changes one. Running a member first looks
for the receiver, then reads every argument in order, and only then opens the receiver and enters the
body.

An argument that is such a structure is a copy of the object's state before the call.
-/

namespace LateBound

/-- A structure whose instances live in host objects under a layout of their own. -/
class Native (σ : Type) where
  typeName : String
  save : σ → Instance
  load? : Instance → Option σ
  load_save : ∀ state, load? (save state) = some state

/-- A type that a member can take as a parameter. Reading an argument changes nothing. -/
class HostArg (α : Type) where
  paramType : ParamType
  read : Value → Host α
  readOnly : ∀ value, (read value).ReadOnly

/-- A type that a member can return. -/
class HostResult (α : Type) where
  give : α → Host Value

namespace Native

variable {σ : Type} [Native σ]

/-- The object of the right layout that a value refers to, with its state. -/
def reach (receiver : Value) : Host (ObjectRef × σ) :=
  match receiver.unwrapped with
  | .object ref => return (ref, ← Host.view ref Native.load?)
  | other => Host.fail (other.unreadable (Native.typeName σ))

theorem readOnly_reach (receiver : Value) : (reach receiver : Host (ObjectRef × σ)).ReadOnly := by
  unfold reach
  cases receiver.unwrapped with
  | object ref => exact (Host.readOnly_view ref _).bind fun _ => Host.readOnly_pure _
  | _ => exact Host.readOnly_fail _

end Native

/-! ## Parameters and results -/

/-- A parameter that is read off the argument alone. -/
@[reducible] def HostArg.ofExcept {α : Type} (paramType : ParamType) (read : Value → Except String α) : HostArg α where
  paramType := paramType
  read value := Host.ofExcept (read value)
  readOnly value := by cases read value <;> exact fun _ => rfl

section Instances

instance : HostArg Int8 := .ofExcept (.primitive .byte) Value.readInt8
instance : HostArg Int16 := .ofExcept (.primitive .short) Value.readInt16
instance : HostArg Int32 := .ofExcept (.primitive .int) Value.readInt32
instance : HostArg Int64 := .ofExcept (.primitive .long) Value.readInt64
instance : HostArg Float32 := .ofExcept (.primitive .float) Value.readFloat32
instance : HostArg Float := .ofExcept (.primitive .double) Value.readFloat
instance : HostArg Bool := .ofExcept (.primitive .bool) Value.readBool
instance : HostArg Char := .ofExcept (.primitive .char) Value.readChar
instance : HostArg String := .ofExcept .str Value.readText
instance : HostArg (List Value) := .ofExcept .list Value.readList
instance : HostArg Value := ⟨.any, pure, fun _ => Host.readOnly_pure _⟩

instance {σ : Type} [Native σ] : HostArg σ where
  paramType := .object (Native.typeName σ)
  read value := return (← Native.reach value).2
  readOnly value := (Native.readOnly_reach value).bind fun _ => Host.readOnly_pure _

instance : HostResult Int8 := ⟨fun n => pure (.byte n)⟩
instance : HostResult Int16 := ⟨fun n => pure (.short n)⟩
instance : HostResult Int32 := ⟨fun n => pure (.int n)⟩
instance : HostResult Int64 := ⟨fun n => pure (.long n)⟩
instance : HostResult Float32 := ⟨fun x => pure (.float x)⟩
instance : HostResult Float := ⟨fun x => pure (.double x)⟩
instance : HostResult Bool := ⟨fun b => pure (.bool b)⟩
instance : HostResult Char := ⟨fun c => pure (.char c)⟩
instance : HostResult String := ⟨fun text => pure (.str text)⟩
instance : HostResult Value := ⟨pure⟩
instance : HostResult Unit := ⟨fun _ => pure .null⟩
instance : HostResult EnumValue := ⟨fun constant => pure (.enum constant)⟩
instance : HostResult ObjectRef := ⟨fun ref => pure (.object ref)⟩

instance {α : Type} [HostResult α] : HostResult (List α) :=
  ⟨fun items => return .list (← items.mapM HostResult.give)⟩

instance {α : Type} [HostResult α] : HostResult (Option α) :=
  ⟨fun | some item => HostResult.give item | none => pure .null⟩

instance {σ : Type} [Native σ] : HostResult σ :=
  ⟨fun state => Host.create (Native.typeName σ) (Native.save state)⟩

end Instances

/-! ## Bodies -/

def Host.ofOutcome {α : Type} : Except Fault α → Host α
  | .ok value => pure value
  | .error fault => throw fault

/-- A body that works without a receiver. -/
structure Static (ρ : Type) where
  run : Host ρ

/-- A body that reads its receiver. -/
structure Reading (σ ρ : Type) where
  run : σ → Host ρ

/-- A body that changes its receiver, to which it has no other access meanwhile. The new state stands
also when the body ends in a fault. -/
structure Changing (σ ρ : Type) where
  run : σ → StateM Store (Except Fault ρ × σ)

section

variable {σ ρ : Type}

def Static.of (outcome : Except Fault ρ) : Static ρ :=
  ⟨Host.ofOutcome outcome⟩

def Reading.of (run : σ → Except Fault ρ) : Reading σ ρ :=
  ⟨fun state => Host.ofOutcome (run state)⟩

def Changing.of (run : σ → Except Fault ρ × σ) : Changing σ ρ :=
  ⟨fun state => pure (run state)⟩

variable [Native σ]

/-- Runs a body on the state of an object and stores the new state. A panic spoils the object. -/
def Changing.enter (body : Changing σ ρ) (ref : ObjectRef) (state : σ) : Host ρ := do
  let (outcome, state) ← body.run state
  Host.setState ref (Native.save state)
  match outcome with
  | .error (.panic message) => do
    Host.spoil ref
    throw (.panic message)
  | outcome => Host.ofOutcome outcome

def Reading.on (body : Reading σ ρ) (receiver : Value) : Host ρ := do
  let (_, state) ← Native.reach receiver
  body.run state

def Changing.on (body : Changing σ ρ) (receiver : Value) : Host ρ := do
  let (ref, state) ← Native.reach receiver
  body.enter ref state

end

/-- How a body `β` that comes to a `ρ` uses its receiver. -/
inductive ReceiverUse : Type → Type → Type 1
  | none {ρ : Type} : ReceiverUse (Static ρ) ρ
  | shared {σ ρ : Type} [Native σ] : ReceiverUse (Reading σ ρ) ρ
  | exclusive {σ ρ : Type} [Native σ] : ReceiverUse (Changing σ ρ) ρ

namespace ReceiverUse

variable {β ρ : Type}

def isStatic : ReceiverUse β ρ → Bool
  | none => true
  | shared | exclusive => false

/-- Runs the body that an action arrives at. A receiver must be there before that action, and is
opened after it. -/
def invoke : ReceiverUse β ρ → String → Option Value → Host β → Host ρ
  | none, _, _, prepare => do (← prepare).run
  | shared, label, receiver, prepare =>
    Host.onReceiver label (fun receiver => do (← prepare).on receiver) receiver
  | exclusive, label, receiver, prepare =>
    Host.onReceiver label (fun receiver => do (← prepare).on receiver) receiver

end ReceiverUse

/-- A type of bodies. -/
class HostBody (β : Type) (ρ : outParam Type) where
  use : ReceiverUse β ρ

section

variable {σ ρ : Type}

instance : HostBody (Static ρ) ρ := ⟨.none⟩
instance [Native σ] : HostBody (Reading σ ρ) ρ := ⟨.shared⟩
instance [Native σ] : HostBody (Changing σ ρ) ρ := ⟨.exclusive⟩

end

/-! ## Functions -/

/-- How a function `φ` takes arguments of the host one by one and arrives at a body `β`. -/
inductive Signature : Type → Type → Type 1
  | body {β : Type} : Signature β β
  | arg {α φ β : Type} [HostArg α] : Signature φ β → Signature (α → φ) β

namespace Signature

variable {β : Type}

def params : {φ : Type} → Signature φ β → List ParamType
  | _, body => []
  | _, @arg α _ _ _ signature => HostArg.paramType α :: signature.params

/-- Reads the arguments in their order and applies the function to them. -/
def apply : {φ : Type} → Signature φ β → φ → List Value → Host β
  | _, body, function, _ => pure function
  | _, arg signature, function, value :: values => do
    let arg ← HostArg.read value
    signature.apply (function arg) values
  | _, arg _, _, [] => Host.fail "missing argument"

def call {φ ρ : Type} [HostBody β ρ] (signature : Signature φ β) (label : String) (function : φ)
    (receiver : Option Value) (args : List Value) : Host ρ :=
  HostBody.use.invoke label receiver (signature.apply function args)

end Signature

/-- A type of functions. -/
class HostFunction (φ : Type) (β : outParam Type) where
  signature : Signature φ β

section

variable {σ ρ α φ β : Type}

instance : HostFunction (Static ρ) (Static ρ) := ⟨.body⟩
instance : HostFunction (Reading σ ρ) (Reading σ ρ) := ⟨.body⟩
instance : HostFunction (Changing σ ρ) (Changing σ ρ) := ⟨.body⟩
instance [HostArg α] [HostFunction φ β] : HostFunction (α → φ) β := ⟨.arg HostFunction.signature⟩

end

/-! ## Members -/

namespace HostType

def native (σ : Type) [Native σ] : HostType :=
  .empty (Native.typeName σ)

section

variable {φ β ρ : Type} [HostFunction φ β] [HostBody β ρ] [HostResult ρ]

def nativeMember (typeName name : String) (isPublic : Bool) (function : φ) : Member where
  name := name
  params := (HostFunction.signature : Signature φ β).params
  isStatic := (HostBody.use : ReceiverUse β ρ).isStatic
  isPublic := isPublic
  run receiver args := do
    HostResult.give (← HostFunction.signature.call (typeName ++ "." ++ name) function receiver args)

/-- Adds a method, which is static when the body of its function takes no receiver. -/
def nativeMethod (type : HostType) (name : String) (function : φ) (isPublic : Bool := true) : HostType :=
  type.addMethod (nativeMember type.name name isPublic function)

end

def nativeConstructor {φ ρ : Type} [HostFunction φ (Static ρ)] [HostResult ρ] (type : HostType)
    (function : φ) (isPublic : Bool := true) : HostType :=
  type.addConstructor (nativeMember type.name type.shortName isPublic function)

section

variable {γ ρ : Type} [HostBody γ ρ] [HostArg ρ] [HostResult ρ]

/-- The field that a body without parameters reads and that nothing writes. -/
def nativeField (typeName name : String) (isPublic : Bool) (get : γ) : Field where
  name := name
  type := HostArg.paramType ρ
  isStatic := (HostBody.use : ReceiverUse γ ρ).isStatic
  isFinal := true
  isPublic := isPublic
  read receiver := do
    HostResult.give (← Signature.body.call (typeName ++ "." ++ name) get receiver [])
  write? := none

/-- The same field with a function of one parameter that writes it. -/
def nativeMutableField {α δ υ : Type} [HostArg α] [HostBody δ υ] (typeName name : String)
    (isPublic : Bool) (get : γ) (set : α → δ) : Field :=
  { nativeField typeName name isPublic get with
    isFinal := false
    write? := some fun receiver value => do
      let _ ← (Signature.arg .body).call (typeName ++ ".set_" ++ name) set receiver [value] }

/-- Adds a property, which is static when its body takes no receiver. -/
def nativeProperty (type : HostType) (name : String) (get : γ) (isPublic : Bool := true) : HostType :=
  type.addField (nativeField type.name name isPublic get)

/-- Adds a property that a function named `set_` and the property's name writes. Both are static, or
both take a receiver. -/
def nativeMutableProperty {α δ υ : Type} [HostArg α] [HostBody δ υ] (type : HostType)
    (name : String) (get : γ) (set : α → δ) (isPublic : Bool := true)
    (_ : (HostBody.use : ReceiverUse δ υ).isStatic = (HostBody.use : ReceiverUse γ ρ).isStatic := by rfl) : HostType :=
  type.addField (nativeMutableField type.name name isPublic get set)

end

end HostType

end LateBound
