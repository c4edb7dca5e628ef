import LateBound.Proofs.Veil
import LateBound.Resolution.Coerce

/-!
# The data in a primitive

A value of a primitive type holds data of one type of the host, in a box or not. The conversions that make primitives
make them of such data, and no boxes.
-/

namespace LateBound

namespace Primitive

/-- The type of the host whose data the values of a primitive hold. -/
def Payload : Primitive → Type
  | bool => Bool
  | byte => Int8
  | short => Int16
  | int => Int32
  | long => Int64
  | float => Float32
  | double => Float
  | char => Char

def hold : (kind : Primitive) → kind.Payload → Value
  | bool => .bool
  | byte => .byte
  | short => .short
  | int => .int
  | long => .long
  | float => .float
  | double => .double
  | char => .char

variable (kind : Primitive) (payload : kind.Payload)

theorem tag_hold : (kind.hold payload).tag = .primitive kind := by
  cases kind <;> rfl

theorem unwrapped_hold : (kind.hold payload).unwrapped = kind.hold payload := by
  cases kind <;> rfl

theorem hold_injective : Function.Injective kind.hold := by
  intro payload other same
  cases kind <;> injection same

end Primitive

namespace Value

/-- A value of a primitive type holds data of the host, in a box or not. -/
theorem exists_payload {value : Value} {kind : Primitive} (isKind : value.tag = .primitive kind) :
    ∃ payload, value.unwrapped = kind.hold payload := by
  rw [← tag_unwrapped] at isKind
  cases shape : value.unwrapped with
  | null | str _ | enum _ | object _ | type _ | list _ =>
    rw [shape] at isKind
    cases isKind
  | wrapped origin inner => exact absurd shape (unwrapped_ne_wrapped origin inner value)
  | bool payload | byte payload | short payload | int payload | long payload | float payload | double payload
  | char payload =>
    rw [shape] at isKind
    cases isKind
    exact ⟨payload, rfl⟩

end Value

section

variable {value result : Value} {kind : Primitive}

theorem exists_payload_of_readPrimitive? {text : String} (isRead : readPrimitive? text kind = some result) :
    ∃ payload, result = kind.hold payload := by
  unfold readPrimitive? at isRead
  cases kind with
  | bool =>
    dsimp only at isRead
    split at isRead
    · exact ⟨true, (Option.some.inj isRead).symm⟩
    · split at isRead
      · exact ⟨false, (Option.some.inj isRead).symm⟩
      · cases isRead
  | char =>
    dsimp only at isRead
    split at isRead
    · exact ⟨_, (Option.some.inj isRead).symm⟩
    · cases isRead
  | _ =>
    obtain ⟨payload, -, rfl⟩ := Option.map_eq_some_iff.1 isRead
    exact ⟨payload, rfl⟩

theorem exists_payload_of_convertNumber? (isConverted : convertNumber? value kind = some result) :
    ∃ payload, result = kind.hold payload := by
  cases kind with
  | bool => cases isConverted
  | _ =>
    obtain ⟨_, -, rfl⟩ := Option.map_eq_some_iff.1 isConverted
    exact ⟨_, rfl⟩

end

theorem typeName_of_constant? {type : HostType} {text : String} {value : Value}
    (isConstant : type.constant? text = some value) :
    ∃ constant ordinal, value = .enum ⟨type.name, constant, ordinal⟩ := by
  obtain ⟨constants, -, isConstant⟩ := Option.bind_eq_some_iff.1 isConstant
  obtain ⟨ordinal, -, rfl⟩ := Option.map_eq_some_iff.1 isConstant
  exact ⟨_, ordinal, rfl⟩

/-- What a value is converted to: data of a primitive, or a constant of an enum. -/
theorem convert?_eq_some {find? : String → Option HostType} {value result : Value} {param : ParamType}
    (isConverted : convert? find? value param = some result) :
    (∃ kind payload, param = .primitive kind ∧ result = kind.hold payload) ∨
      ∃ typeName constant, param = .enum typeName ∧ result = .enum constant := by
  unfold convert? at isConverted
  split at isConverted
  · next kind text =>
    obtain ⟨payload, rfl⟩ := exists_payload_of_readPrimitive? isConverted
    exact .inl ⟨kind, payload, rfl, rfl⟩
  · next value kind _ =>
    split at isConverted
    · obtain ⟨payload, rfl⟩ := exists_payload_of_convertNumber? isConverted
      exact .inl ⟨kind, payload, rfl, rfl⟩
    · cases isConverted
  · next typeName text =>
    obtain ⟨type, -, isConstant⟩ := Option.bind_eq_some_iff.1 isConverted
    obtain ⟨constant, ordinal, rfl⟩ := typeName_of_constant? isConstant
    exact .inr ⟨typeName, _, rfl, rfl⟩
  · cases isConverted

end LateBound
