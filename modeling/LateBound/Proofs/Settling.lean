import LateBound.HostType.Native
import LateBound.Proofs.Passing
import LateBound.Proofs.Rounding

/-!
# Converting once

An argument is converted in one step: what it has become is not converted further, and an argument that fits its
parameter as it is loses nothing but its box. A number is converted by the call and, where a function of the host takes
it, read once more by the host; the two conversions know the same numbers and come to the same ones.
-/

namespace LateBound

/-! ## Primitives as the host has them -/

namespace Primitive

instance : (kind : Primitive) → HostArg kind.Payload
  | bool => inferInstanceAs (HostArg Bool)
  | byte => inferInstanceAs (HostArg Int8)
  | short => inferInstanceAs (HostArg Int16)
  | int => inferInstanceAs (HostArg Int32)
  | long => inferInstanceAs (HostArg Int64)
  | float => inferInstanceAs (HostArg Float32)
  | double => inferInstanceAs (HostArg Float)
  | char => inferInstanceAs (HostArg Char)

theorem paramType_payload (kind : Primitive) : HostArg.paramType kind.Payload = .primitive kind := by
  cases kind <;> rfl

end Primitive

namespace Value

theorem charOfCode?_toNat (c : Char) : charOfCode? c.toNat = some c := by
  have isCode : (0 : Int) ≤ c.toNat ∧ (c.toNat : Int).toNat.isValidChar := ⟨Int.natCast_nonneg _, c.valid⟩
  rw [charOfCode?, if_pos isCode, Int.toNat_natCast, Char.ofNat_toNat]

end Value

/-! ## Numbers -/

theorem convertNumber?_unwrapped (value : Value) (kind : Primitive) :
    convertNumber? value.unwrapped kind = convertNumber? value kind := by
  cases kind <;>
    simp only [convertNumber?, Value.toInteger?_unwrapped, Value.toFloat?_unwrapped, Value.toFloat32?_unwrapped]

theorem convertNumber?_hold {kind : Primitive} (isNumeric : kind.isNumeric = true) (payload : kind.Payload) :
    convertNumber? (kind.hold payload) kind = some (kind.hold payload) := by
  cases kind with
  | bool => cases isNumeric
  | byte => exact congrArg (some ∘ Value.byte) (Int8.ofInt_toInt payload)
  | short => exact congrArg (some ∘ Value.short) (Int16.ofInt_toInt payload)
  | int => exact congrArg (some ∘ Value.int) (Int32.ofInt_toInt payload)
  | long => exact congrArg (some ∘ Value.long) (Int64.ofInt_toInt payload)
  | float | double => rfl
  | char => exact congrArg (Option.map Value.char) (Value.charOfCode?_toNat payload)

theorem Value.toFloat32?_eq (value : Value) :
    value.toFloat32? = value.toFloat?.map fun x => (Number.ofFloat x).toFloat32 := by
  cases shape : value.unwrapped with
  | float x =>
    rw [toFloat32?, toFloat?, shape]
    exact congrArg some (Number.toFloat32_of_toFloat x).symm
  | _ => rw [toFloat32?, ← toFloat?_unwrapped, shape]

/-- The host reads a number, or complains about it, where the conversion of the call has it, or has nothing. -/
theorem read_eq_ofExcept (value : Value) {kind : Primitive} (isNumeric : kind.isNumeric = true) :
    ∃ (wanted : String) (number? : Option kind.Payload),
      HostArg.read value = Host.ofExcept (value.readAs wanted number?) ∧
        convertNumber? value kind = number?.map kind.hold := by
  cases kind with
  | bool => cases isNumeric
  | byte | short | int | long => exact ⟨_, _, rfl, (Option.map_map ..).symm⟩
  | float | double | char => exact ⟨_, _, rfl, rfl⟩

/-! ## Converted values -/

section

variable (find? : String → Option HostType) {value : Value} {param : ParamType} {kind : Primitive}

theorem coerce_hold (kind : Primitive) (payload : kind.Payload) :
    coerce find? (kind.hold payload) (.primitive kind) = kind.hold payload := by
  rw [coerce, kind.unwrapped_hold]
  by_cases isNumeric : kind.isNumeric = true
  · have isNumber : (kind.hold payload).isNumeric = true := by rwa [Value.isNumeric, kind.tag_hold]
    rw [convert?_number find? isNumber isNumeric, convertNumber?_hold isNumeric, Option.getD_some]
  · cases kind with
    | bool => rfl
    | _ => exact absurd rfl isNumeric

theorem coerce_unwrapped (value : Value) (param : ParamType) :
    coerce find? value.unwrapped param = coerce find? value param := by
  rw [coerce, coerce, Value.unwrapped_unwrapped]

theorem coerce_of_tag (isKind : value.tag = .primitive kind) :
    coerce find? value (.primitive kind) = value.unwrapped := by
  obtain ⟨payload, isHeld⟩ := Value.exists_payload isKind
  rw [← coerce_unwrapped, isHeld, coerce_hold]

theorem coerce_of_convert?_eq_none (noConversion : convert? find? value.unwrapped param = none) :
    coerce find? value param = value.unwrapped := by
  rw [coerce, noConversion, Option.getD_none]

theorem coerce_settles (value : Value) (param : ParamType) :
    coerce find? (coerce find? value param) param = coerce find? value param ∧
      (coerce find? value param).unwrapped = coerce find? value param := by
  cases converted : convert? find? value.unwrapped param with
  | none =>
    have kept := coerce_of_convert?_eq_none find? converted
    rw [kept, coerce_unwrapped, kept, Value.unwrapped_unwrapped]
    exact ⟨rfl, rfl⟩
  | some result =>
    have changed : coerce find? value param = result := by rw [coerce, converted, Option.getD_some]
    rw [changed]
    obtain ⟨kind, payload, rfl, rfl⟩ | ⟨typeName, constant, rfl, rfl⟩ := convert?_eq_some converted
    · exact ⟨coerce_hold find? kind payload, kind.unwrapped_hold payload⟩
    · exact ⟨rfl, rfl⟩

/-- An argument that fits strictly is of the type itself, or null, or the type takes whatever lies below it. -/
theorem strictlyFits_cases {subtype : String → String → Id Bool} {arg : Tag}
    (fits : strictlyFits subtype arg param = true) :
    param.exactTag? = some arg ∨ arg = .null ∧ param.isPrimitive = false ∨ (∃ expected, param = .object expected) ∨
      param = .any := by
  unfold strictlyFits at fits
  split at fits
  · exact .inr (.inr (.inr rfl))
  · refine .inr (.inl ⟨rfl, ?_⟩)
    rwa [← Bool.not_eq_true']
  · exact .inr (.inr (.inl ⟨_, rfl⟩))
  · exact .inl (beq_iff_eq.1 fits)

theorem coerce_of_strictlyFits {subtype : String → String → Id Bool}
    (fits : strictlyFits subtype value.tag param = true) : coerce find? value param = value.unwrapped := by
  have kept := @coerce_of_convert?_eq_none find? value param
  obtain isExact | ⟨isNull, noPrimitive⟩ | ⟨expected, rfl⟩ | rfl := strictlyFits_cases fits
  · cases param with
    | primitive kind => exact coerce_of_tag find? (Option.some.inj isExact).symm
    | enum typeName =>
      obtain ⟨constant, isConstant, -⟩ := Value.exists_constant (Option.some.inj isExact).symm
      exact kept (by rw [isConstant]; rfl)
    | str | object _ | list | any => exact kept rfl
  · refine kept ?_
    rw [Value.unwrapped_of_tag_null isNull]
    cases param with
    | primitive _ => cases noPrimitive
    | str | enum _ | object _ | list | any => rfl
  · exact kept rfl
  · exact kept rfl

theorem coerce_number {value : Value} (isNumber : value.isNumeric = true) {kind : Primitive}
    (isNumeric : kind.isNumeric = true) :
    coerce find? value (.primitive kind) = (convertNumber? value kind).getD value.unwrapped := by
  have isNumber : value.unwrapped.isNumeric = true := by rwa [Value.isNumeric, Value.tag_unwrapped]
  rw [coerce, convert?_number find? isNumber isNumeric, convertNumber?_unwrapped]

theorem coerce_single_of_double {value : Value} (isNumber : value.isNumeric = true) :
    coerce find? (coerce find? value (.primitive .double)) (.primitive .float) =
      coerce find? value (.primitive .float) := by
  obtain ⟨-, ⟨single, isSingle⟩, ⟨double, isDouble⟩⟩ := Value.exists_number isNumber
  have nearest := value.toFloat32?_eq
  rw [isSingle, isDouble, Option.map_some, Option.some.injEq] at nearest
  have toDouble : coerce find? value (.primitive .double) = .double double := by
    rw [coerce_number find? isNumber rfl, convertNumber?, isDouble, Option.map_some, Option.getD_some]
  have toSingle : coerce find? value (.primitive .float) = .float single := by
    rw [coerce_number find? isNumber rfl, convertNumber?, isSingle, Option.map_some, Option.getD_some]
  rw [toDouble, toSingle, nearest]
  rfl

end

/-! ## What the host reads -/

/-- The host reads data from a number exactly where the call converts the number to it; where the host has a complaint,
the call has nothing of the type to pass. -/
theorem read_iff_coerce (find? : String → Option HostType) {value : Value} (isNumber : value.isNumeric = true)
    {kind : Primitive} (isNumeric : kind.isNumeric = true) :
    (∀ payload : kind.Payload,
        HostArg.read value = pure payload ↔ coerce find? value (.primitive kind) = kind.hold payload) ∧
      ((∃ payload : kind.Payload, HostArg.read value = pure payload) ↔
        conforms (coerce find? value (.primitive kind)) (.primitive kind) = true) ∧
      ((∃ payload : kind.Payload, HostArg.read value = pure payload) ∨
        ∃ message, HostArg.read value = (Host.fail message : Host kind.Payload)) := by
  obtain ⟨wanted, number?, isRead, converted⟩ := read_eq_ofExcept value isNumeric
  rw [coerce_number find? isNumber isNumeric, converted, isRead]
  cases number? with
  | some number =>
    have read : Host.ofExcept (value.readAs wanted (some number)) = pure number := rfl
    rw [read, Option.map_some, Option.getD_some]
    refine ⟨fun payload => ?_, iff_of_true ⟨number, rfl⟩ (beq_iff_eq.2 (kind.tag_hold number)), .inl ⟨number, rfl⟩⟩
    rw [Host.pure_injective.eq_iff, kind.hold_injective.eq_iff]
  | none =>
    have complains : Host.ofExcept (value.readAs wanted (none : Option kind.Payload)) =
        Host.fail (value.unreadable wanted) := rfl
    rw [complains, Option.map_none, Option.getD_none]
    have noPayload (payload : kind.Payload) : value.unwrapped ≠ kind.hold payload := fun isHeld => by
      rw [← convertNumber?_unwrapped, isHeld, convertNumber?_hold isNumeric] at converted
      cases converted
    have notRead (payload : kind.Payload) : Host.fail (value.unreadable wanted) ≠ pure payload :=
      (Host.pure_ne_fail payload _).symm
    refine ⟨fun payload => iff_of_false (notRead payload) (noPayload payload),
      iff_of_false (fun ⟨payload, read⟩ => notRead payload read) fun fits => ?_, .inr ⟨_, rfl⟩⟩
    obtain ⟨payload, isHeld⟩ := Value.exists_payload (beq_iff_eq.1 fits)
    rw [Value.unwrapped_unwrapped] at isHeld
    exact noPayload payload isHeld

/-- An argument is converted once and leaves its box; one that fits strictly is not converted; and wherever the host takes
a number, it reads from the argument what the call would make of it, or both have nothing. Numbers of the 32-bit format
are reached through the 64-bit one, in which they are not lost. -/
theorem converted_once (find? : String → Option HostType) (value : Value) (param : ParamType) :
    coerce find? (coerce find? value param) param = coerce find? value param ∧
      (∀ origin inner, coerce find? value param ≠ .wrapped origin inner) ∧
      (∀ subtype : String → String → Id Bool, strictlyFits subtype value.tag param = true →
        coerce find? value param = value.unwrapped) ∧
      (value.isNumeric = true → ∀ kind : Primitive, kind.isNumeric = true →
        (∀ payload : kind.Payload,
            HostArg.read value = pure payload ↔
              coerce find? value (HostArg.paramType kind.Payload) = kind.hold payload) ∧
          ((∃ payload : kind.Payload, HostArg.read value = pure payload) ↔
            conforms (coerce find? value (HostArg.paramType kind.Payload)) (HostArg.paramType kind.Payload) = true) ∧
          ((∃ payload : kind.Payload, HostArg.read value = pure payload) ∨
            ∃ message, HostArg.read value = (Host.fail message : Host kind.Payload))) ∧
      (value.isNumeric = true →
        coerce find? (coerce find? value (.primitive .double)) (.primitive .float) =
          coerce find? value (.primitive .float)) := by
  obtain ⟨again, unboxed⟩ := coerce_settles find? value param
  refine ⟨again, fun origin inner isBox => ?_, fun subtype fits => coerce_of_strictlyFits find? fits,
    fun isNumber kind isNumeric => ?_, coerce_single_of_double find?⟩
  · rw [← unboxed] at isBox
    exact Value.unwrapped_ne_wrapped origin inner _ isBox
  · rw [kind.paramType_payload]
    exact read_iff_coerce find? isNumber isNumeric

/-- A number in a box is passed for an integer as it is, and is read as the letter that it is the code of. -/
theorem converted_once_boxed :
    (strictlyFits (m := Id) (fun _ _ => pure false) (Value.wrapped "Box" (.int 65)).tag (.primitive .int) = true ∧
        (Value.wrapped "Box" (.int 65)).isNumeric = true ∧ Primitive.char.isNumeric = true) ∧
      coerce (fun _ => none) (.wrapped "Box" (.int 65)) (.primitive .int) = .int 65 ∧
      HostArg.read (.wrapped "Box" (.int 65)) = (pure 'A' : Host Primitive.char.Payload) := by
  have fits : strictlyFits (m := Id) (fun _ _ => pure false) (Value.wrapped "Box" (.int 65)).tag (.primitive .int) =
      true := rfl
  obtain ⟨-, -, kept, reads, -⟩ := converted_once (fun _ => none) (.wrapped "Box" (.int 65)) (.primitive .int)
  exact ⟨⟨fits, rfl, rfl⟩, kept _ fits, ((reads rfl .char rfl).1 'A').2 rfl⟩

end LateBound
