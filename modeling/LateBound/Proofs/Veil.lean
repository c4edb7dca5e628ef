import LateBound.Machine
import LateBound.Proofs.Coupling
import LateBound.Resolution.Coerce

/-!
# Values that differ behind the names of types

A type used as a value carries its name and a piece of its description. `Value.Alike` relates values
that differ at most in what lies behind the names that `hides` picks out, at any depth of lists and
boxes; with nothing hidden it is equality. Whatever the language itself reads off a value is the same for
alike values: the tag, the text, the numbers and the conversions.
-/

namespace LateBound

variable {hides : String → Bool}

/-- The type with nothing behind its name, if the name is hidden. -/
def TypeRef.veil (hides : String → Bool) (ref : TypeRef) : TypeRef :=
  if hides ref.name then ⟨ref.name, false⟩ else ref

@[simp] theorem TypeRef.name_veil (ref : TypeRef) : (ref.veil hides).name = ref.name := by
  unfold TypeRef.veil
  split <;> rfl

namespace Value

mutual
/-- The value with nothing behind hidden names. -/
def veil (hides : String → Bool) : Value → Value
  | type ref => type (ref.veil hides)
  | list items => list (veilItems hides items)
  | wrapped origin inner => wrapped origin (inner.veil hides)
  | value => value

def veilItems (hides : String → Bool) : List Value → List Value
  | [] => []
  | item :: items => item.veil hides :: veilItems hides items
end

/-- The values differ at most in what lies behind hidden names. -/
def Alike (hides : String → Bool) (first second : Value) : Prop :=
  first.veil hides = second.veil hides

/-! ## What the veil leaves as it is -/

@[simp] theorem unwrapped_veil : ∀ value : Value, (value.veil hides).unwrapped = value.unwrapped.veil hides
  | wrapped _ inner => by simpa only [veil, unwrapped] using unwrapped_veil inner
  | null | bool _ | byte _ | short _ | int _ | long _ | float _ | double _ | char _ | str _
  | enum _ | object _ | type _ | list _ => by simp only [veil, unwrapped]

@[simp] theorem tag_veil : ∀ value : Value, (value.veil hides).tag = value.tag
  | wrapped _ inner => by simpa only [veil, tag] using tag_veil inner
  | null | bool _ | byte _ | short _ | int _ | long _ | float _ | double _ | char _ | str _
  | enum _ | object _ | type _ | list _ => by simp only [veil, tag]

mutual
@[simp] theorem display_veil : ∀ value : Value, (value.veil hides).display = value.display
  | wrapped _ inner => by simpa only [veil, display] using display_veil inner
  | list items => by simp only [veil, display, displayItems_veilItems items]
  | type ref => by simp only [veil, display, TypeRef.name_veil]
  | null | bool _ | byte _ | short _ | int _ | long _ | float _ | double _ | char _ | str _
  | enum _ | object _ => by simp only [veil]

@[simp] theorem displayItems_veilItems : ∀ items : List Value,
    displayItems (veilItems hides items) = displayItems items
  | [] => rfl
  | [item] => by simpa only [veilItems, displayItems] using display_veil item
  | item :: next :: items => by
    have rest := displayItems_veilItems (next :: items)
    simp only [veilItems] at rest
    simp only [veilItems, displayItems, display_veil item, rest]
end

mutual
theorem veil_none : ∀ value : Value, value.veil (fun _ => false) = value
  | wrapped _ inner => by rw [veil, veil_none inner]
  | list items => by rw [veil, veilItems_none items]
  | type ref => by simp [veil, TypeRef.veil]
  | null | bool _ | byte _ | short _ | int _ | long _ | float _ | double _ | char _ | str _
  | enum _ | object _ => by simp only [veil]

theorem veilItems_none : ∀ items : List Value, veilItems (fun _ => false) items = items
  | [] => rfl
  | item :: items => by rw [veilItems, veil_none item, veilItems_none items]
end

theorem alike_none : Alike (fun _ => false) = (Eq : Value → Value → Prop) := by
  funext first second
  rw [Alike, veil_none, veil_none]

/-! ## Plain values -/

theorem unwrapped_ne_wrapped (origin : String) (inner : Value) :
    ∀ value : Value, value.unwrapped ≠ wrapped origin inner
  | wrapped _ value => by simpa only [unwrapped] using unwrapped_ne_wrapped origin inner value
  | null | bool _ | byte _ | short _ | int _ | long _ | float _ | double _ | char _ | str _
  | enum _ | object _ | type _ | list _ => by simp only [unwrapped, ne_eq, reduceCtorEq, not_false_eq_true]

theorem tag_ne_type {value : Value} (noType : ∀ ref, value.unwrapped ≠ type ref) : value.tag ≠ .type := by
  rw [← tag_unwrapped]
  cases shape : value.unwrapped with
  | type ref => exact absurd shape (noType ref)
  | wrapped origin inner => exact absurd shape (unwrapped_ne_wrapped origin inner value)
  | _ => exact nofun

def IsPlain : Value → Prop
  | type _ | list _ | wrapped _ _ => False
  | _ => True

theorem isPlain_veil (value : Value) : (value.veil hides).IsPlain ↔ value.IsPlain := by
  cases value <;> simp only [veil, IsPlain]

theorem veil_of_isPlain {value : Value} (plain : value.IsPlain) : value.veil hides = value := by
  cases value <;> first
    | exact plain.elim
    | simp only [veil]

namespace Alike

variable {first second : Value}

theorem refl (value : Value) : Alike hides value value := rfl

theorem symm (alike : Alike hides first second) : Alike hides second first := Eq.symm alike

theorem unwrapped (alike : Alike hides first second) : Alike hides first.unwrapped second.unwrapped := by
  unfold Alike at *
  rw [← unwrapped_veil, ← unwrapped_veil, alike]

theorem tag_eq (alike : Alike hides first second) : first.tag = second.tag := by
  rw [← @tag_veil hides first, alike, tag_veil]

theorem display_eq (alike : Alike hides first second) : first.display = second.display := by
  rw [← @display_veil hides first, alike, display_veil]

theorem type {ref ref' : TypeRef} (name : ref.name = ref'.name)
    (shown : hides ref.name = false → ref = ref') : Alike hides (.type ref) (.type ref') := by
  cases hidden : hides ref.name with
  | true => simp [Alike, veil, TypeRef.veil, ← name, hidden]
  | false => rw [shown hidden]; exact .refl _

theorem eq_of_isPlain (alike : Alike hides first second) (plain : first.IsPlain) : second = first := by
  have veiled : second.veil hides = first := by rw [← alike, veil_of_isPlain plain]
  have plain : second.IsPlain := by rwa [← @isPlain_veil hides, veiled]
  rw [← veiled, veil_of_isPlain plain]

theorem exists_type {ref : TypeRef} (alike : Alike hides (.type ref) second) :
    ∃ ref', second = .type ref' ∧ ref.name = ref'.name := by
  cases second with
  | type ref' =>
    simp only [Alike, veil, Value.type.injEq] at alike
    refine ⟨ref', rfl, ?_⟩
    rw [← @TypeRef.name_veil hides ref, alike, TypeRef.name_veil]
  | _ => simp_all [Alike, veil]

end Alike

/-! ## Conversions -/

theorem convert?_veil (find? : String → Option HostType) (value : Value) (param : ParamType) :
    convert? find? (value.unwrapped.veil hides) param = convert? find? value.unwrapped param := by
  cases shape : value.unwrapped with
  | wrapped origin inner => exact absurd shape (unwrapped_ne_wrapped origin inner value)
  | type ref => cases param <;> simp [veil, convert?, isNumeric, tag, Tag.isNumeric]
  | list items => cases param <;> simp [veil, convert?, isNumeric, tag, Tag.isNumeric]
  | _ => simp only [veil]

theorem Alike.coerce {first second : Value} (alike : Alike hides first second)
    (find? : String → Option HostType) (param : ParamType) :
    Alike hides (LateBound.coerce find? first param) (LateBound.coerce find? second param) := by
  have same : convert? find? first.unwrapped param = convert? find? second.unwrapped param := by
    rw [← @convert?_veil hides, alike.unwrapped, convert?_veil]
  unfold LateBound.coerce
  rw [← same]
  cases convert? find? first.unwrapped param with
  | none => exact alike.unwrapped
  | some result => exact .refl _

/-- Only texts are looked up when they are converted, and a text is alike only to itself. -/
theorem Alike.neededType?_eq {first second : Value} (alike : Alike hides first second)
    (param : ParamType) : neededType? first param = neededType? second param := by
  have veiled (value : Value) :
      (∃ text, value.unwrapped.veil hides = .str text) ↔ ∃ text, value.unwrapped = .str text := by
    cases value.unwrapped <;> simp [veil]
  have texts := (veiled first).symm.trans (alike.unwrapped ▸ veiled second)
  unfold neededType?
  split <;> split <;> simp_all

theorem Alike.conforms_eq {first second : Value} (alike : Alike hides first second)
    (param : ParamType) : conforms first param = conforms second param := by
  have veiled (value : Value) : conforms (value.veil hides) param = conforms value param := by
    cases param with
    | primitive kind => simp only [conforms, tag_veil]
    | enum typeName => cases value <;> simp only [conforms, veil]
    | _ => rfl
  rw [← veiled first, alike, veiled]

end Value

/-! ## The store -/

def Instance.veil (hides : String → Bool) : Instance → Instance
  | record fields => record (fields.map fun (name, value) => (name, value.veil hides))
  | buffer text => buffer text
  | struct layout values => struct layout (values.map (Value.veil hides))

def Store.veil (hides : String → Bool) (store : Store) : Store where
  objects := store.objects.map fun object => { object with state := object.state.veil hides }
  slots := store.slots.map fun (place, value) => (place, value.veil hides)

def Store.Alike (hides : String → Bool) (first second : Store) : Prop :=
  first.veil hides = second.veil hides

theorem Instance.veil_none (state : Instance) : state.veil (fun _ => false) = state := by
  cases state with
  | record fields => simp [veil, Value.veil_none]
  | buffer text => rfl
  | struct layout values => simp [veil, funext Value.veil_none]

theorem Store.alike_none : Store.Alike (fun _ => false) = (Eq : Store → Store → Prop) := by
  have bare (store : Store) : store.veil (fun _ => false) = store := by
    simp [veil, Instance.veil_none, Value.veil_none]
  funext first second
  rw [Alike, bare, bare]

end LateBound
