import LateBound.Builtin.Object
import Mathlib

/-!
# Equal values and their hash codes

The root type compares values by their contents and hashes them by their texts. Boxes are invisible to both, and equal
values have equal texts with one exception: a zero and a negative zero are equal numbers, but the sign of the second is
written. So equal values are hashed alike as long as no two zeros of opposite sign stand at the same place in them; where
two do, their hash codes are those of different texts.
-/

namespace LateBound

/-! ## Texts that part -/

/-- Two texts are the same up to a place where both go on, and not in the same way. -/
def Text.Part (first second : List Char) : Prop :=
  ∃ shared c d rest rest', c ≠ d ∧ first = shared ++ c :: rest ∧ second = shared ++ d :: rest'

namespace Text.Part

variable {first second : List Char}

theorem ne (part : Part first second) : first ≠ second := by
  obtain ⟨shared, c, d, rest, rest', differ, rfl, rfl⟩ := part
  intro same
  exact differ (List.head_eq_of_cons_eq (List.append_cancel_left same))

theorem symm (part : Part first second) : Part second first := by
  obtain ⟨shared, c, d, rest, rest', differ, isFirst, isSecond⟩ := part
  exact ⟨shared, d, c, rest', rest, differ.symm, isSecond, isFirst⟩

theorem append_left (part : Part first second) (front : List Char) : Part (front ++ first) (front ++ second) := by
  obtain ⟨shared, c, d, rest, rest', differ, rfl, rfl⟩ := part
  exact ⟨front ++ shared, c, d, rest, rest', differ, (List.append_assoc ..).symm, (List.append_assoc ..).symm⟩

theorem append_right (part : Part first second) (behind behind' : List Char) :
    Part (first ++ behind) (second ++ behind') := by
  obtain ⟨shared, c, d, rest, rest', differ, rfl, rfl⟩ := part
  exact ⟨shared, c, d, rest ++ behind, rest' ++ behind', differ, List.append_assoc .., List.append_assoc ..⟩

end Text.Part

namespace Value

/-! ## Places -/

mutual
/-- The values inside a value that are neither boxes nor lists, in their order. -/
def leaves : Value → List Value
  | wrapped _ inner => inner.leaves
  | list items => leavesOfItems items
  | value => [value]

def leavesOfItems : List Value → List Value
  | [] => []
  | item :: items => item.leaves ++ leavesOfItems items
end

def WithoutObjects (value : Value) : Prop :=
  ∀ ref, object ref ∉ value.leaves

/-- A zero and a negative zero of one width. -/
inductive Opposite : Value → Value → Prop
  | single : Opposite (float 0) (float (-0))
  | singleNegative : Opposite (float (-0)) (float 0)
  | double : Opposite (double 0) (double (-0))
  | doubleNegative : Opposite (double (-0)) (double 0)

/-- Zeros of opposite sign stand at the same place of two lists of leaves. -/
def OppositeIn (first second : List Value) : Prop :=
  ∃ pair ∈ first.zip second, Opposite pair.1 pair.2

theorem oppositeIn_singleton {first second : Value} : OppositeIn [first] [second] ↔ Opposite first second := by
  simp [OppositeIn]

theorem oppositeIn_append {first second first' second' : List Value} (sameLength : first.length = second.length) :
    OppositeIn (first ++ first') (second ++ second') ↔ OppositeIn first second ∨ OppositeIn first' second' := by
  simp only [OppositeIn, List.zip_append sameLength, List.mem_append, or_and_right, exists_or]

/-! ## Boxes -/

theorem leaves_unwrapped : ∀ value : Value, value.unwrapped.leaves = value.leaves
  | wrapped _ inner => by rw [unwrapped, leaves, leaves_unwrapped inner]
  | null | bool _ | byte _ | short _ | int _ | long _ | float _ | double _ | char _ | str _ | enum _ | object _
  | type _ | list _ => rfl

theorem display_unwrapped : ∀ value : Value, value.unwrapped.display = value.display
  | wrapped _ inner => by rw [unwrapped, display, display_unwrapped inner]
  | null | bool _ | byte _ | short _ | int _ | long _ | float _ | double _ | char _ | str _ | enum _ | object _
  | type _ | list _ => rfl

/-! ## Equality -/

/-- What makes two values without boxes equal. -/
inductive Matches : Value → Value → Prop
  | same {value : Value} : value.tag ≠ .list → Matches value value
  | float {x y : Float32} : (x == y) = true → Matches (float x) (float y)
  | double {x y : Float} : (x == y) = true → Matches (double x) (double y)
  | object {ref ref' : ObjectRef} : ref.id = ref'.id → Matches (object ref) (object ref')
  | type {ref ref' : TypeRef} : ref.name = ref'.name → Matches (type ref) (type ref')
  | list {items items' : List Value} : equalItems items items' = true → Matches (list items) (list items')

theorem matches_of_equals {first second : Value} (equal : first.equals second = true) :
    Matches first.unwrapped second.unwrapped := by
  fun_induction unwrapped first with
  | case1 origin inner inductionHypothesis =>
    rw [wrapped_equals] at equal
    exact inductionHypothesis equal
  | case2 value notWrapped =>
    fun_cases equals value second with
    | case1 origin inner => exact absurd rfl (notWrapped origin inner)
    | case2 _ shape =>
      rw [shape]
      exact .same nofun
    | case3 a b _ shape | case4 a b _ shape | case5 a b _ shape | case6 a b _ shape | case7 a b _ shape
    | case10 a b _ shape | case11 a b _ shape | case12 a b _ shape =>
      simp only [equals.eq_def, shape, beq_iff_eq] at equal
      rw [shape, equal]
      exact .same nofun
    | case8 x y _ shape =>
      simp only [equals.eq_def, shape] at equal
      rw [shape]
      exact .float equal
    | case9 x y _ shape =>
      simp only [equals.eq_def, shape] at equal
      rw [shape]
      exact .double equal
    | case13 ref ref' _ shape =>
      simp only [equals.eq_def, shape, beq_iff_eq] at equal
      rw [shape]
      exact .object equal
    | case14 ref ref' _ shape =>
      rw [type_equals, shape, beq_iff_eq] at equal
      rw [shape]
      exact .type equal
    | case15 items items' _ shape =>
      rw [list_equals, shape] at equal
      rw [shape]
      exact .list equal
    | case16 =>
      simp_all [equals.eq_def]

/-! ## Texts of equal values -/

theorem display_single_of_zero {x : Float32} {negative : Bool} {scale : Int}
    (isZero : Number.ofFloat32 x = .finite negative 0 scale) :
    (float x).display = if negative then "-0.0" else "0.0" := by
  rw [display, Number.Layout.single, isZero]
  cases negative <;> rfl

theorem display_double_of_zero {x : Float} {negative : Bool} {scale : Int}
    (isZero : Number.ofFloat x = .finite negative 0 scale) :
    (double x).display = if negative then "-0.0" else "0.0" := by
  rw [display, Number.Layout.double, isZero]
  cases negative <;> rfl

theorem display_zeros : (float 0).display = "0.0" ∧ (float (-0)).display = "-0.0" ∧
    (double 0).display = "0.0" ∧ (double (-0)).display = "-0.0" := by
  have zero : Number.ofFloat32 0 = .finite false 0 (-149) := by decide
  have negative : Number.ofFloat32 (-0) = .finite true 0 (-149) := by decide
  have zero' : Number.ofFloat 0 = .finite false 0 (-1074) := by decide
  have negative' : Number.ofFloat (-0) = .finite true 0 (-1074) := by decide
  exact ⟨display_single_of_zero zero, display_single_of_zero negative, display_double_of_zero zero',
    display_double_of_zero negative'⟩

/-- Only one of two zeros of opposite sign is written with its sign. -/
theorem Opposite.part {first second : Value} (opposite : Opposite first second) :
    Text.Part first.display.toList second.display.toList := by
  have part : Text.Part "0.0".toList "-0.0".toList := ⟨[], '0', '-', ['.', '0'], ['0', '.', '0'], by decide, rfl, rfl⟩
  obtain ⟨zero, negative, zero', negative'⟩ := display_zeros
  cases opposite with
  | single => rwa [zero, negative]
  | singleNegative => rw [zero, negative]; exact part.symm
  | double => rwa [zero', negative']
  | doubleNegative => rw [zero', negative']; exact part.symm

theorem not_opposite_self (value : Value) : ¬ Opposite value value :=
  nofun

theorem opposite_or_eq_of_single {x y : Float32} (equal : (x == y) = true) : Opposite (float x) (float y) ∨ x = y := by
  obtain ⟨-, -, same | ⟨rfl, rfl⟩ | ⟨rfl, rfl⟩⟩ := Float32.beq_iff_ne_nan_and_eq.1 equal
  · exact .inr same
  · exact .inl .single
  · exact .inl .singleNegative

theorem opposite_or_eq_of_double {x y : Float} (equal : (x == y) = true) : Opposite (double x) (double y) ∨ x = y := by
  obtain ⟨-, -, same | ⟨rfl, rfl⟩ | ⟨rfl, rfl⟩⟩ := Float.beq_iff_ne_nan_and_eq.1 equal
  · exact .inr same
  · exact .inl .double
  · exact .inl .doubleNegative

/-- How values with these leaves and these texts look that are equal: they have as many leaves, and either no zeros of
opposite sign at the same place and one text, or such zeros and texts that part. -/
structure Resembling (leaves leaves' : List Value) (text text' : String) : Prop where
  sameLength : leaves.length = leaves'.length
  texts : ¬ OppositeIn leaves leaves' ∧ text = text' ∨ OppositeIn leaves leaves' ∧ Text.Part text.toList text'.toList

namespace Resembling

theorem of_opposite {first second : Value} (opposite : Opposite first second) :
    Resembling [first] [second] first.display second.display :=
  ⟨rfl, .inr ⟨oppositeIn_singleton.2 opposite, opposite.part⟩⟩

theorem of_same {first second : Value} (notOpposite : ¬ Opposite first second) (same : first.display = second.display) :
    Resembling [first] [second] first.display second.display :=
  ⟨rfl, .inl ⟨fun opposite => notOpposite (oppositeIn_singleton.1 opposite), same⟩⟩

theorem refl (value : Value) : Resembling [value] [value] value.display value.display :=
  of_same (not_opposite_self value) rfl

theorem constant (piece : String) : Resembling [] [] piece piece :=
  ⟨rfl, .inl ⟨fun ⟨_, inside, _⟩ => List.not_mem_nil inside, rfl⟩⟩

variable {leaves leaves' more more' : List Value} {text text' rest rest' : String}

theorem append (first : Resembling leaves leaves' text text') (second : Resembling more more' rest rest') :
    Resembling (leaves ++ more) (leaves' ++ more') (text ++ rest) (text' ++ rest') := by
  refine ⟨by rw [List.length_append, List.length_append, first.sameLength, second.sameLength], ?_⟩
  rw [oppositeIn_append first.sameLength, String.toList_append, String.toList_append]
  rcases first.texts with ⟨none, rfl⟩ | ⟨some, part⟩
  · rcases second.texts with ⟨none', rfl⟩ | ⟨some', part'⟩
    · exact .inl ⟨not_or.2 ⟨none, none'⟩, rfl⟩
    · exact .inr ⟨.inr some', part'.append_left _⟩
  · exact .inr ⟨.inl some, part.append_right _ _⟩

end Resembling

mutual
theorem resembling_of_equals (first second : Value) (without : first.WithoutObjects)
    (equal : first.equals second = true) : Resembling first.leaves second.leaves first.display second.display := by
  have shown := matches_of_equals equal
  rw [← leaves_unwrapped second, ← display_unwrapped second]
  generalize unboxed : second.unwrapped = other at shown ⊢
  cases first with
  | wrapped origin inner =>
    rw [wrapped_equals] at equal
    rw [← unboxed, leaves_unwrapped, display_unwrapped, leaves, display]
    exact resembling_of_equals inner second without equal
  | null | bool _ | byte _ | short _ | int _ | long _ | char _ | str _ | enum _ =>
    cases shown
    exact .refl _
  | object ref => exact absurd List.mem_cons_self (without ref)
  | float x =>
    cases shown with
    | same => exact .refl _
    | float equal =>
      obtain opposite | rfl := opposite_or_eq_of_single equal
      · exact .of_opposite opposite
      · exact .refl _
  | double x =>
    cases shown with
    | same => exact .refl _
    | double equal =>
      obtain opposite | rfl := opposite_or_eq_of_double equal
      · exact .of_opposite opposite
      · exact .refl _
  | type ref =>
    cases shown with
    | same => exact .refl _
    | type sameName => exact .of_same nofun sameName
  | list items =>
    cases shown with
    | same noList => exact absurd rfl noList
    | list equal =>
      have inside := resembling_of_equalItems items _ without equal
      have bracketed := ((Resembling.constant "[").append inside).append (.constant "]")
      rw [List.append_nil, List.append_nil] at bracketed
      exact bracketed
termination_by sizeOf first

theorem resembling_of_equalItems (items items' : List Value) (without : ∀ ref, object ref ∉ leavesOfItems items)
    (equal : equalItems items items' = true) :
    Resembling (leavesOfItems items) (leavesOfItems items') (displayItems items) (displayItems items') := by
  match items, items' with
  | [], [] => exact .constant ""
  | [], _ :: _ | _ :: _, [] => cases equal
  | item :: items, item' :: items' =>
    rw [equalItems, Bool.and_eq_true] at equal
    have withoutItem : item.WithoutObjects := fun ref inside => without ref (List.mem_append_left _ inside)
    have withoutItems : ∀ ref, object ref ∉ leavesOfItems items := fun ref inside =>
      without ref (List.mem_append_right _ inside)
    have head := resembling_of_equals item item' withoutItem equal.1
    have tail := resembling_of_equalItems items items' withoutItems equal.2
    match items, items' with
    | [], [] => simpa only [leavesOfItems, displayItems, List.append_nil] using head
    | [], _ :: _ | _ :: _, [] => cases equal.2
    | next :: items, next' :: items' =>
      have separated := head.append ((Resembling.constant ", ").append tail)
      rw [List.nil_append, List.nil_append, ← String.append_assoc, ← String.append_assoc] at separated
      exact separated
termination_by sizeOf items
end

theorem oppositeIn_iff_display_ne {first second : Value} (without : first.WithoutObjects)
    (equal : first.equals second = true) : OppositeIn first.leaves second.leaves ↔ first.display ≠ second.display := by
  rcases (resembling_of_equals first second without equal).texts with ⟨none, same⟩ | ⟨some, part⟩
  · exact iff_of_false none (not_not_intro same)
  · exact iff_of_true some fun same => part.ne (congrArg String.toList same)

end Value

/-! ## The root type -/

/-- What the root type's method of a name does on a receiver. -/
def Builtin.rootMethod? (name : String) (receiver : Value) (args : List Value) : Option (Host Value) :=
  (objectType.methods.find? (·.name == name)).map fun member => member.run (some receiver) args

namespace Value

theorem rootMethod?_equals (receiver arg : Value) :
    Builtin.rootMethod? "equals" receiver [arg] = some (pure (.bool (receiver.equals arg))) := rfl

theorem rootMethod?_hashCode (receiver : Value) :
    Builtin.rootMethod? "hashCode" receiver [] = some (pure (.int (Text.hashCode receiver.display))) := rfl

/-- Values without objects that the root type calls equal have one hash code there, unless zeros of opposite sign stand
at the same place in them; and these are what makes their texts, from which the codes are taken, differ. -/
theorem equal_values_hashed_alike {first second : Value} (without : first.WithoutObjects)
    (equal : Builtin.rootMethod? "equals" first [second] = some (pure (.bool true))) :
    (¬ OppositeIn first.leaves second.leaves → ∃ code,
        Builtin.rootMethod? "hashCode" first [] = some (pure (.int code)) ∧
          Builtin.rootMethod? "hashCode" second [] = some (pure (.int code))) ∧
      (OppositeIn first.leaves second.leaves ↔ first.display ≠ second.display) := by
  have equal : first.equals second = true := by
    rw [rootMethod?_equals] at equal
    exact Value.bool.inj (Host.pure_injective (Option.some.inj equal))
  have differ := oppositeIn_iff_display_ne without equal
  refine ⟨fun none => ⟨Text.hashCode first.display, rootMethod?_hashCode first, ?_⟩, differ⟩
  rw [rootMethod?_hashCode, not_not.1 (mt differ.2 none)]

/-- Boxes, and what lies behind the name of a type, make no difference. -/
theorem equal_values_hashed_alike_boxed :
    let first := list [wrapped "host" (double 0), type ⟨"demo.P", false⟩, list [null]]
    let second := list [double 0, wrapped "host" (type ⟨"demo.P", true⟩), list [null]]
    (first.WithoutObjects ∧ Builtin.rootMethod? "equals" first [second] = some (pure (.bool true)) ∧
        ¬ OppositeIn first.leaves second.leaves) ∧
      ∃ code, Builtin.rootMethod? "hashCode" first [] = some (pure (.int code)) ∧
        Builtin.rootMethod? "hashCode" second [] = some (pure (.int code)) := by
  intro first second
  have without : first.WithoutObjects := by
    intro ref inside
    simp [first, leaves, leavesOfItems] at inside
  have equal : Builtin.rootMethod? "equals" first [second] = some (pure (.bool true)) := rfl
  have none : ¬ OppositeIn first.leaves second.leaves := by
    rintro ⟨pair, inside, opposite⟩
    simp [first, second, leaves, leavesOfItems] at inside
    rcases inside with rfl | rfl | rfl <;> cases opposite
  exact ⟨⟨without, equal, none⟩, (equal_values_hashed_alike without equal).1 none⟩

/-- A zero and a negative zero are equal, and hashed apart. -/
theorem exists_equal_values_hashed_apart :
    ∃ first second : Value, first.WithoutObjects ∧ second.WithoutObjects ∧
      Builtin.rootMethod? "equals" first [second] = some (pure (.bool true)) ∧
      ∃ code code', Builtin.rootMethod? "hashCode" first [] = some (pure (.int code)) ∧
        Builtin.rootMethod? "hashCode" second [] = some (pure (.int code')) ∧ code ≠ code' := by
  obtain ⟨-, -, zero, negative⟩ := display_zeros
  refine ⟨double 0, double (-0), ?_, ?_, rfl, Text.hashCode "0.0", Text.hashCode "-0.0", ?_, ?_, ?_⟩
  · intro ref inside
    simp [leaves] at inside
  · intro ref inside
    simp [leaves] at inside
  · rw [rootMethod?_hashCode, zero]
  · rw [rootMethod?_hashCode, negative]
  · decide +kernel

end Value

end LateBound
