import LateBound.Proofs.EngineCalls
import LateBound.Proofs.FloatOrder

/-!
# Extrema of integers

The larger and the smaller of two numbers are chosen by overloads for 64-bit floating-point numbers and for the two
wider integer types, declared in this order. Two integers of one of these types are compared as they are. All others fit
no overload as they are, so that the first one takes them, and then they are rounded before they are compared: what is
chosen is the floating-point number nearest to the extremum.
-/

namespace LateBound

open Number

/-! ## Integers -/

def Value.rational? (value : Value) : Option ℚ :=
  value.toExact?.bind Exact.rational?

theorem rational?_double (x : Float) : (Value.double x).rational? = (ofFloat x).rational? := rfl

def toDouble (n : ℤ) : Float :=
  (Exact.finite (n < 0) n.natAbs 0).toFloat

/-- An integer of one of the integer types, in a box or not. -/
structure Integral (value : Value) (kind : Primitive) (n : ℤ) : Prop where
  isKind : value.tag = .primitive kind
  isWhole : kind = .byte ∨ kind = .short ∨ kind = .int ∨ kind = .long
  isNumber : value.rational? = some (n : ℚ)

theorem rational?_finite_int (n : ℤ) : (Exact.finite (n < 0) n.natAbs 0).rational? = some (n : ℚ) := by
  rw [Exact.rational?, zpow_zero, mul_one, factor_natAbs]

theorem rational?_of_toInteger {value : Value} {n : ℤ}
    (isExact : value.toExact? = some (.finite (n < 0) n.natAbs 0)) : value.rational? = some (n : ℚ) := by
  rw [Value.rational?, isExact, Option.bind_some, rational?_finite_int]

namespace Integral

variable {value : Value} {kind : Primitive} {n : ℤ} (integral : Integral value kind n)

include integral

theorem exists_word : value.toInteger? = some n ∧ value.toExact? = some (.finite (n < 0) n.natAbs 0) ∧
    n.natAbs < pow2 64 := by
  obtain ⟨k, isInteger, isExact, least, greatest⟩ : ∃ k : ℤ, value.toInteger? = some k ∧
      value.toExact? = some (.finite (k < 0) k.natAbs 0) ∧ -2 ^ 63 ≤ k ∧ k < 2 ^ 63 := by
    obtain ⟨payload, isHeld⟩ := Value.exists_payload integral.isKind
    rw [Value.toInteger?, Value.toExact?, isHeld]
    obtain rfl | rfl | rfl | rfl := integral.isWhole
    · have least := Int8.le_toInt payload
      have greatest := Int8.toInt_lt payload
      exact ⟨Int8.toInt payload, rfl, rfl, by omega, by omega⟩
    · have least := Int16.le_toInt payload
      have greatest := Int16.toInt_lt payload
      exact ⟨Int16.toInt payload, rfl, rfl, by omega, by omega⟩
    · have least := Int32.le_toInt payload
      have greatest := Int32.toInt_lt payload
      exact ⟨Int32.toInt payload, rfl, rfl, by omega, by omega⟩
    · exact ⟨Int64.toInt payload, rfl, rfl, Int64.le_toInt payload, Int64.toInt_lt payload⟩
  have same := integral.isNumber
  rw [rational?_of_toInteger isExact, Option.some_inj, Int.cast_inj] at same
  subst same
  have bounded : k.natAbs < 18446744073709551616 := by omega
  exact ⟨isInteger, isExact, bounded⟩

theorem exists_held :
    ∃ payload : kind.Payload, value.unwrapped = kind.hold payload ∧ (kind.hold payload).toInteger? = some n := by
  obtain ⟨payload, isHeld⟩ := Value.exists_payload integral.isKind
  obtain ⟨isInteger, -⟩ := integral.exists_word
  rw [← Value.toInteger?_unwrapped, isHeld] at isInteger
  exact ⟨payload, isHeld, isInteger⟩

theorem passed_double (gate : Gate) : gate.passed value (.primitive .double) = .double (toDouble n) := by
  obtain ⟨isInteger, isExact, -⟩ := integral.exists_word
  have isNumber : value.isNumeric = true := by
    rw [Value.isNumeric, integral.isKind]
    obtain rfl | rfl | rfl | rfl := integral.isWhole <;> rfl
  have isRounded : value.toFloat? = some (toDouble n) := by
    obtain ⟨payload, isHeld⟩ := Value.exists_payload integral.isKind
    rw [← Value.toFloat?_unwrapped, isHeld]
    rw [Value.toExact?, isHeld] at isExact
    obtain rfl | rfl | rfl | rfl := integral.isWhole <;> exact congrArg (Option.map Exact.toFloat) isExact
  rw [Gate.passed, coerce_number _ isNumber rfl, convertNumber?, isRounded, Option.map_some, Option.getD_some]

end Integral

theorem integral_long (x : Int64) : Integral (.long x) .long x.toInt :=
  ⟨rfl, by decide, rational?_of_toInteger rfl⟩

theorem integral_int (x : Int32) : Integral (.int x) .int x.toInt :=
  ⟨rfl, by decide, rational?_of_toInteger rfl⟩

theorem Integral.exists_long {value : Value} {n : ℤ} (integral : Integral value .long n) :
    ∃ x : Int64, value.unwrapped = .long x ∧ x.toInt = n := by
  obtain ⟨x, isHeld, isInteger⟩ := integral.exists_held
  exact ⟨x, isHeld, Option.some.inj isInteger⟩

theorem Integral.exists_int {value : Value} {n : ℤ} (integral : Integral value .int n) :
    ∃ x : Int32, value.unwrapped = .int x ∧ x.toInt = n := by
  obtain ⟨x, isHeld, isInteger⟩ := integral.exists_held
  exact ⟨x, isHeld, Option.some.inj isInteger⟩

/-! ## Overloads -/

namespace Builtin

def overloads (name : String) (floats : Float → Float → Float)
    (words : {α : Type} → [Max α] → [Min α] → α → α → α) : List Member :=
  (choice (HostType.empty mathType.name) name floats words).methods

def HasOverload (kind kind' : Primitive) : Prop :=
  kind = kind' ∧ (kind = .int ∨ kind = .long)

instance (kind kind' : Primitive) : Decidable (HasOverload kind kind') :=
  inferInstanceAs (Decidable (_ ∧ _))

/-- Only `lang.Math` itself declares the overloads of a choice. -/
structure Chooses (name : String) (floats : Float → Float → Float)
    (words : {α : Type} → [Max α] → [Min α] → α → α → α) : Prop where
  declared : (Callee.method name).members mathType = overloads name floats words
  noneInRoot : (Callee.method name).members objectType = []

theorem chooses_max : Chooses "max" floatMax max := ⟨rfl, rfl⟩

theorem chooses_min : Chooses "min" floatMin min := ⟨rfl, rfl⟩

section

variable {gate : Gate} (root : ∀ type, gate.lookup rootType = .found type → type = objectType) {name : String}
  {floats : Float → Float → Float} {words : {α : Type} → [Max α] → [Min α] → α → α → α}
  (chooses : Chooses name floats words)

include root chooses

theorem found_choice {a b : Value} {kind kind' : Primitive} (isA : a.tag = .primitive kind)
    (isB : b.tag = .primitive kind') :
    let accepting (mode : MatchMode) := (overloads name floats words).find? fun member =>
      answer (member.accepts mode (isSubtype gate) [.primitive kind, .primitive kind'])
    (Callee.method name).found gate mathType [a, b] =
      ((accepting .strict).or (accepting .lenient)).map (MethodHandle.mk mathType.name) := by
  obtain ⟨above, isChain⟩ := exists_ancestors_eq gate mathType
  have isRoot := @eq_root_of_mem_above gate mathType objectType rfl root rfl above isChain
  have arePublic : ∀ member ∈ (Callee.method name).members mathType, member.isPublic = true := by
    rw [chooses.declared]
    simp [overloads, choice, binary, HostType.staticMethod, HostType.addMethod, HostType.empty]
  have found := Callee.found_overload arePublic isChain
    (fun type isAbove => isRoot type isAbove ▸ chooses.noneInRoot) [a, b]
  rw [chooses.declared, List.map_cons, List.map_cons, List.map_nil, isA, isB] at found
  exact found

theorem choice_long {a b : Value} {x y : Int64} (isA : a.unwrapped = .long x) (isB : b.unwrapped = .long y) :
    StaticOutcome gate mathType name [a, b] (.ok (.long (words x y))) := by
  obtain ⟨tagA, passedA⟩ := @Gate.passed_of_held gate a .long x isA
  obtain ⟨tagB, passedB⟩ := @Gate.passed_of_held gate b .long y isB
  refine ⟨_, (found_choice root chooses tagA tagB).trans rfl, fun store => ?_⟩
  simp only [List.zipWith_cons_cons, List.zipWith_nil_left, passedA, passedB]
  show (Except.ok (Value.long (words (Int64.ofInt x.toInt) (Int64.ofInt y.toInt))), store) = _
  rw [Int64.ofInt_toInt, Int64.ofInt_toInt]

theorem choice_int {a b : Value} {x y : Int32} (isA : a.unwrapped = .int x) (isB : b.unwrapped = .int y) :
    StaticOutcome gate mathType name [a, b] (.ok (.int (words x y))) := by
  obtain ⟨tagA, passedA⟩ := @Gate.passed_of_held gate a .int x isA
  obtain ⟨tagB, passedB⟩ := @Gate.passed_of_held gate b .int y isB
  refine ⟨_, (found_choice root chooses tagA tagB).trans rfl, fun store => ?_⟩
  simp only [List.zipWith_cons_cons, List.zipWith_nil_left, passedA, passedB]
  show (Except.ok (Value.int (words (Int32.ofInt x.toInt) (Int32.ofInt y.toInt))), store) = _
  rw [Int32.ofInt_toInt, Int32.ofInt_toInt]

/-- Integers that no overload takes as they are go to the first one, which is the one for floating-point numbers. -/
theorem choice_double {a b : Value} {kind kind' : Primitive} {m n : ℤ} (isA : Integral a kind m)
    (isB : Integral b kind' n) (noOverload : ¬ HasOverload kind kind') :
    StaticOutcome gate mathType name [a, b] (.ok (.double (floats (toDouble m) (toDouble n)))) := by
  have isFirst : (((overloads name floats words).find? fun member =>
        answer (member.accepts .strict (isSubtype gate) [.primitive kind, .primitive kind'])).or
      ((overloads name floats words).find? fun member =>
        answer (member.accepts .lenient (isSubtype gate) [.primitive kind, .primitive kind']))) =
      (overloads name floats words).head? := by
    obtain rfl | rfl | rfl | rfl := isA.isWhole <;> obtain rfl | rfl | rfl | rfl := isB.isWhole <;>
      first
      | rfl
      | exact absurd (by decide) noOverload
  have found := found_choice root chooses isA.isKind isB.isKind
  dsimp only at found
  rw [isFirst] at found
  refine ⟨_, found.trans rfl, fun store => ?_⟩
  simp only [List.zipWith_cons_cons, List.zipWith_nil_left, isA.passed_double, isB.passed_double]
  rfl

end

/-! ## Extrema -/

section

variable {x y : Float} {r s : ℚ} (nearX : IsNearest x r) (nearY : IsNearest y s)

include nearX nearY

theorem isNearest_floatMax : IsNearest (floatMax x y) (max r s) := by
  rw [floatMax, nearX.isNaN_eq_false, if_neg Bool.false_ne_true]
  split
  · next below =>
    rw [max_comm]
    exact nearY.max_of_not_lt nearX (nearX.lt_asymm nearY below)
  · next notBelow => exact nearX.max_of_not_lt nearY notBelow

theorem isNearest_floatMin : IsNearest (floatMin x y) (min r s) := by
  rw [floatMin, nearX.isNaN_eq_false, if_neg Bool.false_ne_true]
  split
  · next below =>
    rw [min_comm]
    exact nearY.min_of_not_lt nearX (nearY.lt_asymm nearX below)
  · next notBelow => exact nearX.min_of_not_lt nearY notBelow

end

/-- A floating-point number for an integer: no other is nearer, and it is the integer itself wherever there is a
floating-point number that is, which there always is up to `2^53`. -/
structure Rounded (x : Float) (n : ℤ) : Prop where
  nearest : IsNearest x n
  exact_iff : (Value.double x).rational? = some (n : ℚ) ↔ ∃ y, (Value.double y).rational? = some (n : ℚ)
  small : n.natAbs ≤ 2 ^ 53 → (Value.double x).rational? = some (n : ℚ)

theorem Rounded.of_nearest {x : Float} {n : ℤ} (nearest : IsNearest x n) : Rounded x n :=
  ⟨nearest, nearest.rational?_eq_iff, fun small => nearest.rational?_eq_iff.2 ⟨_, rational?_toFloat_int small⟩⟩

/-- What a call answers that chooses one of two integers: the integer in its type, where there is an overload for both,
and otherwise the integer rounded. -/
structure Chosen (kind kind' : Primitive) (n : ℤ) (answer : Except Failure Value) : Prop where
  whole : HasOverload kind kind' → ∃ value, answer = .ok value ∧ Integral value kind n
  rounded : ¬ HasOverload kind kind' → ∃ x, answer = .ok (.double x) ∧ Rounded x n

/-- An operation on integers is the choice between two numbers, at each of the three widths. -/
structure Realizes (floats : Float → Float → Float) (words : {α : Type} → [Max α] → [Min α] → α → α → α)
    (extremum : ℤ → ℤ → ℤ) : Prop where
  onFloats : ∀ {x y m n}, IsNearest x (m : ℤ) → IsNearest y (n : ℤ) → IsNearest (floats x y) (extremum m n)
  onLong : ∀ x y : Int64, (words x y).toInt = extremum x.toInt y.toInt
  onInt : ∀ x y : Int32, (words x y).toInt = extremum x.toInt y.toInt

theorem realizes_max : Realizes floatMax max max where
  onFloats nearX nearY := by
    rw [Int.cast_max]
    exact isNearest_floatMax nearX nearY
  onLong x y := by
    rw [max_def, show max x y = if x ≤ y then y else x from rfl, apply_ite Int64.toInt]
    exact if_congr Int64.le_iff_toInt_le rfl rfl
  onInt x y := by
    rw [max_def, show max x y = if x ≤ y then y else x from rfl, apply_ite Int32.toInt]
    exact if_congr Int32.le_iff_toInt_le rfl rfl

theorem realizes_min : Realizes floatMin min min where
  onFloats nearX nearY := by
    rw [Int.cast_min]
    exact isNearest_floatMin nearX nearY
  onLong x y := by
    rw [min_def, show min x y = if x ≤ y then x else y from rfl, apply_ite Int64.toInt]
    exact if_congr Int64.le_iff_toInt_le rfl rfl
  onInt x y := by
    rw [min_def, show min x y = if x ≤ y then x else y from rfl, apply_ite Int32.toInt]
    exact if_congr Int32.le_iff_toInt_le rfl rfl

/-! ## Calls -/

section

variable {registry : Registry} {policy : AllowList}
  (numbers : (Engine.gateOf registry policy).lookup mathType.name = .found mathType)
  (root : ∀ type, (Engine.gateOf registry policy).lookup rootType = .found type → type = objectType)
  (settings : Settings) (store : Store) (operations : List Operation) {a b : Value} {kind kind' : Primitive} {m n : ℤ}
  (isA : Integral a kind m) (isB : Integral b kind' n)

include numbers root isA isB

theorem chosen_of_chooses {name : String} {floats : Float → Float → Float}
    {words : {α : Type} → [Max α] → [Min α] → α → α → α} (chooses : Chooses name floats words) {extremum : ℤ → ℤ → ℤ}
    (realizes : Realizes floats words extremum) :
    Chosen kind kind' (extremum m n)
      (((Engine.cached (Engine.gateOf registry policy) settings store).after operations).answer (.type mathType.ref)
        name [a, b]) := by
  constructor
  · rintro ⟨rfl, rfl | rfl⟩
    · obtain ⟨x, heldX, rfl⟩ := isA.exists_int
      obtain ⟨y, heldY, rfl⟩ := isB.exists_int
      have isOutcome := choice_int root chooses heldX heldY
      refine ⟨_, answer_type_of_ok numbers settings store operations isOutcome, ?_⟩
      rw [← realizes.onInt]
      exact integral_int _
    · obtain ⟨x, heldX, rfl⟩ := isA.exists_long
      obtain ⟨y, heldY, rfl⟩ := isB.exists_long
      have isOutcome := choice_long root chooses heldX heldY
      refine ⟨_, answer_type_of_ok numbers settings store operations isOutcome, ?_⟩
      rw [← realizes.onLong]
      exact integral_long _
  · -- Each integer is rounded by itself, and the roundings are compared.
    intro noOverload
    obtain ⟨-, -, isWordA⟩ := isA.exists_word
    obtain ⟨-, -, isWordB⟩ := isB.exists_word
    have isOutcome := choice_double root chooses isA isB noOverload
    refine ⟨_, answer_type_of_ok numbers settings store operations isOutcome, ?_⟩
    exact .of_nearest (realizes.onFloats (toFloat_nearest_int isWordA) (toFloat_nearest_int isWordB))

end

/-- The larger and the smaller of two integers are chosen exactly on every engine where an overload takes the two as
they are, and otherwise as well as a floating-point number can be. -/
theorem extrema_of_integers {registry : Registry} {policy : AllowList}
    (numbers : (Engine.gateOf registry policy).lookup mathType.name = .found mathType)
    (root : ∀ type, (Engine.gateOf registry policy).lookup rootType = .found type → type = objectType)
    (settings : Settings) (store : Store) (operations : List Operation) {a b : Value} {kind kind' : Primitive} {m n : ℤ}
    (isA : Integral a kind m) (isB : Integral b kind' n) :
    let engine := (Engine.cached (Engine.gateOf registry policy) settings store).after operations
    Chosen kind kind' (max m n) (engine.answer (.type mathType.ref) "max" [a, b]) ∧
      Chosen kind kind' (min m n) (engine.answer (.type mathType.ref) "min" [a, b]) :=
  ⟨chosen_of_chooses numbers root settings store operations isA isB chooses_max realizes_max,
    chosen_of_chooses numbers root settings store operations isA isB chooses_min realizes_min⟩

theorem eq_objectType_of_standard :
    ∀ type, (Engine.gateOf standardRegistry .all).lookup rootType = .found type → type = objectType := by
  intro type isFound
  have shown : (Engine.gateOf standardRegistry .all).lookup rootType = .found objectType := rfl
  rw [shown] at isFound
  cases isFound
  rfl

/-- Of integers of different types the larger one may be answered one too small. -/
theorem exists_rounded_maximum :
    let engine := Engine.cached (Engine.gateOf standardRegistry .all) .standard
    Integral (.int 1) .int 1 ∧ Integral (.long 9007199254740993) .long 9007199254740993 ∧
      ∃ value, engine.answer (.type mathType.ref) "max" [.int 1, .long 9007199254740993] = .ok value ∧
        value.rational? = some 9007199254740992 ∧ value.rational? ≠ some ((max 1 9007199254740993 : ℤ) : ℚ) := by
  intro engine
  have isOne : Integral (.int 1) .int 1 := integral_int 1
  have isLarge : Integral (.long 9007199254740993) .long 9007199254740993 := integral_long 9007199254740993
  refine ⟨isOne, isLarge, _, answer_type_of_ok rfl .standard .empty []
    (choice_double eq_objectType_of_standard chooses_max isOne isLarge (by decide)), ?_⟩
  have isRounded : ofFloat (floatMax (toDouble 1) (toDouble 9007199254740993)) = .finite false 4503599627370496 1 := by
    decide +kernel
  have isNumber : (Value.double (floatMax (toDouble 1) (toDouble 9007199254740993))).rational? =
      some 9007199254740992 := by
    rw [rational?_double, isRounded, Exact.rational?, factor_false]
    norm_num
  rw [isNumber]
  exact ⟨rfl, by norm_num⟩

/-- Two integers of different types, the larger of which is no floating-point number. -/
theorem extrema_of_integers_mixed :
    let gate := Engine.gateOf standardRegistry .all
    let engine := Engine.cached gate .standard
    gate.lookup mathType.name = .found mathType ∧
      (∀ type, gate.lookup rootType = .found type → type = objectType) ∧
      Integral (.int 1) .int 1 ∧ Integral (.long 9007199254740993) .long 9007199254740993 ∧
      Chosen .int .long 9007199254740993 (engine.answer (.type mathType.ref) "max" [.int 1, .long 9007199254740993]) ∧
      Chosen .int .long 1 (engine.answer (.type mathType.ref) "min" [.int 1, .long 9007199254740993]) := by
  intro gate engine
  have numbers : gate.lookup mathType.name = .found mathType := rfl
  have isOne : Integral (.int 1) .int 1 := integral_int 1
  have isLarge : Integral (.long 9007199254740993) .long 9007199254740993 := integral_long 9007199254740993
  exact ⟨numbers, eq_objectType_of_standard, isOne, isLarge,
    extrema_of_integers numbers eq_objectType_of_standard .standard .empty [] isOne isLarge⟩

end Builtin

end LateBound
