import Mathlib.Algebra.Order.Floor.Ring
import Mathlib.Data.Rat.Floor
import LateBound.Proofs.EngineCalls
import LateBound.Proofs.IntegerLiterals

/-!
# Floor division

The floor of a quotient of words is made of a division whose remainder is not negative: for a divisor below zero that
division goes to the ceiling, and one is taken off unless it is exact. There is a quotient for all words but a divisor
of zero and the one pair whose quotient is too large, and wherever there is one, the steps behind it stay in the range
of words.
-/

namespace LateBound

namespace Builtin

open Number

/-! ## Quotients of numbers -/

theorem floor_div_eq (a : ℤ) {b : ℤ} (nonzero : b ≠ 0) :
    ⌊(a : ℚ) / b⌋ = a / b - if a % b ≠ 0 ∧ b < 0 then 1 else 0 := by
  have isDivided : b * (a / b) + a % b = a := Int.mul_ediv_add_emod a b
  have nonnegative : 0 ≤ a % b := Int.emod_nonneg a nonzero
  have small : a % b < |b| := Int.emod_lt_abs a nonzero
  rw [Int.floor_eq_iff]
  obtain negative | positive := lt_or_gt_of_ne nonzero
  · rw [abs_of_neg negative] at small
    have below : (b : ℚ) < 0 := by exact_mod_cast negative
    rw [le_div_iff_of_neg below, div_lt_iff_of_neg below]
    by_cases exact : a % b = 0
    · rw [if_neg (fun corrected => corrected.1 exact)]
      constructor
      · exact_mod_cast (by linarith : a ≤ (a / b - 0) * b)
      · exact_mod_cast (by linarith : (a / b - 0 + 1) * b < a)
    · rw [if_pos ⟨exact, negative⟩]
      have rest : 0 < a % b := lt_of_le_of_ne nonnegative (Ne.symm exact)
      constructor
      · exact_mod_cast (by linarith : a ≤ (a / b - 1) * b)
      · exact_mod_cast (by linarith : (a / b - 1 + 1) * b < a)
  · rw [abs_of_pos positive] at small
    have above : (0 : ℚ) < b := by exact_mod_cast positive
    rw [if_neg (fun corrected => absurd corrected.2 (not_lt_of_gt positive)), le_div_iff₀ above, div_lt_iff₀ above]
    constructor
    · exact_mod_cast (by linarith : (a / b - 0) * b ≤ a)
    · exact_mod_cast (by linarith : a < (a / b - 0 + 1) * b)

section

variable {a b : ℤ} (least : -2 ^ 31 ≤ a) (greatest : a < 2 ^ 31)

include least greatest

/-- Only the least word divided by minus one is out of the range of words. -/
theorem ediv_inRange_iff (nonzero : b ≠ 0) :
    (-2 ^ 31 ≤ a / b ∧ a / b < 2 ^ 31) ↔ ¬ (a = -2 ^ 31 ∧ b = -1) := by
  have bounded : (a / b).natAbs ≤ a.natAbs := Int.natAbs_ediv_le_natAbs a b
  have isDivided : b * (a / b) + a % b = a := Int.mul_ediv_add_emod a b
  have nonnegative : 0 ≤ a % b := Int.emod_nonneg a nonzero
  have small : a % b < |b| := Int.emod_lt_abs a nonzero
  constructor
  · rintro ⟨-, inside⟩ ⟨rfl, rfl⟩
    norm_num at inside
  · intro notExtreme
    refine ⟨by omega, lt_of_not_ge fun outside => notExtreme ?_⟩
    have isLargest : a / b = 2 ^ 31 := by omega
    rw [isLargest] at isDivided
    have negative : b < 0 := by omega
    rw [abs_of_neg negative] at small
    omega

/-- Where one is taken off a quotient, the least word is not reached yet. -/
theorem lt_ediv_of_rest (rest : a % b ≠ 0) (negative : b < 0) : -2 ^ 31 < a / b := by
  have isDivided : b * (a / b) + a % b = a := Int.mul_ediv_add_emod a b
  have nonnegative : 0 ≤ a % b := Int.emod_nonneg a negative.ne
  have notOne : b ≠ -1 := by
    rintro rfl
    omega
  by_contra reached
  have large : 2 ^ 32 ≤ b * (a / b) := by nlinarith
  omega

end

/-! ## The steps -/

/-- The divisor is zero, or the quotient is the one that is too large for a word. -/
def NoQuotient (a b : Int32) : Prop :=
  b = 0 ∨ a = Int32.minValue ∧ b = -1

/-- The steps of a floor division that all come to words, none of them in a panic. -/
structure FloorSteps (a b quotient rest result : Int32) : Prop where
  divided : quotient? a b = some quotient
  remains : remainder a b = .ok rest
  corrected : subChecked quotient (if rest ≠ 0 ∧ b < 0 then 1 else 0) = .ok result

section

variable {a b : Int32}

theorem quotient?_of_noQuotient (noQuotient : NoQuotient a b) : quotient? a b = none := by
  obtain rfl | ⟨rfl, rfl⟩ := noQuotient
  · rfl
  · decide

theorem toInt_ne_zero (nonzero : b ≠ 0) : b.toInt ≠ 0 :=
  fun isZero => nonzero (Int32.toInt_inj.1 isZero)

theorem exists_subChecked {difference : ℤ} (isDifference : a.toInt - b.toInt = difference)
    (inRange : -2 ^ 31 ≤ difference ∧ difference < 2 ^ 31) :
    ∃ result, subChecked a b = .ok result ∧ result.toInt = difference := by
  obtain ⟨result, isWord, same⟩ := exists_toInt32? inRange.1 inRange.2
  refine ⟨result, ?_, same⟩
  rw [subChecked, isDifference]
  simp only [isWord]

theorem floorDivide_of_noQuotient (noQuotient : NoQuotient a b) :
    floorDivide a b =
      .error (.error ("floorDiv(" ++ toString a.toInt ++ ", " ++ toString b.toInt ++ ") is undefined")) := by
  rw [floorDivide, quotient?_of_noQuotient noQuotient]

theorem FloorSteps.floorDivide_eq {quotient rest result : Int32} (steps : FloorSteps a b quotient rest result) :
    floorDivide a b = .ok result := by
  rw [floorDivide, steps.divided]
  show (do let rest ← remainder a b; subChecked quotient (if rest ≠ 0 ∧ b < 0 then 1 else 0)) = _
  rw [steps.remains]
  exact steps.corrected

variable (divides : ¬ NoQuotient a b)

include divides

theorem exists_quotient :
    ∃ quotient, quotient? a b = some quotient ∧ toInt32? (a.toInt / b.toInt) = some quotient ∧
      quotient.toInt = a.toInt / b.toInt := by
  have nonzero : b ≠ 0 := fun isZero => divides (.inl isZero)
  have notExtreme : ¬ (a.toInt = -2 ^ 31 ∧ b.toInt = -1) := by
    rintro ⟨isLeast, isNegated⟩
    exact divides (.inr ⟨Int32.toInt_inj.1 isLeast, Int32.toInt_inj.1 isNegated⟩)
  obtain ⟨least, greatest⟩ :=
    (ediv_inRange_iff a.le_toInt a.toInt_lt (toInt_ne_zero nonzero)).2 notExtreme
  obtain ⟨quotient, isWord, same⟩ := exists_toInt32? least greatest
  refine ⟨quotient, ?_, isWord, same⟩
  rw [quotient?, if_neg nonzero, isWord]

theorem exists_remainder : ∃ rest, remainder a b = .ok rest ∧ rest.toInt = a.toInt % b.toInt := by
  have nonzero : b ≠ 0 := fun isZero => divides (.inl isZero)
  obtain ⟨quotient, -, isWord, -⟩ := exists_quotient divides
  refine ⟨Int32.ofInt (a.toInt % b.toInt), ?_, ?_⟩
  · rw [remainder, if_neg nonzero]
    simp only [isWord]
  · have nonnegative := Int.emod_nonneg a.toInt (toInt_ne_zero nonzero)
    have small := Int.emod_lt_abs a.toInt (toInt_ne_zero nonzero)
    have least := b.le_toInt
    have greatest := b.toInt_lt
    refine Int32.toInt_ofInt_of_le (by omega) ?_
    -- The distance of a divisor from zero may be no word, but everything below it is one.
    rw [lt_abs] at small
    omega

/-- Where there is a quotient, every step comes to a word, the last one to the floor. -/
theorem exists_floorSteps :
    ∃ quotient rest result, FloorSteps a b quotient rest result ∧ result.toInt = ⌊(a.toInt : ℚ) / b.toInt⌋ := by
  have nonzero : b.toInt ≠ 0 := toInt_ne_zero fun isZero => divides (.inl isZero)
  obtain ⟨quotient, divided, -, isQuotient⟩ := exists_quotient divides
  obtain ⟨rest, remains, isRest⟩ := exists_remainder divides
  have isCorrected : (rest ≠ 0 ∧ b < 0) ↔ (a.toInt % b.toInt ≠ 0 ∧ b.toInt < 0) := by
    have isZero : rest.toInt = (0 : Int32).toInt ↔ rest = 0 := Int32.toInt_inj
    rw [← isRest, Int32.lt_iff_toInt_lt]
    exact and_congr_left' (not_congr isZero.symm)
  have isTaken : (if rest ≠ 0 ∧ b < 0 then 1 else 0 : Int32).toInt =
      if a.toInt % b.toInt ≠ 0 ∧ b.toInt < 0 then 1 else 0 := by
    rw [apply_ite Int32.toInt]
    exact if_congr isCorrected rfl rfl
  have inRange : -2 ^ 31 ≤ ⌊(a.toInt : ℚ) / b.toInt⌋ ∧ ⌊(a.toInt : ℚ) / b.toInt⌋ < 2 ^ 31 := by
    have least := quotient.le_toInt
    have greatest := quotient.toInt_lt
    rw [floor_div_eq a.toInt nonzero, ← isQuotient]
    split
    · next taken =>
      have notLeast := lt_ediv_of_rest a.le_toInt a.toInt_lt taken.1 taken.2
      omega
    · omega
  have isDifference : quotient.toInt - (if rest ≠ 0 ∧ b < 0 then 1 else 0 : Int32).toInt =
      ⌊(a.toInt : ℚ) / b.toInt⌋ := by
    rw [isTaken, isQuotient, floor_div_eq a.toInt nonzero]
  obtain ⟨result, corrected, isFloor⟩ := exists_subChecked isDifference inRange
  exact ⟨quotient, rest, result, ⟨divided, remains, corrected⟩, isFloor⟩

end

example : floorDivide 7 (-2) = .ok (-4) := by rfl

/-! ## Calls -/

/-- The words are passed as they are, nothing is written, and neither word is blamed for a failure. -/
theorem found_floorDiv (gate : Gate) (a b : Int32) :
    ∃ handle, (Callee.method "floorDiv").found gate mathType [.int a, .int b] = some handle ∧
      let passed := [Value.int a, .int b].zipWith gate.passed handle.member.params
      (∀ store, handle.member.ending none passed store = ((floorDivide a b).map .int, store)) ∧
        ∀ message, callFailure handle passed (.error message) =
          .of (.memberFailed "lang.Math.floorDiv(int, int)" message) := by
  refine ⟨_, rfl, ?_⟩
  simp only [List.zipWith_cons_cons, List.zipWith_nil_left, passed_int]
  refine ⟨fun store => ?_, fun message => rfl⟩
  show (do return .int (← Host.ofOutcome (floorDivide (Int32.ofInt a.toInt) (Int32.ofInt b.toInt))) :
    Host Value).run.run store = _
  rw [Int32.ofInt_toInt, Int32.ofInt_toInt, Host.run_return_ofOutcome]

/-- What a call answers that divides two words: the floor, by steps that all stay in the range of words, or a plain
failure where there is no quotient. -/
structure FloorDivides (a b : Int32) (answer : Except Failure Value) : Prop where
  noQuotient : NoQuotient a b → answer = .error (.of (.memberFailed "lang.Math.floorDiv(int, int)"
    ("floorDiv(" ++ toString a.toInt ++ ", " ++ toString b.toInt ++ ") is undefined")))
  floor : ¬ NoQuotient a b → ∃ quotient rest result, FloorSteps a b quotient rest result ∧
    result.toInt = ⌊(a.toInt : ℚ) / b.toInt⌋ ∧ answer = .ok (.int result)

/-- Floor division is exact on every engine, and fails for no words but those without a quotient. -/
theorem floorDiv_is_exact {registry : Registry} {policy : AllowList}
    (numbers : (Engine.gateOf registry policy).lookup mathType.name = .found mathType) (settings : Settings)
    (store : Store) (operations : List Operation) (a b : Int32) :
    FloorDivides a b (((Engine.cached (Engine.gateOf registry policy) settings store).after operations).answer
      (.type mathType.ref) "floorDiv" [.int a, .int b]) := by
  obtain ⟨handle, isFound, ends, fails⟩ := found_floorDiv (Engine.gateOf registry policy) a b
  have answered := (callStatic_of_found numbers settings store operations isFound).1
  rw [ends] at answered
  constructor
  · intro noQuotient
    rw [floorDivide_of_noQuotient noQuotient] at answered
    exact answered.trans (congrArg Except.error (fails _))
  · intro divides
    obtain ⟨quotient, rest, result, steps, isFloor⟩ := exists_floorSteps divides
    rw [steps.floorDivide_eq] at answered
    exact ⟨quotient, rest, result, steps, isFloor, answered⟩

/-- A quotient that is not exact, for a divisor below zero. -/
theorem floorDiv_is_exact_negative :
    let gate := Engine.gateOf standardRegistry .all
    let engine := Engine.cached gate .standard
    gate.lookup mathType.name = .found mathType ∧
      FloorDivides 7 (-2) (engine.answer (.type mathType.ref) "floorDiv" [.int 7, .int (-2)]) := by
  intro gate engine
  have numbers : gate.lookup mathType.name = .found mathType := rfl
  exact ⟨numbers, floorDiv_is_exact numbers .standard .empty [] 7 (-2)⟩

end Builtin

end LateBound
