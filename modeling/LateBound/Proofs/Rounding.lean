import LateBound.Number.Binary
import Mathlib

/-!
# Numbers that a format holds

Rounding to a format keeps a number that the format holds: it finds the very word that stands for it, however the number
is written as a multiple of a power of two. Every 32-bit number is held by the 64-bit format, and so it comes back from
there unchanged.
-/

namespace LateBound.Number

theorem cast_pow2 (n : Nat) : (pow2 n : ℚ) = 2 ^ (n : ℤ) := by
  rw [zpow_natCast]
  exact Nat.cast_pow 2 n

theorem pow2_pos (n : Nat) : 0 < pow2 n :=
  Nat.two_pow_pos n

theorem pow2_add (m n : Nat) : pow2 (m + n) = pow2 m * pow2 n :=
  Nat.pow_add 2 m n

theorem two_zpow_pos (q : ℤ) : (0 : ℚ) < 2 ^ q :=
  zpow_pos two_pos q

theorem two_zpow_add (p q : ℤ) : (2 : ℚ) ^ (p + q) = 2 ^ p * 2 ^ q :=
  zpow_add₀ two_ne_zero p q

namespace Format

variable {format : Format}

/-! ## Quotients and their scales -/

theorem scaleDown_spec (n : Nat) {d : Nat} (isPositive : 0 < d) (q : ℤ) :
    0 < (scaleDown n d q).2 ∧ ((scaleDown n d q).1 : ℚ) / (scaleDown n d q).2 = n / d / 2 ^ q := by
  unfold scaleDown
  split
  · next isUp =>
    refine ⟨Nat.mul_pos isPositive (pow2_pos _), ?_⟩
    rw [Nat.cast_mul, cast_pow2, Int.toNat_of_nonneg isUp, div_div]
  · next isDown =>
    refine ⟨isPositive, ?_⟩
    rw [Nat.cast_mul, cast_pow2, Int.toNat_of_nonneg (by omega), zpow_neg, ← div_eq_mul_inv, div_right_comm]

theorem quotient_bounds {n d : Nat} (n_ne : n ≠ 0) (d_ne : d ≠ 0) :
    (2 : ℚ) ^ ((Nat.log2 n : ℤ) - Nat.log2 d - 1) ≤ n / d ∧
      (n : ℚ) / d < 2 ^ ((Nat.log2 n : ℤ) - Nat.log2 d + 1) := by
  have isPositive : (0 : ℚ) < d := Nat.cast_pos.2 (Nat.pos_of_ne_zero d_ne)
  have n_ge : (2 : ℚ) ^ (Nat.log2 n : ℤ) ≤ n := by
    rw [zpow_natCast]
    exact_mod_cast Nat.log2_self_le n_ne
  have n_lt : (n : ℚ) < 2 ^ ((Nat.log2 n : ℤ) + 1) := by
    rw [← Nat.cast_succ, zpow_natCast]
    exact_mod_cast Nat.lt_log2_self
  have d_ge : (2 : ℚ) ^ (Nat.log2 d : ℤ) ≤ d := by
    rw [zpow_natCast]
    exact_mod_cast Nat.log2_self_le d_ne
  have d_lt : (d : ℚ) < 2 ^ ((Nat.log2 d : ℤ) + 1) := by
    rw [← Nat.cast_succ, zpow_natCast]
    exact_mod_cast Nat.lt_log2_self
  refine ⟨(le_div_iff₀ isPositive).2 ?_, (div_lt_iff₀ isPositive).2 ?_⟩
  · calc (2 : ℚ) ^ ((Nat.log2 n : ℤ) - Nat.log2 d - 1) * d
        ≤ 2 ^ ((Nat.log2 n : ℤ) - Nat.log2 d - 1) * 2 ^ ((Nat.log2 d : ℤ) + 1) :=
          mul_le_mul_of_nonneg_left d_lt.le (two_zpow_pos _).le
      _ = 2 ^ (Nat.log2 n : ℤ) := by
          rw [← two_zpow_add]
          congr 1
          omega
      _ ≤ n := n_ge
  · calc (n : ℚ) < 2 ^ ((Nat.log2 n : ℤ) + 1) := n_lt
      _ = 2 ^ ((Nat.log2 n : ℤ) - Nat.log2 d + 1) * 2 ^ (Nat.log2 d : ℤ) := by
          rw [← two_zpow_add]
          congr 1
          omega
      _ ≤ 2 ^ ((Nat.log2 n : ℤ) - Nat.log2 d + 1) * d := mul_le_mul_of_nonneg_left d_ge (two_zpow_pos _).le

/-- The scale of a quotient leaves `fraction + 1` bits in front of the point, unless it is below the lowest one. -/
theorem scaleOf_spec {n d : Nat} (n_ne : n ≠ 0) (d_ne : d ≠ 0) :
    ∃ scale : ℤ, format.scaleOf n d = max scale format.lowest ∧
      (2 : ℚ) ^ (format.fraction + scale) ≤ n / d ∧ (n : ℚ) / d < 2 ^ (format.fraction + scale + 1) := by
  obtain ⟨guess, isGuess⟩ : ∃ guess : ℤ, guess = (Nat.log2 n : ℤ) - Nat.log2 d - format.fraction := ⟨_, rfl⟩
  obtain ⟨isPositive, scaled⟩ := scaleDown_spec n (Nat.pos_of_ne_zero d_ne) guess
  have isScale : format.scaleOf n d =
      max (if (scaleDown n d guess).1 < (scaleDown n d guess).2 * pow2 format.fraction then guess - 1 else guess)
        format.lowest := by
    rw [scaleOf, ← isGuess]
  have isPositive : (0 : ℚ) < (scaleDown n d guess).2 := Nat.cast_pos.2 isPositive
  obtain ⟨lower, upper⟩ := quotient_bounds n_ne d_ne
  -- The logarithms tell the scale up to one; the quotient at the guessed scale tells which of the two it is.
  rw [isScale]
  split
  · next tooHigh =>
    have short : (n : ℚ) / d / 2 ^ guess < 2 ^ (format.fraction : ℤ) := by
      rw [← scaled, div_lt_iff₀ isPositive, ← cast_pow2, mul_comm]
      exact_mod_cast tooHigh
    rw [div_lt_iff₀ (two_zpow_pos _), ← two_zpow_add] at short
    refine ⟨guess - 1, rfl, ?_, ?_⟩
    · rwa [show (format.fraction : ℤ) + (guess - 1) = Nat.log2 n - Nat.log2 d - 1 by omega]
    · rwa [show (format.fraction : ℤ) + (guess - 1) + 1 = format.fraction + guess by omega]
  · next fits =>
    have long : (2 : ℚ) ^ (format.fraction : ℤ) ≤ n / d / 2 ^ guess := by
      rw [← scaled, le_div_iff₀ isPositive, ← cast_pow2, mul_comm]
      exact_mod_cast Nat.le_of_not_lt fits
    rw [le_div_iff₀ (two_zpow_pos _), ← two_zpow_add] at long
    refine ⟨guess, rfl, long, ?_⟩
    rwa [show (format.fraction : ℤ) + guess + 1 = Nat.log2 n - Nat.log2 d + 1 by omega]

theorem divideToEven_mul (m : Nat) {d : Nat} (isPositive : 0 < d) : divideToEven (m * d) d = m := by
  rw [divideToEven, Nat.mul_mod_left, Nat.mul_div_cancel m isPositive, if_pos isPositive]

/-! ## Numbers that a format holds -/

def wordOf (format : Format) (m : Nat) (q : ℤ) : Nat :=
  (q - format.lowest).toNat * pow2 format.fraction + m

/-- The format holds the number `m · 2^q` in this very form: with its leading bit in place, or at the lowest scale. -/
structure Holds (format : Format) (m : Nat) (q : ℤ) : Prop where
  lowest_le : format.lowest ≤ q
  leading : q = format.lowest ∨ pow2 format.fraction ≤ m
  short : m < 2 * pow2 format.fraction
  finite : format.wordOf m q < format.infinity

theorem Holds.scaleOf_eq {m n d : Nat} {q : ℤ} (holds : format.Holds m q) (n_ne : n ≠ 0) (d_ne : d ≠ 0)
    (same : (n : ℚ) / d = m * 2 ^ q) : format.scaleOf n d = q := by
  obtain ⟨scale, isScale, lower, upper⟩ := format.scaleOf_spec n_ne d_ne
  rw [same] at lower upper
  have scale_le : scale ≤ q := by
    have short : (m : ℚ) < 2 ^ ((format.fraction : ℤ) + 1) := by
      rw [two_zpow_add, ← cast_pow2, zpow_one, mul_comm]
      exact_mod_cast holds.short
    have bounded : (2 : ℚ) ^ (format.fraction + scale) < 2 ^ ((format.fraction : ℤ) + 1 + q) :=
      lower.trans_lt (two_zpow_add _ q ▸ mul_lt_mul_of_pos_right short (two_zpow_pos q))
    have := (zpow_lt_zpow_iff_right₀ one_lt_two).1 bounded
    omega
  rw [isScale]
  obtain atLowest | leads := holds.leading
  · rw [← atLowest, max_eq_right scale_le]
  · have leads : (2 : ℚ) ^ (format.fraction : ℤ) ≤ m := by
      rw [← cast_pow2]
      exact_mod_cast leads
    have bounded : (2 : ℚ) ^ ((format.fraction : ℤ) + q) < 2 ^ (format.fraction + scale + 1) :=
      (two_zpow_add _ q ▸ mul_le_mul_of_nonneg_right leads (two_zpow_pos q).le).trans_lt upper
    have := (zpow_lt_zpow_iff_right₀ one_lt_two).1 bounded
    obtain rfl : scale = q := by omega
    exact max_eq_left holds.lowest_le

/-- A quotient that the format holds is rounded to the word that stands for it. -/
theorem Holds.roundQuotient_eq {m n d : Nat} {q : ℤ} (holds : format.Holds m q) (d_ne : d ≠ 0)
    (same : (n : ℚ) / d = m * 2 ^ q) : format.roundQuotient n d = format.wordOf m q := by
  by_cases isZero : n = 0
  · subst isZero
    have isZero : m = 0 := by
      rw [Nat.cast_zero, zero_div, eq_comm, mul_eq_zero] at same
      exact_mod_cast same.resolve_right (two_zpow_pos q).ne'
    subst isZero
    have atLowest := holds.leading.resolve_right (Nat.not_le.2 (pow2_pos _))
    rw [roundQuotient, if_pos rfl, wordOf, atLowest, Int.sub_self, Int.toNat_zero, Nat.zero_mul]
  · obtain ⟨isPositive, scaled⟩ := scaleDown_spec n (Nat.pos_of_ne_zero d_ne) q
    have isMultiple : (scaleDown n d q).1 = m * (scaleDown n d q).2 := by
      rw [same, mul_div_cancel_right₀ _ (two_zpow_pos q).ne', div_eq_iff (Nat.cast_ne_zero.2 isPositive.ne')] at scaled
      exact_mod_cast scaled
    rw [roundQuotient, if_neg isZero, holds.scaleOf_eq isZero d_ne same]
    dsimp only
    rw [isMultiple, divideToEven_mul m isPositive]
    exact min_eq_left holds.finite.le

theorem Holds.encode_eq {m m' : Nat} {q q' : ℤ} (holds : format.Holds m q)
    (same : (m' : ℚ) * 2 ^ q' = m * 2 ^ q) (negative : Bool) :
    format.encode (.finite negative m' q') = format.withSign negative (format.wordOf m q) := by
  rw [encode, roundScaled]
  congr 1
  split
  · next isUp =>
    refine holds.roundQuotient_eq one_ne_zero ?_
    rw [Nat.cast_mul, cast_pow2, Int.toNat_of_nonneg isUp, Nat.cast_one, div_one, same]
  · next isDown =>
    refine holds.roundQuotient_eq (pow2_pos _).ne' ?_
    rw [cast_pow2, Int.toNat_of_nonneg (by omega), zpow_neg, div_inv_eq_mul, same]

/-! ## Words and their fields -/

theorem signBit_eq (format : Format) : format.signBit = pow2 format.fraction * pow2 format.exponent :=
  pow2_add _ _

theorem withSign_eq (format : Format) (negative : Bool) (word : Nat) :
    format.withSign negative word = word + format.signBit * negative.toNat := by
  cases negative with
  | false => exact (Nat.add_zero word).symm
  | true => rw [withSign, if_pos rfl, Bool.toNat_true, Nat.mul_one, Nat.add_comm]

theorem withSign_lt {word : Nat} (negative : Bool) (isMagnitude : word ≤ format.infinity) :
    format.withSign negative word < 2 * format.signBit := by
  have infinity_lt : format.infinity < format.signBit := by
    rw [infinity, signBit_eq, Nat.mul_comm]
    exact Nat.mul_lt_mul_of_pos_left (Nat.sub_one_lt (pow2_pos _).ne') (pow2_pos _)
  rw [withSign]
  split <;> omega

theorem decode_fields {field rest : Nat} (negative : Bool) (field_lt : field < pow2 format.exponent)
    (rest_lt : rest < pow2 format.fraction) :
    format.decode (format.withSign negative (field * pow2 format.fraction + rest)) =
      if field = pow2 format.exponent - 1 then if rest = 0 then .infinite negative else .notANumber
      else if field = 0 then .finite negative rest format.lowest
      else .finite negative (pow2 format.fraction + rest) (format.lowest + (field - 1)) := by
  have arranged : format.withSign negative (field * pow2 format.fraction + rest) =
      rest + pow2 format.fraction * (field + pow2 format.exponent * negative.toNat) := by
    rw [withSign_eq, signBit_eq]
    ring
  have high : format.withSign negative (field * pow2 format.fraction + rest) / pow2 format.fraction =
      field + pow2 format.exponent * negative.toNat := by
    rw [arranged, Nat.add_mul_div_left _ _ (pow2_pos _), Nat.div_eq_of_lt rest_lt, Nat.zero_add]
  have isSign : format.withSign negative (field * pow2 format.fraction + rest) / format.signBit = negative.toNat := by
    rw [signBit_eq, ← Nat.div_div_eq_div_mul, high, Nat.add_mul_div_left _ _ (pow2_pos _), Nat.div_eq_of_lt field_lt,
      Nat.zero_add]
  have isField : format.withSign negative (field * pow2 format.fraction + rest) / pow2 format.fraction %
      pow2 format.exponent = field := by
    rw [high, Nat.add_mul_mod_self_left, Nat.mod_eq_of_lt field_lt]
  have isRest : format.withSign negative (field * pow2 format.fraction + rest) % pow2 format.fraction = rest := by
    rw [arranged, Nat.add_mul_mod_self_left, Nat.mod_eq_of_lt rest_lt]
  have isNegative : (negative.toNat % 2 == 1) = negative := by cases negative <;> rfl
  rw [decode, isSign, isField, isRest, isNegative]

theorem exists_fields {word : Nat} (isWord : word < 2 * format.signBit) :
    ∃ negative field rest, field < pow2 format.exponent ∧ rest < pow2 format.fraction ∧
      word = format.withSign negative (field * pow2 format.fraction + rest) := by
  have isSign : word / format.signBit < 2 := Nat.div_lt_of_lt_mul (Nat.mul_comm .. ▸ isWord)
  obtain ⟨negative, isNegative⟩ : ∃ negative : Bool, negative.toNat = word / format.signBit := by
    obtain isZero | isOne := Nat.le_one_iff_eq_zero_or_eq_one.1 (Nat.le_of_lt_succ isSign)
    · exact ⟨false, isZero.symm⟩
    · exact ⟨true, isOne.symm⟩
  refine ⟨negative, word / pow2 format.fraction % pow2 format.exponent, word % pow2 format.fraction,
    Nat.mod_lt _ (pow2_pos _), Nat.mod_lt _ (pow2_pos _), ?_⟩
  have high := Nat.mod_add_div (word / pow2 format.fraction) (pow2 format.exponent)
  rw [Nat.div_div_eq_div_mul, ← signBit_eq, ← isNegative] at high
  have whole := Nat.mod_add_div word (pow2 format.fraction)
  rw [← high] at whole
  rw [withSign_eq, signBit_eq]
  linarith

theorem Holds.field_lt {m : Nat} {q : ℤ} (holds : format.Holds m q) :
    (q - format.lowest).toNat + m / pow2 format.fraction < pow2 format.exponent - 1 := by
  rw [Nat.add_comm, ← Nat.add_mul_div_right _ _ (pow2_pos _), Nat.div_lt_iff_lt_mul (pow2_pos _), Nat.add_comm]
  exact holds.finite

theorem Holds.decode_eq {m : Nat} {q : ℤ} (holds : format.Holds m q) (negative : Bool) :
    format.decode (format.withSign negative (format.wordOf m q)) = .finite negative m q := by
  have field_lt := holds.field_lt
  by_cases leads : pow2 format.fraction ≤ m
  · have isOne : m / pow2 format.fraction = 1 := Nat.div_eq_of_lt_le (by rwa [Nat.one_mul]) holds.short
    have arranged : format.wordOf m q =
        ((q - format.lowest).toNat + 1) * pow2 format.fraction + (m - pow2 format.fraction) := by
      rw [wordOf, Nat.add_mul, Nat.one_mul, Nat.add_assoc, Nat.add_sub_cancel' leads]
    have rest_lt : m - pow2 format.fraction < pow2 format.fraction := by
      have := holds.short
      omega
    rw [isOne] at field_lt
    rw [arranged, decode_fields negative (Nat.lt_of_lt_pred field_lt) rest_lt, if_neg field_lt.ne,
      if_neg (Nat.succ_ne_zero _), Nat.add_sub_cancel' leads]
    congr 1
    have := holds.lowest_le
    omega
  · have atLowest := holds.leading.resolve_right leads
    have isZero : m / pow2 format.fraction = 0 := Nat.div_eq_of_lt (Nat.lt_of_not_le leads)
    have arranged : format.wordOf m q = 0 * pow2 format.fraction + m := by
      rw [wordOf, atLowest, Int.sub_self, Int.toNat_zero]
    rw [isZero, atLowest, Int.sub_self, Int.toNat_zero] at field_lt
    rw [arranged, decode_fields negative (pow2_pos _) (Nat.lt_of_not_le leads), if_neg field_lt.ne, if_pos rfl, atLowest]

/-- A word that stands for a number is the one that the number is rounded to. -/
theorem holds_of_decode {word m : Nat} {q : ℤ} {negative : Bool} (isWord : word < 2 * format.signBit)
    (isNumber : format.decode word = .finite negative m q) :
    format.Holds m q ∧ word = format.withSign negative (format.wordOf m q) := by
  obtain ⟨sign, field, rest, field_lt, rest_lt, rfl⟩ := exists_fields isWord
  rw [decode_fields sign field_lt rest_lt] at isNumber
  split at isNumber
  · split at isNumber <;> cases isNumber
  · next notHighest =>
    have finite : field * pow2 format.fraction + rest < format.infinity :=
      calc field * pow2 format.fraction + rest
          < (field + 1) * pow2 format.fraction := by rw [Nat.add_mul, Nat.one_mul]; exact Nat.add_lt_add_left rest_lt _
        _ ≤ format.infinity := Nat.mul_le_mul_right _ (by omega)
    split at isNumber
    · next isZero =>
      cases isNumber
      subst isZero
      have arranged : format.wordOf m format.lowest = 0 * pow2 format.fraction + m := by
        rw [wordOf, Int.sub_self, Int.toNat_zero]
      exact ⟨⟨le_rfl, .inl rfl, by omega, arranged.trans_lt finite⟩, by rw [arranged]⟩
    · next notZero =>
      cases isNumber
      have arranged : format.wordOf (pow2 format.fraction + rest) (format.lowest + (field - 1)) =
          field * pow2 format.fraction + rest := by
        have above : (format.lowest + ((field : ℤ) - 1) - format.lowest).toNat + 1 = field := by omega
        rw [wordOf, ← Nat.add_assoc, ← Nat.succ_mul, Nat.succ_eq_add_one, above]
      exact ⟨⟨by omega, .inr (Nat.le_add_right _ _), by omega, arranged.trans_lt finite⟩, by rw [arranged]⟩

theorem eq_of_decode_infinite {word : Nat} {negative : Bool} (isWord : word < 2 * format.signBit)
    (isInfinite : format.decode word = .infinite negative) : word = format.withSign negative format.infinity := by
  obtain ⟨sign, field, rest, field_lt, rest_lt, rfl⟩ := exists_fields isWord
  rw [decode_fields sign field_lt rest_lt] at isInfinite
  split at isInfinite
  · next isHighest =>
    split at isInfinite
    · next isZero =>
      cases isInfinite
      rw [isHighest, isZero, Nat.add_zero, infinity]
    · cases isInfinite
  · split at isInfinite <;> cases isInfinite

/-- Rounding keeps what a word stands for, not-a-number apart, which has many words. -/
theorem encode_decode {word : Nat} (isWord : word < 2 * format.signBit) (isNumber : format.decode word ≠ .notANumber) :
    format.encode (format.decode word) = word := by
  cases decoded : format.decode word with
  | notANumber => exact absurd decoded isNumber
  | infinite negative => exact (eq_of_decode_infinite isWord decoded).symm
  | finite negative m q =>
    obtain ⟨holds, isKept⟩ := holds_of_decode isWord decoded
    rw [holds.encode_eq rfl, ← isKept]

/-! ## The 32-bit format and the 64-bit one -/

/-- The 64-bit format holds what the 32-bit one holds. -/
theorem Holds.widened {m : Nat} {q : ℤ} (holds : single.Holds m q) :
    ∃ m' q', double.Holds m' q' ∧ (m' : ℚ) * 2 ^ q' = m * 2 ^ q := by
  by_cases isZero : m = 0
  · exact ⟨0, double.lowest, ⟨le_rfl, .inl rfl, by decide, by decide⟩, by simp [isZero]⟩
  have log_lt : Nat.log2 m < 24 := (Nat.log2_lt isZero).2 holds.short
  have scale_lt : (q + 149).toNat * 8388608 + m < 255 * 8388608 := holds.finite
  have scale_ge : -149 ≤ q := holds.lowest_le
  obtain ⟨shift, isShift⟩ : ∃ shift, Nat.log2 m + shift = 52 := ⟨52 - Nat.log2 m, by omega⟩
  have leads : pow2 52 ≤ m * pow2 shift := by
    rw [← isShift, pow2_add]
    exact Nat.mul_le_mul_right _ (Nat.log2_self_le isZero)
  have short : m * pow2 shift < pow2 53 := by
    have isShift : Nat.log2 m + 1 + shift = 53 := by omega
    rw [← isShift, pow2_add]
    exact Nat.mul_lt_mul_of_pos_right Nat.lt_log2_self (pow2_pos _)
  have finite : (q - shift + 1074).toNat * 4503599627370496 + m * pow2 shift < 2047 * 4503599627370496 :=
    calc (q - shift + 1074).toNat * 4503599627370496 + m * pow2 shift
        < 2000 * 4503599627370496 + 9007199254740992 :=
          Nat.add_lt_add_of_le_of_lt (Nat.mul_le_mul_right _ (by omega)) short
      _ ≤ 2047 * 4503599627370496 := by decide
  refine ⟨m * pow2 shift, q - shift, ⟨?_, .inr leads, short, finite⟩, ?_⟩
  · show (-1074 : ℤ) ≤ q - shift
    omega
  · rw [Nat.cast_mul, cast_pow2, mul_assoc, ← two_zpow_add, add_sub_cancel]

end Format

/-! ## Floating-point numbers and their words -/

open Float.Model.UnpackedFloat in
theorem isNaNBits_iff {spec : Float.Model.Format} (word : BitVec spec.numBits) :
    isNaNBits word = true ↔
      (Format.mk spec.mantissaBitsWithoutImplicit spec.exponentBits).decode word.toNat = .notANumber := by
  have isField : unpackExponent word = -BitVec.ofNat spec.exponentBits 1 ↔
      word.toNat / pow2 spec.mantissaBitsWithoutImplicit % pow2 spec.exponentBits = pow2 spec.exponentBits - 1 := by
    rw [unpackExponent_def, BitVec.neg_one_eq_allOnes, ← BitVec.toNat_inj, BitVec.extractLsb'_toNat,
      BitVec.toNat_allOnes, Nat.shiftRight_eq_div_pow]
    rfl
  have isRest : unpackMantissa word = BitVec.ofNat spec.mantissaBitsWithoutImplicit 0 ↔
      word.toNat % pow2 spec.mantissaBitsWithoutImplicit = 0 := by
    rw [unpackMantissa_def, ← BitVec.toNat_inj, BitVec.extractLsb'_toNat, Nat.shiftRight_zero, BitVec.toNat_ofNat,
      Nat.zero_mod]
    rfl
  rw [isNaNBits, decide_eq_true_iff, isField, Ne, isRest, Format.decode]
  dsimp only
  split
  · next isHighest =>
    split
    · next isZero => exact iff_of_false (fun ⟨_, notZero⟩ => notZero isZero) nofun
    · next notZero => exact iff_of_true ⟨isHighest, notZero⟩ rfl
  · next notHighest =>
    refine iff_of_false (fun ⟨isHighest, _⟩ => notHighest isHighest) fun isNumber => ?_
    split at isNumber <;> cases isNumber

theorem toBits_ofBits {word : UInt64} (isNumber : Format.double.decode word.toNat ≠ .notANumber) :
    (Float.ofBits word).toBits = word := by
  have packed := @Float.Model.UnpackedFloat.pack_unpack .binary64 word.toBitVec (by decide)
  have notNaN := mt (@isNaNBits_iff .binary64 word.toBitVec).1 isNumber
  exact UInt64.toBitVec_inj.1 (packed.trans (if_neg notNaN))

theorem ofFloat_ofBits {word : Nat} (isWord : word < 2 * Format.double.signBit)
    (isNumber : Format.double.decode word ≠ .notANumber) :
    ofFloat (Float.ofBits (UInt64.ofNat word)) = Format.double.decode word := by
  have same : (UInt64.ofNat word).toNat = word := UInt64.toNat_ofNat_of_lt isWord
  rw [ofFloat, toBits_ofBits (by rwa [same]), same]

theorem toBits_of_notANumber {x : Float32} (isNumber : ofFloat32 x = .notANumber) :
    x.toBits.toNat = Format.single.notANumber := by
  have isNaN := (@isNaNBits_iff .binary32 x.toBits.toBitVec).2 isNumber
  rw [Float.Model.UnpackedFloat.isNaNBits, decide_eq_true_iff] at isNaN
  exact congrArg BitVec.toNat (x.toModel.valid.eq_packedNaN isNaN.1 isNaN.2)

theorem toFloat32_ofFloat32 (x : Float32) : (ofFloat32 x).toFloat32 = x := by
  have isWord : Format.single.encode (ofFloat32 x) = x.toBits.toNat := by
    by_cases isNumber : ofFloat32 x = .notANumber
    · rw [toBits_of_notANumber isNumber, isNumber, Format.encode]
    · exact Format.encode_decode x.toBits.toNat_lt isNumber
  rw [Exact.toFloat32, isWord, UInt32.ofNat_toNat, Float32.ofBits_toBits]

/-- A 32-bit number comes back from the 64-bit format unchanged. -/
theorem toFloat32_of_toFloat (x : Float32) : (ofFloat (ofFloat32 x).toFloat).toFloat32 = x := by
  suffices same : (ofFloat (ofFloat32 x).toFloat).toFloat32 = (ofFloat32 x).toFloat32 by
    rw [same, toFloat32_ofFloat32]
  cases shape : ofFloat32 x with
  | notANumber =>
    have kept : ofFloat (Exact.toFloat .notANumber) = .notANumber := by decide +kernel
    rw [kept]
  | infinite negative =>
    have decoded : Format.double.decode (Format.double.withSign negative Format.double.infinity) = .infinite negative := by
      cases negative <;> decide
    have kept : ofFloat (Exact.toFloat (.infinite negative)) = .infinite negative :=
      (ofFloat_ofBits (Format.withSign_lt negative le_rfl) (by rw [decoded]; rintro ⟨⟩)).trans decoded
    rw [kept]
  | finite negative m q =>
    obtain ⟨holds, -⟩ := Format.holds_of_decode x.toBits.toNat_lt shape
    obtain ⟨m', q', wide, same⟩ := holds.widened
    have decoded := wide.decode_eq negative
    have kept : ofFloat (Exact.toFloat (.finite negative m q)) = .finite negative m' q' := by
      rw [Exact.toFloat, wide.encode_eq same.symm]
      exact (ofFloat_ofBits (Format.withSign_lt negative wide.finite.le) (by rw [decoded]; rintro ⟨⟩)).trans decoded
    rw [kept, Exact.toFloat32, Exact.toFloat32, holds.encode_eq same, holds.encode_eq rfl]

end LateBound.Number
