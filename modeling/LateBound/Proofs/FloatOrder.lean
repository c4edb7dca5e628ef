import LateBound.Proofs.Rounding

/-!
# The order of floating-point numbers

Two numbers of a format are compared by their signs, their scales and their significands. Because each has only one form
in the format, this is the order of the numbers that they stand for. An integer is rounded to a number of the format,
and no other is nearer to it, so that rounding never turns the order of two integers around.
-/

namespace LateBound.Number

def factor : Bool → ℚ
  | false => 1
  | true => -1

@[simp] theorem factor_false : factor false = 1 := rfl

@[simp] theorem factor_true : factor true = -1 := rfl

theorem factor_mul (negative negative' : Bool) (r : ℚ) :
    factor negative * (factor negative' * r) = factor (negative ^^ negative') * r := by
  cases negative <;> cases negative' <;> simp

theorem dist_factor (negative : Bool) (r s : ℚ) : |factor negative * r - s| = |r - factor negative * s| := by
  cases negative with
  | false => rw [factor_false, one_mul, one_mul]
  | true => rw [factor_true, neg_one_mul, neg_one_mul, sub_neg_eq_add, ← neg_add', abs_neg]

def Exact.rational? : Exact → Option ℚ
  | .finite negative m q => some (factor negative * (m * 2 ^ q))
  | _ => none

namespace Format

variable {format : Format}

/-- Of two numbers in their forms the one at the lower scale is smaller, and at one scale the one with the smaller
significand. -/
theorem Holds.lt_iff {m m' : Nat} {q q' : ℤ} (holds : format.Holds m q) (holds' : format.Holds m' q') :
    (m : ℚ) * 2 ^ q < m' * 2 ^ q' ↔ q < q' ∨ q = q' ∧ m < m' := by
  have below {n n' : Nat} {p p' : ℤ} (holds : format.Holds n p) (holds' : format.Holds n' p') (lower : p < p') :
      (n : ℚ) * 2 ^ p < n' * 2 ^ p' := by
    have leads : (2 : ℚ) ^ (format.fraction : ℤ) ≤ n' := by
      rw [← cast_pow2]
      exact_mod_cast holds'.leading.resolve_left (holds.lowest_le.trans_lt lower).ne'
    have short : (n : ℚ) < 2 * 2 ^ (format.fraction : ℤ) := by
      rw [← cast_pow2]
      exact_mod_cast holds.short
    calc (n : ℚ) * 2 ^ p < 2 * 2 ^ (format.fraction : ℤ) * 2 ^ p := mul_lt_mul_of_pos_right short (two_zpow_pos p)
      _ = 2 ^ (format.fraction : ℤ) * 2 ^ (p + 1) := by rw [two_zpow_add, zpow_one]; ring
      _ ≤ 2 ^ (format.fraction : ℤ) * 2 ^ p' :=
          mul_le_mul_of_nonneg_left (zpow_le_zpow_right₀ one_le_two (by omega)) (two_zpow_pos _).le
      _ ≤ n' * 2 ^ p' := mul_le_mul_of_nonneg_right leads (two_zpow_pos p').le
  obtain lower | rfl | higher := lt_trichotomy q q'
  · exact iff_of_true (below holds holds' lower) (.inl lower)
  · rw [mul_lt_mul_iff_left₀ (two_zpow_pos q), Nat.cast_lt]
    omega
  · refine iff_of_false (not_lt_of_gt (below holds' holds higher)) ?_
    omega

/-! ## Rounding to the nearest number -/

/-- A quotient is divided to the whole number that no other is nearer to. -/
theorem divideToEven_nearest (n : Nat) {d : Nat} (isPositive : 0 < d) (j : ℤ) :
    |(divideToEven n d : ℚ) - (n : ℚ) / d| ≤ |(j : ℚ) - (n : ℚ) / d| := by
  have above : (0 : ℚ) < d := Nat.cast_pos.2 isPositive
  obtain ⟨whole, isWhole⟩ : ∃ whole, whole = n / d := ⟨_, rfl⟩
  obtain ⟨part, isPart⟩ : ∃ part : ℚ, part = ((n % d : Nat) : ℚ) / d := ⟨_, rfl⟩
  have isDivided : (n : ℚ) / d = whole + part := by
    rw [isPart, isWhole, div_eq_iff above.ne', add_mul, div_mul_cancel₀ _ above.ne', mul_comm]
    exact_mod_cast (Nat.div_add_mod n d).symm
  have least : 0 ≤ part := isPart ▸ div_nonneg (Nat.cast_nonneg _) above.le
  have isShort : part < 1 := by
    rw [isPart, div_lt_one above]
    exact_mod_cast Nat.mod_lt n isPositive
  -- Every whole number is at least as far away as one of the two around the quotient.
  have far : min part (1 - part) ≤ |(j : ℚ) - (n : ℚ) / d| := by
    rw [isDivided]
    obtain below | behind := le_or_gt j whole
    · have below : (j : ℚ) ≤ whole := by exact_mod_cast below
      exact (min_le_left _ _).trans (le_abs.2 (.inr (by linarith)))
    · have behind : (whole : ℚ) + 1 ≤ j := by exact_mod_cast behind
      exact (min_le_right _ _).trans (le_abs.2 (.inl (by linarith)))
  refine le_trans ?_ far
  have isTwice : 2 * part = ((2 * (n % d) : Nat) : ℚ) / d := by
    rw [isPart, Nat.cast_mul, Nat.cast_ofNat, mul_div_assoc]
  rw [isDivided, divideToEven, ← isWhole]
  split
  · next below =>
    have below : 2 * part < 1 := by
      rw [isTwice, div_lt_one above]
      exact_mod_cast below
    rw [min_eq_left (by linarith), sub_add_cancel_left, abs_neg, abs_of_nonneg least]
  · split
    · next behind =>
      have behind : 1 < 2 * part := by
        rw [isTwice, one_lt_div above]
        exact_mod_cast behind
      rw [min_eq_right (by linarith), Nat.cast_succ, add_sub_add_left_eq_sub, abs_of_pos (by linarith)]
    · next notBelow notBehind =>
      have isHalf : 2 * part = 1 := by
        rw [isTwice, div_eq_one_iff_eq above.ne']
        exact_mod_cast Nat.le_antisymm (Nat.le_of_not_lt notBehind) (Nat.le_of_not_lt notBelow)
      obtain even | odd := Nat.mod_two_eq_zero_or_one whole
      · rw [even, Nat.add_zero, min_eq_left (by linarith), sub_add_cancel_left, abs_neg, abs_of_nonneg least]
      · rw [odd, min_eq_right (by linarith), Nat.cast_succ, add_sub_add_left_eq_sub, abs_of_pos (by linarith)]

/-- A positive number is rounded to a multiple of two to a power. The scale leaves `fraction + 1` bits in front of the
point, unless it is the lowest one; the significand may have one bit more. -/
structure RoundsTo (format : Format) (r : ℚ) (k : Nat) (q : ℤ) : Prop where
  lowest_le : format.lowest ≤ q
  leading : q = format.lowest ∨ (2 : ℚ) ^ ((format.fraction : ℤ) + q) ≤ r
  short : r < 2 ^ ((format.fraction : ℤ) + q + 1)
  nearest : ∀ j : ℤ, |(k : ℚ) * 2 ^ q - r| ≤ |j * 2 ^ q - r|

theorem exists_roundsTo {n d : Nat} (n_ne : n ≠ 0) (d_ne : d ≠ 0) :
    ∃ k q, format.RoundsTo ((n : ℚ) / d) k q ∧ format.roundQuotient n d = min (format.wordOf k q) format.infinity := by
  obtain ⟨scale, isScale, lower, upper⟩ := format.scaleOf_spec n_ne d_ne
  obtain ⟨q, isQ⟩ : ∃ q, q = format.scaleOf n d := ⟨_, rfl⟩
  obtain ⟨isPositive, scaled⟩ := scaleDown_spec n (Nat.pos_of_ne_zero d_ne) q
  obtain ⟨k, isK⟩ : ∃ k, k = divideToEven (scaleDown n d q).1 (scaleDown n d q).2 := ⟨_, rfl⟩
  have scale_le : scale ≤ q := by
    rw [isQ, isScale]
    exact le_max_left _ _
  refine ⟨k, q, ⟨?_, ?_, ?_, fun j => ?_⟩, ?_⟩
  · rw [isQ, isScale]
    exact le_max_right _ _
  · obtain higher | atLowest := max_choice scale format.lowest
    · rw [isQ, isScale, higher]
      exact .inr lower
    · rw [isQ, isScale]
      exact .inl atLowest
  · exact upper.trans_le (zpow_le_zpow_right₀ one_le_two (by omega))
  · -- At the scale of the number the distances are those of whole numbers.
    have spread (x : ℚ) : |x * 2 ^ q - (n : ℚ) / d| = |x - (n : ℚ) / d / 2 ^ q| * 2 ^ q := by
      rw [← abs_of_pos (two_zpow_pos q), ← abs_mul, abs_of_pos (two_zpow_pos q), sub_mul,
        div_mul_cancel₀ _ (two_zpow_pos q).ne']
    rw [spread, spread, ← scaled, isK]
    exact mul_le_mul_of_nonneg_right (divideToEven_nearest _ isPositive j) (two_zpow_pos q).le
  · rw [roundQuotient, if_neg n_ne, isK, isQ]
    rfl

section

variable {r : ℚ} {k : Nat} {q : ℤ} (rounds : format.RoundsTo r k q)

include rounds

theorem RoundsTo.le_pow : k ≤ 2 * pow2 format.fraction := by
  have nearest := rounds.nearest (2 * pow2 format.fraction : Nat)
  have same : (((2 * pow2 format.fraction : Nat) : ℤ) : ℚ) * 2 ^ q = 2 ^ ((format.fraction : ℤ) + q + 1) := by
    rw [Int.cast_natCast, Nat.cast_mul, cast_pow2, two_zpow_add, two_zpow_add]
    ring
  rw [same, abs_of_pos (sub_pos.2 rounds.short)] at nearest
  have bounded : (k : ℚ) * 2 ^ q ≤ ((2 * pow2 format.fraction : Nat) : ℚ) * 2 ^ q := by
    rw [← Int.cast_natCast (2 * pow2 format.fraction), same]
    linarith [le_abs_self ((k : ℚ) * 2 ^ q - r)]
  exact_mod_cast (mul_le_mul_iff_left₀ (two_zpow_pos q)).1 bounded

theorem RoundsTo.pow_le : q = format.lowest ∨ pow2 format.fraction ≤ k := by
  refine rounds.leading.imp_right fun leads => ?_
  have nearest := rounds.nearest (pow2 format.fraction : Nat)
  have same : (((pow2 format.fraction : Nat) : ℤ) : ℚ) * 2 ^ q = 2 ^ ((format.fraction : ℤ) + q) := by
    rw [Int.cast_natCast, cast_pow2, two_zpow_add]
  rw [same, abs_of_nonpos (sub_nonpos.2 leads)] at nearest
  have bounded : ((pow2 format.fraction : Nat) : ℚ) * 2 ^ q ≤ (k : ℚ) * 2 ^ q := by
    rw [← Int.cast_natCast (pow2 format.fraction), same]
    linarith [neg_le_abs ((k : ℚ) * 2 ^ q - r)]
  exact_mod_cast (mul_le_mul_iff_left₀ (two_zpow_pos q)).1 bounded

/-- What a number is rounded to is held by the format, if its word is that of a number. A significand that is one bit
too long moves up to the next scale, where the word is the same. -/
theorem RoundsTo.exists_holds (finite : format.wordOf k q < format.infinity) :
    ∃ m p, format.Holds m p ∧ format.wordOf m p = format.wordOf k q ∧ (m : ℚ) * 2 ^ p = k * 2 ^ q := by
  obtain short | carried := rounds.le_pow.lt_or_eq
  · exact ⟨k, q, ⟨rounds.lowest_le, rounds.pow_le, short, finite⟩, rfl, rfl⟩
  · have lowest_le := rounds.lowest_le
    have sameWord : format.wordOf (pow2 format.fraction) (q + 1) = format.wordOf k q := by
      have higher : (q + 1 - format.lowest).toNat = (q - format.lowest).toNat + 1 := by omega
      rw [wordOf, wordOf, higher, carried]
      ring
    refine ⟨pow2 format.fraction, q + 1, ⟨by omega, .inr le_rfl, ?_, sameWord ▸ finite⟩, sameWord, ?_⟩
    · have := pow2_pos format.fraction
      omega
    · rw [carried, two_zpow_add, zpow_one, Nat.cast_mul, Nat.cast_ofNat]
      ring

theorem RoundsTo.eq_of_multiple {j : ℤ} (isMultiple : (j : ℚ) * 2 ^ q = r) : (k : ℚ) * 2 ^ q = r := by
  have nearest := rounds.nearest j
  rw [isMultiple, sub_self, abs_zero, abs_nonpos_iff, sub_eq_zero] at nearest
  exact nearest

/-- No number of the format is nearer than the one that a number is rounded to. -/
theorem RoundsTo.le_of_holds {m : Nat} {p : ℤ} (holds : format.Holds m p) (negative : Bool) :
    |(k : ℚ) * 2 ^ q - r| ≤ |factor negative * ((m : ℚ) * 2 ^ p) - r| := by
  obtain fine | coarse := le_or_gt q p
  · -- At a higher scale every number is a multiple at this one.
    obtain ⟨shift, rfl⟩ : ∃ shift : Nat, p = q + shift := ⟨(p - q).toNat, by omega⟩
    obtain ⟨j, isMultiple⟩ : ∃ j : ℤ, factor negative * (m * 2 ^ shift) = j := by
      cases negative with
      | false => exact ⟨m * 2 ^ shift, by push_cast; exact one_mul _⟩
      | true => exact ⟨-(m * 2 ^ shift), by push_cast; exact neg_one_mul _⟩
    have same : factor negative * ((m : ℚ) * 2 ^ (q + shift)) = j * 2 ^ q := by
      rw [← isMultiple, two_zpow_add, zpow_natCast]
      ring
    rw [same]
    exact rounds.nearest j
  · -- At a lower scale the numbers stay below the first one with its leading bit in place at this scale.
    have leads := rounds.leading.resolve_left (holds.lowest_le.trans_lt coarse).ne'
    have nearest := rounds.nearest (pow2 format.fraction : Nat)
    have same : (((pow2 format.fraction : Nat) : ℤ) : ℚ) * 2 ^ q = 2 ^ ((format.fraction : ℤ) + q) := by
      rw [Int.cast_natCast, cast_pow2, two_zpow_add]
    rw [same, abs_of_nonpos (sub_nonpos.2 leads)] at nearest
    have short : (m : ℚ) * 2 ^ p ≤ 2 ^ ((format.fraction : ℤ) + q) := by
      have short : (m : ℚ) ≤ 2 ^ ((format.fraction : ℤ) + 1) := by
        rw [two_zpow_add, ← cast_pow2, zpow_one, mul_comm]
        exact_mod_cast holds.short.le
      calc (m : ℚ) * 2 ^ p ≤ 2 ^ ((format.fraction : ℤ) + 1) * 2 ^ p :=
            mul_le_mul_of_nonneg_right short (two_zpow_pos p).le
        _ = 2 ^ ((format.fraction : ℤ) + 1 + p) := (two_zpow_add _ _).symm
        _ ≤ 2 ^ ((format.fraction : ℤ) + q) := zpow_le_zpow_right₀ one_le_two (by omega)
    have atMost : factor negative * ((m : ℚ) * 2 ^ p) ≤ (m : ℚ) * 2 ^ p := by
      have least : 0 ≤ (m : ℚ) * 2 ^ p := mul_nonneg (Nat.cast_nonneg m) (two_zpow_pos p).le
      cases negative with
      | false => exact (one_mul _).le
      | true =>
        rw [factor_true]
        linarith
    refine nearest.trans ?_
    linarith [neg_le_abs (factor negative * ((m : ℚ) * 2 ^ p) - r)]

end

end Format

open Float.Model Float.Model.UnpackedFloat

def signOf (negative : Bool) : Sign :=
  if negative then .negative else .positive

def unpacked : Exact → UnpackedFloat
  | .notANumber => .notANumber
  | .infinite negative => .infinity (signOf negative)
  | .finite negative m q =>
    if isPositive : 0 < m then .finite (signOf negative) m q isPositive else .zero (signOf negative)

section

variable (word : BitVec 64)

theorem toNat_unpackExponent :
    (@unpackExponent .binary64 word).toNat = word.toNat / pow2 52 % pow2 11 := by
  rw [unpackExponent_def, BitVec.extractLsb'_toNat, Nat.shiftRight_eq_div_pow]
  rfl

theorem toNat_unpackMantissa : (@unpackMantissa .binary64 word).toNat = word.toNat % pow2 52 := by
  rw [unpackMantissa_def, BitVec.extractLsb'_toNat, Nat.shiftRight_zero]
  rfl

theorem ofBitVec_unpackSign :
    Sign.ofBitVec (@unpackSign .binary64 word) = signOf (word.toNat / Format.double.signBit % 2 == 1) := by
  have isSign : (@unpackSign .binary64 word).toNat = word.toNat / Format.double.signBit % 2 := by
    rw [unpackSign_def, BitVec.extractLsb'_toNat, Nat.shiftRight_eq_div_pow]
    rfl
  have isZero : @unpackSign .binary64 word = 0#1 ↔ word.toNat / Format.double.signBit % 2 = 0 := by
    rw [← BitVec.toNat_inj, isSign]
    rfl
  unfold Sign.ofBitVec signOf
  obtain zero | one := Nat.mod_two_eq_zero_or_one (word.toNat / Format.double.signBit)
  · rw [if_pos (isZero.2 zero), zero]
    rfl
  · rw [if_neg (fun same => Nat.zero_ne_one ((isZero.1 same).symm.trans one)), one]
    rfl

/-- The floating-point model reads a word as the format does. -/
theorem unpack_word : UnpackedFloat.unpack .binary64 word = unpacked (Format.double.decode word.toNat) := by
  have highest : @unpackExponent .binary64 word = -1#11 ↔ word.toNat / pow2 52 % pow2 11 = pow2 11 - 1 := by
    rw [← BitVec.toNat_inj, toNat_unpackExponent]
    rfl
  have lowest : @unpackExponent .binary64 word = 0#11 ↔ word.toNat / pow2 52 % pow2 11 = 0 := by
    rw [← BitVec.toNat_inj, toNat_unpackExponent]
    rfl
  have noRest : @unpackMantissa .binary64 word = 0#52 ↔ word.toNat % pow2 52 = 0 := by
    rw [← BitVec.toNat_inj, toNat_unpackMantissa]
    rfl
  have decoded : Format.double.decode word.toNat =
      let negative := word.toNat / Format.double.signBit % 2 == 1
      let field := word.toNat / pow2 52 % pow2 11
      let rest := word.toNat % pow2 52
      if field = pow2 11 - 1 then if rest = 0 then .infinite negative else .notANumber
      else if field = 0 then .finite negative rest (-1074)
      else .finite negative (pow2 52 + rest) (-1074 + (field - 1)) := rfl
  rw [decoded]
  unfold UnpackedFloat.unpack
  dsimp only
  by_cases isHighest : word.toNat / pow2 52 % pow2 11 = pow2 11 - 1
  · rw [if_pos (highest.2 isHighest), if_pos isHighest]
    by_cases isWhole : word.toNat % pow2 52 = 0
    · rw [if_pos (noRest.2 isWhole), if_pos isWhole, ofBitVec_unpackSign]
      rfl
    · rw [if_neg (mt noRest.1 isWhole), if_neg isWhole]
      rfl
  · rw [if_neg (mt highest.1 isHighest), if_neg isHighest]
    by_cases isLowest : word.toNat / pow2 52 % pow2 11 = 0
    · rw [if_pos (lowest.2 isLowest), if_pos isLowest]
      by_cases isZero : word.toNat % pow2 52 = 0
      · rw [dif_pos (noRest.2 isZero), ofBitVec_unpackSign, unpacked, dif_neg (Nat.not_lt.2 isZero.le)]
      · rw [dif_neg (mt noRest.1 isZero), unpacked, dif_pos (Nat.pos_of_ne_zero isZero), UnpackedFloat.finite.injEq,
          ofBitVec_unpackSign, toNat_unpackMantissa, toNat_unpackExponent, isLowest]
        exact ⟨rfl, rfl, rfl⟩
    · have leads : 0 < pow2 52 + word.toNat % pow2 52 := Nat.add_pos_left (pow2_pos 52) _
      rw [if_neg (mt lowest.1 isLowest), if_neg isLowest, unpacked, dif_pos leads, UnpackedFloat.finite.injEq,
        ofBitVec_unpackSign, toNat_unpackExponent, BitVec.toNat_append]
      refine ⟨rfl, ?_, ?_⟩
      · rw [← Nat.shiftLeft_add_eq_or_of_lt (BitVec.isLt _), toNat_unpackMantissa]
        rfl
      · show _ - (1023 + 52 : ℤ) = _
        omega

end

theorem unpack_toModel (x : Float) : x.toModel.unpack = unpacked (ofFloat x) :=
  unpack_word x.toBits.toBitVec

theorem lt_unpacked_iff {m m' : Nat} {q q' : ℤ} (holds : Format.double.Holds m q) (holds' : Format.double.Holds m' q')
    (negative negative' : Bool) :
    (unpacked (.finite negative m q)).lt (unpacked (.finite negative' m' q')) = true ↔
      factor negative * (m * 2 ^ q) < factor negative' * (m' * 2 ^ q') := by
  have order : ((compare q q').then (compare m m') = .lt) ↔ (m : ℚ) * 2 ^ q < m' * 2 ^ q' := by
    rw [holds.lt_iff holds', Ordering.then_eq_lt, Int.compare_eq_lt, Int.compare_eq_eq, Nat.compare_eq_lt]
  have order' : ((compare q q').then (compare m m') = .gt) ↔ (m' : ℚ) * 2 ^ q' < m * 2 ^ q := by
    rw [holds'.lt_iff holds, Ordering.then_eq_gt, Int.compare_eq_gt, Int.compare_eq_eq, Nat.compare_eq_gt]
    constructor <;> omega
  rw [UnpackedFloat.lt, beq_iff_eq]
  -- The signs decide unless both numbers are on one side of zero; there the magnitudes do, below zero in reverse.
  obtain rfl | isPositive := Nat.eq_zero_or_pos m <;> obtain rfl | isPositive' := Nat.eq_zero_or_pos m'
  · cases negative <;> cases negative' <;> simp [unpacked, signOf, UnpackedFloat.compare]
  · have above : (0 : ℚ) < m' * 2 ^ q' := mul_pos (Nat.cast_pos.2 isPositive') (two_zpow_pos q')
    cases negative <;> cases negative' <;> simp [unpacked, signOf, UnpackedFloat.compare, isPositive', above, above.le]
  · have above : (0 : ℚ) < m * 2 ^ q := mul_pos (Nat.cast_pos.2 isPositive) (two_zpow_pos q)
    cases negative <;> cases negative' <;> simp [unpacked, signOf, UnpackedFloat.compare, isPositive, above, above.le]
  · have above : (0 : ℚ) < m * 2 ^ q := mul_pos (Nat.cast_pos.2 isPositive) (two_zpow_pos q)
    have above' : (0 : ℚ) < m' * 2 ^ q' := mul_pos (Nat.cast_pos.2 isPositive') (two_zpow_pos q')
    have apart : -((m' : ℚ) * 2 ^ q') ≤ m * 2 ^ q := by linarith
    have apart' : -((m : ℚ) * 2 ^ q) < m' * 2 ^ q' := by linarith
    cases negative <;> cases negative' <;>
      simp [unpacked, signOf, UnpackedFloat.compare, isPositive, isPositive', order, order', apart, apart']

/-- Floating-point numbers are compared as the numbers that they are. -/
theorem lt_iff_rational {x y : Float} {r s : ℚ} (isX : (ofFloat x).rational? = some r)
    (isY : (ofFloat y).rational? = some s) : x < y ↔ r < s := by
  cases shape : ofFloat x with
  | notANumber | infinite =>
    rw [shape] at isX
    cases isX
  | finite negative m q =>
    cases shape' : ofFloat y with
    | notANumber | infinite =>
      rw [shape'] at isY
      cases isY
    | finite negative' m' q' =>
      obtain ⟨holds, -⟩ := Format.holds_of_decode x.toBits.toNat_lt shape
      obtain ⟨holds', -⟩ := Format.holds_of_decode y.toBits.toNat_lt shape'
      rw [shape] at isX
      rw [shape'] at isY
      cases isX
      cases isY
      have compared : x < y ↔ (x.toModel.unpack).lt y.toModel.unpack = true := decide_eq_true_iff
      rw [compared, unpack_toModel, unpack_toModel, shape, shape']
      exact lt_unpacked_iff holds holds' negative negative'

theorem isNaN_eq_false_of_rational {x : Float} {r : ℚ} (isX : (ofFloat x).rational? = some r) : x.isNaN = false := by
  have shape : x.isNaN = (x.toModel.unpack).isNaN := rfl
  rw [shape, unpack_toModel]
  cases decoded : ofFloat x with
  | notANumber | infinite =>
    rw [decoded] at isX
    cases isX
  | finite negative m q =>
    rw [unpacked]
    split <;> rfl

/-! ## The floating-point number nearest to an integer -/

def IsNearest (x : Float) (r : ℚ) : Prop :=
  ∃ s, (ofFloat x).rational? = some s ∧ ∀ y t, (ofFloat y).rational? = some t → |s - r| ≤ |t - r|

theorem rational?_ofBits {m : Nat} {q : ℤ} (holds : Format.double.Holds m q) (negative : Bool) :
    (ofFloat (Float.ofBits (UInt64.ofNat (Format.double.withSign negative (Format.double.wordOf m q))))).rational? =
      some (factor negative * (m * 2 ^ q)) := by
  have decoded := holds.decode_eq negative
  rw [ofFloat_ofBits (Format.withSign_lt negative holds.finite.le) (by rw [decoded]; rintro ⟨⟩), decoded]
  rfl

theorem exists_holds_of_rational {x : Float} {r : ℚ} (isX : (ofFloat x).rational? = some r) :
    ∃ negative m q, Format.double.Holds m q ∧ r = factor negative * (m * 2 ^ q) := by
  cases shape : ofFloat x with
  | notANumber | infinite =>
    rw [shape] at isX
    cases isX
  | finite negative m q =>
    obtain ⟨holds, -⟩ := Format.holds_of_decode x.toBits.toNat_lt shape
    rw [shape] at isX
    exact ⟨negative, m, q, holds, (Option.some.inj isX).symm⟩

theorem wordOf_lt_infinity {m k : Nat} {q : ℤ} (isWord : m < pow2 64) (rounds : Format.double.RoundsTo m k q) :
    Format.double.wordOf k q < Format.double.infinity := by
  have low : q < 12 := by
    obtain isLowest | leads := rounds.leading
    · rw [isLowest]
      decide
    · have below : (2 : ℚ) ^ ((52 : Nat) + q) < 2 ^ ((64 : Nat) : ℤ) := by
        refine leads.trans_lt ?_
        rw [← cast_pow2]
        exact_mod_cast isWord
      have := (zpow_lt_zpow_iff_right₀ one_lt_two).1 below
      omega
  have bounded : k ≤ 9007199254740992 := rounds.le_pow
  show (q + 1074).toNat * 4503599627370496 + k < 2047 * 4503599627370496
  omega

theorem exists_roundsTo_toFloat {m : Nat} (m_ne : m ≠ 0) (isWord : m < pow2 64) :
    ∃ k q, Format.double.RoundsTo m k q ∧ ∀ negative : Bool,
      (ofFloat (Exact.finite negative m 0).toFloat).rational? = some (factor negative * (k * 2 ^ q)) := by
  have isWhole : m * pow2 0 = m := Nat.mul_one m
  obtain ⟨k, q, rounds, rounded⟩ := Format.double.exists_roundsTo m_ne one_ne_zero
  rw [Nat.cast_one, div_one] at rounds
  have finite := wordOf_lt_infinity isWord rounds
  obtain ⟨m', q', holds, sameWord, same⟩ := rounds.exists_holds finite
  refine ⟨k, q, rounds, fun negative => ?_⟩
  have encoded : Format.double.encode (.finite negative m 0) =
      Format.double.withSign negative (Format.double.wordOf m' q') := by
    rw [sameWord, ← min_eq_left finite.le, ← rounded, Format.encode, Format.roundScaled, if_pos le_rfl, Int.toNat_zero,
      isWhole]
  rw [Exact.toFloat, encoded, ← same]
  exact rational?_ofBits holds negative

theorem rational?_toFloat_zero (negative : Bool) (q : ℤ) :
    (ofFloat (Exact.finite negative 0 q).toFloat).rational? = some 0 := by
  have holds : Format.double.Holds 0 Format.double.lowest := ⟨le_rfl, .inl rfl, by decide, by decide⟩
  rw [Exact.toFloat, holds.encode_eq (by rw [Nat.cast_zero, zero_mul, zero_mul]), rational?_ofBits holds]
  simp

/-- A whole number is converted to a floating-point number that no other is nearer to. -/
theorem toFloat_nearest {m : Nat} (isWord : m < pow2 64) (negative : Bool) :
    IsNearest (Exact.finite negative m 0).toFloat (factor negative * m) := by
  obtain rfl | m_ne := eq_or_ne m 0
  · refine ⟨0, rational?_toFloat_zero negative 0, fun y t isY => ?_⟩
    rw [Nat.cast_zero, mul_zero, sub_zero, abs_zero]
    exact abs_nonneg _
  · obtain ⟨k, q, rounds, isX⟩ := exists_roundsTo_toFloat m_ne isWord
    refine ⟨_, isX negative, fun y t isY => ?_⟩
    obtain ⟨negative', m', q', holds, rfl⟩ := exists_holds_of_rational isY
    rw [dist_factor, factor_mul, Bool.xor_self, factor_false, one_mul, ← dist_factor, factor_mul]
    exact rounds.le_of_holds holds (negative ^^ negative')

theorem rational?_toFloat_small {m : Nat} (small : m ≤ pow2 53) (negative : Bool) :
    (ofFloat (Exact.finite negative m 0).toFloat).rational? = some (factor negative * m) := by
  obtain rfl | m_ne := eq_or_ne m 0
  · rw [rational?_toFloat_zero, Nat.cast_zero, mul_zero]
  · obtain ⟨k, q, rounds, isX⟩ := exists_roundsTo_toFloat m_ne (small.trans_lt (by decide))
    have bounded : (m : ℚ) ≤ 2 ^ (53 : ℤ) := by
      rw [← Nat.cast_ofNat (R := ℤ), ← cast_pow2]
      exact_mod_cast small
    obtain ⟨j, isMultiple⟩ : ∃ j : ℤ, (j : ℚ) * 2 ^ q = m := by
      obtain fine | coarse := le_or_gt q 0
      · refine ⟨m * 2 ^ (-q).toNat, ?_⟩
        have toZero : (2 : ℚ) ^ (-q).toNat * 2 ^ q = 1 := by
          rw [← zpow_natCast, Int.toNat_of_nonneg (by omega), ← two_zpow_add, neg_add_cancel, zpow_zero]
        push_cast
        rw [mul_assoc, toZero, mul_one]
      · have leads := rounds.leading.resolve_left (by rintro rfl; revert coarse; decide)
        have atMost := (zpow_le_zpow_iff_right₀ one_lt_two).1 (leads.trans bounded)
        have isOne : q = 1 := by
          change ((52 : ℕ) : ℤ) + q ≤ 53 at atMost
          omega
        subst isOne
        refine ⟨2 ^ 52, ?_⟩
        refine le_antisymm (le_trans ?_ leads) (bounded.trans ?_) <;> norm_num [Format.double]
    rw [isX, rounds.eq_of_multiple isMultiple]

theorem factor_natAbs (n : ℤ) : factor (n < 0) * (n.natAbs : ℚ) = n := by
  obtain negative | positive := lt_or_ge n 0
  · rw [decide_eq_true negative, factor_true, ← Int.cast_natCast, Int.ofNat_natAbs_of_nonpos negative.le, Int.cast_neg,
      neg_one_mul, neg_neg]
  · rw [decide_eq_false (not_lt_of_ge positive), factor_false, ← Int.cast_natCast, Int.natAbs_of_nonneg positive,
      one_mul]

namespace IsNearest

variable {x y : Float} {r s : ℚ}

/-- The nearest number is the number itself exactly where there is a floating-point number for it. -/
theorem rational?_eq_iff (nearest : IsNearest x r) :
    (ofFloat x).rational? = some r ↔ ∃ y, (ofFloat y).rational? = some r := by
  refine ⟨fun isX => ⟨x, isX⟩, fun ⟨y, isY⟩ => ?_⟩
  obtain ⟨s, isX, least⟩ := nearest
  have distance := least y r isY
  rw [sub_self, abs_zero, abs_nonpos_iff, sub_eq_zero] at distance
  rw [isX, distance]

theorem isNaN_eq_false (nearest : IsNearest x r) : x.isNaN = false := by
  obtain ⟨s, isX, -⟩ := nearest
  exact isNaN_eq_false_of_rational isX

theorem not_lt (nearX : IsNearest x r) (nearY : IsNearest y s) (below : r < s) : ¬ y < x := by
  obtain ⟨u, isX, leastX⟩ := nearX
  obtain ⟨v, isY, leastY⟩ := nearY
  rw [lt_iff_rational isY isX]
  intro crossed
  -- Both numbers lie on the same side of the middle between the two nearest ones.
  have beforeMiddle : u + v ≤ 2 * r := by
    have distance := sq_le_sq.2 (leastX y v isY)
    nlinarith
  have behindMiddle : 2 * s ≤ u + v := by
    have distance := sq_le_sq.2 (leastY x u isX)
    nlinarith
  linarith

theorem of_not_lt (nearX : IsNearest x r) (nearY : IsNearest y s) (notBelow : ¬ x < y) (notAbove : ¬ y < x) :
    IsNearest x s := by
  obtain ⟨u, isX, -⟩ := nearX
  obtain ⟨v, isY, leastY⟩ := nearY
  rw [lt_iff_rational isX isY] at notBelow
  rw [lt_iff_rational isY isX] at notAbove
  obtain rfl := le_antisymm (le_of_not_gt notAbove) (le_of_not_gt notBelow)
  exact ⟨u, isX, leastY⟩

theorem max_of_not_lt (nearX : IsNearest x r) (nearY : IsNearest y s) (notBelow : ¬ x < y) : IsNearest x (max r s) := by
  obtain higher | lower := le_or_gt s r
  · rwa [max_eq_left higher]
  · rw [max_eq_right lower.le]
    exact nearX.of_not_lt nearY notBelow (nearX.not_lt nearY lower)

theorem min_of_not_lt (nearX : IsNearest x r) (nearY : IsNearest y s) (notAbove : ¬ y < x) : IsNearest x (min r s) := by
  obtain lower | higher := le_or_gt r s
  · rwa [min_eq_left lower]
  · rw [min_eq_right higher.le]
    exact nearX.of_not_lt nearY (nearY.not_lt nearX higher) notAbove

theorem lt_asymm (nearX : IsNearest x r) (nearY : IsNearest y s) (below : x < y) : ¬ y < x := by
  obtain ⟨u, isX, -⟩ := nearX
  obtain ⟨v, isY, -⟩ := nearY
  rw [lt_iff_rational isX isY] at below
  rw [lt_iff_rational isY isX]
  exact not_lt_of_gt below

end IsNearest

theorem toFloat_nearest_int {n : ℤ} (isWord : n.natAbs < pow2 64) :
    IsNearest (Exact.finite (n < 0) n.natAbs 0).toFloat n := by
  have nearest := toFloat_nearest isWord (n < 0)
  rwa [factor_natAbs] at nearest

theorem rational?_toFloat_int {n : ℤ} (small : n.natAbs ≤ pow2 53) :
    (ofFloat (Exact.finite (n < 0) n.natAbs 0).toFloat).rational? = some (n : ℚ) := by
  rw [rational?_toFloat_small small, factor_natAbs]

end LateBound.Number
