import LateBound.Proofs.ReadingBack
import LateBound.Proofs.TokenPlaces

/-!
# Integer literals keep their value

Digits with a sign or without one are one token, whose width is the narrowest that holds their value; a suffix asks
for the wide one. A value that no width holds is refused, with all of its characters, and never cut to fit.
-/

namespace LateBound

/-! ## The value of digits -/

namespace Number

def decimalValue (digits : List Char) : Nat :=
  Nat.ofDigits 10 (digits.reverse.map digitValue)

theorem ofDigits_eq_decimalValue (digits : List Char) : ofDigits digits = decimalValue digits := by
  induction digits using List.reverseRecOn with
  | nil => rfl
  | append_singleton digits c inductionHypothesis =>
    have step : ofDigits (digits ++ [c]) = 10 * ofDigits digits + digitValue c := by simp [ofDigits]
    have places : decimalValue (digits ++ [c]) = digitValue c + 10 * decimalValue digits := by
      simp [decimalValue, Nat.ofDigits_cons]
    omega

theorem exists_toInt32? {n : Int} (least : -2 ^ 31 ≤ n) (greatest : n < 2 ^ 31) :
    ∃ word : Int32, toInt32? n = some word ∧ word.toInt = n := by
  refine ⟨Int32.ofInt n, if_pos (by omega), ?_⟩
  exact Int32.toInt_ofInt_of_le least greatest

theorem toInt32?_eq_none {n : Int} (outside : ¬(-2 ^ 31 ≤ n ∧ n < 2 ^ 31)) : toInt32? n = none :=
  if_neg (by omega)

theorem exists_toInt64? {n : Int} (least : -2 ^ 63 ≤ n) (greatest : n < 2 ^ 63) :
    ∃ word : Int64, toInt64? n = some word ∧ word.toInt = n := by
  refine ⟨Int64.ofInt n, if_pos (by omega), ?_⟩
  exact Int64.toInt_ofInt_of_le least greatest

theorem toInt64?_eq_none {n : Int} (outside : ¬(-2 ^ 63 ≤ n ∧ n < 2 ^ 63)) : toInt64? n = none :=
  if_neg (by omega)

end Number

/-! ## Literals -/

/-- Decimal digits, at least one, maybe behind a minus sign. -/
structure IntegerLiteral where
  negative : Bool
  digits : List Char
  filled : digits ≠ []
  all : ∀ c ∈ digits, c.isDigit = true

namespace IntegerLiteral

variable (literal : IntegerLiteral)

def sign : List Char :=
  if literal.negative then ['-'] else []

def chars : List Char :=
  literal.sign ++ literal.digits

def value : Int :=
  if literal.negative then -(Number.decimalValue literal.digits : Int) else Number.decimalValue literal.digits

def numeral : Numeral :=
  ⟨literal.sign, literal.digits, []⟩

theorem text_numeral : literal.numeral.text = literal.chars :=
  List.append_nil _

theorem shaped_numeral : literal.numeral.Shaped where
  sign := by
    show literal.sign = [] ∨ literal.sign = ['-']
    unfold sign
    cases literal.negative <;> simp
  whole := literal.all
  filled := literal.filled
  fraction := .inl rfl

theorem readInteger?_chars : Number.readInteger? literal.chars = some literal.value := by
  obtain ⟨negative, digits, filled, all⟩ := literal
  have natural := Number.readNatural?_of_digits filled all
  rw [Number.ofDigits_eq_decimalValue] at natural
  cases negative with
  | false =>
    have isNumber := Number.readInteger?_digits all
    rw [natural] at isNumber
    exact isNumber
  | true =>
    have isNumber : Number.readInteger? ('-' :: digits) = (Number.readNatural? digits).map fun n => -(n : Int) := rfl
    rw [natural] at isNumber
    exact isNumber

theorem plainToken?_numeral : literal.numeral.plainToken? =
    ((Number.toInt32? literal.value).map .int).or ((Number.toInt64? literal.value).map .long) := by
  have whole : literal.numeral.fraction.isEmpty = true := rfl
  rw [Numeral.plainToken?, if_pos whole, text_numeral, readInteger?_chars]
  dsimp only
  cases Number.toInt32? literal.value <;> rfl

theorem suffixedToken?_numeral {suffix : Char} (isLong : suffix ∈ ['L', 'l']) :
    literal.numeral.suffixedToken? suffix = (Number.toInt64? literal.value).map .long := by
  have whole : literal.numeral.fraction.isEmpty = true := rfl
  have lower : suffix.toLower ≠ 'f' ∧ suffix.toLower ≠ 'd' := by
    simp only [List.mem_cons, List.not_mem_nil, or_false] at isLong
    obtain rfl | rfl := isLong <;> decide
  rw [Numeral.suffixedToken?, if_neg lower.1, if_neg lower.2, if_pos whole, text_numeral, readInteger?_chars,
    Option.bind_some]

end IntegerLiteral

/-! ## Reading one -/

def IsInvalidNumber (text : List Char) : Prop :=
  tokenize (String.ofList text) =
    .error (.invalidNumber (String.ofList text) (.between .start (Position.start.after text)))

theorem isInvalidNumber_of_scanNumeral {text : List Char} (starts : startsNumeral text = true)
    (scanned : scanNumeral text starts = .illegible (.invalidNumber (String.ofList text)) text) :
    IsInvalidNumber text := by
  cases text with
  | nil => cases starts
  | cons c tail =>
    have noSeparator := startsNumeral_head starts
    have isScanned : Token.scan c tail = .illegible (.invalidNumber (String.ofList (c :: tail))) (c :: tail) := by
      rw [scan_of_noSeparator tail noSeparator, dif_pos starts, scanned]
    rw [IsInvalidNumber, tokenize, String.toList_ofList,
      tokensFrom_illegible (isBlank_of_noSeparator noSeparator) isScanned]
    rfl

namespace Numeral.Shaped

variable {numeral : Numeral} (shaped : numeral.Shaped)

include shaped

theorem isOneToken {token : Token} (isToken : numeral.plainToken? = some token) : IsOneToken numeral.text token := by
  have written : token.Written [] numeral.text := .number shaped rfl (fun _ => rfl) isToken
  exact written.tokenize_eq

theorem isOneToken_suffixed {token : Token} {suffix : Char} (isSuffix : suffix ∈ ['L', 'l', 'F', 'f', 'D', 'd'])
    (isToken : numeral.suffixedToken? suffix = some token) : IsOneToken (numeral.text ++ [suffix]) token := by
  have written : token.Written [] (numeral.text ++ [suffix]) := .suffixed shaped isSuffix rfl isToken
  exact written.tokenize_eq

theorem isInvalidNumber (noToken : numeral.plainToken? = none) : IsInvalidNumber numeral.text := by
  have ends : EndsRun Char.isDigit [] := nofun
  have found := shaped.takeNumeral_eq ends fun _ => rfl
  have starts := shaped.startsNumeral []
  rw [List.append_nil] at found starts
  refine isInvalidNumber_of_scanNumeral starts ?_
  unfold scanNumeral
  split
  next found' =>
    cases found.symm.trans found'
    split
    · next isSuffix => cases isSuffix
    · simp only [atBoundary, ↓reduceIte]
      split
      · next isToken => cases isToken.symm.trans noToken
      · rfl

theorem isInvalidNumber_suffixed {suffix : Char} (isSuffix : suffix ∈ ['L', 'l', 'F', 'f', 'D', 'd'])
    (noToken : numeral.suffixedToken? suffix = none) : IsInvalidNumber (numeral.text ++ [suffix]) := by
  have starts := shaped.startsNumeral [suffix]
  have ends : EndsRun Char.isDigit [suffix] := by
    rintro _ ⟨⟩
    exact (letter_inWord suffix isSuffix).1
  have found := shaped.takeNumeral_eq ends fun _ => startsFraction_cons (letter_inWord suffix isSuffix).2 []
  have isSuffixed : numberSuffix? [suffix] = some (suffix, []) := numberSuffix?_eq_some_iff.2 ⟨rfl, isSuffix, rfl⟩
  refine isInvalidNumber_of_scanNumeral starts ?_
  unfold scanNumeral
  split
  next found' =>
    cases found.symm.trans found'
    split
    · next isSuffixed' =>
      cases isSuffixed.symm.trans isSuffixed'
      dsimp only
      split
      · next isToken => cases isToken.symm.trans noToken
      · rfl
    · next noSuffix => cases isSuffixed.symm.trans noSuffix

end Numeral.Shaped

/-! ## Every literal -/

/-- An integer literal is read at the narrowest width that holds its value, with the suffix at the wide one, and a
value that this does not hold is refused as a whole. -/
theorem integer_literal_keeps_value (literal : IntegerLiteral) :
    let n := literal.value
    (-2 ^ 31 ≤ n ∧ n < 2 ^ 31 → ∃ word : Int32, word.toInt = n ∧ IsOneToken literal.chars (.int word)) ∧
      (¬(-2 ^ 31 ≤ n ∧ n < 2 ^ 31) → -2 ^ 63 ≤ n ∧ n < 2 ^ 63 →
        ∃ word : Int64, word.toInt = n ∧ IsOneToken literal.chars (.long word)) ∧
      (¬(-2 ^ 63 ≤ n ∧ n < 2 ^ 63) → IsInvalidNumber literal.chars) ∧
      ∀ suffix ∈ ['L', 'l'],
        (-2 ^ 63 ≤ n ∧ n < 2 ^ 63 →
          ∃ word : Int64, word.toInt = n ∧ IsOneToken (literal.chars ++ [suffix]) (.long word)) ∧
        (¬(-2 ^ 63 ≤ n ∧ n < 2 ^ 63) → IsInvalidNumber (literal.chars ++ [suffix])) := by
  intro n
  have shaped := literal.shaped_numeral
  have plain := literal.plainToken?_numeral
  rw [← literal.text_numeral]
  refine ⟨fun ⟨least, greatest⟩ => ?_, fun noInt ⟨least, greatest⟩ => ?_, fun noLong => ?_, fun suffix isLong => ?_⟩
  · obtain ⟨word, isWord, same⟩ := Number.exists_toInt32? least greatest
    rw [isWord] at plain
    exact ⟨word, same, shaped.isOneToken plain⟩
  · obtain ⟨word, isWord, same⟩ := Number.exists_toInt64? least greatest
    rw [Number.toInt32?_eq_none noInt, isWord] at plain
    exact ⟨word, same, shaped.isOneToken plain⟩
  · have noInt : ¬(-2 ^ 31 ≤ n ∧ n < 2 ^ 31) := by omega
    rw [Number.toInt32?_eq_none noInt, Number.toInt64?_eq_none noLong] at plain
    exact shaped.isInvalidNumber plain
  · have isSuffix : suffix ∈ ['L', 'l', 'F', 'f', 'D', 'd'] := List.mem_append_left ['F', 'f', 'D', 'd'] isLong
    have suffixed := literal.suffixedToken?_numeral isLong
    constructor
    · rintro ⟨least, greatest⟩
      obtain ⟨word, isWord, same⟩ := Number.exists_toInt64? least greatest
      rw [isWord] at suffixed
      exact ⟨word, same, shaped.isOneToken_suffixed isSuffix suffixed⟩
    · intro noLong
      rw [Number.toInt64?_eq_none noLong] at suffixed
      exact shaped.isInvalidNumber_suffixed isSuffix suffixed

/-- The least value of the narrow width, the first one that needs the wide width and the first one that has none. -/
theorem integer_literal_keeps_value_edges :
    (∃ word : Int32, word.toInt = -2147483648 ∧ IsOneToken "-002147483648".toList (.int word)) ∧
      (∃ word : Int64, word.toInt = -2147483648 ∧ IsOneToken "-002147483648L".toList (.long word)) ∧
      (∃ word : Int64, word.toInt = 2147483648 ∧ IsOneToken "2147483648".toList (.long word)) ∧
      IsInvalidNumber "9223372036854775808".toList ∧ IsInvalidNumber "9223372036854775808l".toList := by
  let narrow : IntegerLiteral := ⟨true, "002147483648".toList, by decide, by simp⟩
  let wide : IntegerLiteral := ⟨false, "2147483648".toList, by decide, by simp⟩
  let huge : IntegerLiteral := ⟨false, "9223372036854775808".toList, by decide, by simp⟩
  have narrowValue : narrow.value = -2147483648 := by decide
  have wideValue : wide.value = 2147483648 := by decide
  have hugeValue : huge.value = 9223372036854775808 := by decide
  obtain ⟨narrowPlain, -, -, narrowSuffixed⟩ := integer_literal_keeps_value narrow
  obtain ⟨-, widePlain, -, -⟩ := integer_literal_keeps_value wide
  obtain ⟨-, -, hugePlain, hugeSuffixed⟩ := integer_literal_keeps_value huge
  rw [narrowValue] at narrowPlain narrowSuffixed
  rw [wideValue] at widePlain
  rw [hugeValue] at hugePlain hugeSuffixed
  exact ⟨narrowPlain (by decide), (narrowSuffixed 'L' (by decide)).1 (by decide), widePlain (by decide) (by decide),
    hugePlain (by decide), (hugeSuffixed 'l' (by decide)).2 (by decide)⟩

end LateBound
