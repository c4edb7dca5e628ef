import LateBound.Proofs.Lexemes
import LateBound.Proofs.Passing

/-!
# Reading a displayed primitive back

A member that takes a primitive can be passed a text. The text that an integer, a boolean or a character is displayed as
denotes that value again, so that every value of these types can be passed as a text, with one exception: blanks around
a text are dropped before it is read, and with them a character that is a blank itself.
-/

namespace LateBound

/-! ## Integers in text -/

namespace Number

theorem ofDigits_toDigits (n : Nat) : ofDigits (Nat.toDigits 10 n) = n :=
  Nat.ofDigitChars_ten_toDigits

theorem isDigit_of_mem_decimal {n : Nat} {c : Char} (inside : c ∈ Nat.toDigits 10 n) : c.isDigit = true :=
  Nat.isDigit_of_mem_toDigits (by decide) (by decide) inside

theorem readNatural?_of_digits {digits : List Char} (filled : digits ≠ []) (all : ∀ c ∈ digits, c.isDigit = true) :
    readNatural? digits = some (ofDigits digits) := by
  have isNatural : (!digits.isEmpty && digits.all Char.isDigit) = true := by
    rw [Bool.and_eq_true, Bool.not_eq_true', List.isEmpty_eq_false_iff, List.all_eq_true]
    exact ⟨filled, all⟩
  rw [readNatural?, if_pos isNatural]

theorem readNatural?_toDigits (n : Nat) : readNatural? (Nat.toDigits 10 n) = some n := by
  rw [readNatural?_of_digits Nat.toDigits_ne_nil fun c inside => isDigit_of_mem_decimal inside, ofDigits_toDigits]

theorem toList_toString (n : Int) :
    (toString n).toList = if 0 ≤ n then Nat.toDigits 10 n.toNat else '-' :: Nat.toDigits 10 (-n).toNat := by
  rw [Int.toString_eq_repr, Int.repr_eq_if]
  split
  · exact Nat.toList_repr
  · rw [String.toList_append, Nat.toList_repr]
    rfl

theorem readInteger?_digits {digits : List Char} (all : ∀ c ∈ digits, c.isDigit = true) :
    readInteger? digits = (readNatural? digits).map Int.ofNat := by
  unfold readInteger?
  split
  · cases all '-' List.mem_cons_self
  · cases all '+' List.mem_cons_self
  · rfl

theorem readInteger?_toString (n : Int) : readInteger? (toString n).toList = some n := by
  rw [toList_toString]
  split
  · next isNatural =>
    rw [readInteger?_digits fun c inside => isDigit_of_mem_decimal inside, readNatural?_toDigits, Option.map_some]
    exact congrArg some (Int.toNat_of_nonneg isNatural)
  · next isNegative =>
    have isNumber : readInteger? ('-' :: Nat.toDigits 10 (-n).toNat) = some (-((-n).toNat : Int)) := by
      rw [readInteger?, readNatural?_toDigits]
      rfl
    rw [isNumber]
    exact congrArg some (by omega)

theorem trimChars_toString (n : Int) : Text.trimChars (toString n).toList = (toString n).toList := by
  have noBlank {c : Char} (isDigit : c.isDigit = true) : Text.isBlank c = false :=
    isBlank_of_noSeparator (isSeparator_of_isDigit isDigit)
  refine Text.trimChars_of_filled fun c inside => ?_
  rw [toList_toString] at inside
  split at inside
  · exact noBlank (isDigit_of_mem_decimal inside)
  · obtain rfl | inside := List.mem_cons.1 inside
    · rfl
    · exact noBlank (isDigit_of_mem_decimal inside)

theorem toInt8?_toInt (n : Int8) : toInt8? n.toInt = some n := by
  rw [toInt8?, if_pos ⟨n.le_toInt, Int.le_of_lt_add_one n.toInt_lt⟩, Int8.ofInt_toInt]

theorem toInt16?_toInt (n : Int16) : toInt16? n.toInt = some n := by
  rw [toInt16?, if_pos ⟨n.le_toInt, Int.le_of_lt_add_one n.toInt_lt⟩, Int16.ofInt_toInt]

theorem toInt32?_toInt (n : Int32) : toInt32? n.toInt = some n := by
  rw [toInt32?, if_pos ⟨n.le_toInt, Int.le_of_lt_add_one n.toInt_lt⟩, Int32.ofInt_toInt]

theorem toInt64?_toInt (n : Int64) : toInt64? n.toInt = some n := by
  rw [toInt64?, if_pos ⟨n.le_toInt, Int.le_of_lt_add_one n.toInt_lt⟩, Int64.ofInt_toInt]

/-- An integer that is displayed and read again is left to the width that it is read at. -/
theorem read_toString {width : Type} (fit? : Int → Option width) (n : Int) :
    (readInteger? (Text.trimChars (toString n).toList)).bind fit? = fit? n := by
  rw [trimChars_toString, readInteger?_toString, Option.bind_some]

end Number

/-! ## Characters in text -/

namespace Text

theorem trimChars_single (c : Char) : trimChars [c] = if isBlank c = true then [] else [c] := by
  split
  · next blank =>
    rw [trimChars, List.dropWhile_cons_of_pos blank]
    rfl
  · next filled =>
    refine trimChars_of_filled fun other inside => ?_
    rw [List.mem_singleton.1 inside]
    exact Bool.eq_false_iff.2 filled

end Text

theorem readPrimitive?_singleton (c : Char) :
    readPrimitive? (String.singleton c) .char = if Text.isBlank c = true then none else some (.char c) := by
  rw [readPrimitive?, String.toList_singleton, Text.trimChars_single]
  by_cases blank : Text.isBlank c = true
  · rw [if_pos blank, if_pos blank]
  · rw [if_neg blank, if_neg blank]

/-! ## Primitives in text -/

def Value.isBlank : Value → Bool
  | char c => Text.isBlank c
  | wrapped _ inner => inner.isBlank
  | _ => false

/-- What a primitive that is no floating-point number is displayed as denotes it, unless it is a blank. -/
theorem readPrimitive?_display {kind : Primitive} (notSingle : kind ≠ .float) (notDouble : kind ≠ .double) :
    ∀ value : Value, value.tag = .primitive kind →
      readPrimitive? value.display kind = if value.isBlank = true then none else some value.unwrapped
  | .wrapped _ inner, isKind => readPrimitive?_display notSingle notDouble inner isKind
  | .bool true, rfl | .bool false, rfl => rfl
  | .byte n, rfl =>
    congrArg (Option.map Value.byte) ((Number.read_toString Number.toInt8? n.toInt).trans (Number.toInt8?_toInt n))
  | .short n, rfl =>
    congrArg (Option.map Value.short) ((Number.read_toString Number.toInt16? n.toInt).trans (Number.toInt16?_toInt n))
  | .int n, rfl =>
    congrArg (Option.map Value.int) ((Number.read_toString Number.toInt32? n.toInt).trans (Number.toInt32?_toInt n))
  | .long n, rfl =>
    congrArg (Option.map Value.long) ((Number.read_toString Number.toInt64? n.toInt).trans (Number.toInt64?_toInt n))
  | .char c, rfl => readPrimitive?_singleton c
  | .float _, isKind => absurd (Tag.primitive.inj isKind).symm notSingle
  | .double _, isKind => absurd (Tag.primitive.inj isKind).symm notDouble

theorem coerce_text (find? : String → Option HostType) (text : String) (kind : Primitive) :
    coerce find? (.str text) (.primitive kind) = (readPrimitive? text kind).getD (.str text) :=
  rfl

theorem accepts_text {member : Member} {kind : Primitive} (takes : member.params = [.primitive kind])
    (subtype : String → String → Id Bool) : member.accepts .lenient subtype [.str] = true := by
  rw [Member.accepts, takes]
  rfl

/-- A member that takes a primitive accepts the text of any value of its type, and for a boolean, an integer or a
character it is passed that value: a blank is the one that comes as the text that it was displayed as. -/
theorem displayed_primitive_read_back (find? : String → Option HostType) (subtype : String → String → Id Bool)
    {value : Value} {kind : Primitive} (isKind : value.tag = .primitive kind) (notSingle : kind ≠ .float)
    (notDouble : kind ≠ .double) :
    (coerce find? (.str value.display) (.primitive kind) = value.unwrapped ↔ value.isBlank = false) ∧
      (value.isBlank = true → coerce find? (.str value.display) (.primitive kind) = .str value.display) ∧
      (conforms (coerce find? (.str value.display) (.primitive kind)) (.primitive kind) = !value.isBlank) ∧
      (∀ member : Member, member.params = [.primitive kind] → member.accepts .lenient subtype [.str] = true) ∧
      ∀ c : Char,
        coerce find? (.str (String.singleton c)) (.primitive .char) = .char c ↔ Text.isBlank c = false := by
  have isRead := readPrimitive?_display notSingle notDouble value isKind
  have noText (text : String) : Value.str text ≠ value.unwrapped := fun isText => by
    rw [← Value.tag_unwrapped, ← isText] at isKind
    cases isKind
  have single (c : Char) := readPrimitive?_singleton c
  simp only [coerce_text, isRead, single]
  refine ⟨?_, fun blank => ?_, ?_, fun member takes => accepts_text takes subtype, fun c => ?_⟩
  · cases value.isBlank with
    | true => exact iff_of_false (noText _) Bool.noConfusion
    | false => exact iff_of_true rfl rfl
  · rw [blank]
    rfl
  · cases value.isBlank with
    | true => rfl
    | false => exact beq_iff_eq.2 (value.tag_unwrapped.trans isKind)
  · cases Text.isBlank c with
    | true => exact iff_of_false (fun isChar => nomatch isChar) Bool.noConfusion
    | false => exact iff_of_true rfl rfl

/-- The least of the longest integers in a box, and a letter with a mark. -/
theorem displayed_primitive_read_back_least :
    ((Value.wrapped "Box" (.long Int64.minValue)).tag = .primitive .long ∧ Primitive.long ≠ .float ∧
        Primitive.long ≠ .double) ∧
      coerce (fun _ => none) (.str (Value.wrapped "Box" (.long Int64.minValue)).display) (.primitive .long) =
        .long Int64.minValue ∧
      coerce (fun _ => none) (.str (String.singleton 'é')) (.primitive .char) = .char 'é' := by
  have isKind : (Value.wrapped "Box" (.long Int64.minValue)).tag = .primitive .long := rfl
  have notSingle : Primitive.long ≠ .float := by decide
  have notDouble : Primitive.long ≠ .double := by decide
  obtain ⟨isRead, -, -, -, single⟩ :=
    displayed_primitive_read_back (fun _ => none) (fun _ _ => false) isKind notSingle notDouble
  exact ⟨⟨isKind, notSingle, notDouble⟩, isRead.2 rfl, (single 'é').2 (by decide)⟩

/-- A space is a character whose text does not denote it, whichever types are known. -/
theorem exists_primitive_not_read_back :
    ∃ value : Value, value.tag = .primitive .char ∧
      ∀ find? : String → Option HostType,
        coerce find? (.str value.display) (.primitive .char) = .str " " ∧
          coerce find? (.str value.display) (.primitive .char) ≠ value.unwrapped := by
  refine ⟨.char ' ', rfl, fun find? => ?_⟩
  have kept : coerce find? (.str (Value.char ' ').display) (.primitive .char) = .str " " := rfl
  rw [kept]
  exact ⟨rfl, fun isChar => nomatch isChar⟩

end LateBound
