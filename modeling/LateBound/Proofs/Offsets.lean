import LateBound.Builtin.Text
import LateBound.Proofs.Places

/-!
# Indices of characters and offsets of bytes

The character at an index begins behind the bytes of all characters in front of it. An offset that was made of an index
is never inside a character, so that cutting, inserting and counting at such offsets does what it does at the indices.
-/

namespace LateBound

namespace Source

theorem slice?_take (text : List Char) (first count : Nat) :
    slice? text (byteCount (text.take first)) (byteCount (text.take (first + count))) =
      some ((text.drop first).take count) := by
  have sliced := slice?_append (text.take first) ((text.drop first).take count) ((text.drop first).drop count)
  rw [List.take_append_drop, List.take_append_drop] at sliced
  rw [List.take_add, byteCount_append]
  exact sliced

end Source

namespace Builtin

open Source

theorem getElem?_charOffsets (offset : Nat) (text : List Char) (index : Nat) :
    (charOffsets offset text)[index]? =
      if index < text.length then some (offset + byteCount (text.take index)) else none := by
  induction text generalizing offset index with
  | nil => simp [charOffsets]
  | cons c text inductionHypothesis =>
    cases index with
    | zero => simp [charOffsets, byteCount]
    | succ index => simp [charOffsets, byteCount_cons, inductionHypothesis, Nat.add_assoc]

theorem offsetAt_eq (text : List Char) (index : Int32) :
    offsetAt text index = byteCount (text.take index.toInt.toNat) := by
  unfold offsetAt
  rw [getElem?_charOffsets]
  by_cases inside : index.toInt.toNat < text.length
  · rw [if_pos inside, Option.getD_some, Nat.zero_add]
  · rw [if_neg inside, Option.getD_none, List.take_of_length_le (Nat.le_of_not_lt inside)]

def IsShort (text : List Char) : Prop :=
  text.length < 2 ^ 31

def InRange (text : List Char) (first last : Int32) : Prop :=
  0 ≤ first.toInt ∧ first.toInt ≤ last.toInt ∧ last.toInt ≤ text.length

section

variable {text : List Char} {first last : Int32}

theorem outside_iff (short : IsShort text) :
    (first < 0 ∨ Int32.ofNat text.length < last ∨ last < first) ↔ ¬ InRange text first last := by
  have length : (Int32.ofNat text.length).toInt = text.length := Int32.toInt_ofNat_of_lt short
  rw [Int32.lt_iff_toInt_lt, Int32.lt_iff_toInt_lt, Int32.lt_iff_toInt_lt, length, Int32.toInt_zero]
  unfold InRange
  omega

theorem byteRange_of_inRange (short : IsShort text) (inRange : InRange text first last) :
    byteRange text first last =
      .ok (byteCount (text.take first.toInt.toNat), byteCount (text.take last.toInt.toNat)) := by
  unfold byteRange
  rw [if_neg (mt (outside_iff short).1 (not_not_intro inRange)), offsetAt_eq, offsetAt_eq]

theorem byteRange_of_not_inRange (short : IsShort text) (outside : ¬ InRange text first last) :
    ∃ message, byteRange text first last = .error message := by
  unfold byteRange
  rw [if_pos ((outside_iff short).2 outside)]
  exact ⟨_, rfl⟩

def between (text : List Char) (first last : Int32) : List Char :=
  (text.drop first.toInt.toNat).take (last.toInt.toNat - first.toInt.toNat)

theorem substring_of_inRange (short : IsShort text) (inRange : InRange text first last) :
    substring text first last = .ok (between text first last) := by
  have ordered : last.toInt.toNat = first.toInt.toNat + (last.toInt.toNat - first.toInt.toNat) := by
    have forwards := inRange.2.1
    omega
  unfold substring slice
  rw [byteRange_of_inRange short inRange, ordered]
  simp only [slice?_take, between]

theorem substring_of_not_inRange (short : IsShort text) (outside : ¬ InRange text first last) :
    ∃ message, substring text first last = .error (.error message) := by
  obtain ⟨message, refused⟩ := byteRange_of_not_inRange short outside
  unfold substring
  rw [refused]
  exact ⟨message, rfl⟩

theorem insertAt_of_inRange (short : IsShort text) (inRange : InRange text first first) (added : List Char) :
    insertAt text first added = .ok (text.take first.toInt.toNat ++ added ++ text.drop first.toInt.toNat) := by
  have before := takeBytes_append (text.take first.toInt.toNat) (text.drop first.toInt.toNat)
  have behind := dropBytes_append (text.take first.toInt.toNat) (text.drop first.toInt.toNat)
  rw [List.take_append_drop] at before behind
  unfold insertAt spliced
  rw [byteRange_of_inRange short inRange]
  simp only [before, behind]

theorem insertAt_of_not_inRange (short : IsShort text) (outside : ¬ InRange text first first) (added : List Char) :
    ∃ message, insertAt text first added = .error (.error message) := by
  obtain ⟨message, refused⟩ := byteRange_of_not_inRange short outside
  unfold insertAt
  rw [refused]
  exact ⟨message, rfl⟩

end

/-! ## Searching -/

def OccursAt (pattern text : List Char) (index : Nat) : Prop :=
  index ≤ text.length ∧ pattern <+: text.drop index

theorem occursAt_zero {pattern text : List Char} : OccursAt pattern text 0 ↔ pattern <+: text := by
  simp [OccursAt]

theorem occursAt_succ {pattern text : List Char} {c : Char} {index : Nat} :
    OccursAt pattern (c :: text) (index + 1) ↔ OccursAt pattern text index := by
  simp [OccursAt]

theorem exists_occursAt_iff {pattern text : List Char} :
    (∃ index, OccursAt pattern text index) ↔ pattern <:+: text := by
  constructor
  · rintro ⟨index, -, occurs⟩
    exact occurs.isInfix.trans (List.drop_suffix index text).isInfix
  · rintro ⟨before, behind, rfl⟩
    refine ⟨before.length, by simp, ?_⟩
    rw [List.append_assoc, List.drop_left]
    exact List.prefix_append pattern behind

/-- A text is searched up to the first occurrence, whose offset is found, or to its end. -/
theorem findFrom?_spec (pattern : List Char) (offset : Nat) (text : List Char) :
    match Text.findFrom? pattern offset text with
    | some place => ∃ index, place = offset + byteCount (text.take index) ∧ OccursAt pattern text index ∧
        ∀ earlier < index, ¬ OccursAt pattern text earlier
    | none => ∀ index, ¬ OccursAt pattern text index := by
  induction text generalizing offset with
  | nil =>
    cases pattern with
    | nil => exact ⟨0, rfl, occursAt_zero.2 List.prefix_rfl, nofun⟩
    | cons c pattern =>
      rintro index ⟨-, occurs⟩
      simp at occurs
  | cons c text inductionHypothesis =>
    rw [Text.findFrom?]
    by_cases here : pattern.isPrefixOf (c :: text)
    · rw [if_pos here]
      exact ⟨0, rfl, occursAt_zero.2 (List.isPrefixOf_iff_prefix.1 here), nofun⟩
    · have notHere : ¬ OccursAt pattern (c :: text) 0 := by
        rw [occursAt_zero, ← List.isPrefixOf_iff_prefix]
        exact here
      have later := inductionHypothesis (offset + c.utf8Size)
      rw [if_neg here]
      cases found : Text.findFrom? pattern (offset + c.utf8Size) text with
      | some place =>
        rw [found] at later
        obtain ⟨index, rfl, occurs, least⟩ := later
        refine ⟨index + 1, ?_, occursAt_succ.2 occurs, fun earlier sooner => ?_⟩
        · rw [List.take_succ_cons, byteCount_cons, Nat.add_assoc]
        · cases earlier with
          | zero => exact notHere
          | succ earlier => exact mt occursAt_succ.1 (least earlier (Nat.lt_of_succ_lt_succ sooner))
      | none =>
        rw [found] at later
        intro index
        cases index with
        | zero => exact notHere
        | succ index => exact mt occursAt_succ.1 (later index)

theorem indexValue_take {text : List Char} {index : Nat} (inside : index ≤ text.length) :
    indexValue text (some (byteCount (text.take index))) = .ok (count index) := by
  have front := slice?_take text 0 index
  rw [List.take_zero, Nat.zero_add, List.drop_zero] at front
  have sliced : slice text 0 (byteCount (text.take index)) = .ok (text.take index) := by
    unfold slice
    rw [show slice? text 0 (byteCount (text.take index)) = _ from front]
  rw [indexValue, sliced]
  exact congrArg (Except.ok ∘ count) (List.length_take_of_le inside)

/-- What `indexOf` answers: the least index at which the pattern stands, or one below zero if there is none. -/
theorem indexValue_find? (pattern text : List Char) :
    (∃ index, indexValue text (Text.find? pattern text) = .ok (count index) ∧ (Text.find? pattern text).isSome = true ∧
        OccursAt pattern text index ∧ ∀ earlier < index, ¬ OccursAt pattern text earlier) ∨
      indexValue text (Text.find? pattern text) = .ok (.int (-1)) ∧ (Text.find? pattern text).isSome = false ∧
        ∀ index, ¬ OccursAt pattern text index := by
  have searched := findFrom?_spec pattern 0 text
  unfold Text.find?
  cases found : Text.findFrom? pattern 0 text with
  | some place =>
    rw [found] at searched
    obtain ⟨index, rfl, occurs, least⟩ := searched
    rw [Nat.zero_add]
    exact .inl ⟨index, indexValue_take occurs.1, rfl, occurs, least⟩
  | none =>
    rw [found] at searched
    exact .inr ⟨rfl, rfl, searched⟩

end Builtin

end LateBound
