import LateBound.Source
import Mathlib

/-!
# Places counted

A place in a text is known by what stands in front of it. Its offset is the number of bytes there, its line is one
more than the number of line feeds, and its column is one more than the number of characters behind the last of
these.
-/

namespace LateBound

/-! ## Bytes -/

namespace Source

theorem byteCount_cons (c : Char) (cs : List Char) : byteCount (c :: cs) = c.utf8Size + byteCount cs := rfl

theorem byteCount_append (first second : List Char) :
    byteCount (first ++ second) = byteCount first + byteCount second := by
  induction first with
  | nil => exact (Nat.zero_add _).symm
  | cons c first inductionHypothesis =>
    rw [List.cons_append, byteCount_cons, byteCount_cons, inductionHypothesis, Nat.add_assoc]

theorem eq_nil_of_byteCount {cs : List Char} (none : byteCount cs = 0) : cs = [] := by
  cases cs with
  | nil => rfl
  | cons c cs =>
    rw [byteCount_cons] at none
    have filled := c.utf8Size_pos
    omega

theorem dropBytes_append (before rest : List Char) : dropBytes (byteCount before) (before ++ rest) = some rest := by
  induction before with
  | nil => cases rest <;> rfl
  | cons c before inductionHypothesis =>
    have filled := c.utf8Size_pos
    rw [byteCount_cons, List.cons_append, dropBytes, if_neg (by omega), if_pos (by omega), Nat.add_sub_cancel_left,
      inductionHypothesis]

theorem takeBytes_append (piece behind : List Char) :
    takeBytes (byteCount piece) (piece ++ behind) = some piece := by
  induction piece with
  | nil => cases behind <;> rfl
  | cons c piece inductionHypothesis =>
    have filled := c.utf8Size_pos
    rw [byteCount_cons, List.cons_append, takeBytes, if_neg (by omega), if_pos (by omega), Nat.add_sub_cancel_left,
      inductionHypothesis]
    rfl

theorem byteCount_of_takeBytes {count : Nat} {cs piece : List Char} (taken : takeBytes count cs = some piece) :
    byteCount piece = count := by
  induction cs generalizing count piece with
  | nil =>
    rw [takeBytes] at taken
    split at taken
    · next none =>
      cases taken
      exact none.symm
    · cases taken
  | cons c cs inductionHypothesis =>
    rw [takeBytes] at taken
    split at taken
    · next none =>
      cases taken
      exact none.symm
    · split at taken
      · next fits =>
        obtain ⟨others, rest, rfl⟩ := Option.map_eq_some_iff.1 taken
        rw [byteCount_cons, inductionHypothesis rest]
        omega
      · cases taken

theorem slice?_append (before piece behind : List Char) :
    slice? (before ++ (piece ++ behind)) (byteCount before) (byteCount before + byteCount piece) = some piece := by
  simp only [slice?, Nat.le_add_right, if_true, dropBytes_append, Option.bind_some, Nat.add_sub_cancel_left,
    takeBytes_append]

/-! ## Lines and columns -/

def lastLineLength (cs : List Char) : Nat :=
  (cs.reverse.takeWhile (· != '\n')).length

@[simp] theorem lastLineLength_nil : lastLineLength [] = 0 := rfl

theorem lastLineLength_concat (cs : List Char) (c : Char) :
    lastLineLength (cs ++ [c]) = if c = '\n' then 0 else lastLineLength cs + 1 := by
  unfold lastLineLength
  rw [List.reverse_concat]
  split_ifs with isFeed <;> simp [isFeed]

theorem lastLineLength_append (first second : List Char) :
    lastLineLength (first ++ second) =
      if '\n' ∈ second then lastLineLength second else lastLineLength first + lastLineLength second := by
  induction second using List.reverseRecOn with
  | nil => simp
  | append_singleton second c inductionHypothesis =>
    rw [← List.append_assoc, lastLineLength_concat, lastLineLength_concat, inductionHypothesis]
    by_cases isFeed : c = '\n'
    · simp [isFeed]
    · have other : ('\n' ∈ second ++ [c]) = ('\n' ∈ second) := by simp [Ne.symm isFeed]
      simp only [isFeed, if_false, other]
      split_ifs <;> omega

end Source

namespace Position

theorem offset_after (position : Position) (cs : List Char) :
    (position.after cs).offset = position.offset + Source.byteCount cs := by
  induction cs generalizing position with
  | nil => rfl
  | cons c cs inductionHypothesis =>
    have passed : (position.next c).offset = position.offset + c.utf8Size := by
      unfold next
      split <;> rfl
    rw [after_cons, inductionHypothesis, passed, Source.byteCount_cons, Nat.add_assoc]

theorem offset_start_after (cs : List Char) : (start.after cs).offset = Source.byteCount cs := by
  rw [offset_after, start, Nat.zero_add]

theorem line_start_after (cs : List Char) : (start.after cs).line = 1 + cs.count '\n' := by
  induction cs using List.reverseRecOn with
  | nil => rfl
  | append_singleton cs c inductionHypothesis =>
    rw [after_append, List.count_append]
    show ((start.after cs).next c).line = _
    unfold next
    by_cases isFeed : c = '\n'
    · simp [isFeed, inductionHypothesis]
      omega
    · simp [isFeed, inductionHypothesis]

theorem column_start_after (cs : List Char) : (start.after cs).column = 1 + Source.lastLineLength cs := by
  induction cs using List.reverseRecOn with
  | nil => rfl
  | append_singleton cs c inductionHypothesis =>
    rw [after_append, Source.lastLineLength_concat]
    show ((start.after cs).next c).column = _
    unfold next
    split_ifs
    · rfl
    · show (start.after cs).column + 1 = _
      omega

theorem start_after (cs : List Char) :
    start.after cs = ⟨1 + cs.count '\n', 1 + Source.lastLineLength cs, Source.byteCount cs⟩ := by
  rw [← line_start_after, ← column_start_after, ← offset_start_after]

end Position

end LateBound
