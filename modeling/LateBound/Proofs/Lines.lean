import LateBound.Proofs.Places

/-!
# The line of a place

A text falls into pieces at its line feeds, and its lines are these pieces without a carriage return at their end, but
for an empty last one. The line on which a place stands is found by the number of line feeds in front of the place, and
the place stands in it behind as many characters as its column says.
-/

namespace LateBound.Source

/-! ## Pieces between line feeds -/

theorem pieces_feed (cs : List Char) : pieces ('\n' :: cs) = [] :: pieces cs :=
  rfl

theorem pieces_cons {c : Char} (noFeed : c ≠ '\n') {cs first : List Char} {others : List (List Char)}
    (isCut : pieces cs = first :: others) : pieces (c :: cs) = (c :: first) :: others := by
  rw [pieces.eq_3 c cs noFeed, isCut]
  rfl

theorem exists_pieces_eq (cs : List Char) : ∃ first others, pieces cs = first :: others ∧ first <+: cs := by
  induction cs with
  | nil => exact ⟨[], [], rfl, List.nil_prefix⟩
  | cons c cs inductionHypothesis =>
    obtain ⟨first, others, isCut, isPrefix⟩ := inductionHypothesis
    by_cases isFeed : c = '\n'
    · subst isFeed
      exact ⟨[], pieces cs, rfl, List.nil_prefix⟩
    · exact ⟨c :: first, others, pieces_cons isFeed isCut, List.cons_prefix_cons.2 ⟨rfl, isPrefix⟩⟩

theorem pieces_append_of_notMem {front : List Char} (noFeed : '\n' ∉ front) {cs first : List Char}
    {others : List (List Char)} (isCut : pieces cs = first :: others) :
    pieces (front ++ cs) = (front ++ first) :: others := by
  induction front with
  | nil => exact isCut
  | cons c front inductionHypothesis =>
    simp only [List.mem_cons, not_or] at noFeed
    exact pieces_cons (Ne.symm noFeed.1) (inductionHypothesis noFeed.2)

theorem pieces_of_notMem {cs : List Char} (noFeed : '\n' ∉ cs) : pieces cs = [cs] := by
  have isCut : pieces [] = [[]] := rfl
  have cut := pieces_append_of_notMem noFeed isCut
  rwa [List.append_nil] at cut

theorem pieces_append_feed (front behind : List Char) :
    pieces (front ++ '\n' :: behind) = pieces front ++ pieces behind := by
  induction front with
  | nil => rfl
  | cons c front inductionHypothesis =>
    by_cases isFeed : c = '\n'
    · subst isFeed
      rw [List.cons_append, pieces_feed, pieces_feed, inductionHypothesis, List.cons_append]
    · obtain ⟨first, others, isCut, -⟩ := exists_pieces_eq front
      rw [isCut, List.cons_append] at inductionHypothesis
      rw [List.cons_append, pieces_cons isFeed inductionHypothesis, pieces_cons isFeed isCut, List.cons_append]

theorem notMem_of_mem_pieces {cs piece : List Char} (isPiece : piece ∈ pieces cs) : '\n' ∉ piece := by
  induction cs generalizing piece with
  | nil =>
    rw [List.mem_singleton.1 isPiece]
    exact List.not_mem_nil
  | cons c cs inductionHypothesis =>
    by_cases isFeed : c = '\n'
    · subst isFeed
      obtain rfl | isLater := List.mem_cons.1 isPiece
      · exact List.not_mem_nil
      · exact inductionHypothesis isLater
    · obtain ⟨first, others, isCut, -⟩ := exists_pieces_eq cs
      rw [pieces_cons isFeed isCut] at isPiece
      rw [isCut] at inductionHypothesis
      obtain rfl | isLater := List.mem_cons.1 isPiece
      · simp [Ne.symm isFeed, inductionHypothesis List.mem_cons_self]
      · exact inductionHypothesis (List.mem_cons_of_mem first isLater)

theorem exists_last_line (before : List Char) :
    ∃ earlier front, front <:+ before ∧ '\n' ∉ front ∧ front.length = lastLineLength before ∧
      earlier.length = before.count '\n' ∧ ∀ rest, pieces (before ++ rest) = earlier ++ pieces (front ++ rest) := by
  induction before using List.reverseRecOn with
  | nil => exact ⟨[], [], List.nil_suffix, List.not_mem_nil, rfl, rfl, fun _ => rfl⟩
  | append_singleton before c inductionHypothesis =>
    obtain ⟨earlier, front, isSuffix, noFeed, width, count, cut⟩ := inductionHypothesis
    have cutHere (rest : List Char) : pieces (before ++ [c] ++ rest) = earlier ++ pieces (front ++ c :: rest) := by
      rw [List.append_assoc, List.singleton_append, cut]
    by_cases isFeed : c = '\n'
    · subst isFeed
      refine ⟨earlier ++ [front], [], List.nil_suffix, List.not_mem_nil, ?_, ?_, fun rest => ?_⟩
      · simp [lastLineLength_concat]
      · simp [count]
      · rw [cutHere, pieces_append_feed, pieces_of_notMem noFeed, List.append_assoc, List.nil_append]
    · refine ⟨earlier, front ++ [c], ?_, ?_, ?_, ?_, fun rest => ?_⟩
      · obtain ⟨lead, rfl⟩ := isSuffix
        exact ⟨lead, (List.append_assoc lead front [c]).symm⟩
      · simp [noFeed, Ne.symm isFeed]
      · simp [lastLineLength_concat, isFeed, width]
      · simp [count, isFeed]
      · rw [cutHere, List.append_assoc, List.singleton_append]

/-! ## Lines -/

theorem toList_ofList_dropReturn (piece : List Char) :
    (String.ofList (dropReturn piece)).toList = piece ∨
      (String.ofList (dropReturn piece)).toList ++ ['\r'] = piece := by
  rw [String.toList_ofList]
  unfold dropReturn
  split
  · next last =>
    obtain ⟨front, rfl⟩ := List.getLast?_eq_some_iff.1 last
    exact .inr (by rw [List.dropLast_concat])
  · exact .inl rfl

theorem getElem?_lines {text : String} {earlier later : List (List Char)} {piece : List Char}
    (isCut : pieces text.toList = earlier ++ piece :: later) :
    (lines text)[earlier.length]? = none ∧ piece = [] ∨
      ∃ line, (lines text)[earlier.length]? = some line ∧ (line.toList = piece ∨ line.toList ++ ['\r'] = piece) := by
  unfold lines
  dsimp only
  rw [isCut]
  cases later with
  | nil =>
    rw [List.dropLast_concat, List.getLast?_concat]
    cases piece with
    | nil => exact .inl ⟨by simp, rfl⟩
    | cons c piece => exact .inr ⟨String.ofList (c :: piece), by simp, .inl String.toList_ofList⟩
  | cons next later =>
    have kept : (earlier ++ piece :: next :: later).dropLast = earlier ++ piece :: (next :: later).dropLast := by
      rw [List.dropLast_append_of_ne_nil (List.cons_ne_nil _ _), List.dropLast_cons_cons]
    rw [kept]
    refine .inr ⟨String.ofList (dropReturn piece), ?_, toList_ofList_dropReturn piece⟩
    split <;> simp

/-- The line of a place in a text: what stands in front of the place on its line, what follows on the line, and both
together are what is shown of it, but for a carriage return at the end. Where no line is shown, the place is at the end
of the text. -/
theorem exists_line {text : String} {before piece behind : List Char} (noFeed : '\n' ∉ piece)
    (stands : text.toList = before ++ (piece ++ behind)) :
    (lines text)[before.count '\n']? = none ∧ piece = [] ∨
      ∃ line front rest, (lines text)[before.count '\n']? = some line ∧ '\n' ∉ line.toList ∧
        front <:+ before ∧ rest <+: behind ∧ front.length = lastLineLength before ∧
          (line.toList = front ++ (piece ++ rest) ∨ line.toList ++ ['\r'] = front ++ (piece ++ rest)) := by
  obtain ⟨earlier, front, isSuffix, noFeedFront, width, count, cut⟩ := exists_last_line before
  obtain ⟨rest, later, isCut, isPrefix⟩ := exists_pieces_eq behind
  have noFeedHere : '\n' ∉ front ++ piece := by simp [noFeedFront, noFeed]
  have whole : pieces text.toList = earlier ++ (front ++ (piece ++ rest)) :: later := by
    rw [stands, cut, ← List.append_assoc front, pieces_append_of_notMem noFeedHere isCut, List.append_assoc front]
  have noFeedWhole : '\n' ∉ front ++ (piece ++ rest) :=
    notMem_of_mem_pieces (whole ▸ List.mem_append_right earlier List.mem_cons_self)
  rw [← count]
  obtain ⟨noLine, isEmpty⟩ | ⟨line, isLine, isShown⟩ := getElem?_lines whole
  · simp only [List.append_eq_nil_iff] at isEmpty
    exact .inl ⟨noLine, isEmpty.2.1⟩
  · refine .inr ⟨line, front, rest, isLine, fun inside => noFeedWhole ?_, isSuffix, isPrefix, width, isShown⟩
    obtain isSame | isBefore := isShown
    · rwa [← isSame]
    · rw [← isBefore]
      exact List.mem_append_left _ inside

end LateBound.Source
