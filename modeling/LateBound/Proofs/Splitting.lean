import LateBound.Proofs.TextMethods

/-!
# Joining undoes splitting

A text is cut at the occurrences of a pattern as they are met from left to right, and an occurrence that overlaps the
one before it is none. The pieces with the pattern between them are the text again, empty pieces at both ends and
between adjacent occurrences included, and no piece holds the pattern: one that did would have been cut there.
-/

namespace LateBound

namespace Text

variable {pattern : List Char}

theorem consFirst_cons (c : Char) (piece : List Char) (pieces : List (List Char)) :
    consFirst c (piece :: pieces) = (c :: piece) :: pieces :=
  rfl

theorem exists_splitFrom_eq (pattern : List Char) (skip : ℕ) (text : List Char) :
    ∃ first others, splitFrom pattern skip text = first :: others := by
  induction text generalizing skip with
  | nil => exact ⟨[], [], rfl⟩
  | cons c text inductionHypothesis =>
    cases skip with
    | succ skip => exact inductionHypothesis skip
    | zero =>
      rw [splitFrom]
      split
      · exact ⟨[], _, rfl⟩
      · obtain ⟨first, others, isSplit⟩ := inductionHypothesis 0
        rw [isSplit]
        exact ⟨c :: first, others, rfl⟩

theorem splitFrom_ne_nil (pattern : List Char) (skip : ℕ) (text : List Char) : splitFrom pattern skip text ≠ [] := by
  obtain ⟨first, others, isSplit⟩ := exists_splitFrom_eq pattern skip text
  rw [isSplit]
  exact List.cons_ne_nil first others

theorem append_drop_of_prefix {c : Char} {text : List Char} (isPrefix : pattern <+: c :: text)
    (notEmpty : pattern ≠ []) :
    pattern ++ text.drop (pattern.length - 1) = c :: text := by
  obtain ⟨behind, isText⟩ := isPrefix
  cases pattern with
  | nil => exact absurd rfl notEmpty
  | cons first pattern =>
    cases isText
    simp

/-- The pieces with the pattern between them are what is left of the text when the rest of an occurrence is passed
over. -/
theorem intercalate_splitFrom (notEmpty : pattern ≠ []) (skip : ℕ) (text : List Char) :
    pattern.intercalate (splitFrom pattern skip text) = text.drop skip := by
  induction text generalizing skip with
  | nil => rw [splitFrom, List.intercalate_singleton, List.drop_nil]
  | cons c text inductionHypothesis =>
    cases skip with
    | succ skip => exact inductionHypothesis skip
    | zero =>
      rw [splitFrom, List.drop_zero]
      split
      · next here =>
        rw [List.intercalate_cons_of_ne_nil (splitFrom_ne_nil pattern _ text), inductionHypothesis, List.nil_append]
        exact append_drop_of_prefix (List.isPrefixOf_iff_prefix.1 here) notEmpty
      · obtain ⟨first, others, isSplit⟩ := exists_splitFrom_eq pattern 0 text
        have joined := inductionHypothesis 0
        rw [isSplit] at joined ⊢
        rw [consFirst_cons, List.intercalate_cons_cons_left, joined, List.drop_zero]

theorem prefix_of_splitFrom (notEmpty : pattern ≠ []) {text first : List Char} {others : List (List Char)}
    (isSplit : splitFrom pattern 0 text = first :: others) : first <+: text := by
  have joined := intercalate_splitFrom notEmpty 0 text
  rw [isSplit, List.drop_zero] at joined
  cases others with
  | nil =>
    rw [List.intercalate_singleton] at joined
    rw [joined]
  | cons second others =>
    rw [List.intercalate_cons_cons, List.append_assoc] at joined
    exact ⟨_, joined⟩

theorem not_infix_of_mem_splitFrom (notEmpty : pattern ≠ []) (skip : ℕ) (text : List Char) :
    ∀ piece ∈ splitFrom pattern skip text, ¬ pattern <:+: piece := by
  have notInNil : ¬ pattern <:+: [] := fun isInfix => notEmpty (List.infix_nil.1 isInfix)
  induction text generalizing skip with
  | nil =>
    intro piece isPiece
    rwa [List.mem_singleton.1 isPiece]
  | cons c text inductionHypothesis =>
    cases skip with
    | succ skip => exact inductionHypothesis skip
    | zero =>
      rw [splitFrom]
      split
      · intro piece isPiece
        obtain rfl | isLater := List.mem_cons.1 isPiece
        · exact notInNil
        · exact inductionHypothesis _ piece isLater
      · next notHere =>
        obtain ⟨first, others, isSplit⟩ := exists_splitFrom_eq pattern 0 text
        have clean := inductionHypothesis 0
        have isBeginning := prefix_of_splitFrom notEmpty isSplit
        rw [isSplit] at clean ⊢
        intro piece isPiece
        obtain rfl | isLater := List.mem_cons.1 isPiece
        · intro isInfix
          obtain isPrefix | isBehind := List.infix_cons_iff.1 isInfix
          · have stands := isPrefix.trans (List.cons_prefix_cons.2 ⟨rfl, isBeginning⟩)
            exact notHere (List.isPrefixOf_iff_prefix.2 stands)
          · exact clean first List.mem_cons_self isBehind
        · exact clean piece (List.mem_cons_of_mem first isLater)

theorem intercalate_nil_singletons (text : List Char) : [].intercalate (text.map ([·])) = text := by
  induction text with
  | nil => rfl
  | cons c text inductionHypothesis =>
    cases text with
    | nil => rfl
    | cons second text =>
      rw [List.map_cons, List.map_cons, List.intercalate_cons_cons]
      exact congrArg (c :: ·) inductionHypothesis

/-- Joining undoes splitting. -/
theorem intercalate_split (pattern text : List Char) : pattern.intercalate (split pattern text) = text := by
  unfold split
  split
  · next isEmpty =>
    rw [List.isEmpty_iff.1 isEmpty]
    exact intercalate_nil_singletons text
  · next notEmpty => exact intercalate_splitFrom (mt List.isEmpty_iff.2 notEmpty) 0 text

theorem not_infix_of_mem_split (notEmpty : pattern ≠ []) {text piece : List Char}
    (isPiece : piece ∈ split pattern text) :
    ¬ pattern <:+: piece := by
  rw [split, if_neg (mt List.isEmpty_iff.1 notEmpty)] at isPiece
  exact not_infix_of_mem_splitFrom notEmpty 0 text piece isPiece

example : split ['a', 'a'] ['a', 'a', 'a'] = [[], ['a']] := by decide

end Text

namespace Builtin

def pieces (s separator : String) : List String :=
  (Text.split separator.toList s.toList).map String.ofList

theorem intercalate_pieces (s separator : String) : separator.intercalate (pieces s separator) = s := by
  have kept : (pieces s separator).map String.toList = Text.split separator.toList s.toList := by
    rw [pieces, List.map_map]
    exact (List.map_congr_left fun piece _ => String.toList_ofList).trans (List.map_id _)
  rw [← String.toList_inj, String.toList_intercalate, kept, Text.intercalate_split]

theorem not_infix_of_mem_pieces {s separator piece : String} (notEmpty : separator ≠ "")
    (isPiece : piece ∈ pieces s separator) : ¬ separator.toList <:+: piece.toList := by
  obtain ⟨characters, isPart, rfl⟩ := List.mem_map.1 isPiece
  rw [String.toList_ofList]
  exact Text.not_infix_of_mem_split (mt String.toList_eq_nil_iff.1 notEmpty) isPart

theorem isSome_find?_eq_false {pattern text : List Char} (absent : ¬ pattern <:+: text) :
    (Text.find? pattern text).isSome = false := by
  obtain ⟨index, -, -, occurs, -⟩ | ⟨-, notFound, -⟩ := indexValue_find? pattern text
  · exact absurd (exists_occursAt_iff.1 ⟨index, occurs⟩) absent
  · exact notFound

theorem outcome_split (gate : Gate) (s separator : String) :
    TextOutcome gate s "split" [.str separator] (.ok (.list ((pieces s separator).map .str))) := by
  refine ⟨_, rfl, fun store => ?_⟩
  rw [pieces, List.map_map]
  rfl

theorem outcome_join (gate : Gate) (separator : String) (parts : List String) :
    StaticOutcome gate stringType "join" [.str separator, .list (parts.map .str)]
      (.ok (.str (separator.intercalate parts))) := by
  have displayed : (parts.map Value.str).map Value.display = parts := by
    rw [List.map_map]
    exact List.map_id parts
  refine ⟨_, rfl, fun store => ?_⟩
  show (Except.ok (Value.str (separator.intercalate ((parts.map Value.str).map Value.display))), store) = _
  rw [displayed]

/-- What the calls answer that split a text at a separator, join the pieces and look for the separator in them. -/
structure SplitsInto (call : Value → String → List Value → Except Failure Value) (s separator : String)
    (pieces : List String) : Prop where
  split : call (.str s) "split" [.str separator] = .ok (.list (pieces.map .str))
  join : call (.type stringType.ref) "join" [.str separator, .list (pieces.map .str)] = .ok (.str s)
  clean : separator ≠ "" → ∀ piece ∈ pieces, ¬ separator.toList <:+: piece.toList ∧
    call (.str piece) "contains" [.str separator] = .ok (.bool false)

/-- Joining undoes splitting on every engine, and no piece contains the separator. -/
theorem join_of_split {registry : Registry} {policy : AllowList}
    (strings : (Engine.gateOf registry policy).lookup stringType.name = .found stringType) (settings : Settings)
    (store : Store) (s separator : String) :
    ∃ pieces, ∀ operations,
      SplitsInto ((Engine.cached (Engine.gateOf registry policy) settings store).after operations).answer s separator
        pieces := by
  refine ⟨pieces s separator, fun operations => ⟨?_, ?_, fun notEmpty piece isPiece => ?_⟩⟩
  · exact answer_of_ok strings settings store operations (outcome_split _ s separator)
  · have joined := outcome_join (Engine.gateOf registry policy) separator (pieces s separator)
    rw [intercalate_pieces] at joined
    exact answer_type_of_ok strings settings store operations joined
  · have absent := not_infix_of_mem_pieces notEmpty isPiece
    have searched := outcome_contains (Engine.gateOf registry policy) piece separator
    rw [isSome_find?_eq_false absent] at searched
    exact ⟨absent, answer_of_ok strings settings store operations searched⟩

/-- The second of two overlapping occurrences is none. -/
theorem join_of_split_overlapping :
    let gate := Engine.gateOf standardRegistry .all
    gate.lookup stringType.name = .found stringType ∧
      ∃ pieces, ∀ operations,
        SplitsInto ((Engine.cached gate .standard).after operations).answer "aaa" "aa" pieces := by
  intro gate
  have strings : gate.lookup stringType.name = .found stringType := rfl
  exact ⟨strings, join_of_split strings .standard .empty "aaa" "aa"⟩

end Builtin

end LateBound
