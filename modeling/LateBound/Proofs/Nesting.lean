import LateBound.Proofs.NodeSpans
import LateBound.Proofs.Places
import LateBound.Proofs.SyntaxPlaces
import LateBound.Proofs.Twins
import Mathlib

/-!
# Texts inside texts

While a text is evaluated, further texts are read as expressions: the segments between the brackets of its
initialisers, those of the initialisers in them, and so on. Each of these texts is a piece of the first one,
but its nodes count from where it starts.
-/

namespace LateBound

/-! ## Spans in a text -/

/-- The span is at the piece that stands in the text behind `before`: its line, its column and its first
offset are those of this place, and its offsets cut the piece out of the text. -/
structure Span.PointsAt (span : Span) (text before piece : List Char) : Prop where
  line : span.line = (Position.start.after before).line
  column : span.column = (Position.start.after before).column
  start : span.start = (Position.start.after before).offset
  cut : Source.slice? text span.start span.stop = some piece

theorem Span.pointsAt_iff_marks {span : Span} {text before piece behind : List Char}
    (stands : text = before ++ (piece ++ behind)) : span.PointsAt text before piece ↔ span.Marks before piece := by
  constructor
  · rintro ⟨line, column, start, cut⟩
    unfold Source.slice? at cut
    split at cut
    · next ordered =>
      obtain ⟨rest, _, taken⟩ := Option.bind_eq_some_iff.1 cut
      have width := Source.byteCount_of_takeBytes taken
      have stop : span.stop = (Position.start.after (before ++ piece)).offset := by
        rw [Position.offset_start_after] at start ⊢
        rw [Source.byteCount_append]
        omega
      cases span
      simp only [Span.Marks, Span.between, Span.mk.injEq]
      exact ⟨line, column, start, stop⟩
    · cases cut
  · rintro rfl
    refine ⟨rfl, rfl, rfl, ?_⟩
    rw [stands]
    simp only [Span.between, Position.offset_start_after, Source.byteCount_append]
    exact Source.slice?_append before piece behind

/-! ## Segments are pieces -/

theorem Text.infix_trimChars (cs : List Char) : trimChars cs <:+: cs := by
  unfold trimChars
  have front := List.dropWhile_suffix isBlank (l := cs)
  have back := List.reverse_prefix.2 (List.dropWhile_suffix isBlank (l := (cs.dropWhile isBlank).reverse))
  rw [List.reverse_reverse] at back
  exact back.isInfix.trans front.isInfix

namespace Initialiser

theorem infix_of_mem_splitMarked (separates : Char → Bool) (chars : List (Char × Bool)) :
    ∃ first others, splitMarked separates chars = first :: others ∧ first <+: chars.map Prod.fst ∧
      ∀ segment ∈ others, segment <:+: chars.map Prod.fst := by
  induction chars with
  | nil => exact ⟨[], [], rfl, List.prefix_rfl, List.forall_mem_nil _⟩
  | cons head rest inductionHypothesis =>
    obtain ⟨c, top⟩ := head
    obtain ⟨first, others, cut, isPrefix, areInfix⟩ := inductionHypothesis
    rw [splitMarked, cut]
    split
    · refine ⟨[], _, rfl, List.nil_prefix, List.forall_mem_cons.2 ⟨?_, fun segment inside => ?_⟩⟩
      · exact isPrefix.isInfix.trans (List.suffix_cons c _).isInfix
      · exact (areInfix segment inside).trans (List.suffix_cons c _).isInfix
    · refine ⟨c :: first, others, rfl, (List.prefix_cons_inj c).2 isPrefix, fun segment inside => ?_⟩
      exact (areInfix segment inside).trans (List.suffix_cons c _).isInfix

theorem infix_of_mem_segments {text segment : List Char} (inside : segment ∈ segments text) : segment <:+: text := by
  obtain ⟨first, others, cut, isPrefix, areInfix⟩ :=
    infix_of_mem_splitMarked (fun c => c == ',' || c == ';') (marked .start text)
  rw [map_fst_marked] at isPrefix areInfix
  rw [segments, cut] at inside
  obtain rfl | inside := List.mem_cons.1 inside
  · exact isPrefix.isInfix
  · exact areInfix segment inside

theorem cutAssignment_suffix {behindColon : Bool} {chars : List (Char × Bool)} {name value : List Char}
    (cut : cutAssignment behindColon chars = some (name, value)) : value <:+ chars.map Prod.fst := by
  induction chars generalizing behindColon name with
  | nil => cases cut
  | cons head rest inductionHypothesis =>
    obtain ⟨c, top⟩ := head
    rw [cutAssignment] at cut
    dsimp only at cut
    split at cut
    · cases cut
      exact List.suffix_cons _ _
    · obtain ⟨⟨inner, _⟩, behind, same⟩ := Option.map_eq_some_iff.1 cut
      cases same
      exact (inductionHypothesis behind).trans (List.suffix_cons _ _)

theorem assignment?_suffix {segment name value : List Char} (isAssignment : assignment? segment = some (name, value)) :
    value <:+ segment := by
  have suffix := cutAssignment_suffix isAssignment
  rwa [map_fst_marked] at suffix

theorem Given.infix_trimmed {raw : String} {given : List Char} (isGiven : Given raw given) :
    Text.trimChars given <:+: raw.toList := by
  refine (Text.infix_trimChars given).trans ?_
  cases isGiven with
  | segment inside => exact infix_of_mem_segments inside
  | value inside isAssignment =>
    exact ((assignment?_suffix isAssignment).isInfix.trans (Text.infix_trimChars _)).trans (infix_of_mem_segments inside)

end Initialiser

/-! ## Where a node stands -/

namespace Expr

open Grammar

/-- The tokens from which the node is put together are tokens of the text, and they cover the piece that
stands in it behind `before`. -/
def StandsIn (node : Expr) (text : String) (before piece : List Char) : Prop :=
  ∃ prior own later behind, tokenize text = .ok (prior ++ (own ++ later)) ∧ Builds own node ∧
    text.toList = before ++ (piece ++ behind) ∧ Covers (Position.start.after before) piece own

theorem prefix_of_inner {taken rest body : List LocatedToken} {last : LocatedToken} (inner : Inner taken)
    (isEnd : last.token = .endOfText) (same : taken ++ rest = body ++ [last]) : taken <+: body := by
  obtain ⟨between, rfl, _⟩ | ⟨between, rfl, ending⟩ := List.append_eq_append_iff.1 same
  · exact List.prefix_append _ _
  · cases between with
    | nil => simp only [List.append_nil, List.prefix_rfl]
    | cons located others =>
      obtain ⟨rfl, _⟩ := List.cons.inj ending
      exact absurd isEnd (inner _ (List.mem_append_right body List.mem_cons_self))

/-- Every node of a tree stands somewhere in the text that it was read from. -/
theorem exists_standsIn {text : String} {tree node : Expr} (read : parse text = .ok tree)
    (inside : node ∈ tree.nodes) : ∃ before piece, node.StandsIn text before piece := by
  obtain ⟨tokens, taken, rest, links, nest, tokenized, cut, chain, _, _⟩ := parse_sound read
  obtain ⟨lead, body, _, marked, covered⟩ := covers_of_tokensFrom tokenized
  obtain ⟨others, rfl⟩ := prefix_of_inner chain.inner rfl (cut.symm.trans marked)
  obtain ⟨prior, own, later, rfl, builds⟩ := chain.nodes_within node inside
  obtain ⟨_, none⟩ | ⟨piece, trail, isText, covers⟩ := covered
  · exact absurd (List.append_eq_nil_iff.1 none).1 chain.ne_nil
  · have filled : own ≠ [] := by
      obtain ⟨_, _, chain, _⟩ := builds
      exact chain.ne_nil
    have covers : Covers (Position.start.after lead) piece (prior ++ (own ++ (later ++ others))) := by
      simpa only [List.append_assoc] using covers
    obtain ⟨before, inner, after, rfl, within⟩ := covers.stretch filled
    rw [← Position.after_append] at within
    refine ⟨lead ++ before, inner, prior, own, later ++ rest, after ++ trail, ?_, builds, ?_, within⟩
    · rw [tokenized, cut]
      simp only [List.append_assoc]
    · rw [isText]
      simp only [List.append_assoc]

theorem StandsIn.reaches {node : Expr} {text : String} {before piece : List Char}
    (stands : node.StandsIn text before piece) :
    Reaches (Position.start.after before) (Position.start.after (before ++ piece)) piece node.span := by
  obtain ⟨_, own, _, _, _, builds, _, covers⟩ := stands
  rw [Position.after_append]
  exact builds.reaches covers

end Expr

/-! ## Where a text stands -/

/-- The text is read when `source` is evaluated, and stands in it behind `lead`: it is the source itself, or
without blanks a segment of an initialiser that is a node of such a text, at any place between the brackets
where these characters stand. -/
inductive Embeds (source : String) : List Char → String → Prop
  | whole : Embeds source [] source
  | segment {text raw : String} {target : Expr} {span : Span} {lead before front inside given outside : List Char} :
      Embeds source lead text →
      (Expr.initialise target raw span).StandsIn text before (front ++ '[' :: (raw.toList ++ [']'])) →
      Initialiser.Given raw given → raw.toList = inside ++ (Text.trimChars given ++ outside) →
      Embeds source (lead ++ (before ++ (front ++ '[' :: inside))) (String.ofList (Text.trimChars given))

theorem Embeds.exists_eq_append {source text : String} {lead : List Char} (embeds : Embeds source lead text) :
    ∃ behind, source.toList = lead ++ (text.toList ++ behind) := by
  induction embeds with
  | whole => exact ⟨[], by rw [List.append_nil, List.nil_append]⟩
  | @segment text raw target span lead before front inside given outside _ stands _ isRaw inductionHypothesis =>
    obtain ⟨behind, isSource⟩ := inductionHypothesis
    obtain ⟨_, _, _, after, _, _, isText, _⟩ := stands
    refine ⟨outside ++ (']' :: (after ++ behind)), ?_⟩
    rw [isSource, isText, isRaw, String.toList_ofList]
    simp only [List.append_assoc, List.cons_append, List.nil_append]

/-- A segment between the brackets of a node stands in the source too. -/
theorem Embeds.exists_segment {source text raw : String} {target : Expr} {span : Span}
    {lead before piece given : List Char} (embeds : Embeds source lead text)
    (stands : (Expr.initialise target raw span).StandsIn text before piece) (isGiven : Initialiser.Given raw given) :
    ∃ further, Embeds source further (String.ofList (Text.trimChars given)) := by
  have bracket : ∃ front, piece = front ++ '[' :: (raw.toList ++ [']']) := by
    obtain ⟨_, _, _, _, _, builds, _, covers⟩ := stands
    exact builds.bracket covers
  obtain ⟨front, rfl⟩ := bracket
  obtain ⟨inside, outside, isRaw⟩ := isGiven.infix_trimmed
  exact ⟨_, .segment embeds stands isGiven (isRaw.symm.trans (List.append_assoc ..))⟩

/-! ## Where the span of a node is -/

/-- The span of a node is at the piece that the node was read from exactly when the node was read from the
source itself and no parenthesis is in front of the piece. -/
theorem Embeds.span_pointsAt_iff {source text : String} {node : Expr} {lead before piece : List Char}
    (embeds : Embeds source lead text) (stands : node.StandsIn text before piece) :
    node.span.PointsAt source.toList (lead ++ before) piece ↔ lead = [] ∧ piece.head? ≠ some '(' := by
  obtain ⟨behind, isSource⟩ := embeds.exists_eq_append
  have isText : ∃ after, text.toList = before ++ (piece ++ after) := by
    obtain ⟨_, _, _, after, _, _, isText, _⟩ := stands
    exact ⟨after, isText⟩
  obtain ⟨after, isText⟩ := isText
  have isSource : source.toList = (lead ++ before) ++ (piece ++ (after ++ behind)) := by
    rw [isSource, isText]
    simp only [List.append_assoc]
  rw [Span.pointsAt_iff_marks isSource]
  obtain ⟨opening, rest, rfl, isOpening, place⟩ := stands.reaches
  rw [← Position.after_append] at place
  rw [place]
  constructor
  · intro marks
    -- The ends agree only if nothing is left out in front of the text, and then the starts only if nothing
    -- is left out in front of the piece.
    have stop := congrArg Span.stop marks
    have start := congrArg Span.start marks
    simp only [Span.between, Position.offset_start_after, Source.byteCount_append] at start stop
    have noLead : lead = [] := Source.eq_nil_of_byteCount (by omega)
    have noOpening : opening = [] := Source.eq_nil_of_byteCount (by omega)
    subst noLead noOpening
    exact ⟨rfl, isOpening.other⟩
  · rintro ⟨rfl, bare⟩
    have noOpening : opening = [] := by
      refine isOpening.starts.resolve_right fun opens => bare ?_
      rw [List.head?_append, opens]
      rfl
    subst noOpening
    rw [List.append_nil]
    rfl

end LateBound
