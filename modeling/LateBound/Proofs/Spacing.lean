import LateBound.Proofs.TokenPlaces

/-!
# Blanks between tokens

A text that a blank sets off from the one before it is read as if it stood alone; only its places move. So a text may
be spread out wherever it does not cut a token: it is read as the same expression but for the places.
-/

namespace LateBound

open Source

/-! ## Behind another text -/

def Span.behind (front : List Char) (span : Span) : Span where
  line := span.line + front.count '\n'
  column := if span.line = 1 then span.column + lastLineLength front else span.column
  start := span.start + byteCount front
  stop := span.stop + byteCount front

def LocatedToken.behind (front : List Char) (located : LocatedToken) : LocatedToken :=
  ⟨located.token, located.span.behind front⟩

theorem Span.between_behind (front before upTo : List Char) :
    Span.between (Position.start.after (front ++ before)) (Position.start.after (front ++ upTo)) =
      (Span.between (Position.start.after before) (Position.start.after upTo)).behind front := by
  simp only [between, behind, Position.start_after, byteCount_append, List.count_append, lastLineLength_append,
    Span.mk.injEq]
  refine ⟨by omega, ?_, by omega, by omega⟩
  by_cases broken : '\n' ∈ before
  · have feeds := List.count_pos_iff.2 broken
    rw [if_pos broken, if_neg (by omega)]
  · rw [if_neg broken, List.count_eq_zero_of_not_mem broken, if_pos rfl]
    omega

theorem LocatedToken.endMark_behind (front text : List Char) :
    endMark (Position.start.after (front ++ text)) = (endMark (Position.start.after text)).behind front :=
  congrArg (LocatedToken.mk .endOfText) (Span.between_behind front text text)

theorem Laid.behind {position : Position} {text before : List Char} {body : List LocatedToken}
    (laid : Laid position text body) (front : List Char) (here : position = .after .start before) :
    Laid (Position.start.after (front ++ before)) text (body.map (.behind front)) := by
  -- A place is known by the text before it, which grows from step to step.
  induction laid generalizing before with
  | nil position => exact .nil _
  | @blank position c tail body isBlank _ inductionHypothesis =>
    have behindBlank : position.next c = .after .start (before ++ [c]) := by
      rw [here, Position.after_append]
      rfl
    have moved := inductionHypothesis behindBlank
    rw [← List.append_assoc, Position.after_append] at moved
    exact .blank isBlank moved
  | @token position token lexeme rest body written _ inductionHypothesis =>
    subst here
    have moved := inductionHypothesis (Position.after_append .start before lexeme).symm
    rw [← List.append_assoc, Position.after_append] at moved
    have span : Span.between (Position.start.after (front ++ before))
        ((Position.start.after (front ++ before)).after lexeme) =
          (Span.between (Position.start.after before) ((Position.start.after before).after lexeme)).behind front := by
      rw [← Position.after_append, ← Position.after_append, List.append_assoc]
      exact Span.between_behind front before (before ++ lexeme)
    have laid := Laid.token written moved
    rw [span] at laid
    exact laid

theorem SetsOff.of_isBlank {c : Char} (isBlank : Text.isBlank c = true) (rest : List Char) : SetsOff (c :: rest) := by
  apply setsOff_of_separator
  · show (_ || Text.isBlank c) = true
    rw [isBlank, Bool.or_true]
  · rintro rfl
    exact absurd isBlank (by decide)

/-- A text behind a blank is read as it is alone, at its new places. -/
theorem tokenize_behind {first second : String} {c : Char} {tokens others : List LocatedToken}
    (isBlank : Text.isBlank c = true) (read : tokenize first = .ok tokens) (readOther : tokenize second = .ok others) :
    tokenize (first ++ String.singleton c ++ second) =
      .ok (tokens.dropLast ++ others.map (.behind (first.toList ++ [c]))) := by
  obtain ⟨body, laid, rfl⟩ := exists_laid_of_tokensFrom read
  obtain ⟨rest, laidRest, rfl⟩ := exists_laid_of_tokensFrom readOther
  have moved := laidRest.behind (first.toList ++ [c]) (Position.after_nil .start).symm
  rw [List.append_nil, Position.after_append] at moved
  have whole := (laid.append (.blank isBlank moved) (.of_isBlank isBlank _)).tokensFrom_eq
  have isWhole : (first ++ String.singleton c ++ second).toList = first.toList ++ c :: second.toList := by simp
  have isEnd : first.toList ++ c :: second.toList = (first.toList ++ [c]) ++ second.toList := by simp
  rw [tokenize, isWhole, whole, List.dropLast_concat, List.map_append, List.append_assoc, isEnd,
    LocatedToken.endMark_behind]
  rfl

/-! ## Spread out -/

def CutsNone (tokens : List LocatedToken) (place : Nat) : Prop :=
  ∀ located ∈ tokens, ¬(located.span.start < place ∧ place < located.span.stop)

theorem Laid.cut {position : Position} {front back : List Char} {body : List LocatedToken}
    (laid : Laid position (front ++ back) body) (cutsNone : CutsNone body (position.after front).offset) :
    ∃ first second, body = first ++ second ∧ Laid position front first ∧ Laid (position.after front) back second := by
  generalize whole : front ++ back = text at laid
  induction laid generalizing front with
  | nil position =>
    obtain ⟨rfl, rfl⟩ := List.append_eq_nil_iff.1 whole
    exact ⟨[], [], rfl, .nil _, .nil _⟩
  | @blank position c tail body isBlank laid inductionHypothesis =>
    cases front with
    | nil =>
      subst whole
      exact ⟨[], body, rfl, .nil _, .blank isBlank laid⟩
    | cons d front =>
      obtain ⟨rfl, isTail⟩ := List.cons.inj whole
      obtain ⟨first, second, rfl, laidFirst, laidSecond⟩ := inductionHypothesis cutsNone isTail
      exact ⟨first, second, rfl, .blank isBlank laidFirst, laidSecond⟩
  | @token position token lexeme rest body written laid inductionHypothesis =>
    obtain ⟨between, isLexeme, rfl⟩ | ⟨between, rfl, isRest⟩ := List.append_eq_append_iff.1 whole
    · cases front with
      | nil =>
        cases isLexeme
        exact ⟨[], _, rfl, .nil _, .token written laid⟩
      | cons d front =>
        cases between with
        | nil =>
          rw [List.append_nil] at isLexeme
          subst isLexeme
          have ending := written.retail (lookahead_of_isPrefix List.nil_prefix)
          have atEnd : Laid position (d :: front ++ []) _ := .token ending (.nil _)
          rw [List.append_nil] at atEnd
          exact ⟨[_], body, rfl, atEnd, laid⟩
        | cons e between =>
          refine absurd ?_ (cutsNone _ List.mem_cons_self)
          have filled := byteCount_pos (List.cons_ne_nil d front)
          have left := byteCount_pos (List.cons_ne_nil e between)
          simp only [Span.between, Position.offset_after, isLexeme, byteCount_append]
          omega
    · rw [Position.after_append] at cutsNone
      obtain ⟨first, second, rfl, laidFirst, laidSecond⟩ :=
        inductionHypothesis (fun located inside => cutsNone located (List.mem_cons_of_mem _ inside)) isRest.symm
      subst isRest
      refine ⟨_ :: first, second, rfl, .token (written.retail (lookahead_of_isPrefix ⟨back, rfl⟩)) laidFirst, ?_⟩
      rwa [Position.after_append]

/-- What the first text is read as, the second one is read as too, places apart. -/
def ReadAlike (text text' : String) : Prop :=
  ∀ tree, Expr.parse text = .ok tree → ∃ tree', Expr.parse text' = .ok tree' ∧ tree.Alike (fun _ => True) tree'

/-- Blanks between two tokens leave the tokens what they are. -/
theorem readAlike_of_spread {front gap back : String} {tokens : List LocatedToken}
    (read : tokenize (front ++ back) = .ok tokens) (cutsNone : CutsNone tokens (byteCount front.toList))
    (all : ∀ c ∈ gap.toList, Text.isBlank c = true) :
    ReadAlike (front ++ back) (front ++ gap ++ back) ∧ ReadAlike (front ++ gap ++ back) (front ++ back) := by
  obtain ⟨body, laid, rfl⟩ := exists_laid_of_tokensFrom read
  rw [String.toList_append] at laid
  rw [← Position.offset_start_after] at cutsNone
  obtain ⟨first, second, rfl, laidFirst, laidSecond⟩ :=
    laid.cut fun located inside => cutsNone located (List.mem_append_left _ inside)
  have dense : Lexed (front ++ back).toList (kinds first ++ kinds second) := by
    rw [String.toList_append, ← kinds_append]
    exact laid.lexed
  have spread : Lexed (front ++ gap ++ back).toList (kinds first ++ kinds second) := by
    rw [String.toList_append, String.toList_append, List.append_assoc]
    cases gapChars : gap.toList with
    | nil => exact String.toList_append ▸ dense
    | cons c blanks =>
      rw [gapChars] at all
      exact laidFirst.lexed.append (laidSecond.lexed.blanks all) (.of_isBlank (all c List.mem_cons_self) _)
  exact ⟨fun _ => dense.parse_alike spread, fun _ => spread.parse_alike dense⟩

/-- Texts are put together with a blank between them: the tokens are those of the first and then those of the second at
their new places. And blanks put between two tokens change nothing in what is read but the places. -/
theorem tokenize_composes :
    (∀ (first second : String) (c : Char) (tokens others : List LocatedToken), Text.isBlank c = true →
      tokenize first = .ok tokens → tokenize second = .ok others →
        tokenize (first ++ String.singleton c ++ second) =
          .ok (tokens.dropLast ++ others.map (.behind (first.toList ++ [c])))) ∧
    ∀ (front gap back : String) (tokens : List LocatedToken), tokenize (front ++ back) = .ok tokens →
      CutsNone tokens (byteCount front.toList) → (∀ c ∈ gap.toList, Text.isBlank c = true) →
        ReadAlike (front ++ back) (front ++ gap ++ back) ∧ ReadAlike (front ++ gap ++ back) (front ++ back) := by
  constructor
  · intro first second c tokens others isBlank read readOther
    exact tokenize_behind isBlank read readOther
  · intro front gap back tokens read cutsNone all
    exact readAlike_of_spread read cutsNone all

theorem tokenize_composes_two_lines :
    tokenize "ä\n5" = .ok [⟨.identifier "ä", ⟨1, 1, 0, 2⟩⟩, ⟨.int 5, ⟨2, 1, 3, 4⟩⟩, ⟨.endOfText, ⟨2, 2, 4, 4⟩⟩] ∧
      ReadAlike "a.b" "a \n.b" := by
  have read : tokenize "ä" = .ok [⟨.identifier "ä", ⟨1, 1, 0, 2⟩⟩, ⟨.endOfText, ⟨1, 2, 2, 2⟩⟩] := by cbv
  have readFive : tokenize "5" = .ok [⟨.int 5, ⟨1, 1, 0, 1⟩⟩, ⟨.endOfText, ⟨1, 2, 1, 1⟩⟩] := by cbv
  have readDotted : tokenize "a.b" = .ok [⟨.identifier "a", ⟨1, 1, 0, 1⟩⟩, ⟨.dot, ⟨1, 2, 1, 2⟩⟩,
    ⟨.identifier "b", ⟨1, 3, 2, 3⟩⟩, ⟨.endOfText, ⟨1, 4, 3, 3⟩⟩] := by cbv
  constructor
  · exact tokenize_composes.1 "ä" "5" '\n' _ _ rfl read readFive
  · refine (tokenize_composes.2 "a" " \n" ".b" _ readDotted ?_ ?_).1
    · show CutsNone _ 1
      simp [CutsNone]
    · exact List.forall_iff_forall_mem.1 (by decide)

end LateBound
