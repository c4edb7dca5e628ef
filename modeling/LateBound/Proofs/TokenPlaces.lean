import LateBound.Proofs.Lexed
import LateBound.Proofs.Places

/-!
# Tokens tile their text

The spans of the tokens cut a text into pieces: they follow one another, none is empty, and what no span covers is
blank. Each piece is a token by itself, for where a token ends is seen at the end of a text as well as in front of
whatever follows it.
-/

namespace LateBound

open Source

theorem Token.Written.ne_nil {rest lexeme : List Char} {token : Token} (written : token.Written rest lexeme) :
    lexeme ≠ [] := by
  obtain ⟨_, _, _, _, piece, _, _, rfl, _⟩ := written.scan
  exact piece.nonempty

theorem Token.Written.ne_endOfText {rest lexeme : List Char} {token : Token} (written : token.Written rest lexeme) :
    token ≠ .endOfText := by
  obtain ⟨_, _, _, _, piece, scanned, rfl, _⟩ := written.scan
  exact Token.ne_endOfText_of_scan scanned

theorem byteCount_pos {cs : List Char} (filled : cs ≠ []) : 0 < byteCount cs :=
  Nat.pos_of_ne_zero fun none => filled (eq_nil_of_byteCount none)

/-! ## One token -/

theorem Token.Written.tokenize_eq {rest lexeme : List Char} {token : Token} (written : token.Written rest lexeme) :
    tokenize (String.ofList lexeme) =
      .ok [⟨token, .between .start (Position.start.after lexeme)⟩, .endMark (Position.start.after lexeme)] := by
  have atEnd : token.Written [] lexeme := written.retail (lookahead_of_isPrefix List.nil_prefix)
  have laid : Laid .start (lexeme ++ []) _ := .token atEnd (.nil _)
  rw [List.append_nil] at laid
  rw [tokenize, String.toList_ofList]
  exact laid.tokensFrom_eq

def IsOneToken (text : List Char) (token : Token) : Prop :=
  tokenize (String.ofList text) =
    .ok [⟨token, .between .start (Position.start.after text)⟩, .endMark (Position.start.after text)]

/-- What may stand between brackets is one token together with them. -/
theorem isOneToken_bracket {raw : String} (inside : InBrackets 0 false raw.toList) :
    IsOneToken ("[" ++ raw ++ "]").toList (.bracket raw) := by
  have isText : ("[" ++ raw ++ "]").toList = '[' :: (raw.toList ++ [']']) := by simp
  have written : (Token.bracket (String.ofList raw.toList)).Written [] ('[' :: (raw.toList ++ [']'])) := .bracket inside
  rw [String.ofList_toList, ← isText] at written
  exact written.tokenize_eq

/-! ## Tokens in order -/

def Span.place (span : Span) : Position :=
  ⟨span.line, span.column, span.start⟩

structure Span.Precedes (first second : Span) : Prop where
  disjoint : first.stop ≤ second.start
  place : first.place.Before second.place

/-- The tokens stand one behind the other, and none of them is empty. -/
structure InOrder (tokens : List LocatedToken) : Prop where
  filled : ∀ located ∈ tokens, located.span.start < located.span.stop
  pairwise : tokens.Pairwise fun first second => first.span.Precedes second.span

namespace InOrder

variable {tokens others front behind : List LocatedToken}

theorem sublist (ordered : InOrder tokens) (part : others.Sublist tokens) : InOrder others :=
  ⟨fun located inside => ordered.filled located (part.subset inside), ordered.pairwise.sublist part⟩

theorem left (ordered : InOrder (front ++ behind)) : InOrder front :=
  ordered.sublist (List.sublist_append_left front behind)

theorem right (ordered : InOrder (front ++ behind)) : InOrder behind :=
  ordered.sublist (List.sublist_append_right front behind)

theorem precedes (ordered : InOrder (front ++ behind)) {first second : LocatedToken} (inFront : first ∈ front)
    (inBehind : second ∈ behind) : first.span.Precedes second.span :=
  (List.pairwise_append.1 ordered.pairwise).2.2 first inFront second inBehind

end InOrder

namespace Laid

variable {position : Position} {text : List Char} {body : List LocatedToken} {located : LocatedToken}

/-- Every token is written at its place, in front of what follows it there. -/
theorem exists_written (laid : Laid position text body) (inside : located ∈ body) :
    ∃ before lexeme rest, text = before ++ (lexeme ++ rest) ∧ located.token.Written rest lexeme ∧
      located.span = .between (position.after before) (position.after (before ++ lexeme)) := by
  induction laid with
  | nil position => cases inside
  | @blank position c tail body _ _ inductionHypothesis =>
    obtain ⟨before, lexeme, rest, rfl, written, span⟩ := inductionHypothesis inside
    exact ⟨c :: before, lexeme, rest, rfl, written, span⟩
  | @token position token lexeme rest body written _ inductionHypothesis =>
    rcases List.mem_cons.1 inside with rfl | inside
    · exact ⟨[], lexeme, rest, rfl, written, rfl⟩
    · obtain ⟨before, piece, behind, rfl, writtenThere, span⟩ := inductionHypothesis inside
      refine ⟨lexeme ++ before, piece, behind, by simp, writtenThere, ?_⟩
      rw [span, ← Position.after_append, ← Position.after_append, List.append_assoc]

theorem before_place (laid : Laid position text body) (inside : located ∈ body) :
    position.Before located.span.place := by
  obtain ⟨before, lexeme, rest, -, -, span⟩ := laid.exists_written inside
  rw [span]
  exact position.before_after before

/-! ## All tokens -/

theorem inOrder (laid : Laid position text body) : InOrder body where
  filled := by
    intro located inside
    obtain ⟨before, lexeme, rest, -, written, span⟩ := laid.exists_written inside
    have filled := byteCount_pos written.ne_nil
    rw [span]
    simp only [Span.between, Position.after_append, Position.offset_after]
    omega
  pairwise := by
    induction laid with
    | nil position => exact .nil
    | blank _ _ inductionHypothesis => exact inductionHypothesis
    | @token position token lexeme rest body _ behind inductionHypothesis =>
      refine List.pairwise_cons.2 ⟨fun located inside => ?_, inductionHypothesis⟩
      have ended := behind.before_place inside
      exact ⟨ended.offset, (position.before_after lexeme).trans ended⟩

theorem isBlank_of_outside (laid : Laid position text body) {before behind : List Char} {c : Char}
    (stands : text = before ++ c :: behind)
    (outside : ∀ located ∈ body, located.span.start ≤ (position.after before).offset →
      located.span.stop ≤ (position.after before).offset) : Text.isBlank c = true := by
  induction laid generalizing before with
  | nil position => simp at stands
  | @blank position d tail body isBlank _ inductionHypothesis =>
    cases before with
    | nil => exact (List.cons.inj stands).1 ▸ isBlank
    | cons e before =>
      obtain ⟨rfl, tailStands⟩ := List.cons.inj stands
      exact inductionHypothesis tailStands outside
  | @token position token lexeme rest body _ _ inductionHypothesis =>
    obtain ⟨between, rfl, isRest⟩ | ⟨between, isLexeme, isTail⟩ := List.append_eq_append_iff.1 stands
    · rw [Position.after_append] at outside
      exact inductionHypothesis isRest fun located inside => outside located (List.mem_cons_of_mem _ inside)
    · cases between with
      | nil =>
        rw [List.append_nil] at isLexeme
        subst isLexeme
        have atOnce : rest = [] ++ c :: behind := isTail.symm
        exact inductionHypothesis atOnce fun located inside => outside located (List.mem_cons_of_mem _ inside)
      | cons d between =>
        have covered := outside _ List.mem_cons_self
        simp only [Span.between, Position.offset_after, isLexeme, byteCount_append] at covered
        have filled := byteCount_pos (List.cons_ne_nil d between)
        omega

end Laid

/-! ## The source -/

/-- The tokens in front of the end mark tile the source. -/
structure Tiles (source : String) (body : List LocatedToken) : Prop where
  /-- They follow one another and share no byte. -/
  ordered : body.Pairwise fun first second => first.span.stop ≤ second.span.start
  /-- Each has a span that is not empty and cuts its lexeme out of the source, and that starts where it says. -/
  pieces : ∀ located ∈ body, located.span.start < located.span.stop ∧ ∃ before behind,
    source.toList = before ++ ((located.lexeme source).toList ++ behind) ∧
      located.span.line = 1 + before.count '\n' ∧ located.span.column = 1 + lastLineLength before ∧
      located.span.start = byteCount before ∧
      located.span.stop = byteCount before + byteCount (located.lexeme source).toList
  /-- Every character outside of all spans is blank. -/
  gaps : ∀ before c behind, source.toList = before ++ c :: behind →
    (∀ located ∈ body, ¬(located.span.start ≤ byteCount before ∧ byteCount before < located.span.stop)) →
      Text.isBlank c = true
  /-- The lexeme of each is read as this token alone. -/
  alone : ∀ located ∈ body, tokenize (located.lexeme source) =
    .ok [⟨located.token, ⟨1, 1, 0, byteCount (located.lexeme source).toList⟩⟩,
      .endMark (Position.start.after (located.lexeme source).toList)]

theorem LocatedToken.lexeme_eq {source : String} {located : LocatedToken} {before lexeme behind : List Char}
    (stands : source.toList = before ++ (lexeme ++ behind))
    (span : located.span = .between (Position.start.after before) (Position.start.after (before ++ lexeme))) :
    located.lexeme source = String.ofList lexeme := by
  unfold LocatedToken.lexeme
  rw [span, stands]
  simp only [Span.between, Position.offset_start_after, byteCount_append]
  rw [slice?_append]
  rfl

theorem Laid.tiles {source : String} {body : List LocatedToken} (laid : Laid .start source.toList body) :
    Tiles source body where
  ordered := laid.inOrder.pairwise.imp fun precedes => precedes.disjoint
  pieces := by
    intro located inside
    obtain ⟨before, lexeme, rest, stands, -, span⟩ := laid.exists_written inside
    refine ⟨laid.inOrder.filled located inside, ?_⟩
    rw [LocatedToken.lexeme_eq stands span, String.toList_ofList]
    simp only [span, Span.between, Position.start_after]
    exact ⟨before, rest, stands, rfl, rfl, rfl, byteCount_append before lexeme⟩
  gaps := by
    intro before c behind stands outside
    apply laid.isBlank_of_outside stands
    intro located inside starts
    have notInside := outside located inside
    rw [Position.offset_start_after] at starts ⊢
    omega
  alone := by
    intro located inside
    obtain ⟨before, lexeme, rest, stands, written, span⟩ := laid.exists_written inside
    rw [LocatedToken.lexeme_eq stands span, String.toList_ofList, written.tokenize_eq]
    simp only [Span.between, Position.offset_start_after]
    rfl

/-- A text that can be read is tiled by its tokens, and one end mark stands behind them at its end. -/
theorem tokenize_tiles {source : String} {tokens : List LocatedToken} (read : tokenize source = .ok tokens) :
    ∃ body, tokens = body ++ [⟨.endOfText, ⟨1 + source.toList.count '\n', 1 + lastLineLength source.toList,
        byteCount source.toList, byteCount source.toList⟩⟩] ∧
      (∀ located ∈ body, located.token ≠ .endOfText) ∧ Tiles source body := by
  obtain ⟨body, laid, rfl⟩ := exists_laid_of_tokensFrom read
  refine ⟨body, ?_, ?_, laid.tiles⟩
  · rw [LocatedToken.endMark, Position.start_after]
    rfl
  · intro located inside
    obtain ⟨_, _, _, _, written, _⟩ := laid.exists_written inside
    exact written.ne_endOfText

theorem tokenize_tiles_two_lines :
    tokenize "ä\n 5" = .ok [⟨.identifier "ä", ⟨1, 1, 0, 2⟩⟩, ⟨.int 5, ⟨2, 2, 4, 5⟩⟩, ⟨.endOfText, ⟨2, 3, 5, 5⟩⟩] ∧
      Tiles "ä\n 5" [⟨.identifier "ä", ⟨1, 1, 0, 2⟩⟩, ⟨.int 5, ⟨2, 2, 4, 5⟩⟩] := by
  have read : tokenize "ä\n 5" =
      .ok [⟨.identifier "ä", ⟨1, 1, 0, 2⟩⟩, ⟨.int 5, ⟨2, 2, 4, 5⟩⟩, ⟨.endOfText, ⟨2, 3, 5, 5⟩⟩] := by cbv
  obtain ⟨body, same, -, tiles⟩ := tokenize_tiles read
  constructor
  · exact read
  · have isBody := congrArg List.dropLast same
    rw [List.dropLast_concat] at isBody
    rw [← isBody] at tiles
    exact tiles

end LateBound
