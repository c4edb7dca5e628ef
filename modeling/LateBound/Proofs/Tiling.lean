import LateBound.Token.Scan
import Mathlib.Tactic.SplitIfs

/-!
# Tokens cover their text

The tokens of a text stand one behind the other, each where its span says, with nothing but blanks between
them. So any run of tokens covers a piece of the text, from the place where its first token starts to the
place where its last one ends. A text that has no tokens has a stretch that cannot be read.
-/

namespace LateBound

/-! ## Places -/

namespace Position

/-- The first place is not behind the second in the order of reading. -/
structure Before (first second : Position) : Prop where
  offset : first.offset ≤ second.offset
  line : first.line ≤ second.line
  column : first.line = second.line → first.column ≤ second.column

theorem Before.refl (position : Position) : position.Before position :=
  ⟨Nat.le_refl _, Nat.le_refl _, fun _ => Nat.le_refl _⟩

theorem Before.trans {first second third : Position} (head : first.Before second) (tail : second.Before third) :
    first.Before third where
  offset := Nat.le_trans head.offset tail.offset
  line := Nat.le_trans head.line tail.line
  column same := by
    have between := head.line
    have behind := tail.line
    exact Nat.le_trans (head.column (by omega)) (tail.column (by omega))

theorem before_next (position : Position) (c : Char) : position.Before (position.next c) := by
  unfold next
  split
  · exact ⟨Nat.le_add_right _ _, Nat.le_succ _, fun same => absurd same (Nat.ne_of_lt (Nat.lt_succ_self _))⟩
  · exact ⟨Nat.le_add_right _ _, Nat.le_refl _, fun _ => Nat.le_succ _⟩

theorem before_after (position : Position) (cs : List Char) : position.Before (position.after cs) := by
  induction cs generalizing position with
  | nil => exact .refl position
  | cons c cs inductionHypothesis => exact (position.before_next c).trans (inductionHypothesis _)

end Position

theorem Span.merge_between {start stop start' stop' : Position} (starts : start.Before start')
    (stops : stop.offset ≤ stop'.offset) :
    (Span.between start stop).merge (.between start' stop') = .between start stop' := by
  obtain ⟨offset, line, column⟩ := starts
  unfold Span.merge Span.between
  dsimp only
  rw [Nat.min_eq_left line, Nat.min_eq_left offset, Nat.max_eq_right stops]
  split
  · next same => rw [Nat.min_eq_left (column same)]
  · rfl

/-- The span is that of the piece, which stands in a text behind `before`: it says the line and the column
at which the piece starts, and the offsets at which it starts and ends. -/
def Span.Marks (span : Span) (before piece : List Char) : Prop :=
  span = .between (Position.start.after before) (Position.start.after (before ++ piece))

/-! ## One token -/

/-- The characters may spell the token: what is to be known of how it is written. -/
structure Token.Spelled (token : Token) (lexeme : List Char) : Prop where
  nonempty : lexeme ≠ []
  mark : token = .leftParen → lexeme = ['(']
  paren : lexeme.head? = some '(' → token = .leftParen
  bracket : ∀ raw, token = .bracket raw → lexeme = '[' :: (raw.toList ++ [']'])

theorem Taken.head?_taken {α : Type} {c : Char} {tail : List Char} (piece : Taken α (c :: tail)) :
    piece.taken.head? = some c := by
  cases start : piece.taken with
  | nil => exact absurd start piece.nonempty
  | cons first others =>
    have tiles := piece.tiles
    rw [start] at tiles
    exact congrArg some (List.cons.inj tiles).1

/-- A token that stands for itself only: neither a mark nor a bracket. -/
def Token.IsWord : Token → Prop
  | leftParen | bracket _ | endOfText => False
  | _ => True

theorem Token.IsWord.spelled {token : Token} (isWord : token.IsWord) {c : Char} {lexeme : List Char}
    (other : c ≠ '(') (starts : lexeme.head? = some c) : token.Spelled lexeme where
  nonempty := by
    rintro rfl
    cases starts
  mark := by
    rintro rfl
    exact isWord.elim
  paren opens := absurd (Option.some.inj (starts.symm.trans opens)) other
  bracket := by
    rintro raw rfl
    exact isWord.elim

theorem isWord_wordToken (name : String) : (wordToken name).IsWord := by
  unfold wordToken
  split_ifs <;> trivial

theorem Numeral.isWord_of_plainToken? {numeral : Numeral} {token : Token}
    (isToken : numeral.plainToken? = some token) : token.IsWord := by
  unfold Numeral.plainToken? at isToken
  split at isToken
  · split at isToken
    · cases isToken
    · split at isToken
      · cases isToken
        trivial
      · obtain ⟨_, _, rfl⟩ := Option.map_eq_some_iff.1 isToken
        trivial
  · obtain ⟨_, _, rfl⟩ := Option.map_eq_some_iff.1 isToken
    trivial

theorem Numeral.isWord_of_suffixedToken? {numeral : Numeral} {suffix : Char} {token : Token}
    (isToken : numeral.suffixedToken? suffix = some token) : token.IsWord := by
  unfold Numeral.suffixedToken? at isToken
  split_ifs at isToken
  all_goals
    obtain ⟨_, _, rfl⟩ := Option.map_eq_some_iff.1 isToken
    trivial

theorem isWord_of_scanNumeral {text : List Char} {starts : startsNumeral text = true} {piece : Taken Token text}
    (scanned : scanNumeral text starts = .token piece) : piece.value.IsWord := by
  unfold scanNumeral at scanned
  split at scanned
  next numeral behind found =>
    split at scanned
    · split at scanned
      · next isToken =>
        cases scanned
        exact Numeral.isWord_of_suffixedToken? isToken
      · cases scanned
    · split at scanned
      · split at scanned
        · next isToken =>
          cases scanned
          exact Numeral.isWord_of_plainToken? isToken
        · cases scanned
      · cases scanned
        trivial

theorem Token.spelled_of_scan {c : Char} {tail : List Char} {piece : Taken Token (c :: tail)}
    (scanned : Token.scan c tail = .token piece) : piece.value.Spelled piece.taken := by
  unfold Token.scan at scanned
  split at scanned
  · next opens =>
    cases scanned
    subst opens
    exact ⟨by simp, by simp, by simp, by simp⟩
  next other =>
    have word (isWord : piece.value.IsWord) : piece.value.Spelled piece.taken :=
      isWord.spelled other piece.head?_taken
    split at scanned
    · cases scanned
      exact word trivial
    split at scanned
    · cases scanned
      exact word trivial
    split at scanned
    · cases scanned
      exact word trivial
    split at scanned
    · cases scanned
    split at scanned
    · next opens =>
      split at scanned
      · cases scanned
        subst opens
        exact ⟨by simp, by simp, by simp, by simp⟩
      · cases scanned
    split at scanned
    · split at scanned
      · cases scanned
        exact word trivial
      · cases scanned
    split at scanned
    · exact word (isWord_of_scanNumeral scanned)
    · cases scanned
      exact word (isWord_wordToken _)

theorem prefix_of_scanNumeral {text : List Char} {starts : startsNumeral text = true} {cause : Illegible}
    {taken : List Char} (scanned : scanNumeral text starts = .illegible cause taken) : taken <+: text := by
  have tiles := takeNumeral_tiles text
  unfold scanNumeral at scanned
  split at scanned
  next numeral behind found =>
    rw [found] at tiles
    split at scanned
    · next suffix rest suffixed =>
      split at scanned
      · cases scanned
      · cases scanned
        refine ⟨rest, ?_⟩
        unfold numberSuffix? at suffixed
        split at suffixed
        · split at suffixed
          · cases suffixed
            rw [List.append_assoc]
            exact tiles
          · cases suffixed
        · cases suffixed
    · split at scanned
      · split at scanned
        · cases scanned
        · cases scanned
          exact ⟨behind, tiles⟩
      · cases scanned

theorem Token.prefix_of_scan {c : Char} {tail : List Char} {cause : Illegible} {taken : List Char}
    (scanned : Token.scan c tail = .illegible cause taken) : taken <+: c :: tail := by
  unfold Token.scan at scanned
  split_ifs at scanned
  · cases scanned
    exact ⟨tail, rfl⟩
  · split at scanned
    · cases scanned
    · cases scanned
      exact List.prefix_rfl
  · split at scanned
    · cases scanned
    · cases scanned
      exact List.prefix_rfl
  · exact prefix_of_scanNumeral scanned

/-! ## All tokens -/

theorem tokensFrom_blank {c : Char} (isBlank : Text.isBlank c = true) (position : Position) (tail : List Char) :
    tokensFrom position (c :: tail) = tokensFrom (position.next c) tail := by
  rw [tokensFrom, if_pos isBlank]

theorem tokensFrom_token {c : Char} (isMark : Text.isBlank c = false) {tail : List Char}
    {piece : Taken Token (c :: tail)} (scanned : Token.scan c tail = .token piece) (position : Position) :
    tokensFrom position (c :: tail) = (tokensFrom (position.after piece.taken) piece.rest).map
      (⟨piece.value, .between position (position.after piece.taken)⟩ :: ·) := by
  rw [tokensFrom, if_neg (Bool.eq_false_iff.1 isMark)]
  simp only [scanned]

theorem tokensFrom_illegible {c : Char} (isMark : Text.isBlank c = false) {tail taken : List Char}
    {cause : Illegible} (scanned : Token.scan c tail = .illegible cause taken) (position : Position) :
    tokensFrom position (c :: tail) = .error (cause.at (.between position (position.after taken))) := by
  rw [tokensFrom, if_neg (Bool.eq_false_iff.1 isMark)]
  simp only [scanned]

/-- The tokens stand one behind the other in the piece, which starts at a place with the first of them and
ends with the last. -/
inductive Covers : Position → List Char → List LocatedToken → Prop
  | last {token : Token} {lexeme : List Char} (position : Position) : token.Spelled lexeme →
      Covers position lexeme [⟨token, .between position (position.after lexeme)⟩]
  | more {token : Token} {lexeme gap piece : List Char} {tokens : List LocatedToken} (position : Position) :
      token.Spelled lexeme → (∀ c ∈ gap, Text.isBlank c = true) →
      Covers (position.after (lexeme ++ gap)) piece tokens →
      Covers position (lexeme ++ (gap ++ piece)) (⟨token, .between position (position.after lexeme)⟩ :: tokens)

namespace Covers

variable {position : Position} {piece : List Char} {tokens first second : List LocatedToken}

theorem split (covers : Covers position piece (first ++ second)) (some : first ≠ []) (others : second ≠ []) :
    ∃ head gap tail, piece = head ++ (gap ++ tail) ∧ (∀ c ∈ gap, Text.isBlank c = true) ∧
      Covers position head first ∧ Covers (position.after (head ++ gap)) tail second := by
  induction first generalizing position piece with
  | nil => exact absurd rfl some
  | cons token rest inductionHypothesis =>
    cases rest with
    | nil =>
      cases covers with
      | last _ _ => exact absurd rfl others
      | more _ spelled blank behind => exact ⟨_, _, _, rfl, blank, .last position spelled, behind⟩
    | cons next rest =>
      cases covers with
      | more _ spelled blank behind =>
        obtain ⟨head, gap, tail, rfl, blankGap, here, there⟩ := inductionHypothesis behind (List.cons_ne_nil _ _)
        refine ⟨_, gap, tail, ?_, blankGap, .more position spelled blank here, ?_⟩
        · simp only [List.append_assoc]
        · simpa only [List.append_assoc, Position.after_append] using there

theorem single {token : Token} {span : Span} (covers : Covers position piece [⟨token, span⟩]) :
    token.Spelled piece ∧ span = .between position (position.after piece) := by
  cases covers with
  | last _ spelled => exact ⟨spelled, rfl⟩
  | more _ _ _ behind => nomatch behind

theorem final {token : Token} {span : Span} (covers : Covers position piece (tokens ++ [⟨token, span⟩])) :
    ∃ before lexeme, piece = before ++ lexeme ∧ token.Spelled lexeme ∧
      span = .between (position.after before) (position.after piece) := by
  by_cases alone : tokens = []
  · subst alone
    obtain ⟨spelled, place⟩ := covers.single
    exact ⟨[], piece, rfl, spelled, place⟩
  · obtain ⟨head, gap, tail, rfl, _, _, there⟩ := covers.split alone (List.cons_ne_nil _ _)
    obtain ⟨spelled, place⟩ := there.single
    refine ⟨head ++ gap, tail, (List.append_assoc ..).symm, spelled, place.trans ?_⟩
    rw [← Position.after_append, List.append_assoc]

theorem stretch {behind : List LocatedToken} (covers : Covers position piece (first ++ (tokens ++ behind)))
    (some : tokens ≠ []) :
    ∃ before inner after, piece = before ++ (inner ++ after) ∧
      Covers (position.after before) inner tokens := by
  have dropped : ∃ before rest, piece = before ++ rest ∧
      Covers (position.after before) rest (tokens ++ behind) := by
    by_cases none : first = []
    · subst none
      exact ⟨[], piece, rfl, covers⟩
    · have others : tokens ++ behind ≠ [] := fun empty => some (List.append_eq_nil_iff.1 empty).1
      obtain ⟨head, gap, tail, rfl, _, _, there⟩ := covers.split none others
      exact ⟨head ++ gap, tail, (List.append_assoc ..).symm, there⟩
  obtain ⟨before, rest, rfl, left⟩ := dropped
  by_cases none : behind = []
  · subst none
    rw [List.append_nil] at left
    exact ⟨before, rest, [], by rw [List.append_nil], left⟩
  · obtain ⟨inner, gap, tail, rfl, _, here, _⟩ := left.split some none
    exact ⟨before, inner, gap ++ tail, rfl, here⟩

theorem exists_span_eq (covers : Covers position piece tokens) {located : LocatedToken} (inside : located ∈ tokens) :
    ∃ before lexeme after, piece = before ++ (lexeme ++ after) ∧
      located.span = .between (position.after before) (position.after (before ++ lexeme)) := by
  obtain ⟨token, span⟩ := located
  obtain ⟨first, behind, rfl⟩ := List.append_of_mem inside
  have covers : Covers position piece (first ++ ([⟨token, span⟩] ++ behind)) := covers
  obtain ⟨before, lexeme, after, rfl, single⟩ := covers.stretch (List.cons_ne_nil _ _)
  refine ⟨before, lexeme, after, rfl, single.single.2.trans ?_⟩
  rw [Position.after_append]

end Covers

/-- The tokens of a text, but for the end mark, cover what is left of it without the blanks at its ends. -/
theorem covers_of_tokensFrom {position : Position} {text : List Char} {tokens : List LocatedToken}
    (read : tokensFrom position text = .ok tokens) :
    ∃ lead body, (∀ c ∈ lead, Text.isBlank c = true) ∧
      tokens = body ++ [⟨.endOfText, .between (position.after text) (position.after text)⟩] ∧
      (text = lead ∧ body = [] ∨
        ∃ piece trail, text = lead ++ (piece ++ trail) ∧ Covers (position.after lead) piece body) := by
  induction position, text using tokensFrom.induct generalizing tokens with
  | case1 position =>
    rw [tokensFrom] at read
    cases read
    exact ⟨[], [], List.forall_mem_nil _, rfl, .inl ⟨rfl, rfl⟩⟩
  | case2 position c tail isBlank inductionHypothesis =>
    rw [tokensFrom_blank isBlank] at read
    obtain ⟨lead, body, blank, rfl, covered⟩ := inductionHypothesis read
    refine ⟨c :: lead, body, List.forall_mem_cons.2 ⟨isBlank, blank⟩, rfl, ?_⟩
    obtain ⟨rfl, rfl⟩ | ⟨piece, trail, rfl, covers⟩ := covered
    · exact .inl ⟨rfl, rfl⟩
    · exact .inr ⟨piece, trail, rfl, covers⟩
  | case3 position c tail isMark cause taken scanned =>
    rw [tokensFrom_illegible (Bool.eq_false_iff.2 isMark) scanned] at read
    cases read
  | case4 position c tail isMark piece scanned =>
    rename_i inductionHypothesis
    rw [tokensFrom_token (Bool.eq_false_iff.2 isMark) scanned] at read
    have spelled := Token.spelled_of_scan scanned
    cases behind : tokensFrom (position.after piece.taken) piece.rest with
    | error error =>
      rw [behind] at read
      cases read
    | ok others =>
      rw [behind] at read
      cases read
      obtain ⟨gap, body, blank, rfl, covered⟩ := inductionHypothesis behind
      have ending : (position.after piece.taken).after piece.rest = position.after (c :: tail) := by
        rw [← Position.after_append, piece.tiles]
      refine ⟨[], ⟨piece.value, .between position (position.after piece.taken)⟩ :: body,
        List.forall_mem_nil _, by rw [← ending]; rfl, .inr ?_⟩
      obtain ⟨isGap, rfl⟩ | ⟨inner, trail, isRest, covers⟩ := covered
      · exact ⟨piece.taken, piece.rest, piece.tiles.symm, .last position spelled⟩
      · rw [← Position.after_append] at covers
        refine ⟨piece.taken ++ (gap ++ inner), trail, ?_, .more position spelled blank covers⟩
        refine piece.tiles.symm.trans ?_
        simp only [isRest, List.append_assoc, List.nil_append]

/-- Where a text cannot be read, there is a stretch of it. -/
theorem span_of_tokensFrom {position : Position} {text : List Char} {error : LexicalError}
    (read : tokensFrom position text = .error error) :
    ∃ before taken behind, text = before ++ (taken ++ behind) ∧
      error.span = .between (position.after before) (position.after (before ++ taken)) := by
  induction position, text using tokensFrom.induct with
  | case1 position =>
    rw [tokensFrom] at read
    cases read
  | case2 position c tail isBlank inductionHypothesis =>
    rw [tokensFrom_blank isBlank] at read
    obtain ⟨before, taken, behind, rfl, span⟩ := inductionHypothesis read
    exact ⟨c :: before, taken, behind, rfl, span⟩
  | case3 position c tail isMark cause taken scanned =>
    rw [tokensFrom_illegible (Bool.eq_false_iff.2 isMark) scanned] at read
    cases read
    obtain ⟨behind, cut⟩ := Token.prefix_of_scan scanned
    refine ⟨[], taken, behind, cut.symm, ?_⟩
    cases cause <;> rfl
  | case4 position c tail isMark piece scanned =>
    rename_i inductionHypothesis
    rw [tokensFrom_token (Bool.eq_false_iff.2 isMark) scanned] at read
    cases behind : tokensFrom (position.after piece.taken) piece.rest with
    | ok others =>
      rw [behind] at read
      cases read
    | error _ =>
      rw [behind] at read
      cases read
      obtain ⟨before, taken, rest, cut, span⟩ := inductionHypothesis behind
      refine ⟨piece.taken ++ before, taken, rest, ?_, ?_⟩
      · rw [List.append_assoc, ← cut]
        exact piece.tiles.symm
      · rwa [List.append_assoc, Position.after_append, Position.after_append]

end LateBound
