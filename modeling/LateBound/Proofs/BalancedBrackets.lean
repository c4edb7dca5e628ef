import LateBound.Proofs.Segments
import LateBound.Proofs.TokenPlaces

/-!
# Brackets are the balanced texts

The reader of brackets counts them from left to right. Put without counting: a text that may stand between a pair of
brackets is made of whole strings and other characters, and of the brackets among these none closes what was not
opened before and none is left open. These texts, and no others, are the texts of bracket tokens.
-/

namespace LateBound

/-! ## Strings skipped -/

/-- The text is made of whole strings and other characters, and these others are what is left of it. -/
inductive SkipsStrings : List Char → List Char → Prop
  | nil : SkipsStrings [] []
  | string {raw text left : List Char} : InQuotes raw → SkipsStrings text left →
      SkipsStrings ('"' :: (raw ++ '"' :: text)) left
  | other {c : Char} {text left : List Char} : c ≠ '"' → SkipsStrings text left →
      SkipsStrings (c :: text) (c :: left)

/-- A text that begins inside a string, or outside of all, and what is left of it behind that string. -/
def SkipsFrom : (quoted : Bool) → List Char → List Char → Prop
  | false, text, left => SkipsStrings text left
  | true, text, left => ∃ raw behind, text = raw ++ '"' :: behind ∧ InQuotes raw ∧ SkipsStrings behind left

/-! ## Brackets counted -/

/-- With `depth` brackets open, the characters close no more than are open at any point, and all of them in the end. -/
structure ClosesAll (depth : Nat) (cs : List Char) : Prop where
  fronts : ∀ front, front <+: cs → front.count ']' ≤ depth + front.count '['
  totals : depth + cs.count '[' = cs.count ']'

namespace ClosesAll

variable {depth : Nat} {c : Char} {cs : List Char}

theorem nil_iff : ClosesAll depth [] ↔ depth = 0 := by
  constructor
  · intro closes
    simpa using closes.totals
  · rintro rfl
    exact ⟨by simp, rfl⟩

theorem cons_iff {depth' : Nat} (moves : ∀ rest : List Char,
    depth + (c :: rest).count '[' + rest.count ']' = depth' + rest.count '[' + (c :: rest).count ']') :
    ClosesAll depth (c :: cs) ↔ ClosesAll depth' cs := by
  have moved := moves cs
  constructor
  · rintro ⟨fronts, totals⟩
    constructor
    · intro front isPrefix
      have closed := fronts (c :: front) ((List.prefix_cons_inj c).2 isPrefix)
      have moved := moves front
      omega
    · omega
  · rintro ⟨fronts, totals⟩
    constructor
    · intro front isPrefix
      obtain rfl | ⟨front, rfl, isBehind⟩ := List.prefix_cons_iff.1 isPrefix
      · simp
      · have closed := fronts front isBehind
        have moved := moves front
        omega
    · omega

theorem opening_iff : ClosesAll depth ('[' :: cs) ↔ ClosesAll (depth + 1) cs := by
  apply cons_iff
  intro rest
  simp
  omega

theorem closing_iff : ClosesAll (depth + 1) (']' :: cs) ↔ ClosesAll depth cs := by
  apply cons_iff
  intro rest
  simp
  omega

theorem other_iff (noOpening : c ≠ '[') (noClosing : c ≠ ']') : ClosesAll depth (c :: cs) ↔ ClosesAll depth cs := by
  apply cons_iff
  intro rest
  simp [noOpening, noClosing]

theorem not_closing : ¬ClosesAll 0 (']' :: cs) := by
  intro closes
  have alone := closes.fronts [']'] (by simp)
  simp at alone

end ClosesAll

/-- When its strings are skipped, the text has no closing bracket without an opening one before it, and no opening
one that is not closed. -/
def IsBalanced (raw : List Char) : Prop :=
  ∃ left, SkipsStrings raw left ∧ ClosesAll 0 left

/-! ## What stands between brackets -/

theorem SkipsStrings.inBrackets {raw left : List Char} (skips : SkipsStrings raw left) {depth : Nat}
    (closes : ClosesAll depth left) : InBrackets depth false raw := by
  -- What is left runs along with the text, and with each of its brackets the depth changes.
  induction skips generalizing depth with
  | nil =>
    obtain rfl := ClosesAll.nil_iff.1 closes
    exact .nil
  | string inside _ inductionHypothesis => exact .quote (inside.inBrackets (inductionHypothesis closes))
  | @other c text left noQuote _ inductionHypothesis =>
    by_cases isOpening : c = '['
    · subst isOpening
      exact .opening (inductionHypothesis (ClosesAll.opening_iff.1 closes))
    by_cases isClosing : c = ']'
    · subst isClosing
      cases depth with
      | zero => exact absurd closes ClosesAll.not_closing
      | succ depth => exact .closing (inductionHypothesis (ClosesAll.closing_iff.1 closes))
    · exact .plain noQuote isOpening isClosing
        (inductionHypothesis ((ClosesAll.other_iff isOpening isClosing).1 closes))

theorem InBrackets.exists_skipsFrom {depth : Nat} {quoted : Bool} {raw : List Char}
    (inside : InBrackets depth quoted raw) : ∃ left, SkipsFrom quoted raw left ∧ ClosesAll depth left := by
  induction inside with
  | nil => exact ⟨[], .nil, ClosesAll.nil_iff.2 rfl⟩
  | escaped c _ inductionHypothesis =>
    obtain ⟨left, ⟨raw, behind, rfl, inside, skips⟩, closes⟩ := inductionHypothesis
    exact ⟨left, ⟨'\\' :: c :: raw, behind, rfl, .escaped c inside, skips⟩, closes⟩
  | @quoted _ c _ noQuote noEscape _ inductionHypothesis =>
    obtain ⟨left, ⟨raw, behind, rfl, inside, skips⟩, closes⟩ := inductionHypothesis
    exact ⟨left, ⟨c :: raw, behind, rfl, .plain noQuote noEscape inside, skips⟩, closes⟩
  | unquote _ inductionHypothesis =>
    obtain ⟨left, skips, closes⟩ := inductionHypothesis
    exact ⟨left, ⟨[], _, rfl, .nil, skips⟩, closes⟩
  | quote _ inductionHypothesis =>
    obtain ⟨left, ⟨raw, behind, rfl, inside, skips⟩, closes⟩ := inductionHypothesis
    exact ⟨left, .string inside skips, closes⟩
  | opening _ inductionHypothesis =>
    obtain ⟨left, skips, closes⟩ := inductionHypothesis
    exact ⟨'[' :: left, .other (by decide) skips, ClosesAll.opening_iff.2 closes⟩
  | closing _ inductionHypothesis =>
    obtain ⟨left, skips, closes⟩ := inductionHypothesis
    exact ⟨']' :: left, .other (by decide) skips, ClosesAll.closing_iff.2 closes⟩
  | @plain _ c _ noQuote noOpening noClosing _ inductionHypothesis =>
    obtain ⟨left, skips, closes⟩ := inductionHypothesis
    exact ⟨c :: left, .other noQuote skips, (ClosesAll.other_iff noOpening noClosing).2 closes⟩

theorem inBrackets_iff_isBalanced {raw : List Char} : InBrackets 0 false raw ↔ IsBalanced raw :=
  ⟨InBrackets.exists_skipsFrom, fun ⟨_, skips, closes⟩ => skips.inBrackets closes⟩

/-! ## Bracket tokens -/

theorem Token.Written.bracket_lexeme {rest lexeme : List Char} {raw : String}
    (written : (Token.bracket raw).Written rest lexeme) :
    IsBalanced raw.toList ∧ lexeme = '[' :: (raw.toList ++ [']']) := by
  have isLexeme := written.lexeme
  cases isLexeme with
  | bracket inside =>
    rw [String.toList_ofList]
    exact ⟨inBrackets_iff_isBalanced.1 inside, rfl⟩
  | word isPlain _ => exact isPlain.elim

/-- Wherever a bracket is read, a balanced text stands between brackets. -/
theorem balanced_of_bracket {source : String} {tokens : List LocatedToken} (read : tokenize source = .ok tokens)
    {located : LocatedToken} (inside : located ∈ tokens) {raw : String} (isBracket : located.token = .bracket raw) :
    IsBalanced raw.toList ∧ located.lexeme source = "[" ++ raw ++ "]" := by
  obtain ⟨body, laid, rfl⟩ := exists_laid_of_tokensFrom read
  obtain inBody | isEnd := List.mem_append.1 inside
  · obtain ⟨before, lexeme, rest, stands, written, span⟩ := laid.exists_written inBody
    rw [isBracket] at written
    obtain ⟨balanced, rfl⟩ := written.bracket_lexeme
    refine ⟨balanced, ?_⟩
    rw [LocatedToken.lexeme_eq stands span, ← String.toList_inj]
    simp
  · rw [List.mem_singleton.1 isEnd] at isBracket
    cases isBracket

/-- The texts between brackets are the balanced ones: exactly these are read as one token when they stand alone
between brackets, and wherever a bracket is read, such a text is what stands there. -/
theorem bracket_tokens_balanced :
    (∀ raw : String, (tokenize ("[" ++ raw ++ "]")).map kinds = .ok [.bracket raw, .endOfText] ↔
      IsBalanced raw.toList) ∧
    ∀ source tokens, tokenize source = .ok tokens → ∀ located ∈ tokens, ∀ raw, located.token = .bracket raw →
      IsBalanced raw.toList ∧ located.lexeme source = "[" ++ raw ++ "]" := by
  refine ⟨fun raw => ⟨fun read => ?_, fun balanced => ?_⟩,
    fun source tokens read located inside raw isBracket => balanced_of_bracket read inside isBracket⟩
  · cases tokenized : tokenize ("[" ++ raw ++ "]") with
    | error error =>
      rw [tokenized] at read
      cases read
    | ok tokens =>
      rw [tokenized] at read
      have isFirst : Token.bracket raw ∈ kinds tokens := by
        rw [Except.ok.inj read]
        exact List.mem_cons_self
      obtain ⟨located, inside, isBracket⟩ := List.mem_map.1 isFirst
      exact (balanced_of_bracket tokenized inside isBracket).1
  · have read := isOneToken_bracket (inBrackets_iff_isBalanced.2 balanced)
    rw [IsOneToken, String.ofList_toList] at read
    rw [read]
    rfl

/-- A bracket and a quote inside a string do not count, and a bracket in a bracket does. -/
theorem bracket_tokens_balanced_quoted :
    let source := "T[\"]\\\"\", [x]]"
    let raw := "\"]\\\"\", [x]"
    let located : LocatedToken := ⟨.bracket raw, ⟨1, 2, 1, 13⟩⟩
    tokenize source = .ok [⟨.identifier "T", ⟨1, 1, 0, 1⟩⟩, located, ⟨.endOfText, ⟨1, 14, 13, 13⟩⟩] ∧
      IsBalanced raw.toList ∧ located.lexeme source = "[" ++ raw ++ "]" := by
  intro source raw located
  have read : tokenize source =
      .ok [⟨.identifier "T", ⟨1, 1, 0, 1⟩⟩, located, ⟨.endOfText, ⟨1, 14, 13, 13⟩⟩] := by cbv
  obtain ⟨-, everywhere⟩ := bracket_tokens_balanced
  exact ⟨read, everywhere source _ read located (by simp) raw rfl⟩

end LateBound
