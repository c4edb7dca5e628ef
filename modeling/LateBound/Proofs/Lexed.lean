import LateBound.Proofs.Lexemes

/-!
# Texts that fall into tokens

A text that is read as tokens is their lexemes with blanks in between. What it falls into does not depend on where it
stands: behind it may follow anything that is set off from it, blanks in front of it and at its ends do not count.
-/

namespace LateBound

/-! ## Looking ahead -/

/-- A token that ends in front of `rest` ends in front of `rest'`. -/
structure Lookahead (rest rest' : List Char) : Prop where
  boundary : atBoundary rest = true → atBoundary rest' = true
  fraction : startsFraction rest' = true → startsFraction rest = true

theorem Token.Written.retail {rest rest' lexeme : List Char} {token : Token} (written : token.Written rest lexeme)
    (ahead : Lookahead rest rest') : token.Written rest' lexeme := by
  cases written with
  | leftParen => exact .leftParen
  | rightParen => exact .rightParen
  | comma => exact .comma
  | dot => exact .dot
  | bracket inside => exact .bracket inside
  | string inside => exact .string inside
  | suffixed shaped inside ends isToken => exact .suffixed shaped inside (ahead.boundary ends) isToken
  | number shaped ends stops isToken =>
    refine .number shaped (ahead.boundary ends) (fun isWhole => ?_) isToken
    exact Bool.eq_false_iff.2 fun starts => Bool.eq_false_iff.1 (stops isWhole) (ahead.fraction starts)
  | numbered shaped noDigit all alone ends => exact .numbered shaped noDigit all alone (ahead.boundary ends)
  | name all noNumeral ends => exact .name all noNumeral (ahead.boundary ends)

theorem startsFraction_iff {text : List Char} :
    startsFraction text = true ↔ ∃ c rest, text = '.' :: c :: rest ∧ c.isDigit = true := by
  unfold startsFraction
  split
  · next c rest =>
    refine ⟨fun isDigit => ⟨c, rest, rfl, isDigit⟩, ?_⟩
    rintro ⟨_, _, ⟨⟩, isDigit⟩
    exact isDigit
  · next other => exact ⟨nofun, fun ⟨c, rest, same, _⟩ => absurd same (other c rest)⟩

theorem lookahead_of_isPrefix {rest rest' : List Char} (isPrefix : rest' <+: rest) : Lookahead rest rest' := by
  obtain ⟨more, rfl⟩ := isPrefix
  constructor
  · intro ends
    cases rest' with
    | nil => rfl
    | cons c rest' => exact ends
  · intro starts
    obtain ⟨c, rest, rfl, isDigit⟩ := startsFraction_iff.1 starts
    exact startsFraction_iff.2 ⟨c, rest ++ more, rfl, isDigit⟩

/-- The text begins with a separator that is no point, so that nothing in front of it goes on with it. -/
def SetsOff (text : List Char) : Prop :=
  atBoundary text = true ∧ text.head? ≠ some '.'

theorem setsOff_of_separator {c : Char} (separates : isSeparator c = true) (noPoint : c ≠ '.') (rest : List Char) :
    SetsOff (c :: rest) :=
  ⟨separates, fun same => noPoint (Option.some.inj same)⟩

theorem SetsOff.lookahead {second : List Char} (setsOff : SetsOff second) (rest : List Char) :
    Lookahead rest (rest ++ second) := by
  obtain ⟨ends, noPoint⟩ := setsOff
  constructor
  · intro restEnds
    cases rest with
    | nil => exact ends
    | cons c rest => exact restEnds
  · intro starts
    obtain ⟨c, behind, same, isDigit⟩ := startsFraction_iff.1 starts
    match rest with
    | [] => exact absurd (congrArg List.head? same) noPoint
    | [d] =>
      obtain ⟨-, rfl⟩ := List.cons.inj same
      exact absurd isDigit (Bool.eq_false_iff.1 (endsRun_isDigit ends c rfl))
    | d :: e :: rest =>
      obtain ⟨rfl, behindPoint⟩ := List.cons.inj same
      obtain ⟨rfl, -⟩ := List.cons.inj behindPoint
      exact startsFraction_iff.2 ⟨e, rest, rfl, isDigit⟩

/-! ## All tokens of a text -/

/-- The text falls into the tokens, with blanks between them. -/
inductive Lexed : List Char → List Token → Prop
  | nil : Lexed [] []
  | blank {c : Char} {tail : List Char} {tokens : List Token} : Text.isBlank c = true → Lexed tail tokens →
      Lexed (c :: tail) tokens
  | token {token : Token} {lexeme rest : List Char} {tokens : List Token} : token.Written rest lexeme →
      Lexed rest tokens → Lexed (lexeme ++ rest) (token :: tokens)

/-- From the place on, the text falls into the tokens, and each stands where its span says. -/
inductive Laid : Position → List Char → List LocatedToken → Prop
  | nil (position : Position) : Laid position [] []
  | blank {position : Position} {c : Char} {tail : List Char} {body : List LocatedToken} : Text.isBlank c = true →
      Laid (position.next c) tail body → Laid position (c :: tail) body
  | token {position : Position} {token : Token} {lexeme rest : List Char} {body : List LocatedToken} :
      token.Written rest lexeme → Laid (position.after lexeme) rest body →
      Laid position (lexeme ++ rest) (⟨token, .between position (position.after lexeme)⟩ :: body)

def LocatedToken.endMark (position : Position) : LocatedToken :=
  ⟨.endOfText, .between position position⟩

theorem Laid.tokensFrom_eq {position : Position} {text : List Char} {body : List LocatedToken}
    (laid : Laid position text body) : tokensFrom position text = .ok (body ++ [.endMark (position.after text)]) := by
  induction laid with
  | nil position =>
    rw [tokensFrom]
    rfl
  | blank isBlank _ inductionHypothesis =>
    rw [tokensFrom_blank isBlank]
    exact inductionHypothesis
  | token written _ inductionHypothesis =>
    obtain ⟨c, tail, same, isMark, piece, scanned, rfl, rfl, rfl⟩ := written.scan
    rw [same, tokensFrom_token isMark scanned, inductionHypothesis, ← Position.after_append, piece.tiles]
    rfl

theorem exists_laid_of_tokensFrom {position : Position} {text : List Char} {tokens : List LocatedToken}
    (read : tokensFrom position text = .ok tokens) :
    ∃ body, Laid position text body ∧ tokens = body ++ [.endMark (position.after text)] := by
  induction position, text using tokensFrom.induct generalizing tokens with
  | case1 position =>
    rw [tokensFrom] at read
    cases read
    exact ⟨[], .nil position, rfl⟩
  | case2 position c tail isBlank inductionHypothesis =>
    rw [tokensFrom_blank isBlank] at read
    obtain ⟨body, laid, rfl⟩ := inductionHypothesis read
    exact ⟨body, .blank isBlank laid, rfl⟩
  | case3 position c tail isMark cause taken scanned =>
    rw [tokensFrom_illegible (Bool.eq_false_iff.2 isMark) scanned] at read
    cases read
  | case4 position c tail isMark piece scanned =>
    rename_i inductionHypothesis
    have isMark := Bool.eq_false_iff.2 isMark
    rw [tokensFrom_token isMark scanned] at read
    cases others : tokensFrom (position.after piece.taken) piece.rest with
    | error error =>
      rw [others] at read
      cases read
    | ok behind =>
      rw [others] at read
      cases read
      obtain ⟨body, laid, rfl⟩ := inductionHypothesis others
      have laid := Laid.token (written_of_scan isMark scanned) laid
      rw [piece.tiles] at laid
      refine ⟨_, laid, ?_⟩
      rw [← Position.after_append, piece.tiles]
      rfl

theorem Laid.append {position : Position} {text second : List Char} {body others : List LocatedToken}
    (laid : Laid position text body) (behind : Laid (position.after text) second others) (setsOff : SetsOff second) :
    Laid position (text ++ second) (body ++ others) := by
  induction laid with
  | nil position => exact behind
  | blank isBlank _ inductionHypothesis => exact .blank isBlank (inductionHypothesis behind)
  | @token position token lexeme rest body written _ inductionHypothesis =>
    rw [List.append_assoc]
    rw [Position.after_append] at behind
    exact .token (written.retail (setsOff.lookahead rest)) (inductionHypothesis behind)

theorem Laid.lexed {position : Position} {text : List Char} {body : List LocatedToken}
    (laid : Laid position text body) : Lexed text (kinds body) := by
  induction laid with
  | nil position => exact .nil
  | blank isBlank _ inductionHypothesis => exact .blank isBlank inductionHypothesis
  | token written _ inductionHypothesis => exact .token written inductionHypothesis

theorem Lexed.exists_laid {text : List Char} {tokens : List Token} (lexed : Lexed text tokens) (position : Position) :
    ∃ body, Laid position text body ∧ kinds body = tokens := by
  induction lexed generalizing position with
  | nil => exact ⟨[], .nil position, rfl⟩
  | @blank c _ _ isBlank _ inductionHypothesis =>
    obtain ⟨body, laid, rfl⟩ := inductionHypothesis (position.next c)
    exact ⟨body, .blank isBlank laid, rfl⟩
  | @token _ lexeme _ _ written _ inductionHypothesis =>
    obtain ⟨body, laid, rfl⟩ := inductionHypothesis (position.after lexeme)
    exact ⟨_, .token written laid, rfl⟩

/-- A text that falls into tokens is read as these, wherever it stands. -/
theorem Lexed.tokensFrom {text : List Char} {tokens : List Token} (lexed : Lexed text tokens) (position : Position) :
    ∃ located last, tokensFrom position text = .ok (located ++ [⟨.endOfText, last⟩]) ∧ kinds located = tokens := by
  obtain ⟨body, laid, same⟩ := lexed.exists_laid position
  exact ⟨body, _, laid.tokensFrom_eq, same⟩

/-- A text that is read as tokens falls into these. -/
theorem lexed_of_tokensFrom {position : Position} {text : List Char} {located : List LocatedToken} {last : Span}
    (read : tokensFrom position text = .ok (located ++ [⟨.endOfText, last⟩])) : Lexed text (kinds located) := by
  obtain ⟨body, laid, same⟩ := exists_laid_of_tokensFrom read
  rw [List.append_inj_left' same rfl]
  exact laid.lexed

namespace Lexed

variable {text second : List Char} {tokens others : List Token}

theorem unique (lexed : Lexed text tokens) (lexed' : Lexed text others) : tokens = others := by
  obtain ⟨located, last, read, rfl⟩ := lexed.tokensFrom .start
  obtain ⟨located', last', read', rfl⟩ := lexed'.tokensFrom .start
  exact congrArg kinds (List.append_inj_left' (Except.ok.inj (read.symm.trans read')) rfl)

theorem append (lexed : Lexed text tokens) (behind : Lexed second others) (setsOff : SetsOff second) :
    Lexed (text ++ second) (tokens ++ others) := by
  obtain ⟨body, laid, rfl⟩ := lexed.exists_laid .start
  obtain ⟨body', laid', rfl⟩ := behind.exists_laid (Position.start.after text)
  rw [← kinds_append]
  exact (laid.append laid' setsOff).lexed

theorem blanks {blanks : List Char} (all : ∀ c ∈ blanks, Text.isBlank c = true) (lexed : Lexed text tokens) :
    Lexed (blanks ++ text) tokens := by
  induction blanks with
  | nil => exact lexed
  | cons c blanks inductionHypothesis =>
    obtain ⟨isBlank, all⟩ := List.forall_mem_cons.1 all
    exact .blank isBlank (inductionHypothesis all)

theorem dropWhile (lexed : Lexed text tokens) : Lexed (text.dropWhile Text.isBlank) tokens := by
  induction lexed with
  | nil => exact .nil
  | blank isBlank _ inductionHypothesis => rwa [List.dropWhile_cons_of_pos isBlank]
  | token written behind =>
    obtain ⟨c, tail, same, isMark, -⟩ := written.scan
    have lexed := Lexed.token written behind
    rw [same] at lexed ⊢
    rwa [List.dropWhile_cons_of_neg (Bool.eq_false_iff.1 isMark)]

theorem rdropWhile_append (test : Char → Bool) (first second : List Char) :
    (first ++ second).rdropWhile test =
      if (second.rdropWhile test).isEmpty then first.rdropWhile test else first ++ second.rdropWhile test := by
  unfold List.rdropWhile
  rw [List.reverse_append, List.dropWhile_append, List.isEmpty_reverse]
  split
  · rfl
  · rw [List.reverse_append, List.reverse_reverse]

theorem rdropWhile (lexed : Lexed text tokens) : Lexed (text.rdropWhile Text.isBlank) tokens := by
  induction lexed with
  | nil => exact .nil
  | @blank c tail tokens isBlank _ inductionHypothesis =>
    have cut := rdropWhile_append Text.isBlank [c] tail
    rw [List.singleton_append] at cut
    rw [cut]
    split
    · next none =>
      rw [List.isEmpty_iff.1 none] at inductionHypothesis
      rw [List.rdropWhile_singleton, if_pos isBlank]
      exact inductionHypothesis
    · exact .blank isBlank inductionHypothesis
  | @token token lexeme rest tokens written _ inductionHypothesis =>
    have kept : (lexeme ++ rest).rdropWhile Text.isBlank = lexeme ++ rest.rdropWhile Text.isBlank := by
      rw [rdropWhile_append, written.lexeme.rdropWhile]
      split
      · next none => rw [List.isEmpty_iff.1 none, List.append_nil]
      · rfl
    rw [kept]
    exact .token (written.retail (lookahead_of_isPrefix (List.rdropWhile_prefix Text.isBlank rest))) inductionHypothesis

theorem trimChars (lexed : Lexed text tokens) : Lexed (Text.trimChars text) tokens :=
  lexed.dropWhile.rdropWhile

end Lexed

/-! ## Expressions -/

open Grammar

/-- A text that falls into tokens is read as them, each at its place. -/
theorem Lexed.tokenize {text : List Char} {tokens : List Token} (lexed : Lexed text tokens) :
    ∃ located last, LateBound.tokenize (String.ofList text) = .ok (located ++ [⟨.endOfText, last⟩]) ∧
      kinds located = tokens := by
  have read := lexed.tokensFrom .start
  rwa [← String.toList_ofList (l := text)] at read

theorem parse_of_chain {text : String} {tokens : List LocatedToken} {last : Span} {tree : Expr} {links nest : Nat}
    (tokenized : tokenize text = .ok (tokens ++ [⟨.endOfText, last⟩])) (chain : Chain tokens tree links nest)
    (room : nest ≤ maxDepth) : Expr.parse text = .ok tree := by
  rw [Expr.parse, tokenized]
  exact chain.ofTokens_eq room last

/-- A text that falls into the tokens of an expression is read as it, its places apart. -/
theorem Lexed.parse {text : List Char} {tokens : List LocatedToken} {tree : Expr} {links nest : Nat}
    {held : String → Prop} (lexed : Lexed text (kinds tokens)) (chain : Chain tokens tree links nest)
    (room : nest ≤ maxDepth) (holds : Holds held tokens) :
    ∃ located tree', kinds located = kinds tokens ∧ Chain located tree' links nest ∧
      Expr.parse (String.ofList text) = .ok tree' ∧ tree.Alike held tree' := by
  obtain ⟨located, last, tokenized, same⟩ := lexed.tokenize
  obtain ⟨tree', derived, alike⟩ := chain.relocate holds same
  exact ⟨located, tree', same, derived, parse_of_chain tokenized derived room, alike⟩

theorem Lexed.room {text : List Char} {tokens : List LocatedToken} {tree tree' : Expr} {links nest : Nat}
    (lexed : Lexed text (kinds tokens)) (chain : Chain tokens tree links nest)
    (read : Expr.parse (String.ofList text) = .ok tree') : nest ≤ maxDepth := by
  obtain ⟨located, last, links', nest', tokenized, derived, room⟩ := Expr.exists_derivation read
  have found : Lexed text (kinds located) := by
    rw [← String.toList_ofList (l := text)]
    exact lexed_of_tokensFrom tokenized
  have holds : Holds (fun _ => True) tokens := fun _ _ => trivial
  obtain ⟨moved, again, _⟩ := chain.relocate holds (found.unique lexed)
  obtain ⟨-, -, rfl⟩ := again.eq_of_tokens derived
  exact room

/-- Texts that fall into the same tokens are read as the same expression, its places apart. -/
theorem Lexed.parse_alike {text text' : String} {tokens : List Token} (lexed : Lexed text.toList tokens)
    (lexed' : Lexed text'.toList tokens) {tree : Expr} (read : Expr.parse text = .ok tree) :
    ∃ tree', Expr.parse text' = .ok tree' ∧ tree.Alike (fun _ => True) tree' := by
  obtain ⟨located, last, links, nest, tokenized, chain, room⟩ := Expr.exists_derivation read
  have same : kinds located = tokens := (lexed_of_tokensFrom tokenized).unique lexed
  rw [← same] at lexed'
  obtain ⟨_, tree', -, -, read', alike⟩ := lexed'.parse chain room fun _ _ => trivial
  rw [String.ofList_toList] at read'
  exact ⟨tree', read', alike⟩

end LateBound
