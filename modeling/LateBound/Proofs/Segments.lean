import LateBound.Initialiser
import LateBound.Proofs.Lexed

/-!
# Two scanners on one text

The reader of tokens takes what stands between brackets as it is, and the text is cut into segments later, by a
scanner of its own that counts brackets of all kinds with one counter. On expressions the two agree: a text that
falls into the tokens of an expression leaves the second scanner where it was and shows it no sign that separates
or assigns. For that, braces, separators and signs of assignment must stand in strings only, and the parentheses
between two square brackets must match, since the reader of tokens does not count them there.
-/

namespace LateBound

/-- The characters of a text outside its strings and their quotes; `quoted` tells whether it begins inside one. -/
def outside : (quoted : Bool) → List Char → List Char
  | _, [] => []
  | true, '\\' :: _ :: cs => outside true cs
  | true, c :: cs => outside (c != '"') cs
  | false, c :: cs => if c = '"' then outside true cs else c :: outside false cs

def parensMatch : (depth : Nat) → List Char → Bool
  | depth, [] => depth == 0
  | depth, '(' :: cs => parensMatch (depth + 1) cs
  | 0, ')' :: _ => false
  | depth + 1, ')' :: cs => parensMatch depth cs
  | depth, _ :: cs => parensMatch depth cs

theorem parensMatch_other {c : Char} (noParen : c ≠ '(') (noClosing : c ≠ ')') (depth : Nat) (cs : List Char) :
    parensMatch depth (c :: cs) = parensMatch depth cs := by
  cases depth <;> simp [parensMatch, noClosing]

@[simp] theorem outside_nil (quoted : Bool) : outside quoted [] = [] := by
  cases quoted <;> rfl

@[simp] theorem outside_escaped (c : Char) (cs : List Char) :
    outside true ('\\' :: c :: cs) = outside true cs := rfl

@[simp] theorem outside_unquote (cs : List Char) : outside true ('"' :: cs) = outside false cs := rfl

@[simp] theorem outside_quote (cs : List Char) : outside false ('"' :: cs) = outside true cs := rfl

theorem outside_quoted {c : Char} (noQuote : c ≠ '"') (noEscape : c ≠ '\\') (cs : List Char) :
    outside true (c :: cs) = outside true cs := by
  rw [outside.eq_3 _ _ (fun _ _ same _ => noEscape same), bne_iff_ne.2 noQuote]

theorem outside_plain {c : Char} (noQuote : c ≠ '"') (cs : List Char) :
    outside false (c :: cs) = c :: outside false cs := by
  rw [outside, if_neg noQuote]

theorem InQuotes.outside_append {raw : List Char} (inside : InQuotes raw) (rest : List Char) :
    outside true (raw ++ '"' :: rest) = outside false rest := by
  induction inside with
  | nil => rfl
  | escaped c _ inductionHypothesis => exact inductionHypothesis
  | plain noQuote noEscape _ inductionHypothesis =>
    rwa [List.cons_append, outside_quoted noQuote noEscape]

theorem InBrackets.outside_append {depth : Nat} {quoted : Bool} {raw : List Char}
    (inside : InBrackets depth quoted raw) (rest : List Char) :
    outside quoted (raw ++ ']' :: rest) = outside quoted raw ++ ']' :: outside false rest := by
  induction inside with
  | nil => rfl
  | escaped c _ inductionHypothesis => exact inductionHypothesis
  | quoted noQuote noEscape _ inductionHypothesis =>
    rwa [List.cons_append, outside_quoted noQuote noEscape, outside_quoted noQuote noEscape]
  | unquote _ inductionHypothesis => exact inductionHypothesis
  | quote _ inductionHypothesis => exact inductionHypothesis
  | opening _ inductionHypothesis =>
    rw [List.cons_append, outside_plain (by decide), outside_plain (by decide), inductionHypothesis, List.cons_append]
  | closing _ inductionHypothesis =>
    rw [List.cons_append, outside_plain (by decide), outside_plain (by decide), inductionHypothesis, List.cons_append]
  | plain noQuote _ _ _ inductionHypothesis =>
    rw [List.cons_append, outside_plain noQuote, outside_plain noQuote, inductionHypothesis, List.cons_append]

theorem InWord.ne {c : Char} (inWord : InWord c) {mark : Char} (separates : isSeparator mark = true)
    (noPoint : mark ≠ '.') : c ≠ mark := by
  rintro rfl
  obtain noSeparator | isPoint := inWord
  · exact absurd separates (Bool.eq_false_iff.1 noSeparator)
  · exact noPoint isPoint

theorem outside_word {word : List Char} (all : ∀ c ∈ word, InWord c) (rest : List Char) :
    outside false (word ++ rest) = word ++ outside false rest := by
  induction word with
  | nil => rfl
  | cons c word inductionHypothesis =>
    obtain ⟨inWord, all⟩ := List.forall_mem_cons.1 all
    rw [List.cons_append, outside_plain (inWord.ne rfl (by decide)), inductionHypothesis all, List.cons_append]

theorem Token.Lexeme.outside_append {token : Token} {lexeme : List Char} (isLexeme : token.Lexeme lexeme)
    (rest : List Char) : outside false (lexeme ++ rest) = outside false lexeme ++ outside false rest := by
  cases isLexeme with
  | leftParen | rightParen | comma | dot => rfl
  | bracket inside =>
    have whole := inside.outside_append rest
    have alone := inside.outside_append []
    rw [List.cons_append, outside_plain (by decide), outside_plain (by decide), alone, List.append_assoc,
      List.singleton_append, whole]
    simp
  | string inside =>
    have whole := inside.outside_append rest
    have alone := inside.outside_append []
    rw [List.cons_append, outside_quote, outside_quote, alone, List.append_assoc, List.singleton_append, whole]
    rfl
  | word _ all =>
    have alone := outside_word all []
    rw [List.append_nil] at alone
    rw [outside_word all, alone]
    simp

/-! ## Between brackets -/

theorem ne_of_isBlank {c : Char} (isBlank : Text.isBlank c = true) {mark : Char} (noBlank : Text.isBlank mark = false) :
    c ≠ mark := by
  rintro rfl
  exact absurd isBlank (Bool.eq_false_iff.1 noBlank)

theorem InQuotes.inBrackets {raw behind : List Char} {depth : Nat} (inside : InQuotes raw)
    (rest : InBrackets depth false behind) : InBrackets depth true (raw ++ '"' :: behind) := by
  induction inside with
  | nil => exact .unquote rest
  | escaped c _ inductionHypothesis => exact .escaped c inductionHypothesis
  | plain noQuote noEscape _ inductionHypothesis => exact .quoted noQuote noEscape inductionHypothesis

theorem InBrackets.nested {raw behind : List Char} {inner depth : Nat} {quoted : Bool}
    (inside : InBrackets inner quoted raw) (rest : InBrackets depth false behind) :
    InBrackets (inner + depth + 1) quoted (raw ++ ']' :: behind) := by
  induction inside with
  | nil => rw [Nat.zero_add]; exact .closing rest
  | escaped c _ inductionHypothesis => exact .escaped c inductionHypothesis
  | quoted noQuote noEscape _ inductionHypothesis => exact .quoted noQuote noEscape inductionHypothesis
  | unquote _ inductionHypothesis => exact .unquote inductionHypothesis
  | quote _ inductionHypothesis => exact .quote inductionHypothesis
  | @opening inner raw _ inductionHypothesis =>
    rw [Nat.add_right_comm inner 1 depth] at inductionHypothesis
    exact .opening inductionHypothesis
  | @closing inner raw _ inductionHypothesis =>
    rw [Nat.add_right_comm inner 1 depth]
    exact .closing inductionHypothesis
  | plain noQuote noOpening noClosing _ inductionHypothesis =>
    exact .plain noQuote noOpening noClosing inductionHypothesis

theorem inBrackets_word {word behind : List Char} {depth : Nat} (all : ∀ c ∈ word, InWord c)
    (rest : InBrackets depth false behind) : InBrackets depth false (word ++ behind) := by
  induction word with
  | nil => exact rest
  | cons c word inductionHypothesis =>
    obtain ⟨inWord, all⟩ := List.forall_mem_cons.1 all
    have other (mark : Char) (separates : isSeparator mark = true) (noPoint : mark ≠ '.') : c ≠ mark :=
      inWord.ne separates noPoint
    exact .plain (other '"' rfl (by decide)) (other '[' rfl (by decide)) (other ']' rfl (by decide))
      (inductionHypothesis all)

/-- A text that falls into tokens may stand between brackets, and the reader of tokens finds the end of the
bracket behind it. -/
theorem Lexed.inBrackets {text : List Char} {tokens : List Token} (lexed : Lexed text tokens) {depth : Nat}
    {behind : List Char} (rest : InBrackets depth false behind) : InBrackets depth false (text ++ behind) := by
  induction lexed with
  | nil => exact rest
  | blank isBlank _ inductionHypothesis =>
    exact .plain (ne_of_isBlank isBlank rfl) (ne_of_isBlank isBlank rfl) (ne_of_isBlank isBlank rfl) inductionHypothesis
  | @token token lexeme others tokens written _ inductionHypothesis =>
    rw [List.append_assoc]
    cases written.lexeme with
    | leftParen | rightParen | comma | dot =>
      exact .plain (by decide) (by decide) (by decide) inductionHypothesis
    | bracket inside =>
      have nested := inside.nested inductionHypothesis
      rw [Nat.zero_add] at nested
      simpa using InBrackets.opening nested
    | string inside => simpa using InBrackets.quote (inside.inBrackets inductionHypothesis)
    | word _ all => exact inBrackets_word all inductionHypothesis

/-! ## The second scanner -/

namespace Initialiser

def signs : List Char :=
  [',', ';', '=', ':']

/-- The scan goes over the text and meets no sign at top level. -/
inductive Scan.Passes : Scan → List Char → Scan → Prop
  | nil (scan : Scan) : Passes scan [] scan
  | cons {scan after : Scan} {c : Char} {text : List Char} : (scan.atTop c = true → c ∉ signs) →
      Passes (scan.next c) text after → Passes scan (c :: text) after

def Scan.at (quoted : Bool) (depth : Nat) : Scan :=
  ⟨depth, quoted, false⟩

def marks : List Char :=
  ['"', '(', '[', '\x7b', ')', ']', '\x7d']

theorem Scan.next_plain {c : Char} (noMark : c ∉ marks) (depth : Nat) : (Scan.at false depth).next c = .at false depth := by
  simp only [marks, List.mem_cons, List.not_mem_nil, or_false, not_or] at noMark
  simp [Scan.at, next, noMark]

theorem Scan.next_quoted {c : Char} (noQuote : c ≠ '"') (noEscape : c ≠ '\\') (depth : Nat) :
    (Scan.at true depth).next c = .at true depth := by
  simp [Scan.at, next, noQuote, noEscape]

namespace Scan.Passes

theorem foldl_eq {scan after : Scan} {text : List Char} (passes : Passes scan text after) :
    text.foldl Scan.next scan = after := by
  induction passes with
  | nil _ => rfl
  | cons _ _ inductionHypothesis => exact inductionHypothesis

variable {depth : Nat} {after : Scan} {text : List Char} {c : Char}

theorem escaped (c : Char) (passes : Passes (.at true depth) text after) :
    Passes (.at true depth) ('\\' :: c :: text) after :=
  .cons nofun (.cons nofun passes)

theorem quoted (noQuote : c ≠ '"') (noEscape : c ≠ '\\') (passes : Passes (.at true depth) text after) :
    Passes (.at true depth) (c :: text) after := by
  refine .cons nofun ?_
  rwa [next_quoted noQuote noEscape]

theorem unquote (passes : Passes (.at false depth) text after) : Passes (.at true depth) ('"' :: text) after :=
  .cons nofun passes

theorem quote (passes : Passes (.at true depth) text after) : Passes (.at false depth) ('"' :: text) after :=
  .cons (fun _ => by decide) passes

theorem opening (isOpening : c ∈ ['(', '[', '\x7b']) (passes : Passes (.at false (depth + 1)) text after) :
    Passes (.at false depth) (c :: text) after := by
  simp only [List.mem_cons, List.not_mem_nil, or_false] at isOpening
  obtain rfl | rfl | rfl := isOpening <;> exact .cons (fun _ => by decide) passes

theorem closing (isClosing : c ∈ [')', ']', '\x7d']) (passes : Passes (.at false depth) text after) :
    Passes (.at false (depth + 1)) (c :: text) after := by
  simp only [List.mem_cons, List.not_mem_nil, or_false] at isClosing
  obtain rfl | rfl | rfl := isClosing <;> exact .cons (fun _ => by decide) passes

theorem plain (noBracket : c ∉ ['"', '(', '[', '\x7b', ')', ']', '\x7d']) (noSign : depth = 0 → c ∉ signs)
    (passes : Passes (.at false depth) text after) : Passes (.at false depth) (c :: text) after := by
  refine .cons (fun isTop => noSign ?_) ?_
  · simp only [atTop, Scan.at, Bool.and_eq_true, beq_iff_eq] at isTop
    exact isTop.1.2
  · rwa [next_plain noBracket]

end Scan.Passes

/-! ### Strings and brackets -/

theorem passes_string {raw behind : List Char} {depth : Nat} {after : Scan} (inside : InQuotes raw)
    (passes : Scan.Passes (.at false depth) behind after) :
    Scan.Passes (.at true depth) (raw ++ '"' :: behind) after := by
  induction inside with
  | nil => exact passes.unquote
  | escaped c _ inductionHypothesis => exact inductionHypothesis.escaped c
  | plain noQuote noEscape _ inductionHypothesis => exact inductionHypothesis.quoted noQuote noEscape

/-- With `square` brackets and `round` parentheses open between two brackets, the scan goes on to the closing
bracket, since it counts both together. -/
theorem passes_bracket {square : Nat} {quoted : Bool} {raw : List Char} (inside : InBrackets square quoted raw)
    {round : Nat} (matched : parensMatch round (outside quoted raw) = true)
    (noBrace : ∀ c ∈ outside quoted raw, c ∉ ['\x7b', '\x7d']) {depth : Nat} {behind : List Char} {after : Scan}
    (passes : Scan.Passes (.at false depth) behind after) :
    Scan.Passes (.at quoted (depth + square + round + 1)) (raw ++ ']' :: behind) after := by
  induction inside generalizing round with
  | nil =>
    have none : round = 0 := by simpa [parensMatch] using matched
    subst none
    exact passes.closing (by decide)
  | escaped c _ inductionHypothesis => exact (inductionHypothesis matched noBrace).escaped c
  | quoted noQuote noEscape _ inductionHypothesis =>
    rw [outside_quoted noQuote noEscape] at matched noBrace
    exact (inductionHypothesis matched noBrace).quoted noQuote noEscape
  | unquote _ inductionHypothesis => exact (inductionHypothesis matched noBrace).unquote
  | quote _ inductionHypothesis => exact (inductionHypothesis matched noBrace).quote
  | @opening square raw _ inductionHypothesis =>
    rw [outside_plain (by decide)] at matched noBrace
    rw [parensMatch_other (by decide) (by decide)] at matched
    have further := inductionHypothesis matched fun c inside => noBrace c (List.mem_cons_of_mem _ inside)
    rw [show depth + (square + 1) + round + 1 = depth + square + round + 1 + 1 by omega] at further
    exact further.opening (by decide)
  | @closing square raw _ inductionHypothesis =>
    rw [outside_plain (by decide)] at matched noBrace
    rw [parensMatch_other (by decide) (by decide)] at matched
    have further := inductionHypothesis matched fun c inside => noBrace c (List.mem_cons_of_mem _ inside)
    rw [show depth + (square + 1) + round + 1 = depth + square + round + 1 + 1 by omega]
    exact further.closing (by decide)
  | @plain square c raw noQuote noOpening noClosing _ inductionHypothesis =>
    rw [outside_plain noQuote] at matched noBrace
    obtain ⟨noBraceHere, noBraceBehind⟩ := List.forall_mem_cons.1 noBrace
    by_cases isParen : c = '('
    · subst isParen
      rw [parensMatch] at matched
      exact (inductionHypothesis matched noBraceBehind).opening (by decide)
    by_cases isClosing : c = ')'
    · subst isClosing
      cases round with
      | zero => cases matched
      | succ round =>
        rw [parensMatch] at matched
        exact (inductionHypothesis matched noBraceBehind).closing (by decide)
    · rw [parensMatch_other isParen isClosing] at matched
      refine (inductionHypothesis matched noBraceBehind).plain ?_ nofun
      simp only [List.mem_cons, List.not_mem_nil, or_false, not_or] at noBraceHere ⊢
      exact ⟨noQuote, isParen, noOpening, noBraceHere.1, isClosing, noClosing, noBraceHere.2⟩

/-! ### Tokens -/

/-- The tokens lead from one depth of parentheses to another, and every comma stands inside some. -/
inductive Enclosed : Nat → List Token → Nat → Prop
  | nil (depth : Nat) : Enclosed depth [] depth
  | leftParen {depth after : Nat} {tokens : List Token} : Enclosed (depth + 1) tokens after →
      Enclosed depth (.leftParen :: tokens) after
  | rightParen {depth after : Nat} {tokens : List Token} : Enclosed depth tokens after →
      Enclosed (depth + 1) (.rightParen :: tokens) after
  | comma {depth after : Nat} {tokens : List Token} : Enclosed (depth + 1) tokens after →
      Enclosed (depth + 1) (.comma :: tokens) after
  | other {depth after : Nat} {token : Token} {tokens : List Token} : token ≠ .leftParen → token ≠ .rightParen →
      token ≠ .comma → Enclosed depth tokens after → Enclosed depth (token :: tokens) after

theorem Enclosed.append {depth between after : Nat} {first second : List Token}
    (enclosed : Enclosed depth first between) (behind : Enclosed between second after) :
    Enclosed depth (first ++ second) after := by
  induction enclosed with
  | nil _ => exact behind
  | leftParen _ inductionHypothesis => exact .leftParen (inductionHypothesis behind)
  | rightParen _ inductionHypothesis => exact .rightParen (inductionHypothesis behind)
  | comma _ inductionHypothesis => exact .comma (inductionHypothesis behind)
  | other noParen noClosing noComma _ inductionHypothesis =>
    exact .other noParen noClosing noComma (inductionHypothesis behind)

open Grammar in
theorem enclosed_dotted {tokens : List LocatedToken} {name : String} (dotted : Dotted tokens name) (depth : Nat) :
    Enclosed depth (kinds tokens) depth := by
  induction dotted with
  | name _ _ => exact .other nofun nofun nofun (.nil depth)
  | part _ _ _ _ inductionHypothesis =>
    rw [kinds_append]
    exact inductionHypothesis.append (.other nofun nofun nofun (.other nofun nofun nofun (.nil depth)))

theorem enclosed_literal {token : Token} {value : Literal} (isLiteral : Expr.literal? token = some value)
    (depth : Nat) : Enclosed depth [token] depth := by
  refine .other ?_ ?_ ?_ (.nil depth)
  all_goals
    rintro rfl
    cases isLiteral

open Grammar in
mutual
theorem enclosed_primary : ∀ {tokens tree nest}, Primary tokens tree nest → ∀ depth, Enclosed depth (kinds tokens) depth
  | _, _, _, .literal _ isLiteral, depth => enclosed_literal isLiteral depth
  | _, _, _, .ident _ _, depth => .other nofun nofun nofun (.nil depth)
  | _, _, _, .construct _ _ _ names args, depth => by
    rw [kinds_cons, kinds_append, kinds_cons, kinds_append]
    refine .other nofun nofun nofun ((enclosed_dotted names depth).append (.leftParen ?_))
    exact (enclosed_args args depth).append (.rightParen (.nil depth))
  | _, _, _, .paren _ _ chain, depth => by
    rw [kinds_cons, kinds_append]
    exact .leftParen ((enclosed_chain chain (depth + 1)).append (.rightParen (.nil depth)))

theorem enclosed_chain : ∀ {tokens tree links nest}, Chain tokens tree links nest →
    ∀ depth, Enclosed depth (kinds tokens) depth
  | _, _, _, _, .primary isPrimary, depth => enclosed_primary isPrimary depth
  | _, _, _, _, .field _ _ _ chain, depth => by
    rw [kinds_append]
    exact (enclosed_chain chain depth).append (.other nofun nofun nofun (.other nofun nofun nofun (.nil depth)))
  | _, _, _, _, .call _ _ _ _ _ chain args, depth => by
    rw [kinds_append, kinds_cons, kinds_cons, kinds_cons, kinds_append]
    refine (enclosed_chain chain depth).append (.other nofun nofun nofun (.other nofun nofun nofun (.leftParen ?_)))
    exact (enclosed_args args depth).append (.rightParen (.nil depth))
  | _, _, _, _, .initialise _ _ chain, depth => by
    rw [kinds_append]
    exact (enclosed_chain chain depth).append (.other nofun nofun nofun (.nil depth))

theorem enclosed_args : ∀ {tokens args nest}, Args tokens args nest →
    ∀ depth, Enclosed (depth + 1) (kinds tokens) (depth + 1)
  | _, _, _, .none, depth => .nil (depth + 1)
  | _, _, _, .some items, depth => enclosed_items items depth

theorem enclosed_items : ∀ {tokens args nest}, Items tokens args nest →
    ∀ depth, Enclosed (depth + 1) (kinds tokens) (depth + 1)
  | _, _, _, .one chain, depth => enclosed_chain chain (depth + 1)
  | _, _, _, .more _ chain items, depth => by
    rw [kinds_append, kinds_cons]
    exact (enclosed_chain chain (depth + 1)).append (.comma (enclosed_items items depth))
end

theorem passes_word {word behind : List Char} {depth : Nat} {after : Scan} (all : ∀ c ∈ word, InWord c)
    (noSign : ∀ c ∈ word, c ∉ ['\x7b', '\x7d', ';', ':', '='])
    (passes : Scan.Passes (.at false depth) behind after) : Scan.Passes (.at false depth) (word ++ behind) after := by
  induction word with
  | nil => exact passes
  | cons c word inductionHypothesis =>
    obtain ⟨inWord, all⟩ := List.forall_mem_cons.1 all
    obtain ⟨noSignHere, noSign⟩ := List.forall_mem_cons.1 noSign
    have other (mark : Char) (separates : isSeparator mark = true) (noPoint : mark ≠ '.') : c ≠ mark :=
      inWord.ne separates noPoint
    refine (inductionHypothesis all noSign).plain ?_ fun _ => ?_
    · simp only [List.mem_cons, List.not_mem_nil, or_false, not_or] at noSignHere ⊢
      exact ⟨other '"' rfl (by decide), other '(' rfl (by decide), other '[' rfl (by decide), noSignHere.1,
        other ')' rfl (by decide), other ']' rfl (by decide), noSignHere.2.1⟩
    · simp only [signs, List.mem_cons, List.not_mem_nil, or_false, not_or] at noSignHere ⊢
      exact ⟨other ',' rfl (by decide), noSignHere.2.2.1, noSignHere.2.2.2.2, noSignHere.2.2.2.1⟩

theorem passes_blank {c : Char} {behind : List Char} {depth : Nat} {after : Scan} (isBlank : Text.isBlank c = true)
    (passes : Scan.Passes (.at false depth) behind after) : Scan.Passes (.at false depth) (c :: behind) after := by
  have noBlank : ∀ mark ∈ ['"', '(', '[', '\x7b', ')', ']', '\x7d'] ++ signs, Text.isBlank mark = false :=
    List.forall_iff_forall_mem.1 (by decide)
  obtain ⟨brackets, others⟩ := List.forall_mem_append.1 noBlank
  exact passes.plain (fun inside => Bool.eq_false_iff.1 (brackets c inside) isBlank)
    fun _ inside => Bool.eq_false_iff.1 (others c inside) isBlank

theorem passes_blanks {blanks behind : List Char} {depth : Nat} {after : Scan}
    (all : ∀ c ∈ blanks, Text.isBlank c = true) (passes : Scan.Passes (.at false depth) behind after) :
    Scan.Passes (.at false depth) (blanks ++ behind) after := by
  induction blanks with
  | nil => exact passes
  | cons c blanks inductionHypothesis =>
    obtain ⟨isBlank, all⟩ := List.forall_mem_cons.1 all
    exact passes_blank isBlank (inductionHypothesis all)

/-- Over a text that falls into tokens, the scan counts parentheses as the tokens do. -/
theorem passes_lexed {text : List Char} {tokens : List Token} (lexed : Lexed text tokens)
    (noSign : ∀ c ∈ outside false text, c ∉ ['\x7b', '\x7d', ';', ':', '='])
    (matched : ∀ raw, .bracket raw ∈ tokens → parensMatch 0 (outside false raw.toList) = true) {depth after : Nat}
    (enclosed : Enclosed depth tokens after) : Scan.Passes (.at false depth) text (.at false after) := by
  -- The depth of the scan is that of the tokens: it goes along with `Enclosed`, so that it has to be free.
  induction lexed generalizing depth with
  | nil =>
    cases enclosed
    exact .nil _
  | blank isBlank _ inductionHypothesis =>
    rw [outside_plain (ne_of_isBlank isBlank rfl)] at noSign
    exact passes_blank isBlank (inductionHypothesis (List.forall_mem_cons.1 noSign).2 matched enclosed)
  | @token token lexeme rest tokens written _ inductionHypothesis =>
    rw [written.lexeme.outside_append] at noSign
    obtain ⟨noSignHere, noSignBehind⟩ := List.forall_mem_append.1 noSign
    have behind {depth : Nat} (enclosed : Enclosed depth tokens after) :
        Scan.Passes (.at false depth) rest (.at false after) :=
      inductionHypothesis noSignBehind (fun raw inside => matched raw (List.mem_cons_of_mem _ inside)) enclosed
    cases written.lexeme with
    | leftParen =>
      cases enclosed with
      | leftParen enclosed => exact (behind enclosed).opening (by decide)
      | other noParen _ _ _ => exact absurd rfl noParen
    | rightParen =>
      cases enclosed with
      | rightParen enclosed => exact (behind enclosed).closing (by decide)
      | other _ noClosing _ _ => exact absurd rfl noClosing
    | comma =>
      cases enclosed with
      | comma enclosed => exact (behind enclosed).plain (by decide) nofun
      | other _ _ noComma _ => exact absurd rfl noComma
    | dot =>
      cases enclosed with
      | other _ _ _ enclosed => exact (behind enclosed).plain (by decide) fun _ => by decide
    | @bracket raw inside =>
      cases enclosed with
      | other _ _ _ enclosed =>
        have matched := matched _ List.mem_cons_self
        rw [String.toList_ofList] at matched
        have shown := inside.outside_append []
        have noBrace : ∀ c ∈ outside false raw, c ∉ ['\x7b', '\x7d'] := by
          intro c isIn isBrace
          refine noSignHere c ?_ (List.mem_append_left [';', ':', '='] isBrace)
          rw [outside_plain (by decide), shown]
          exact List.mem_cons_of_mem _ (List.mem_append_left _ isIn)
        have passes := passes_bracket inside matched noBrace (behind enclosed)
        simpa using passes.opening (c := '[') (by decide)
    | string inside =>
      cases enclosed with
      | other _ _ _ enclosed => simpa using (passes_string inside (behind enclosed)).quote
    | word isPlain all =>
      have shown := outside_word all []
      rw [List.append_nil] at shown
      rw [shown] at noSignHere
      have enclosed : Enclosed depth tokens after := by
        cases enclosed with
        | leftParen _ | rightParen _ | comma _ => exact isPlain.elim
        | other _ _ _ enclosed => exact enclosed
      refine passes_word all (fun c inside => noSignHere c ?_) (behind enclosed)
      exact List.mem_append_left _ inside

/-! ### Segments -/

theorem Scan.Passes.noSign {scan after : Scan} {text : List Char} (passes : scan.Passes text after)
    {entry : Char × Bool} (inside : entry ∈ marked scan text) (isTop : entry.2 = true) : entry.1 ∉ signs := by
  induction passes with
  | nil => cases inside
  | cons noSign _ inductionHypothesis =>
    obtain rfl | inside := List.mem_cons.1 inside
    · exact noSign isTop
    · exact inductionHypothesis inside

theorem cutAssignment_eq_none {chars : List (Char × Bool)}
    (unsigned : ∀ entry ∈ chars, entry.2 = true → entry.1 ≠ '=' ∧ entry.1 ≠ ':') (behindColon : Bool) :
    cutAssignment behindColon chars = none := by
  induction chars generalizing behindColon with
  | nil => rfl
  | cons entry chars inductionHypothesis =>
    obtain ⟨here, further⟩ := List.forall_mem_cons.1 unsigned
    obtain ⟨c, top⟩ := entry
    rw [cutAssignment]
    cases top with
    | false => simp [inductionHypothesis further]
    | true => simp [here rfl, inductionHypothesis further]

theorem assignment?_of_passes {text : List Char} (passes : Scan.Passes .start text .start) : assignment? text = none := by
  refine cutAssignment_eq_none (fun entry inside isTop => ?_) false
  have noSign := passes.noSign inside isTop
  simp only [signs, List.mem_cons, List.not_mem_nil, or_false, not_or] at noSign
  exact noSign.2.2

theorem marked_append (scan : Scan) (first second : List Char) :
    marked scan (first ++ second) = marked scan first ++ marked (first.foldl Scan.next scan) second := by
  induction first generalizing scan with
  | nil => rfl
  | cons c first inductionHypothesis => exact congrArg _ (inductionHypothesis (scan.next c))

theorem splitMarked_append {separates : Char → Bool} {front behind : List (Char × Bool)}
    (uncut : ∀ entry ∈ front, (entry.2 && separates entry.1) = false) {first : List Char} {others : List (List Char)}
    (cut : splitMarked separates behind = first :: others) :
    splitMarked separates (front ++ behind) = (front.map Prod.fst ++ first) :: others := by
  induction front with
  | nil => exact cut
  | cons entry front inductionHypothesis =>
    obtain ⟨here, further⟩ := List.forall_mem_cons.1 uncut
    rw [List.cons_append, splitMarked, if_neg (Bool.eq_false_iff.1 here), inductionHypothesis further]
    rfl

/-- The scan goes over the text from top level to top level, and comes upon no separator there. -/
structure Uncut (text : List Char) : Prop where
  ends : text.foldl Scan.next .start = .start
  unseparated : ∀ entry ∈ marked .start text, (entry.2 && (entry.1 == ',' || entry.1 == ';')) = false

theorem Uncut.splitMarked_append {text : List Char} (uncut : Uncut text) {behind first : List Char}
    {others : List (List Char)} (cut : splitMarked (fun c => c == ',' || c == ';') (marked .start behind) = first :: others) :
    splitMarked (fun c => c == ',' || c == ';') (marked .start (text ++ behind)) = (text ++ first) :: others := by
  have split := Initialiser.splitMarked_append uncut.unseparated cut
  rw [map_fst_marked] at split
  rwa [marked_append, uncut.ends]

theorem Scan.Passes.uncut {text : List Char} (passes : Scan.Passes .start text .start) : Uncut text where
  ends := passes.foldl_eq
  unseparated := by
    rintro ⟨c, top⟩ inside
    cases top with
    | false => rfl
    | true =>
      have noSign := passes.noSign inside rfl
      simp only [signs, List.mem_cons, List.not_mem_nil, or_false, not_or] at noSign
      simp [noSign.1, noSign.2.1]

inductive Joined : List (List Char) → List Char → Prop
  | one (text : List Char) : Joined [text] text
  | more {sign : Char} {text rest : List Char} {texts : List (List Char)} : sign = ',' ∨ sign = ';' →
      Joined texts rest → Joined (text :: texts) (text ++ sign :: rest)

theorem joined_intercalate {separator : Char} (separates : separator = ',' ∨ separator = ';')
    {texts : List (List Char)} (filled : texts ≠ []) : Joined texts ([separator].intercalate texts) := by
  induction texts with
  | nil => exact absurd rfl filled
  | cons text texts inductionHypothesis =>
    cases texts with
    | nil => simpa using Joined.one text
    | cons next texts => simpa using Joined.more separates (inductionHypothesis (List.cons_ne_nil _ _))

/-- Texts without separators at top level, joined by some, are cut into these again. -/
theorem Joined.segments_eq {texts : List (List Char)} {raw : List Char} (joined : Joined texts raw)
    (uncut : ∀ text ∈ texts, Uncut text) : segments raw = texts := by
  induction joined with
  | one text =>
    have cut : splitMarked (fun c => c == ',' || c == ';') (marked .start []) = [[]] := rfl
    have split := (List.forall_mem_singleton.1 uncut).splitMarked_append cut
    rwa [List.append_nil] at split
  | @more sign text rest texts separates _ inductionHypothesis =>
    obtain ⟨here, further⟩ := List.forall_mem_cons.1 uncut
    have cut : splitMarked (fun c => c == ',' || c == ';') (marked .start (sign :: rest)) = [] :: texts := by
      obtain rfl | rfl := separates <;> exact congrArg ([] :: ·) (inductionHypothesis further)
    have split := here.splitMarked_append cut
    rwa [List.append_nil] at split

/-- Texts that may each stand between brackets may so when they are joined. -/
theorem Joined.inBrackets {texts : List (List Char)} {raw : List Char} (joined : Joined texts raw)
    (each : ∀ text ∈ texts, ∀ behind, InBrackets 0 false behind → InBrackets 0 false (text ++ behind)) :
    InBrackets 0 false raw := by
  induction joined with
  | one text =>
    have inside := List.forall_mem_singleton.1 each [] .nil
    rwa [List.append_nil] at inside
  | more separates _ inductionHypothesis =>
    obtain ⟨here, further⟩ := List.forall_mem_cons.1 each
    refine here _ ?_
    obtain rfl | rfl := separates <;> exact .plain (by decide) (by decide) (by decide) (inductionHypothesis further)

end Initialiser

end LateBound
