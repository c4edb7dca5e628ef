import LateBound.Proofs.Grammar

/-!
# What is derived is read

Tokens that derive an expression within the limit are read as it, as long as what stands behind them does
not go on with it: no link, and no parenthesis that would make a call of its last name.
-/

namespace LateBound

namespace Expr

/-! ## Readers as relations -/

/-- A dotted name that begins with `name` goes on to `full`. -/
def ReadsDotted (name : String) (tokens : List LocatedToken) (full : String) (rest : List LocatedToken) : Prop :=
  ∃ within, parseDotted name tokens = .ok ⟨full, rest, within⟩

def ReadsPrimary (depth : Nat) (tokens : List LocatedToken) (tree : Expr) (rest : List LocatedToken) : Prop :=
  ∃ shorter, parsePrimary depth tokens = .ok ⟨tree, rest, shorter⟩

def ReadsExpr (depth : Nat) (tokens : List LocatedToken) (tree : Expr) (rest : List LocatedToken) : Prop :=
  ∃ shorter, parseExpr depth tokens = .ok ⟨tree, rest, shorter⟩

def ReadsLinks (depth : Nat) (target : Expr) (tokens : List LocatedToken) (tree : Expr)
    (rest : List LocatedToken) : Prop :=
  ∃ within, parseLinks depth target tokens = .ok ⟨tree, rest, within⟩

def ReadsArgs (depth : Nat) (tokens : List LocatedToken) (args : List Expr) (rest : List LocatedToken) : Prop :=
  ∃ within, parseArgs depth tokens = .ok ⟨args, rest, within⟩

def ReadsItems (depth : Nat) (tokens : List LocatedToken) (args : List Expr) (rest : List LocatedToken) : Prop :=
  ∃ shorter, parseItems depth tokens = .ok ⟨args, rest, shorter⟩

variable {depth : Nat} {tokens rest behind after : List LocatedToken} {tree target : Expr} {args : List Expr}

theorem descend_eq (room : depth + 1 ≤ maxDepth) (tokens : List LocatedToken) :
    descend depth tokens = .ok (depth + 1) :=
  if_pos room

theorem ReadsDotted.stop (name : String) (noDot : ∀ span others, rest ≠ ⟨.dot, span⟩ :: others) :
    ReadsDotted name rest name rest :=
  ⟨_, parseDotted.eq_3 _ _ noDot⟩

theorem ReadsDotted.part {name part full : String} (dot span : Span)
    (parts : ReadsDotted (name ++ "." ++ part) tokens full rest) :
    ReadsDotted name (⟨.dot, dot⟩ :: ⟨.identifier part, span⟩ :: tokens) full rest := by
  obtain ⟨within, read⟩ := parts
  refine ⟨Nat.le_succ_of_le (Nat.le_succ_of_le within), ?_⟩
  rw [parseDotted, read]
  rfl

theorem ReadsPrimary.literal {token : Token} {value : Literal} (isLiteral : literal? token = some value)
    (depth : Nat) (span : Span) (rest : List LocatedToken) :
    ReadsPrimary depth (⟨token, span⟩ :: rest) (.literal value span) rest := by
  refine ⟨Nat.lt_succ_self _, ?_⟩
  rw [parsePrimary.eq_def]
  dsimp only
  split
  · cases isLiteral
  · cases isLiteral
  · cases isLiteral
  · rw [isLiteral]

theorem ReadsPrimary.ident (name : String) (depth : Nat) (span : Span) (rest : List LocatedToken) :
    ReadsPrimary depth (⟨.identifier name, span⟩ :: rest) (.ident name span) rest :=
  ⟨_, parsePrimary.eq_2 depth span rest name⟩

theorem ReadsPrimary.construct {name typeName : String} (first span opening last : Span)
    (names : ReadsDotted name tokens typeName (⟨.leftParen, opening⟩ :: behind))
    (filled : ReadsArgs depth behind args (⟨.rightParen, last⟩ :: rest)) :
    ReadsPrimary depth (⟨.newKeyword, first⟩ :: ⟨.identifier name, span⟩ :: tokens)
      (.construct typeName args (first.merge last)) rest := by
  obtain ⟨within, dotted⟩ := names
  obtain ⟨withinArgs, read⟩ := filled
  have fewer := And.intro within withinArgs
  simp only [List.length_cons] at fewer
  refine ⟨by simp only [List.length_cons]; omega, ?_⟩
  rw [parsePrimary]
  simp only [parseName, Except.bind, bind, pure, Except.pure, dotted, parseLeftParen, read, parseRightParen]

theorem ReadsPrimary.paren (opening closing : Span) (room : depth + 1 ≤ maxDepth)
    (inner : ReadsExpr (depth + 1) tokens tree (⟨.rightParen, closing⟩ :: rest)) :
    ReadsPrimary depth (⟨.leftParen, opening⟩ :: tokens) tree rest := by
  obtain ⟨shorter, read⟩ := inner
  refine ⟨Nat.lt_succ_of_lt (Nat.lt_of_succ_lt shorter), ?_⟩
  rw [parsePrimary, descend_eq room]
  simp only [Except.bind, bind, pure, Except.pure, read, parseRightParen]

theorem ReadsPrimary.links (primary : ReadsPrimary depth tokens target behind)
    (links : ReadsLinks depth target behind tree rest) : ReadsExpr depth tokens tree rest := by
  obtain ⟨shorter, first⟩ := primary
  obtain ⟨within, read⟩ := links
  refine ⟨Nat.lt_of_le_of_lt within shorter, ?_⟩
  rw [parseExpr, first]
  simp only [Except.bind, bind, pure, Except.pure, read]

theorem ReadsLinks.stop (depth : Nat) (tree : Expr) (noDot : ∀ span others, rest ≠ ⟨.dot, span⟩ :: others)
    (noBracket : ∀ raw span others, rest ≠ ⟨.bracket raw, span⟩ :: others) :
    ReadsLinks depth tree rest tree rest :=
  ⟨_, parseLinks.eq_3 _ _ _ noDot noBracket⟩

theorem ReadsLinks.field {name : String} (dot span : Span) (room : depth + 1 ≤ maxDepth)
    (noParen : ∀ span others, tokens ≠ ⟨.leftParen, span⟩ :: others)
    (links : ReadsLinks (depth + 1) (.field target name (target.span.merge span)) tokens tree rest) :
    ReadsLinks depth target (⟨.dot, dot⟩ :: ⟨.identifier name, span⟩ :: tokens) tree rest := by
  obtain ⟨within, read⟩ := links
  refine ⟨Nat.le_succ_of_le (Nat.le_succ_of_le within), ?_⟩
  rw [parseLinks, descend_eq room]
  simp only [Except.bind, bind, pure, Except.pure, parseName]
  split
  · exact absurd rfl (noParen _ _)
  · simp only [read]

theorem ReadsLinks.call {name : String} (dot span opening last : Span) (room : depth + 1 ≤ maxDepth)
    (filled : ReadsArgs (depth + 1) tokens args (⟨.rightParen, last⟩ :: behind))
    (links : ReadsLinks (depth + 1) (.call target name args (target.span.merge last)) behind tree rest) :
    ReadsLinks depth target (⟨.dot, dot⟩ :: ⟨.identifier name, span⟩ :: ⟨.leftParen, opening⟩ :: tokens) tree
      rest := by
  obtain ⟨withinArgs, isArgs⟩ := filled
  obtain ⟨within, read⟩ := links
  have fewer := withinArgs
  rw [List.length_cons] at fewer
  refine ⟨by simp only [List.length_cons]; omega, ?_⟩
  rw [parseLinks, descend_eq room]
  simp only [Except.bind, bind, pure, Except.pure, parseName, isArgs, parseRightParen, read]

theorem ReadsLinks.initialise {raw : String} (span : Span) (room : depth + 1 ≤ maxDepth)
    (links : ReadsLinks (depth + 1) (.initialise target raw (target.span.merge span)) tokens tree rest) :
    ReadsLinks depth target (⟨.bracket raw, span⟩ :: tokens) tree rest := by
  obtain ⟨within, read⟩ := links
  refine ⟨Nat.le_succ_of_le within, ?_⟩
  rw [parseLinks, descend_eq room]
  simp only [Except.bind, bind, pure, Except.pure, read]

theorem ReadsArgs.none (depth : Nat) (last : Span) (rest : List LocatedToken) :
    ReadsArgs depth (⟨.rightParen, last⟩ :: rest) [] (⟨.rightParen, last⟩ :: rest) :=
  ⟨_, parseArgs.eq_1 depth last rest⟩

theorem ReadsItems.filled (room : depth + 1 ≤ maxDepth)
    (opens : ∀ span others, tokens ≠ ⟨.rightParen, span⟩ :: others)
    (items : ReadsItems (depth + 1) tokens args rest) : ReadsArgs depth tokens args rest := by
  obtain ⟨shorter, read⟩ := items
  refine ⟨Nat.le_of_lt shorter, ?_⟩
  rw [parseArgs.eq_2 _ _ opens, descend_eq room]
  simp only [Except.bind, bind, pure, Except.pure, read]

theorem ReadsExpr.one (noComma : ∀ span others, rest ≠ ⟨.comma, span⟩ :: others)
    (first : ReadsExpr depth tokens tree rest) : ReadsItems depth tokens [tree] rest := by
  obtain ⟨shorter, read⟩ := first
  refine ⟨shorter, ?_⟩
  rw [parseItems, read]
  simp only [Except.bind, bind, pure, Except.pure]
  split
  · exact absurd rfl (noComma _ _)
  · rfl

theorem ReadsExpr.more (comma : Span) (first : ReadsExpr depth tokens tree (⟨.comma, comma⟩ :: behind))
    (others : ReadsItems depth behind args rest) : ReadsItems depth tokens (tree :: args) rest := by
  obtain ⟨shorter, isFirst⟩ := first
  obtain ⟨fewer, read⟩ := others
  refine ⟨Nat.lt_trans fewer (Nat.lt_of_succ_lt shorter), ?_⟩
  rw [parseItems, isFirst]
  simp only [Except.bind, bind, pure, Except.pure, read]

end Expr

/-! ## Derivations are read -/

namespace Grammar

open LateBound.Expr

theorem Items.opens {tokens : List LocatedToken} {args : List Expr} {nest : Nat} (items : Items tokens args nest)
    (behind : List LocatedToken) : ∀ span others, tokens ++ behind ≠ ⟨.rightParen, span⟩ :: others := by
  intro span others same
  cases items with
  | one chain =>
    obtain ⟨head, tail, rfl, other⟩ := chain.head
    cases same
    exact other rfl
  | more comma chain _ =>
    obtain ⟨head, tail, rfl, other⟩ := chain.head
    cases same
    exact other rfl

theorem Dotted.reads {tokens : List LocatedToken} {full : String} (dotted : Dotted tokens full) :
    ∃ first span parts, tokens = ⟨.identifier first, span⟩ :: parts ∧
      ∀ {rest final after}, ReadsDotted full rest final after → ReadsDotted first (parts ++ rest) final after := by
  induction dotted with
  | name name span => exact ⟨name, span, [], rfl, id⟩
  | part part dot span _ inductionHypothesis =>
    obtain ⟨first, firstSpan, parts, rfl, reads⟩ := inductionHypothesis
    refine ⟨first, firstSpan, parts ++ [⟨.dot, dot⟩, ⟨.identifier part, span⟩], rfl, fun read => ?_⟩
    rw [List.append_assoc]
    exact reads (read.part dot span)

mutual
theorem Primary.reads : ∀ {tokens tree nest}, Primary tokens tree nest → ∀ {depth}, depth + nest ≤ maxDepth →
    ∀ rest, ReadsPrimary depth (tokens ++ rest) tree rest
  | _, _, _, .literal span isLiteral, depth, _, rest => .literal isLiteral depth span rest
  | _, _, _, .ident name span, depth, _, rest => .ident name depth span rest
  | _, _, _, .construct first opening last names args, depth, room, rest => by
    obtain ⟨name, span, parts, rfl, reads⟩ := names.reads
    simp only [List.cons_append, List.append_assoc, List.nil_append]
    exact .construct first span opening last (reads (.stop _ (by simp))) (args.reads room last rest)
  | _, _, _, .paren opening closing chain, depth, room, rest => by
    simp only [List.cons_append, List.append_assoc, List.nil_append]
    exact .paren opening closing (by omega)
      (chain.reads (by omega) (by simp) (.stop _ _ (by simp) (by simp)))

/-- A chain is read up to where it ends, and from there on as the links that follow. -/
theorem Chain.reads : ∀ {tokens tree links nest}, Chain tokens tree links nest → ∀ {depth},
    depth + nest ≤ maxDepth → ∀ {rest}, (∀ span others, rest ≠ ⟨.leftParen, span⟩ :: others) →
    ∀ {final after}, ReadsLinks (depth + links) tree rest final after →
    ReadsExpr depth (tokens ++ rest) final after
  | _, _, _, _, .primary isPrimary, depth, room, rest, _, _, _, read => (isPrimary.reads room rest).links read
  | _, _, _, _, .field name dot span chain, depth, room, rest, noParen, _, _, read => by
    simp only [List.append_assoc, List.cons_append, List.nil_append]
    exact chain.reads (by omega) (by simp) (read.field dot span (by omega) noParen)
  | _, _, _, _, .call name dot span opening last chain args, depth, room, rest, _, _, _, read => by
    simp only [List.append_assoc, List.cons_append, List.nil_append]
    exact chain.reads (by omega) (by simp)
      (.call dot span opening last (by omega) (args.reads (by omega) last rest) read)
  | _, _, _, _, .initialise raw span chain, depth, room, rest, _, _, _, read => by
    simp only [List.append_assoc, List.cons_append, List.nil_append]
    exact chain.reads (by omega) (by simp) (read.initialise span (by omega))

theorem Args.reads : ∀ {tokens args nest}, Args tokens args nest → ∀ {depth}, depth + nest ≤ maxDepth →
    ∀ last rest, ReadsArgs depth (tokens ++ ⟨.rightParen, last⟩ :: rest) args (⟨.rightParen, last⟩ :: rest)
  | _, _, _, .none, depth, _, last, rest => .none depth last rest
  | _, _, _, .some items, depth, room, last, rest =>
    (items.reads (by omega) last rest).filled (by omega) (items.opens _)

theorem Items.reads : ∀ {tokens args nest}, Items tokens args nest → ∀ {depth}, depth + nest ≤ maxDepth →
    ∀ last rest, ReadsItems depth (tokens ++ ⟨.rightParen, last⟩ :: rest) args (⟨.rightParen, last⟩ :: rest)
  | _, _, _, .one chain, depth, room, last, rest =>
    (chain.reads room (by simp) (.stop _ _ (by simp) (by simp))).one (by simp)
  | _, _, _, .more comma chain items, depth, room, last, rest => by
    simp only [List.append_assoc, List.cons_append]
    exact (chain.reads (by omega) (by simp) (.stop _ _ (by simp) (by simp))).more comma
      (items.reads (by omega) last rest)
end

theorem Chain.ofTokens_eq {tokens : List LocatedToken} {tree : Expr} {links nest : Nat}
    (chain : Chain tokens tree links nest) (room : nest ≤ maxDepth) (last : Span) :
    ofTokens (tokens ++ [⟨.endOfText, last⟩]) = .ok tree := by
  obtain ⟨shorter, read⟩ : ReadsExpr 0 (tokens ++ [⟨.endOfText, last⟩]) tree [⟨.endOfText, last⟩] :=
    chain.reads (by omega) (by simp) (.stop _ _ (by simp) (by simp))
  rw [ofTokens, read]
  rfl

end Grammar

end LateBound
