import LateBound.Proofs.Grammar
import LateBound.Proofs.Tiling

/-!
# Where nodes are read

Every node of a tree has tokens of its own, those from which it was put together, and they cover a piece of
the text. Its span ends where the piece ends. But it starts with the innermost target, so that parentheses
in front of that are left out: the span of `(5).foo` begins at `5`.
-/

namespace LateBound

namespace Grammar

/-! ## The tokens of a node -/

/-- The node is put together from the tokens: they derive it, and not by a rule that only puts parentheses
around it. -/
def Builds (tokens : List LocatedToken) (node : Expr) : Prop :=
  ∃ links nest, Chain tokens node links nest ∧
    (links = 0 → ∀ span others, tokens ≠ ⟨.leftParen, span⟩ :: others)

def Within (tokens : List LocatedToken) (node : Expr) : Prop :=
  ∃ before own behind, tokens = before ++ (own ++ behind) ∧ Builds own node

theorem Builds.within {tokens : List LocatedToken} {node : Expr} (builds : Builds tokens node) :
    Within tokens node :=
  ⟨[], tokens, [], by rw [List.append_nil, List.nil_append], builds⟩

theorem Within.widen {tokens : List LocatedToken} {node : Expr} (isWithin : Within tokens node)
    (before behind : List LocatedToken) : Within (before ++ (tokens ++ behind)) node := by
  obtain ⟨first, own, last, rfl, builds⟩ := isWithin
  refine ⟨before ++ first, own, last ++ behind, ?_, builds⟩
  simp only [List.append_assoc]

theorem Within.left {tokens : List LocatedToken} {node : Expr} (isWithin : Within tokens node)
    (behind : List LocatedToken) : Within (tokens ++ behind) node :=
  isWithin.widen [] behind

mutual
theorem Primary.nodes_within : ∀ {tokens tree nest}, Primary tokens tree nest → ∀ node ∈ tree.nodes,
    Within tokens node
  | _, _, _, .literal span isLiteral, node, inside => by
    cases List.mem_singleton.1 inside
    refine Builds.within ⟨0, 0, .primary (.literal span isLiteral), fun _ _ _ same => ?_⟩
    cases same
    cases isLiteral
  | _, _, _, .ident name span, node, inside => by
    cases List.mem_singleton.1 inside
    exact Builds.within ⟨0, 0, .primary (.ident name span), fun _ _ _ same => nomatch same⟩
  | _, _, _, @Primary.construct names _ _ _ _ first opening last isName isArgs, node, inside => by
    obtain rfl | inArgs := List.mem_cons.1 inside
    · exact Builds.within ⟨0, _, .primary (.construct first opening last isName isArgs),
        fun _ _ _ same => nomatch same⟩
    · have widened := (isArgs.nodes_within node inArgs).widen
        (⟨.newKeyword, first⟩ :: (names ++ [⟨.leftParen, opening⟩])) [⟨.rightParen, last⟩]
      simpa only [List.append_assoc, List.cons_append, List.nil_append] using widened
  | _, _, _, .paren opening closing chain, node, inside =>
    (chain.nodes_within node inside).widen [⟨.leftParen, opening⟩] [⟨.rightParen, closing⟩]

theorem Chain.nodes_within : ∀ {tokens tree links nest}, Chain tokens tree links nest → ∀ node ∈ tree.nodes,
    Within tokens node
  | _, _, _, _, .primary isPrimary, node, inside => isPrimary.nodes_within node inside
  | _, _, _, _, .field name dot span chain, node, inside => by
    obtain rfl | inTarget := List.mem_cons.1 inside
    · exact Builds.within ⟨_, _, chain.field name dot span, nofun⟩
    · exact (chain.nodes_within node inTarget).left _
  | _, _, _, _, @Chain.call tokens _ _ _ _ _ _ name dot span opening last chain isArgs, node, inside => by
    obtain rfl | below := List.mem_cons.1 inside
    · exact Builds.within ⟨_, _, chain.call name dot span opening last isArgs, nofun⟩
    · obtain inTarget | inArgs := List.mem_append.1 below
      · exact (chain.nodes_within node inTarget).left _
      · have widened := (isArgs.nodes_within node inArgs).widen
          (tokens ++ [⟨.dot, dot⟩, ⟨.identifier name, span⟩, ⟨.leftParen, opening⟩]) [⟨.rightParen, last⟩]
        simpa only [List.append_assoc, List.cons_append, List.nil_append] using widened
  | _, _, _, _, .initialise raw span chain, node, inside => by
    obtain rfl | inTarget := List.mem_cons.1 inside
    · exact Builds.within ⟨_, _, chain.initialise raw span, nofun⟩
    · exact (chain.nodes_within node inTarget).left _

theorem Args.nodes_within : ∀ {tokens args nest}, Args tokens args nest → ∀ node ∈ Expr.argNodes args,
    Within tokens node
  | _, _, _, .none, _, inside => nomatch inside
  | _, _, _, .some items, node, inside => items.nodes_within node inside

theorem Items.nodes_within : ∀ {tokens args nest}, Items tokens args nest → ∀ node ∈ Expr.argNodes args,
    Within tokens node
  | _, _, _, .one chain, node, inside => by
    rw [Expr.argNodes, Expr.argNodes, List.append_nil] at inside
    exact chain.nodes_within node inside
  | _, _, _, @Items.more tokens _ _ _ _ _ _ comma chain items, node, inside => by
    obtain inFirst | inRest := List.mem_append.1 inside
    · exact (chain.nodes_within node inFirst).left _
    · have widened := (items.nodes_within node inRest).widen (tokens ++ [⟨.comma, comma⟩]) []
      simpa only [List.append_assoc, List.cons_append, List.nil_append, List.append_nil] using widened
end

/-! ## The span of a node -/

/-- In front of `rest`, which begins with something else, stand nothing but parentheses, or nothing at all. -/
structure Opening (opening rest : List Char) : Prop where
  parens : ∀ c ∈ opening, c = '(' ∨ Text.isBlank c = true
  starts : opening = [] ∨ opening.head? = some '('
  filled : rest ≠ []
  other : rest.head? ≠ some '('

theorem Opening.extend {opening rest : List Char} (isOpening : Opening opening rest) (more : List Char) :
    Opening opening (rest ++ more) where
  parens := isOpening.parens
  starts := isOpening.starts
  filled empty := isOpening.filled (List.append_eq_nil_iff.1 empty).1
  other := by
    cases shape : rest with
    | nil => exact absurd shape isOpening.filled
    | cons c others =>
      have other := isOpening.other
      rwa [shape] at other

theorem Opening.wrap {opening rest gap : List Char} (isOpening : Opening opening rest)
    (blank : ∀ c ∈ gap, Text.isBlank c = true) : Opening ('(' :: (gap ++ opening)) rest where
  parens := List.forall_mem_cons.2 ⟨.inl rfl, List.forall_mem_append.2
    ⟨fun c inside => .inr (blank c inside), isOpening.parens⟩⟩
  starts := .inr rfl
  filled := isOpening.filled
  other := isOpening.other

/-- The span begins behind the parentheses in front of the piece, and ends at `stop`. -/
def Reaches (position stop : Position) (piece : List Char) (span : Span) : Prop :=
  ∃ opening rest, piece = opening ++ rest ∧ Opening opening rest ∧
    span = .between (position.after opening) stop

/-- The span begins behind the parentheses in front of the piece, and ends no later than the piece. -/
def Begins (position : Position) (piece : List Char) (span : Span) : Prop :=
  ∃ stop, stop.offset ≤ (position.after piece).offset ∧ Reaches position stop piece span

theorem Reaches.begins {position : Position} {piece : List Char} {span : Span}
    (reaches : Reaches position (position.after piece) piece span) : Begins position piece span :=
  ⟨_, Nat.le_refl _, reaches⟩

theorem reaches_of_single {position : Position} {piece : List Char} {token : Token} {span : Span}
    (covers : Covers position piece [⟨token, span⟩]) (other : token ≠ .leftParen) :
    Reaches position (position.after piece) piece span := by
  obtain ⟨spelled, rfl⟩ := covers.single
  exact ⟨[], piece, rfl, ⟨List.forall_mem_nil _, .inl rfl, spelled.nonempty, fun opens => other (spelled.paren opens)⟩,
    rfl⟩

theorem Begins.merge {position : Position} {piece : List Char} {tokens : List LocatedToken} {token : Token}
    {span last : Span} (more : List LocatedToken)
    (covers : Covers position piece (tokens ++ (more ++ [⟨token, last⟩]))) (filled : tokens ≠ [])
    (target : ∀ head, Covers position head tokens → Begins position head span) :
    Reaches position (position.after piece) piece (span.merge last) := by
  obtain ⟨head, gap, tail, rfl, _, here, there⟩ := covers.split filled (by simp)
  obtain ⟨stop, within, opening, rest, rfl, isOpening, rfl⟩ := target head here
  obtain ⟨before, lexeme, rfl, _, rfl⟩ := there.final
  refine ⟨opening, rest ++ (gap ++ (before ++ lexeme)), List.append_assoc .., isOpening.extend _, ?_⟩
  have starts : (position.after opening).Before ((position.after (opening ++ rest ++ gap)).after before) := by
    rw [← Position.after_append, List.append_assoc, List.append_assoc, Position.after_append]
    exact Position.before_after _ _
  have stops : stop.offset ≤ ((position.after (opening ++ rest ++ gap)).after (before ++ lexeme)).offset := by
    refine Nat.le_trans within ?_
    rw [← Position.after_append, List.append_assoc, Position.after_append _ (opening ++ rest)]
    exact (Position.before_after _ _).offset
  rw [Span.merge_between starts stops, ← Position.after_append, ← List.append_assoc _ gap]

theorem reaches_construct {position : Position} {piece : List Char} {names inner : List LocatedToken}
    {first opening last : Span}
    (covers : Covers position piece (⟨.newKeyword, first⟩ ::
      (names ++ ⟨.leftParen, opening⟩ :: (inner ++ [⟨.rightParen, last⟩])))) :
    Reaches position (position.after piece) piece (first.merge last) := by
  have covers : Covers position piece
      ([⟨.newKeyword, first⟩] ++ ((names ++ ⟨.leftParen, opening⟩ :: inner) ++ [⟨.rightParen, last⟩])) := by
    simpa only [List.append_assoc, List.cons_append, List.nil_append] using covers
  exact Begins.merge _ covers (List.cons_ne_nil _ _) fun _ keyword => (reaches_of_single keyword nofun).begins

theorem reaches_call {position : Position} {piece : List Char} {tokens inner : List LocatedToken} {name : String}
    {span dot nameSpan opening last : Span}
    (covers : Covers position piece (tokens ++ ⟨.dot, dot⟩ :: ⟨.identifier name, nameSpan⟩ ::
      ⟨.leftParen, opening⟩ :: (inner ++ [⟨.rightParen, last⟩]))) (filled : tokens ≠ [])
    (target : ∀ head, Covers position head tokens → Begins position head span) :
    Reaches position (position.after piece) piece (span.merge last) := by
  have covers : Covers position piece (tokens ++ ((⟨.dot, dot⟩ :: ⟨.identifier name, nameSpan⟩ ::
      ⟨.leftParen, opening⟩ :: inner) ++ [⟨.rightParen, last⟩])) := by
    simpa only [List.append_assoc, List.cons_append, List.nil_append] using covers
  exact Begins.merge _ covers filled target

mutual
theorem Primary.begins : ∀ {tokens tree nest}, Primary tokens tree nest → ∀ {position piece},
    Covers position piece tokens → Begins position piece tree.span
  | _, _, _, .literal _ isLiteral, _, _, covers => by
    refine (reaches_of_single covers fun isParen => ?_).begins
    subst isParen
    cases isLiteral
  | _, _, _, .ident _ _, _, _, covers => (reaches_of_single covers nofun).begins
  | _, _, _, .construct _ _ _ _ _, _, _, covers => (reaches_construct covers).begins
  | _, _, _, @Primary.paren tokens _ _ _ opening closing chain, position, piece, covers => by
    have covers : Covers position piece ([⟨.leftParen, opening⟩] ++ (tokens ++ [⟨.rightParen, closing⟩])) := covers
    obtain ⟨head, gap, tail, rfl, blank, here, there⟩ := covers.split (List.cons_ne_nil _ []) (by simp)
    obtain ⟨spelled, _⟩ := here.single
    obtain rfl := spelled.mark rfl
    obtain ⟨inner, after, last, rfl, _, inside, _⟩ := there.split chain.ne_nil (List.cons_ne_nil _ [])
    obtain ⟨stop, within, parens, rest, rfl, isOpening, place⟩ := chain.begins inside
    refine ⟨stop, ?_, '(' :: (gap ++ parens), rest ++ (after ++ last), ?_, ?_, ?_⟩
    · refine Nat.le_trans within ?_
      have inner := Position.before_after ((position.after (['('] ++ gap)).after (parens ++ rest)) (after ++ last)
      simpa only [← Position.after_append, List.append_assoc] using inner.offset
    · simp only [List.append_assoc, List.cons_append, List.nil_append]
    · exact (isOpening.extend _).wrap blank
    · rw [place, ← Position.after_append, List.append_assoc]
      rfl

/-- Every expression begins behind the parentheses in front of it. -/
theorem Chain.begins : ∀ {tokens tree links nest}, Chain tokens tree links nest → ∀ {position piece},
    Covers position piece tokens → Begins position piece tree.span
  | _, _, _, _, .primary isPrimary, _, _, covers => isPrimary.begins covers
  | _, _, _, _, .field _ dot _ chain, _, _, covers =>
    (Begins.merge [⟨.dot, dot⟩] covers chain.ne_nil fun _ => chain.begins).begins
  | _, _, _, _, .call _ _ _ _ _ chain _, _, _, covers =>
    (reaches_call covers chain.ne_nil fun _ => chain.begins).begins
  | _, _, _, _, .initialise _ _ chain, _, _, covers =>
    (Begins.merge [] covers chain.ne_nil fun _ => chain.begins).begins
end

/-- The span of a node is its own piece without the parentheses in front. -/
theorem Builds.reaches {tokens : List LocatedToken} {node : Expr} (builds : Builds tokens node)
    {position : Position} {piece : List Char} (covers : Covers position piece tokens) :
    Reaches position (position.after piece) piece node.span := by
  obtain ⟨links, nest, chain, bare⟩ := builds
  cases chain with
  | field name dot span chain => exact Begins.merge [⟨.dot, dot⟩] covers chain.ne_nil fun _ => chain.begins
  | call name dot span opening last chain args => exact reaches_call covers chain.ne_nil fun _ => chain.begins
  | initialise raw span chain => exact Begins.merge [] covers chain.ne_nil fun _ => chain.begins
  | primary isPrimary =>
    cases isPrimary with
    | literal span isLiteral =>
      refine reaches_of_single covers fun isParen => ?_
      subst isParen
      cases isLiteral
    | ident name span => exact reaches_of_single covers nofun
    | construct first opening last names args => exact reaches_construct covers
    | paren opening closing chain => exact absurd rfl (bare rfl _ _)

theorem Builds.bracket {tokens : List LocatedToken} {target : Expr} {raw : String} {span : Span}
    (builds : Builds tokens (.initialise target raw span)) {position : Position} {piece : List Char}
    (covers : Covers position piece tokens) : ∃ front, piece = front ++ '[' :: (raw.toList ++ [']']) := by
  obtain ⟨links, nest, chain, bare⟩ := builds
  cases chain with
  | initialise raw span chain =>
    obtain ⟨front, lexeme, rfl, spelled, _⟩ := covers.final
    exact ⟨front, congrArg (front ++ ·) (spelled.bracket raw rfl)⟩
  | primary isPrimary =>
    cases isPrimary with
    | paren opening closing chain => exact absurd rfl (bare rfl _ _)

end Grammar

end LateBound
