import LateBound.Proofs.Accounts
import LateBound.Proofs.NodeSpans
import LateBound.Proofs.TokenPlaces

/-!
# Spans nest as nodes do

The span of a node is merged from those of its pieces, and a merge knows of lines and columns only which is the smaller
one. Since every merge is one of pieces in the order of the text, each span comes out as what lies between two tokens:
it starts with the one and ends with the other. Parentheses that belong to no node may be left out of it, but nothing
of a target or an argument ever is.
-/

namespace LateBound

open Grammar Source

/-! ## Spans in the order of the text -/

namespace Span

def upTo (first last : Span) : Span :=
  ⟨first.line, first.column, first.start, last.stop⟩

structure Contains (outer inner : Span) : Prop where
  starts : outer.start ≤ inner.start
  stops : inner.stop ≤ outer.stop

variable {first second inner last : Span}

theorem contains_merge (first second : Span) : (first.merge second).Contains first :=
  ⟨Nat.min_le_left _ _, Nat.le_max_left _ _⟩

theorem contains_merge_between (starts : first.Precedes inner) (ends : inner.Precedes last)
    (filled : last.start < last.stop) : (first.merge last).Contains inner where
  starts := Nat.le_trans (Nat.min_le_left _ _) starts.place.offset
  stops := by
    have behind := ends.disjoint
    exact Nat.le_trans (by omega) (Nat.le_max_right _ _)

theorem merge_upTo (starts : first.place.Before last.place) (stops : second.stop ≤ last.stop) :
    (first.upTo second).merge last = first.upTo last := by
  have merged (stop stop' : Position) (stops : stop.offset ≤ stop'.offset) :
      (between first.place stop).merge (between last.place stop') = between first.place stop' :=
    merge_between starts stops
  exact merged ⟨0, 0, second.stop⟩ ⟨0, 0, last.stop⟩ stops

end Span

/-! ## From token to token -/

def SpannedBy (tokens : List LocatedToken) (span : Span) : Prop :=
  ∃ first ∈ tokens, ∃ last ∈ tokens, span = first.span.upTo last.span ∧ first.span.start < last.span.stop

namespace SpannedBy

variable {tokens others front behind : List LocatedToken} {span span' : Span}

theorem mono (spanned : SpannedBy tokens span) (part : tokens ⊆ others) : SpannedBy others span := by
  obtain ⟨first, inFirst, last, inLast, isSpan⟩ := spanned
  exact ⟨first, part inFirst, last, part inLast, isSpan⟩

theorem filled (spanned : SpannedBy tokens span) : span.start < span.stop := by
  obtain ⟨first, -, last, -, rfl, filled⟩ := spanned
  exact filled

theorem single {located : LocatedToken} (ordered : InOrder [located]) : SpannedBy [located] located.span :=
  ⟨located, List.mem_cons_self, located, List.mem_cons_self, rfl, ordered.filled located List.mem_cons_self⟩

theorem precedes (ordered : InOrder (front ++ behind)) (spanned : SpannedBy front span)
    (spanned' : SpannedBy behind span') : span.Precedes span' := by
  obtain ⟨first, inFirst, last, inLast, rfl, -⟩ := spanned
  obtain ⟨first', inFirst', last', inLast', rfl, -⟩ := spanned'
  exact ⟨(ordered.precedes inLast inFirst').disjoint, (ordered.precedes inFirst inFirst').place⟩

theorem merge {token : Token} {last : Span} (more : List LocatedToken)
    (ordered : InOrder (tokens ++ (more ++ [⟨token, last⟩]))) (spanned : SpannedBy tokens span) :
    SpannedBy (tokens ++ (more ++ [⟨token, last⟩])) (span.merge last) := by
  have isLast : ⟨token, last⟩ ∈ more ++ [⟨token, last⟩] := List.mem_append_right more List.mem_cons_self
  obtain ⟨first, inFirst, final, inFinal, rfl, -⟩ := spanned
  have filled := ordered.filled _ (List.mem_append_right tokens isLast)
  have starts := (ordered.precedes inFirst isLast).place
  have stops := (ordered.precedes inFinal isLast).disjoint
  dsimp only at filled starts stops
  refine ⟨first, List.mem_append_left _ inFirst, _, List.mem_append_right tokens isLast, ?_, ?_⟩
  · exact Span.merge_upTo starts (by omega)
  · exact Nat.lt_of_le_of_lt starts.offset filled

end SpannedBy

namespace Grammar

theorem spannedBy_construct {names inner : List LocatedToken} {first opening last : Span}
    (ordered : InOrder (⟨.newKeyword, first⟩ :: (names ++ ⟨.leftParen, opening⟩ :: (inner ++ [⟨.rightParen, last⟩])))) :
    SpannedBy (⟨.newKeyword, first⟩ :: (names ++ ⟨.leftParen, opening⟩ :: (inner ++ [⟨.rightParen, last⟩])))
      (first.merge last) := by
  have cut : (⟨.newKeyword, first⟩ :: (names ++ ⟨.leftParen, opening⟩ :: (inner ++ [⟨.rightParen, last⟩])) :
      List LocatedToken) =
        [⟨.newKeyword, first⟩] ++ ((names ++ ⟨.leftParen, opening⟩ :: inner) ++ [⟨.rightParen, last⟩]) := by simp
  rw [cut] at ordered ⊢
  exact SpannedBy.merge _ ordered (.single ordered.left)

mutual
theorem Primary.spannedBy : ∀ {tokens tree nest}, Primary tokens tree nest → InOrder tokens →
    SpannedBy tokens tree.span
  | _, _, _, .literal _ _, ordered => .single ordered
  | _, _, _, .ident _ _, ordered => .single ordered
  | _, _, _, .construct _ _ _ _ _, ordered => spannedBy_construct ordered
  | _, _, _, @Primary.paren tokens _ _ _ opening closing chain, ordered => by
    have inner : tokens.Sublist (⟨.leftParen, opening⟩ :: (tokens ++ [⟨.rightParen, closing⟩])) :=
      (List.sublist_append_left tokens _).cons _
    exact (chain.spannedBy (ordered.sublist inner)).mono inner.subset

/-- An expression reaches from one of its tokens to another one. -/
theorem Chain.spannedBy : ∀ {tokens tree links nest}, Chain tokens tree links nest → InOrder tokens →
    SpannedBy tokens tree.span
  | _, _, _, _, .primary isPrimary, ordered => isPrimary.spannedBy ordered
  | _, _, _, _, .field _ dot _ chain, ordered => (chain.spannedBy ordered.left).merge [⟨.dot, dot⟩] ordered
  | _, _, _, _, @Chain.call tokens inner _ _ _ _ _ name dot span opening last chain args, ordered => by
    have cut : tokens ++ ⟨.dot, dot⟩ :: ⟨.identifier name, span⟩ :: ⟨.leftParen, opening⟩ ::
        (inner ++ [⟨.rightParen, last⟩]) = tokens ++ ((⟨.dot, dot⟩ :: ⟨.identifier name, span⟩ ::
          ⟨.leftParen, opening⟩ :: inner) ++ [⟨.rightParen, last⟩]) := rfl
    rw [cut] at ordered ⊢
    exact (chain.spannedBy ordered.left).merge _ ordered
  | _, _, _, _, .initialise _ _ chain, ordered => (chain.spannedBy ordered.left).merge [] ordered
end

theorem Items.spannedBy : ∀ {tokens args nest}, Items tokens args nest → InOrder tokens →
    (∀ arg ∈ args, SpannedBy tokens arg.span) ∧ args.Pairwise fun first second => first.span.Precedes second.span
  | _, _, _, .one chain, ordered =>
    ⟨List.forall_mem_singleton.2 (chain.spannedBy ordered), List.pairwise_singleton _ _⟩
  | _, _, _, @Items.more tokens others arg _ _ _ _ comma chain items, ordered => by
    have behind : InOrder others := ordered.right.sublist (List.sublist_cons_self _ others)
    have first := chain.spannedBy ordered.left
    obtain ⟨rest, pairwise⟩ := items.spannedBy behind
    refine ⟨List.forall_mem_cons.2 ⟨first.mono (List.subset_append_left _ _), fun arg inside => ?_⟩,
      List.pairwise_cons.2 ⟨fun arg inside => ?_, pairwise⟩⟩
    · exact (rest arg inside).mono fun _ isToken => List.mem_append_right tokens (List.mem_cons_of_mem _ isToken)
    · exact first.precedes ordered ((rest arg inside).mono (List.subset_cons_self _ others))

theorem Args.spannedBy {tokens : List LocatedToken} {args : List Expr} {nest : Nat} (isArgs : Args tokens args nest)
    (ordered : InOrder tokens) :
    (∀ arg ∈ args, SpannedBy tokens arg.span) ∧ args.Pairwise fun first second => first.span.Precedes second.span := by
  cases isArgs with
  | none => exact ⟨nofun, .nil⟩
  | some items => exact items.spannedBy ordered

/-! ## Target and arguments -/

/-- Target and arguments lie within the span of the node, one behind the other. -/
structure Nests (node : Expr) : Prop where
  within : ∀ child ∈ node.children, node.span.Contains child.span
  ordered : node.children.Pairwise fun first second => first.span.Precedes second.span

theorem nests_of_target {node target : Expr} {last : Span} (children : node.children = [target])
    (span : node.span = target.span.merge last) : Nests node where
  within := by
    rw [children, span]
    exact List.forall_mem_singleton.2 (Span.contains_merge _ _)
  ordered := by
    rw [children]
    exact List.pairwise_singleton _ _

theorem Args.between {front inner : List LocatedToken} {args : List Expr} {nest : Nat} {span last : Span}
    (isArgs : Args inner args nest) (ordered : InOrder (front ++ (inner ++ [⟨.rightParen, last⟩])))
    (spanned : SpannedBy front span) :
    (∀ arg ∈ args, span.Precedes arg.span ∧ (span.merge last).Contains arg.span) ∧
      args.Pairwise fun first second => first.span.Precedes second.span := by
  obtain ⟨each, pairwise⟩ := isArgs.spannedBy ordered.right.left
  have closing : SpannedBy [⟨.rightParen, last⟩] last := .single ordered.right.right
  refine ⟨fun arg inside => ?_, pairwise⟩
  have starts := spanned.precedes ordered ((each arg inside).mono (List.subset_append_left _ _))
  have ends := (each arg inside).precedes ordered.right closing
  exact ⟨starts, Span.contains_merge_between starts ends closing.filled⟩

theorem Builds.nests {tokens : List LocatedToken} {node : Expr} (builds : Builds tokens node)
    (ordered : InOrder tokens) : Nests node := by
  obtain ⟨links, nest, chain, bare⟩ := builds
  cases chain with
  | field name dot span chain => exact nests_of_target rfl rfl
  | initialise raw span chain => exact nests_of_target rfl rfl
  | @call tokens inner target args _ _ _ name dot span opening last chain isArgs =>
    have target := chain.spannedBy ordered.left
    have cut : tokens ++ ⟨.dot, dot⟩ :: ⟨.identifier name, span⟩ :: ⟨.leftParen, opening⟩ ::
        (inner ++ [⟨.rightParen, last⟩]) =
          (tokens ++ [⟨.dot, dot⟩, ⟨.identifier name, span⟩, ⟨.leftParen, opening⟩]) ++
            (inner ++ [⟨.rightParen, last⟩]) := by simp
    rw [cut] at ordered
    obtain ⟨each, pairwise⟩ := isArgs.between ordered (target.mono (List.subset_append_left _ _))
    exact ⟨List.forall_mem_cons.2 ⟨Span.contains_merge _ _, fun arg inside => (each arg inside).2⟩,
      List.pairwise_cons.2 ⟨fun arg inside => (each arg inside).1, pairwise⟩⟩
  | primary isPrimary =>
    cases isPrimary with
    | literal span isLiteral => exact ⟨nofun, .nil⟩
    | ident name span => exact ⟨nofun, .nil⟩
    | @construct names inner _ args _ first opening last isName isArgs =>
      have cut : ⟨.newKeyword, first⟩ :: (names ++ ⟨.leftParen, opening⟩ :: (inner ++ [⟨.rightParen, last⟩])) =
          ([⟨.newKeyword, first⟩] ++ (names ++ [⟨.leftParen, opening⟩])) ++ (inner ++ [⟨.rightParen, last⟩]) := by simp
      rw [cut] at ordered
      have keyword : SpannedBy [⟨.newKeyword, first⟩] first := .single ordered.left.left
      obtain ⟨each, pairwise⟩ := isArgs.between ordered (keyword.mono (List.subset_append_left _ _))
      exact ⟨fun arg inside => (each arg inside).2, pairwise⟩
    | paren opening closing chain => exact absurd rfl (bare rfl _ _)

end Grammar

/-! ## Every node of a text -/

/-- The node has a span that runs from the start of a token to the end of one, says where in the source it starts, and
holds those of its target and arguments, which follow one another. -/
structure Expr.Placed (source : String) (tokens : List LocatedToken) (node : Expr) : Prop where
  starts : ∃ first ∈ tokens, node.span.start = first.span.start
  stops : ∃ last ∈ tokens, node.span.stop = last.span.stop
  filled : node.span.start < node.span.stop
  place : ∃ before behind, source.toList = before ++ behind ∧ node.span.start = byteCount before ∧
    node.span.line = 1 + before.count '\n' ∧ node.span.column = 1 + lastLineLength before
  within : ∀ child ∈ node.children, node.span.start ≤ child.span.start ∧ child.span.stop ≤ node.span.stop
  ordered : node.children.Pairwise fun first second => first.span.stop ≤ second.span.start

theorem Laid.placed {source : String} {tokens : List LocatedToken} (laid : Laid .start source.toList tokens)
    {node : Expr} (isWithin : Within tokens node) : node.Placed source tokens := by
  have ordered := laid.inOrder
  obtain ⟨before, own, behind, rfl, builds⟩ := isWithin
  have nests := builds.nests ordered.right.left
  obtain ⟨links, nest, chain, -⟩ := id builds
  obtain ⟨first, inFirst, last, inLast, span, filled⟩ := chain.spannedBy ordered.right.left
  have inTokens {located : LocatedToken} (inside : located ∈ own) : located ∈ before ++ (own ++ behind) :=
    List.mem_append_right before (List.mem_append_left behind inside)
  obtain ⟨front, lexeme, rest, stands, -, place⟩ := laid.exists_written (inTokens inFirst)
  rw [Position.start_after] at place
  constructor
  · exact ⟨first, inTokens inFirst, (congrArg Span.start span).trans rfl⟩
  · exact ⟨last, inTokens inLast, (congrArg Span.stop span).trans rfl⟩
  · rw [span]
    exact filled
  · rw [span]
    unfold Span.upTo
    rw [place]
    exact ⟨front, lexeme ++ rest, stands, rfl, rfl, rfl⟩
  · exact fun child inside => ⟨(nests.within child inside).starts, (nests.within child inside).stops⟩
  · exact nests.ordered.imp fun precedes => precedes.disjoint

/-- Every node of a text that is read has a span between two of its tokens, which says where it starts, and in which the
spans of its target and arguments lie one behind the other. -/
theorem tree_spans_nest {source : String} {tree : Expr} (read : Expr.parse source = .ok tree) :
    ∃ tokens last, tokenize source = .ok (tokens ++ [⟨.endOfText, last⟩]) ∧
      ∀ node ∈ tree.nodes, node.Placed source tokens := by
  obtain ⟨tokens, last, links, nest, tokenized, chain, -⟩ := Expr.exists_derivation read
  obtain ⟨body, laid, same⟩ := exists_laid_of_tokensFrom tokenized
  obtain rfl := List.append_inj_left' same rfl
  exact ⟨tokens, last, tokenized, fun node inside => laid.placed (chain.nodes_within node inside)⟩

/-- Target and arguments in parentheses, on three lines. -/
theorem tree_spans_nest_lines :
    let source := "((é)\n  .b((c),\n 1))[x]"
    let call := Expr.call (.ident "é" ⟨1, 3, 2, 4⟩) "b"
      [.ident "c" ⟨2, 7, 12, 13⟩, .literal (.int 1) ⟨3, 2, 17, 18⟩] ⟨1, 3, 2, 19⟩
    let tree := Expr.initialise call "x" ⟨1, 3, 2, 23⟩
    Expr.parse source = .ok tree ∧ ∃ tokens last, tokenize source = .ok (tokens ++ [⟨.endOfText, last⟩]) ∧
      tree.Placed source tokens ∧ call.Placed source tokens := by
  intro source call tree
  have read : Expr.parse source = .ok tree := by cbv
  obtain ⟨tokens, last, tokenized, placed⟩ := tree_spans_nest read
  have isNode : call ∈ tree.nodes := List.mem_cons_of_mem _ List.mem_cons_self
  exact ⟨read, tokens, last, tokenized, placed tree List.mem_cons_self, placed call isNode⟩

end LateBound
