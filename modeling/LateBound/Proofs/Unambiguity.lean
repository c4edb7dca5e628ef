import LateBound.Proofs.GrammarComplete
import LateBound.Proofs.SyntaxPlaces
import Mathlib.Data.Set.Subsingleton

/-!
# Tokens derive one tree

The grammar is unambiguous: at the head of some tokens stands one primary at most, one chain of each number
of links, and one argument list in front of its closing parenthesis. So a text is an expression exactly when
its tokens derive one within the limit, and then it is read as the one tree that they derive.
-/

namespace LateBound

namespace Grammar

/-- No parenthesis opens here, which would make a call of a name before it. -/
def NoParen (tokens : List LocatedToken) : Prop :=
  ∀ located ∈ tokens.head?, located.token ≠ .leftParen

def NoLink (tokens : List LocatedToken) : Prop :=
  ∀ located ∈ tokens.head?, located.token ≠ .dot ∧ ∀ raw, located.token ≠ .bracket raw

theorem noParen_cons {token : Token} (other : token ≠ .leftParen) (span : Span) (rest : List LocatedToken) :
    NoParen (⟨token, span⟩ :: rest) := by
  rintro _ ⟨⟩
  exact other

theorem noLink_cons {token : Token} (noDot : token ≠ .dot) (noBracket : ∀ raw, token ≠ .bracket raw)
    (span : Span) (rest : List LocatedToken) : NoLink (⟨token, span⟩ :: rest) := by
  rintro _ ⟨⟩
  exact ⟨noDot, noBracket⟩

/-- No chain goes on here. -/
structure Stops (tokens : List LocatedToken) : Prop where
  noParen : NoParen tokens
  noLink : NoLink tokens

theorem stops_nil : Stops [] where
  noParen _ inside := nomatch inside
  noLink _ inside := nomatch inside

theorem stops_rightParen (span : Span) (rest : List LocatedToken) : Stops (⟨.rightParen, span⟩ :: rest) :=
  ⟨noParen_cons (by simp) span rest, noLink_cons (by simp) (by simp) span rest⟩

theorem stops_comma (span : Span) (rest : List LocatedToken) : Stops (⟨.comma, span⟩ :: rest) :=
  ⟨noParen_cons (by simp) span rest, noLink_cons (by simp) (by simp) span rest⟩

theorem NoParen.not_cons {span : Span} {rest : List LocatedToken} :
    ¬ NoParen (⟨.leftParen, span⟩ :: rest) :=
  fun noParen => noParen _ rfl rfl

/-! ## Links -/

/-- The tokens are one link: what it makes of a target, and how deep its arguments are nested. -/
inductive Link : List LocatedToken → (Expr → Expr) → Nat → Prop
  | field (name : String) (dot span : Span) :
      Link [⟨.dot, dot⟩, ⟨.identifier name, span⟩]
        (fun target => .field target name (target.span.merge span)) 0
  | call {inner : List LocatedToken} {args : List Expr} {argNest : Nat} (name : String)
      (dot span opening last : Span) : Args inner args argNest →
      Link (⟨.dot, dot⟩ :: ⟨.identifier name, span⟩ :: ⟨.leftParen, opening⟩ :: (inner ++ [⟨.rightParen, last⟩]))
        (fun target => .call target name args (target.span.merge last)) argNest
  | initialise (raw : String) (span : Span) :
      Link [⟨.bracket raw, span⟩] (fun target => .initialise target raw (target.span.merge span)) 0

theorem Chain.exists_link {tokens : List LocatedToken} {tree : Expr} {links nest : Nat}
    (chain : Chain tokens tree (links + 1) nest) :
    ∃ before link target build inner argNest, tokens = before ++ link ∧ tree = build target ∧
      Chain before target links inner ∧ Link link build argNest ∧ nest = max inner (links + 1 + argNest) := by
  cases chain with
  | field name dot span chain => exact ⟨_, _, _, _, _, 0, rfl, rfl, chain, .field name dot span, rfl⟩
  | call name dot span opening last chain args =>
    exact ⟨_, _, _, _, _, _, rfl, rfl, chain, .call name dot span opening last args, rfl⟩
  | initialise raw span chain => exact ⟨_, _, _, _, _, 0, rfl, rfl, chain, .initialise raw span, rfl⟩

theorem Link.begins {link : List LocatedToken} {build : Expr → Expr} {argNest : Nat}
    (isLink : Link link build argNest) (rest : List LocatedToken) :
    NoParen (link ++ rest) ∧ ¬ NoLink (link ++ rest) := by
  cases isLink with
  | field _ _ _ | call _ _ _ _ _ _ => exact ⟨noParen_cons (by simp) _ _, fun noLink => (noLink _ rfl).1 rfl⟩
  | initialise raw _ => exact ⟨noParen_cons (by simp) _ _, fun noLink => (noLink _ rfl).2 raw rfl⟩

theorem Link.length_pos {link : List LocatedToken} {build : Expr → Expr} {argNest : Nat}
    (isLink : Link link build argNest) : 0 < link.length := by
  cases isLink <;> exact Nat.succ_pos _

/-- A chain without its last links is a chain, and the tokens that are left out begin with a link. -/
theorem Chain.cut {tokens : List LocatedToken} {tree : Expr} {links nest fewer : Nat}
    (chain : Chain tokens tree links nest) (within : fewer < links) :
    ∃ before more target inner, tokens = before ++ more ∧ Chain before target fewer inner ∧
      ∀ rest, NoParen (more ++ rest) ∧ ¬ NoLink (more ++ rest) := by
  induction links generalizing tokens tree nest with
  | zero => exact absurd within (Nat.not_lt_zero _)
  | succ links inductionHypothesis =>
    obtain ⟨before, link, target, _, inner, _, rfl, -, shorter, isLink, -⟩ := chain.exists_link
    obtain rfl | earlier := Nat.eq_or_lt_of_le (Nat.le_of_lt_succ within)
    · exact ⟨before, link, target, inner, rfl, shorter, isLink.begins⟩
    · obtain ⟨first, more, target, inner, rfl, cut, begins⟩ := inductionHypothesis shorter earlier
      refine ⟨first, more ++ link, target, inner, List.append_assoc .., cut, fun rest => ?_⟩
      rw [List.append_assoc]
      exact begins _

/-! ## One rule at a time

Of two derivations at the head of the same tokens, the first decides what the second is, if that is so for
all derivations from fewer tokens. -/

variable {tokens others rest rest' : List LocatedToken}

theorem Dotted.unique {full full' : String} (first : Dotted tokens full) (second : Dotted others full')
    (same : tokens ++ rest = others ++ rest') (ends : ∀ span more, rest ≠ ⟨.dot, span⟩ :: more)
    (ends' : ∀ span more, rest' ≠ ⟨.dot, span⟩ :: more) : tokens = others ∧ full = full' := by
  obtain ⟨name, span, parts, rfl, reads⟩ := first.reads
  obtain ⟨name', span', parts', rfl, reads'⟩ := second.reads
  obtain ⟨isHead, isTail⟩ := List.cons.inj same
  cases isHead
  have isTail : parts ++ rest = parts' ++ rest' := isTail
  obtain ⟨within', read'⟩ := reads' (.stop full' ends')
  obtain ⟨within, read⟩ : Expr.ReadsDotted name (parts' ++ rest') full rest := isTail ▸ reads (.stop full ends)
  cases read.symm.trans read'
  exact ⟨congrArg _ (List.append_cancel_right isTail), rfl⟩

/-- A primary at the head of the tokens is the only one there. -/
def PrimaryAgrees (tokens : List LocatedToken) : Prop :=
  ∀ {others rest rest' tree tree' nest nest'}, Primary tokens tree nest → Primary others tree' nest' →
    tokens ++ rest = others ++ rest' → tokens = others ∧ tree = tree' ∧ nest = nest'

def ChainAgrees (tokens : List LocatedToken) : Prop :=
  ∀ {others rest rest' tree tree' links nest nest'}, Chain tokens tree links nest → Chain others tree' links nest' →
    tokens ++ rest = others ++ rest' → NoParen rest → NoParen rest' →
    tokens = others ∧ tree = tree' ∧ nest = nest'

def ArgsAgree (tokens : List LocatedToken) : Prop :=
  ∀ {others rest rest' args args' nest nest' last last'}, Args tokens args nest → Args others args' nest' →
    tokens ++ ⟨.rightParen, last⟩ :: rest = others ++ ⟨.rightParen, last'⟩ :: rest' →
    tokens = others ∧ args = args' ∧ nest = nest'

def ItemsAgree (tokens : List LocatedToken) : Prop :=
  ∀ {others rest rest' args args' nest nest' last last'}, Items tokens args nest → Items others args' nest' →
    tokens ++ ⟨.rightParen, last⟩ :: rest = others ++ ⟨.rightParen, last'⟩ :: rest' →
    tokens = others ∧ args = args' ∧ nest = nest'

/-- Of two chains at the head of the same tokens, behind which none goes on, neither has more links. -/
theorem Chain.unique {tree tree' : Expr} {links links' nest nest' : Nat} (first : Chain tokens tree links nest)
    (second : Chain others tree' links' nest') (same : tokens ++ rest = others ++ rest')
    (agrees : ∀ shorter, shorter.length ≤ tokens.length → ChainAgrees shorter) (stops : Stops rest)
    (stops' : Stops rest') :
    tokens = others ∧ tree = tree' ∧ links = links' ∧ nest = nest' := by
  -- The longer chain, cut to the links of the shorter one, agrees with it, and then goes on with a link where
  -- nothing that stops begins with one.
  obtain fewer | rfl | more := Nat.lt_trichotomy links links'
  · obtain ⟨before, more, _, _, rfl, cut, begins⟩ := second.cut fewer
    rw [List.append_assoc] at same
    obtain ⟨rfl, -⟩ := agrees tokens (Nat.le_refl _) first cut same stops.noParen (begins rest').1
    exact absurd (List.append_cancel_left same ▸ stops.noLink) (begins rest').2
  · obtain ⟨sameTokens, sameTree, sameNest⟩ := agrees tokens (Nat.le_refl _) first second same stops.noParen
      stops'.noParen
    exact ⟨sameTokens, sameTree, rfl, sameNest⟩
  · obtain ⟨before, more, _, _, rfl, cut, begins⟩ := first.cut more
    rw [List.append_assoc] at same
    have within : before.length ≤ (before ++ more).length := by
      rw [List.length_append]
      exact Nat.le_add_right _ _
    obtain ⟨rfl, -⟩ := agrees before within cut second same (begins rest).1 stops'.noParen
    exact absurd (List.append_cancel_left same ▸ stops'.noLink) (begins rest).2

/-- The agreement of all derivations from fewer tokens than so many. -/
structure AgreeBelow (size : Nat) : Prop where
  chains : ∀ shorter, shorter.length < size → ChainAgrees shorter
  lists : ∀ shorter, shorter.length < size → ArgsAgree shorter
  items : ∀ shorter, shorter.length < size → ItemsAgree shorter

namespace AgreeBelow

variable {size : Nat} (below : AgreeBelow size)

include below

theorem primaries (within : tokens.length ≤ size) : PrimaryAgrees tokens := by
  intro others rest rest' tree tree' nest nest' first second same
  cases first with
  | literal span isLiteral =>
    cases second with
    | literal _ isLiteral' =>
      cases (List.cons.inj same).1
      cases isLiteral.symm.trans isLiteral'
      exact ⟨rfl, rfl, rfl⟩
    | ident _ _ | construct _ _ _ _ _ | paren _ _ _ =>
      cases (List.cons.inj same).1
      cases isLiteral
  | ident name span =>
    cases second with
    | literal _ isLiteral =>
      cases (List.cons.inj same).1
      cases isLiteral
    | ident _ _ =>
      cases (List.cons.inj same).1
      exact ⟨rfl, rfl, rfl⟩
    | construct _ _ _ _ _ | paren _ _ _ => cases (List.cons.inj same).1
  | @construct names inner typeName args nest opens opening last dotted filled =>
    cases second with
    | literal _ isLiteral =>
      cases (List.cons.inj same).1
      cases isLiteral
    | ident _ _ | paren _ _ _ => cases (List.cons.inj same).1
    | construct opens' opening' last' dotted' filled' =>
      cases (List.cons.inj same).1
      have same := (List.cons.inj same).2
      simp only [List.append_eq, List.append_assoc, List.cons_append, List.nil_append] at same
      obtain ⟨rfl, rfl⟩ := dotted.unique dotted' same (by simp) (by simp)
      have same := List.append_cancel_left same
      cases (List.cons.inj same).1
      have same := (List.cons.inj same).2
      have fewer : inner.length < size := by
        simp only [List.length_cons, List.length_append] at within
        omega
      obtain ⟨rfl, rfl, rfl⟩ := below.lists inner fewer filled filled' same
      cases (List.cons.inj (List.append_cancel_left same)).1
      exact ⟨rfl, rfl, rfl⟩
  | @paren inner tree links nest opening closing chain =>
    cases second with
    | literal _ isLiteral =>
      cases (List.cons.inj same).1
      cases isLiteral
    | ident _ _ | construct _ _ _ _ _ => cases (List.cons.inj same).1
    | paren _ _ chain' =>
      cases (List.cons.inj same).1
      have same := (List.cons.inj same).2
      simp only [List.append_eq, List.append_assoc, List.cons_append, List.nil_append] at same
      have fewer : inner.length < size := by
        simp only [List.length_cons, List.length_append] at within
        omega
      obtain ⟨rfl, rfl, rfl, rfl⟩ := chain.unique chain' same
        (fun shorter within => below.chains shorter (Nat.lt_of_le_of_lt within fewer)) (stops_rightParen _ _)
        (stops_rightParen _ _)
      cases (List.cons.inj (List.append_cancel_left same)).1
      exact ⟨rfl, rfl, rfl⟩

theorem links {link link' : List LocatedToken} {build build' : Expr → Expr} {argNest argNest' : Nat}
    (within : link.length ≤ size) (first : Link link build argNest) (second : Link link' build' argNest')
    (same : link ++ rest = link' ++ rest') (noParen : NoParen rest) (noParen' : NoParen rest') :
    link = link' ∧ build = build' ∧ argNest = argNest' := by
  cases first with
  | field name dot span =>
    cases second with
    | field _ _ _ =>
      cases same
      exact ⟨rfl, rfl, rfl⟩
    | call _ _ _ _ _ _ =>
      cases same
      exact absurd noParen NoParen.not_cons
    | initialise _ _ => cases same
  | @call inner args argNest name dot span opening last filled =>
    cases second with
    | field _ _ _ =>
      cases same
      exact absurd noParen' NoParen.not_cons
    | call _ _ _ _ last' filled' =>
      simp only [List.cons_append, List.append_assoc, List.nil_append, List.cons.injEq, LocatedToken.mk.injEq,
        Token.identifier.injEq, true_and] at same
      obtain ⟨rfl, ⟨rfl, rfl⟩, rfl, same⟩ := same
      have fewer : inner.length < size := by
        simp only [List.length_cons, List.length_append] at within
        omega
      obtain ⟨rfl, rfl, rfl⟩ := below.lists inner fewer filled filled' same
      cases (List.cons.inj (List.append_cancel_left same)).1
      exact ⟨rfl, rfl, rfl⟩
    | initialise _ _ => cases same
  | initialise raw span =>
    cases second with
    | field _ _ _ | call _ _ _ _ _ _ => cases same
    | initialise _ _ =>
      cases same
      exact ⟨rfl, rfl, rfl⟩

theorem chain (within : tokens.length ≤ size) : ChainAgrees tokens := by
  intro others rest rest' tree tree' links nest nest' first second same noParen noParen'
  cases links with
  | zero =>
    cases first with
    | primary isPrimary =>
      cases second with
      | primary isPrimary' => exact below.primaries within isPrimary isPrimary' same
  | succ links =>
    obtain ⟨before, link, target, build, inner, argNest, rfl, rfl, shorter, isLink, rfl⟩ := first.exists_link
    obtain ⟨before', link', target', build', inner', argNest', rfl, rfl, shorter', isLink', rfl⟩ :=
      second.exists_link
    rw [List.append_assoc, List.append_assoc] at same
    rw [List.length_append] at within
    have filled := isLink.length_pos
    obtain ⟨rfl, rfl, rfl⟩ := below.chains before (by omega) shorter shorter' same (isLink.begins rest).1
      (isLink'.begins rest').1
    obtain ⟨rfl, rfl, rfl⟩ :=
      below.links (by omega) isLink isLink' (List.append_cancel_left same) noParen noParen'
    exact ⟨rfl, rfl, rfl⟩

theorem chain_to_end {tree tree' : Expr} {links links' nest nest' : Nat} (within : tokens.length ≤ size)
    (first : Chain tokens tree links nest) (second : Chain others tree' links' nest')
    (same : tokens ++ rest = others ++ rest') (stops : Stops rest) (stops' : Stops rest') :
    tokens = others ∧ tree = tree' ∧ links = links' ∧ nest = nest' :=
  first.unique second same (fun _ shorter => below.chain (Nat.le_trans shorter within)) stops stops'

theorem item (within : tokens.length ≤ size) : ItemsAgree tokens := by
  intro others rest rest' args args' nest nest' last last' first second same
  cases first with
  | one chain =>
    cases second with
    | one chain' =>
      obtain ⟨rfl, rfl, rfl, rfl⟩ := below.chain_to_end within chain chain' same (stops_rightParen _ _)
        (stops_rightParen _ _)
      exact ⟨rfl, rfl, rfl⟩
    | more comma chain' items' =>
      rw [List.append_assoc] at same
      obtain ⟨rfl, -⟩ := below.chain_to_end within chain chain' same (stops_rightParen _ _) (stops_comma _ _)
      cases (List.cons.inj (List.append_cancel_left same)).1
  | @more before behind arg args links nest otherNest comma chain items =>
    rw [List.append_assoc] at same
    rw [List.length_append, List.length_cons] at within
    cases second with
    | one chain' =>
      obtain ⟨rfl, -⟩ := below.chain_to_end (by omega) chain chain' same (stops_comma _ _) (stops_rightParen _ _)
      cases (List.cons.inj (List.append_cancel_left same)).1
    | more comma' chain' items' =>
      rw [List.append_assoc] at same
      obtain ⟨rfl, rfl, rfl, rfl⟩ := below.chain_to_end (by omega) chain chain' same (stops_comma _ _) (stops_comma _ _)
      obtain ⟨sameComma, sameRest⟩ := List.cons.inj (List.append_cancel_left same)
      cases sameComma
      obtain ⟨rfl, rfl, rfl⟩ := below.items behind (by omega) items items' sameRest
      exact ⟨rfl, rfl, rfl⟩

theorem list (within : tokens.length ≤ size) : ArgsAgree tokens := by
  intro others rest rest' args args' nest nest' last last' first second same
  cases first with
  | none =>
    cases second with
    | none => exact ⟨rfl, rfl, rfl⟩
    | some items => exact absurd same.symm (items.opens _ _ _)
  | some items =>
    cases second with
    | none => exact absurd same (items.opens _ _ _)
    | some items' =>
      obtain ⟨rfl, rfl, rfl⟩ := below.item within items items' same
      exact ⟨rfl, rfl, rfl⟩

end AgreeBelow

/-- Derivations agree, by induction on how many tokens they take. -/
theorem agreeBelow (size : Nat) : AgreeBelow size := by
  induction size with
  | zero =>
    exact ⟨fun _ none => absurd none (Nat.not_lt_zero _), fun _ none => absurd none (Nat.not_lt_zero _),
      fun _ none => absurd none (Nat.not_lt_zero _)⟩
  | succ size below =>
    exact ⟨fun _ within => below.chain (Nat.le_of_lt_succ within),
      fun _ within => below.list (Nat.le_of_lt_succ within), fun _ within => below.item (Nat.le_of_lt_succ within)⟩

/-- Tokens derive one expression at most. -/
theorem Chain.eq_of_tokens {tree tree' : Expr} {links links' nest nest' : Nat}
    (first : Chain tokens tree links nest) (second : Chain tokens tree' links' nest') :
    tree = tree' ∧ links = links' ∧ nest = nest' := by
  exact ((agreeBelow tokens.length).chain_to_end (Nat.le_refl _) first second rfl stops_nil stops_nil).2

end Grammar

/-! ## Texts that are expressions -/

theorem Token.IsWord.ne_endOfText {token : Token} (isWord : token.IsWord) : token ≠ .endOfText := by
  rintro rfl
  exact isWord

theorem Token.ne_endOfText_of_scan {c : Char} {tail : List Char} {piece : Taken Token (c :: tail)}
    (scanned : Token.scan c tail = .token piece) : piece.value ≠ .endOfText := by
  unfold Token.scan at scanned
  split_ifs at scanned
  · cases scanned
    rintro ⟨⟩
  · cases scanned
    rintro ⟨⟩
  · cases scanned
    rintro ⟨⟩
  · cases scanned
    rintro ⟨⟩
  · split at scanned
    · cases scanned
      rintro ⟨⟩
    · cases scanned
  · split at scanned
    · cases scanned
      rintro ⟨⟩
    · cases scanned
  · exact (isWord_of_scanNumeral scanned).ne_endOfText
  · cases scanned
    exact (isWord_wordToken _).ne_endOfText

open Grammar

theorem exists_inner_of_tokensFrom {position : Position} {text : List Char} {all : List LocatedToken}
    (read : tokensFrom position text = .ok all) :
    ∃ tokens last, all = tokens ++ [⟨.endOfText, last⟩] ∧ Inner tokens := by
  induction position, text using tokensFrom.induct generalizing all with
  | case1 position =>
    rw [tokensFrom] at read
    cases read
    exact ⟨[], _, rfl, List.forall_mem_nil _⟩
  | case2 position c tail isBlank inductionHypothesis =>
    rw [tokensFrom_blank isBlank] at read
    exact inductionHypothesis read
  | case3 position c tail isMark cause taken scanned =>
    rw [tokensFrom_illegible (Bool.eq_false_iff.2 isMark) scanned] at read
    cases read
  | case4 position c tail isMark piece scanned =>
    rename_i inductionHypothesis
    rw [tokensFrom_token (Bool.eq_false_iff.2 isMark) scanned] at read
    cases others : tokensFrom (position.after piece.taken) piece.rest with
    | error error =>
      rw [others] at read
      cases read
    | ok behind =>
      rw [others] at read
      cases read
      obtain ⟨tokens, last, rfl, inner⟩ := inductionHypothesis others
      exact ⟨_ :: tokens, last, rfl, inner_cons (Token.ne_endOfText_of_scan scanned) _ inner⟩

theorem Expr.exists_derivation {source : String} {tree : Expr} (read : Expr.parse source = .ok tree) :
    ∃ tokens last links nest, tokenize source = .ok (tokens ++ [⟨.endOfText, last⟩]) ∧
      Chain tokens tree links nest ∧ nest ≤ maxDepth := by
  obtain ⟨all, tokens, rest, links, nest, tokenized, rfl, chain, room, ended⟩ := Expr.parse_sound read
  obtain ⟨body, last, isAll, inner⟩ := exists_inner_of_tokensFrom tokenized
  obtain ⟨between, rfl, isRest⟩ | ⟨between, rfl, isEnd⟩ := List.append_eq_append_iff.1 isAll
  · cases between with
    | nil =>
      subst isRest
      exact ⟨tokens, last, links, nest, tokenized, chain, room⟩
    | cons located others =>
      subst isRest
      exact absurd (ended located rfl) (inner located (by simp))
  · cases between with
    | nil =>
      rw [List.append_nil] at tokenized chain
      obtain rfl : rest = [⟨.endOfText, last⟩] := isEnd.symm
      exact ⟨body, last, links, nest, tokenized, chain, room⟩
    | cons located others =>
      cases (List.cons.inj isEnd).1
      exact absurd rfl (chain.inner _ (List.mem_append_right body List.mem_cons_self))

/-- A text is read as a tree exactly when the tokens before its end mark derive the tree, nested at most as deep
as the limit, and tokens never derive more than one tree. -/
theorem Expr.parse_eq_ok_iff_derives (source : String) :
    (∀ tree, Expr.parse source = .ok tree ↔
      ∃ tokens last links nest, tokenize source = .ok (tokens ++ [⟨.endOfText, last⟩]) ∧
        Chain tokens tree links nest ∧ nest ≤ 256) ∧
    ∀ tokens, {derived : Expr × Nat × Nat | Chain tokens derived.1 derived.2.1 derived.2.2}.Subsingleton := by
  refine ⟨fun tree => ⟨Expr.exists_derivation, ?_⟩, ?_⟩
  · rintro ⟨tokens, last, links, nest, tokenized, chain, room⟩
    rw [Expr.parse, tokenized]
    exact chain.ofTokens_eq room last
  · rintro tokens ⟨tree, links, nest⟩ first ⟨tree', links', nest'⟩ second
    obtain ⟨rfl, rfl, rfl⟩ := Chain.eq_of_tokens first second
    rfl

end LateBound
