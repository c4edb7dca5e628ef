import LateBound.Expr.Parse

/-!
# The grammar

The grammar as relations between tokens and trees, apart from how they are read:

    expr    := primary ('.' NAME ('(' args ')')? | BRACKET)*
    primary := LITERAL | NAME | 'new' NAME ('.' NAME)* '(' args ')' | '(' expr ')'
    args    := (expr (',' expr)*)?

With each expression goes its nesting: one for a parenthesis and for a filled argument list more than what
is inside, and for the links of a chain their number, the arguments of a link counting from where it
stands. A text that is read as a tree derives it, with a nesting within the limit.
-/

namespace LateBound

namespace Grammar

/-- A dotted name and the text it makes up. -/
inductive Dotted : List LocatedToken → String → Prop
  | name (name : String) (span : Span) : Dotted [⟨.identifier name, span⟩] name
  | part {tokens : List LocatedToken} {name : String} (part : String) (dot span : Span) :
      Dotted tokens name →
      Dotted (tokens ++ [⟨.dot, dot⟩, ⟨.identifier part, span⟩]) (name ++ "." ++ part)

mutual
/-- The tokens are a primary: its tree, and how deep it is nested. -/
inductive Primary : List LocatedToken → Expr → Nat → Prop
  | literal {token : Token} {value : Literal} (span : Span) : Expr.literal? token = some value →
      Primary [⟨token, span⟩] (.literal value span) 0
  | ident (name : String) (span : Span) : Primary [⟨.identifier name, span⟩] (.ident name span) 0
  | construct {names inner : List LocatedToken} {typeName : String} {args : List Expr} {nest : Nat}
      (first opening last : Span) : Dotted names typeName → Args inner args nest →
      Primary (⟨.newKeyword, first⟩ :: (names ++ ⟨.leftParen, opening⟩ :: (inner ++ [⟨.rightParen, last⟩])))
        (.construct typeName args (first.merge last)) nest
  | paren {tokens : List LocatedToken} {tree : Expr} {links nest : Nat} (opening closing : Span) :
      Chain tokens tree links nest →
      Primary (⟨.leftParen, opening⟩ :: (tokens ++ [⟨.rightParen, closing⟩])) tree (nest + 1)

/-- The tokens are a primary with links behind it: the tree, how many links, and how deep it is nested. -/
inductive Chain : List LocatedToken → Expr → Nat → Nat → Prop
  | primary {tokens : List LocatedToken} {tree : Expr} {nest : Nat} : Primary tokens tree nest →
      Chain tokens tree 0 nest
  | field {tokens : List LocatedToken} {target : Expr} {links nest : Nat} (name : String) (dot span : Span) :
      Chain tokens target links nest →
      Chain (tokens ++ [⟨.dot, dot⟩, ⟨.identifier name, span⟩])
        (.field target name (target.span.merge span)) (links + 1) (max nest (links + 1))
  | call {tokens inner : List LocatedToken} {target : Expr} {args : List Expr} {links nest argNest : Nat}
      (name : String) (dot span opening last : Span) :
      Chain tokens target links nest → Args inner args argNest →
      Chain (tokens ++ ⟨.dot, dot⟩ :: ⟨.identifier name, span⟩ :: ⟨.leftParen, opening⟩ ::
          (inner ++ [⟨.rightParen, last⟩]))
        (.call target name args (target.span.merge last)) (links + 1) (max nest (links + 1 + argNest))
  | initialise {tokens : List LocatedToken} {target : Expr} {links nest : Nat} (raw : String) (span : Span) :
      Chain tokens target links nest →
      Chain (tokens ++ [⟨.bracket raw, span⟩]) (.initialise target raw (target.span.merge span)) (links + 1)
        (max nest (links + 1))

/-- The tokens are an argument list without its parentheses: its trees, and how deep it is nested. -/
inductive Args : List LocatedToken → List Expr → Nat → Prop
  | none : Args [] [] 0
  | some {tokens : List LocatedToken} {args : List Expr} {nest : Nat} : Items tokens args nest →
      Args tokens args (nest + 1)

/-- The tokens are expressions with commas between them. -/
inductive Items : List LocatedToken → List Expr → Nat → Prop
  | one {tokens : List LocatedToken} {arg : Expr} {links nest : Nat} : Chain tokens arg links nest →
      Items tokens [arg] nest
  | more {tokens others : List LocatedToken} {arg : Expr} {args : List Expr} {links nest otherNest : Nat}
      (comma : Span) : Chain tokens arg links nest → Items others args otherNest →
      Items (tokens ++ ⟨.comma, comma⟩ :: others) (arg :: args) (max nest otherNest)
end

/-! ## The first token -/

theorem Primary.head {tokens : List LocatedToken} {tree : Expr} {nest : Nat} (primary : Primary tokens tree nest) :
    ∃ head tail, tokens = head :: tail ∧ head.token ≠ .rightParen := by
  cases primary with
  | literal span isLiteral =>
    refine ⟨_, [], rfl, fun isParen => ?_⟩
    subst isParen
    cases isLiteral
  | ident name span => exact ⟨_, [], rfl, nofun⟩
  | construct first opening last _ _ => exact ⟨_, _, rfl, nofun⟩
  | paren opening closing _ => exact ⟨_, _, rfl, nofun⟩

theorem Chain.head : ∀ {tokens tree links nest}, Chain tokens tree links nest →
    ∃ head tail, tokens = head :: tail ∧ head.token ≠ .rightParen
  | _, _, _, _, .primary isPrimary => isPrimary.head
  | _, _, _, _, .field _ _ _ chain => by
    obtain ⟨head, tail, rfl, other⟩ := chain.head
    exact ⟨head, _, rfl, other⟩
  | _, _, _, _, .call _ _ _ _ _ chain _ => by
    obtain ⟨head, tail, rfl, other⟩ := chain.head
    exact ⟨head, _, rfl, other⟩
  | _, _, _, _, .initialise _ _ chain => by
    obtain ⟨head, tail, rfl, other⟩ := chain.head
    exact ⟨head, _, rfl, other⟩

theorem Chain.ne_nil {tokens : List LocatedToken} {tree : Expr} {links nest : Nat}
    (chain : Chain tokens tree links nest) : tokens ≠ [] := by
  obtain ⟨head, tail, rfl, _⟩ := chain.head
  exact List.cons_ne_nil _ _

end Grammar

/-! ## What is read is derived -/

namespace Expr

open Grammar

theorem exists_of_bind_eq_ok {ε α β : Type} {action : Except ε α} {next : α → Except ε β} {answer : β}
    (ended : action >>= next = .ok answer) : ∃ result, action = .ok result ∧ next result = .ok answer := by
  cases action with
  | error _ => cases ended
  | ok result => exact ⟨result, rfl, ended⟩

theorem descend_eq_ok {depth inside : Nat} {tokens : List LocatedToken}
    (descended : descend depth tokens = .ok inside) : inside = depth + 1 ∧ depth + 1 ≤ maxDepth := by
  unfold descend at descended
  split at descended
  · next room =>
    cases descended
    exact ⟨rfl, room⟩
  · cases descended

theorem parseName_eq_ok {tokens : List LocatedToken} {parsed : Parsed (String × Span) tokens}
    (read : parseName tokens = .ok parsed) :
    tokens = ⟨.identifier parsed.value.1, parsed.value.2⟩ :: parsed.rest := by
  unfold parseName at read
  split at read
  · cases read
    rfl
  · cases read

theorem parseLeftParen_eq_ok {tokens : List LocatedToken} {parsed : Parsed Span tokens}
    (read : parseLeftParen tokens = .ok parsed) : tokens = ⟨.leftParen, parsed.value⟩ :: parsed.rest := by
  unfold parseLeftParen at read
  split at read
  · cases read
    rfl
  · cases read

theorem parseRightParen_eq_ok {tokens : List LocatedToken} {parsed : Parsed Span tokens}
    (read : parseRightParen tokens = .ok parsed) :
    tokens = ⟨.rightParen, parsed.value⟩ :: parsed.rest := by
  unfold parseRightParen at read
  split at read
  · cases read
    rfl
  · cases read

theorem parseDotted_sound {name : String} {tokens : List LocatedToken} {before : List LocatedToken}
    (sofar : Dotted before name) {parsed : ParsedMaybe String tokens}
    (read : parseDotted name tokens = .ok parsed) :
    ∃ taken, tokens = taken ++ parsed.rest ∧ Dotted (before ++ taken) parsed.value := by
  induction name, tokens using parseDotted.induct generalizing before with
  | case1 name dot part span rest inductionHypothesis =>
    rw [parseDotted.eq_1] at read
    obtain ⟨⟨full, behind, within⟩, others, read⟩ := exists_of_bind_eq_ok read
    cases read
    obtain ⟨taken, cut, dotted⟩ := inductionHypothesis (sofar.part part dot span) others
    refine ⟨⟨.dot, dot⟩ :: ⟨.identifier part, span⟩ :: taken, congrArg (_ :: _ :: ·) cut, ?_⟩
    simpa only [List.append_assoc, List.cons_append, List.nil_append] using dotted
  | case2 name dot tokens noName =>
    rw [parseDotted.eq_2 _ _ _ noName] at read
    cases read
  | case3 name tokens noDot =>
    rw [parseDotted.eq_3 _ _ noDot] at read
    cases read
    exact ⟨[], rfl, by rwa [List.append_nil]⟩

/-! ### One reader at a time

Each reader is sound on its tokens if the readers it goes on with are sound on the tokens left for them,
which are fewer or are for a reader further down the grammar. -/

/-- Every expression that is read from the head of the tokens is derived by what was taken. -/
def ExprSound (tokens : List LocatedToken) : Prop :=
  ∀ depth parsed, depth ≤ maxDepth → parseExpr depth tokens = .ok parsed →
    ∃ taken links nest, tokens = taken ++ parsed.rest ∧ Chain taken parsed.value links nest ∧
      depth + nest ≤ maxDepth

def PrimarySound (tokens : List LocatedToken) : Prop :=
  ∀ depth parsed, depth ≤ maxDepth → parsePrimary depth tokens = .ok parsed →
    ∃ taken nest, tokens = taken ++ parsed.rest ∧ Primary taken parsed.value nest ∧ depth + nest ≤ maxDepth

def LinksSound (tokens : List LocatedToken) : Prop :=
  ∀ base links nest before target parsed, Chain before target links nest → base + links ≤ maxDepth →
    base + nest ≤ maxDepth → parseLinks (base + links) target tokens = .ok parsed →
    ∃ taken total nest, tokens = taken ++ parsed.rest ∧ Chain (before ++ taken) parsed.value total nest ∧
      base + nest ≤ maxDepth

def ArgsSound (tokens : List LocatedToken) : Prop :=
  ∀ depth parsed, depth ≤ maxDepth → parseArgs depth tokens = .ok parsed →
    ∃ taken nest, tokens = taken ++ parsed.rest ∧ Args taken parsed.value nest ∧ depth + nest ≤ maxDepth

def ItemsSound (tokens : List LocatedToken) : Prop :=
  ∀ depth parsed, depth ≤ maxDepth → parseItems depth tokens = .ok parsed →
    ∃ taken nest, tokens = taken ++ parsed.rest ∧ Items taken parsed.value nest ∧ depth + nest ≤ maxDepth

variable {tokens : List LocatedToken}

theorem parsePrimary_sound (exprs : ∀ others, others.length < tokens.length → ExprSound others)
    (lists : ∀ others, others.length < tokens.length → ArgsSound others) : PrimarySound tokens := by
  intro depth parsed limited read
  cases tokens with
  | nil =>
    rw [parsePrimary] at read
    cases read
  | cons head rest =>
    obtain ⟨token, span⟩ := head
    rw [parsePrimary.eq_def] at read
    dsimp only at read
    split at read
    · next name =>
      cases read
      exact ⟨[⟨.identifier name, span⟩], 0, rfl, .ident name span, limited⟩
    · obtain ⟨⟨⟨first, nameSpan⟩, behindName, shorter⟩, named, read⟩ := exists_of_bind_eq_ok read
      obtain ⟨⟨typeName, behindNames, within⟩, dotted, read⟩ := exists_of_bind_eq_ok read
      obtain ⟨⟨opening, behindOpening, opened⟩, isOpen, read⟩ := exists_of_bind_eq_ok read
      obtain ⟨⟨args, behindArgs, filled⟩, isArgs, read⟩ := exists_of_bind_eq_ok read
      obtain ⟨⟨last, behind, closed⟩, isClosed, read⟩ := exists_of_bind_eq_ok read
      cases read
      have cutName := parseName_eq_ok named
      obtain ⟨parts, cutParts, names⟩ := parseDotted_sound (.name first nameSpan) dotted
      have cutOpening := parseLeftParen_eq_ok isOpen
      dsimp only at shorter within opened isArgs
      have fewer : behindOpening.length < (⟨.newKeyword, span⟩ :: rest : List LocatedToken).length := by
        rw [List.length_cons]
        omega
      obtain ⟨inner, nest, cutArgs, derived, room⟩ := lists behindOpening fewer depth _ limited isArgs
      have cutClosing := parseRightParen_eq_ok isClosed
      dsimp only at cutName cutParts names cutOpening cutArgs derived cutClosing ⊢
      refine ⟨_, nest, ?_, .construct span opening last names derived, room⟩
      rw [cutName, cutParts, cutOpening, cutArgs, cutClosing]
      simp only [List.append_assoc, List.cons_append, List.nil_append]
    · obtain ⟨inside, descended, read⟩ := exists_of_bind_eq_ok read
      obtain ⟨⟨inner, behindInner, shorter⟩, isInner, read⟩ := exists_of_bind_eq_ok read
      obtain ⟨⟨closing, behind, closed⟩, isClosed, read⟩ := exists_of_bind_eq_ok read
      cases read
      obtain ⟨rfl, deeper⟩ := descend_eq_ok descended
      obtain ⟨taken, links, nest, cut, derived, room⟩ :=
        exprs rest (Nat.lt_succ_self _) (depth + 1) _ deeper isInner
      have cutClosing := parseRightParen_eq_ok isClosed
      dsimp only at cut cutClosing derived ⊢
      refine ⟨_, nest + 1, ?_, .paren span closing derived, by omega⟩
      rw [cut, cutClosing]
      simp only [List.append_assoc, List.cons_append, List.nil_append]
    · split at read
      · next value isLiteral =>
        cases read
        exact ⟨[⟨token, span⟩], 0, rfl, .literal span isLiteral, limited⟩
      · cases read

theorem parseLinks_sound (chains : ∀ others, others.length < tokens.length → LinksSound others)
    (lists : ∀ others, others.length < tokens.length → ArgsSound others) : LinksSound tokens := by
  intro base links nest before target parsed sofar limited room read
  rw [parseLinks.eq_def] at read
  split at read
  · next dot rest =>
    obtain ⟨inside, descended, read⟩ := exists_of_bind_eq_ok read
    obtain ⟨⟨⟨name, span⟩, behindName, named⟩, isName, read⟩ := exists_of_bind_eq_ok read
    obtain ⟨rfl, deeper⟩ := descend_eq_ok descended
    have cutName := parseName_eq_ok isName
    dsimp only at read cutName
    split at read
    · next opening behindOpening named' =>
      obtain ⟨⟨args, behindArgs, filled⟩, isArgs, read⟩ := exists_of_bind_eq_ok read
      obtain ⟨⟨last, behind, closed⟩, isClosed, read⟩ := exists_of_bind_eq_ok read
      obtain ⟨⟨chain, after, within⟩, isChain, read⟩ := exists_of_bind_eq_ok read
      cases read
      dsimp only at closed isClosed isChain
      rw [List.length_cons] at named'
      obtain ⟨inner, argNest, cutArgs, derived, roomArgs⟩ :=
        lists behindOpening (by rw [List.length_cons]; omega) _ _ deeper isArgs
      have cutClosing := parseRightParen_eq_ok isClosed
      obtain ⟨taken, total, nest, cut, derivedChain, room⟩ :=
        chains behind (by rw [List.length_cons]; omega) base (links + 1) _ _ _ _
          (sofar.call name dot span opening last derived) deeper (by omega) isChain
      dsimp only at cutArgs cutClosing cut derivedChain ⊢
      refine ⟨⟨.dot, dot⟩ :: ⟨.identifier name, span⟩ :: ⟨.leftParen, opening⟩ ::
        (inner ++ ⟨.rightParen, last⟩ :: taken), total, nest, ?_, ?_, room⟩
      · rw [cutName, cutArgs, cutClosing, cut]
        simp only [List.append_assoc, List.cons_append]
      · simpa only [List.append_assoc, List.cons_append, List.nil_append] using derivedChain
    · next named' _ =>
      obtain ⟨⟨chain, after, within⟩, isChain, read⟩ := exists_of_bind_eq_ok read
      cases read
      obtain ⟨taken, total, nest, cut, derivedChain, room⟩ :=
        chains _ (by rw [List.length_cons]; omega) base (links + 1) _ _ _ _
          (sofar.field name dot span) deeper (by omega) isChain
      dsimp only at cut derivedChain ⊢
      refine ⟨⟨.dot, dot⟩ :: ⟨.identifier name, span⟩ :: taken, total, nest, ?_, ?_, room⟩
      · rw [cutName, cut]
        simp only [List.cons_append]
      · simpa only [List.append_assoc, List.cons_append, List.nil_append] using derivedChain
  · next raw span rest =>
    obtain ⟨inside, descended, read⟩ := exists_of_bind_eq_ok read
    obtain ⟨⟨chain, after, within⟩, isChain, read⟩ := exists_of_bind_eq_ok read
    cases read
    obtain ⟨rfl, deeper⟩ := descend_eq_ok descended
    obtain ⟨taken, total, nest, cut, derivedChain, room⟩ :=
      chains rest (Nat.lt_succ_self _) base (links + 1) _ _ _ _ (sofar.initialise raw span) deeper
        (by omega) isChain
    dsimp only at cut derivedChain ⊢
    refine ⟨⟨.bracket raw, span⟩ :: taken, total, nest, ?_, ?_, room⟩
    · rw [cut]
      simp only [List.cons_append]
    · simpa only [List.append_assoc, List.cons_append, List.nil_append] using derivedChain
  · cases read
    exact ⟨[], links, nest, rfl, by rwa [List.append_nil], room⟩

theorem parseExpr_sound (primary : PrimarySound tokens)
    (chains : ∀ others, others.length < tokens.length → LinksSound others) : ExprSound tokens := by
  intro depth parsed limited read
  rw [parseExpr] at read
  obtain ⟨⟨target, behind, shorter⟩, isPrimary, read⟩ := exists_of_bind_eq_ok read
  obtain ⟨⟨tree, rest, within⟩, isChain, read⟩ := exists_of_bind_eq_ok read
  cases read
  obtain ⟨first, nest, cut, derived, room⟩ := primary depth _ limited isPrimary
  obtain ⟨links, total, nest, cutLinks, derivedChain, room⟩ :=
    chains behind shorter depth 0 _ _ _ _ (.primary derived) limited room isChain
  refine ⟨first ++ links, total, nest, cut.trans ?_, derivedChain, room⟩
  dsimp only at cutLinks ⊢
  rw [cutLinks, List.append_assoc]

theorem parseItems_sound (expr : ExprSound tokens)
    (items : ∀ others, others.length < tokens.length → ItemsSound others) : ItemsSound tokens := by
  intro depth parsed limited read
  rw [parseItems] at read
  obtain ⟨⟨first, behind, shorter⟩, isFirst, read⟩ := exists_of_bind_eq_ok read
  obtain ⟨taken, links, nest, cut, derived, room⟩ := expr depth _ limited isFirst
  dsimp only at read cut derived
  split at read
  · next comma behindComma shorter' =>
    obtain ⟨⟨others, rest, fewer⟩, isOthers, read⟩ := exists_of_bind_eq_ok read
    cases read
    rw [List.length_cons] at shorter'
    obtain ⟨takenOthers, nestOthers, cutOthers, derivedOthers, roomOthers⟩ :=
      items behindComma (by omega) depth _ limited isOthers
    refine ⟨taken ++ ⟨.comma, comma⟩ :: takenOthers, max nest nestOthers, cut.trans ?_,
      .more comma derived derivedOthers, by omega⟩
    dsimp only at cutOthers ⊢
    rw [cutOthers, List.append_assoc, List.cons_append]
  · cases read
    exact ⟨taken, nest, cut, .one derived, room⟩

theorem parseArgs_sound (items : ItemsSound tokens) : ArgsSound tokens := by
  intro depth parsed limited read
  rw [parseArgs.eq_def] at read
  split at read
  · cases read
    exact ⟨[], 0, rfl, .none, limited⟩
  · obtain ⟨inside, descended, read⟩ := exists_of_bind_eq_ok read
    obtain ⟨⟨args, rest, shorter⟩, isItems, read⟩ := exists_of_bind_eq_ok read
    cases read
    obtain ⟨rfl, deeper⟩ := descend_eq_ok descended
    obtain ⟨taken, nest, cut, derived, room⟩ := items (depth + 1) _ deeper isItems
    exact ⟨taken, nest + 1, cut, .some derived, by omega⟩

/-- All readers are sound, by induction on how many tokens there are. -/
theorem readers_sound (tokens : List LocatedToken) :
    ExprSound tokens ∧ LinksSound tokens ∧ ItemsSound tokens ∧ ArgsSound tokens := by
  induction length : tokens.length using Nat.strongRecOn generalizing tokens with
  | ind size inductionHypothesis =>
    subst length
    have shorter (others : List LocatedToken) (fewer : others.length < tokens.length) :=
      inductionHypothesis others.length fewer others rfl
    have links := parseLinks_sound (fun others fewer => (shorter others fewer).2.1)
      fun others fewer => (shorter others fewer).2.2.2
    have primary := parsePrimary_sound (fun others fewer => (shorter others fewer).1)
      fun others fewer => (shorter others fewer).2.2.2
    have expr := parseExpr_sound primary fun others fewer => (shorter others fewer).2.1
    have items := parseItems_sound expr fun others fewer => (shorter others fewer).2.2.1
    exact ⟨expr, links, items, parseArgs_sound items⟩

theorem ofTokens_sound {tokens : List LocatedToken} {tree : Expr} (read : ofTokens tokens = .ok tree) :
    ∃ taken rest links nest, tokens = taken ++ rest ∧ Chain taken tree links nest ∧ nest ≤ maxDepth ∧
      ∀ located ∈ rest.head?, located.token = .endOfText := by
  unfold ofTokens at read
  obtain ⟨⟨tree, rest, shorter⟩, isExpr, read⟩ := exists_of_bind_eq_ok read
  obtain ⟨taken, links, nest, cut, derived, room⟩ := (readers_sound tokens).1 0 _ (Nat.zero_le _) isExpr
  dsimp only at read
  split at read
  · cases read
    exact ⟨taken, [], links, nest, cut, derived, by omega, fun _ inside => nomatch inside⟩
  · next span behind _ =>
    cases read
    refine ⟨taken, _, links, nest, cut, derived, by omega, fun located inside => ?_⟩
    cases inside
    rfl
  · cases read

/-- A text that is read as a tree has tokens that derive it. -/
theorem parse_sound {source : String} {tree : Expr} (read : parse source = .ok tree) :
    ∃ tokens taken rest links nest, tokenize source = .ok tokens ∧ tokens = taken ++ rest ∧
      Chain taken tree links nest ∧ nest ≤ maxDepth ∧
      ∀ located ∈ rest.head?, located.token = .endOfText := by
  unfold parse at read
  cases tokenized : tokenize source with
  | error error =>
    rw [tokenized] at read
    cases read
  | ok tokens =>
    rw [tokenized] at read
    obtain ⟨taken, rest, links, nest, cut, derived, room, ended⟩ := ofTokens_sound read
    exact ⟨tokens, taken, rest, links, nest, rfl, cut, derived, room, ended⟩

end Expr

end LateBound
