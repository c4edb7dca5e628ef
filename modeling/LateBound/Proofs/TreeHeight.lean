import LateBound.Proofs.GrammarComplete
import LateBound.Proofs.Tiling
import Mathlib

/-!
# How high trees are

The limit on the nesting of a text does not limit the height of its tree by itself. A chain may be as long
as the limit behind an expression that holds a chain of its own, so that the heights of one level add up
with those of the levels inside it: nesting of `n` allows for a height of `1 + n * (n + 3) / 2`, and there is
a text of every nesting whose tree is as high as that.
-/

namespace LateBound

/-! ## Heights -/

namespace Expr

mutual
/-- The number of nodes on the longest way from a tree's root through targets and arguments. -/
def height : Expr → Nat
  | literal .. | ident .. => 1
  | field target _ _ => target.height + 1
  | call target _ args _ => max target.height (argsHeight args) + 1
  | construct _ args _ => argsHeight args + 1
  | initialise target _ _ => target.height + 1

def argsHeight : List Expr → Nat
  | [] => 0
  | arg :: args => max arg.height (argsHeight args)
end

end Expr

/-- The height of the highest trees that are nested as deep as this. -/
def tallest : Nat → Nat
  | 0 => 1
  | nest + 1 => tallest nest + (nest + 2)

theorem two_mul_tallest (nest : Nat) : 2 * tallest nest = nest * (nest + 3) + 2 := by
  induction nest with
  | zero => rfl
  | succ nest inductionHypothesis =>
    rw [tallest, Nat.mul_add, inductionHypothesis]
    ring

theorem tallest_add_le {nest deeper : Nat} (within : nest ≤ deeper) :
    tallest nest + deeper ≤ tallest deeper + nest := by
  induction within with
  | refl => exact Nat.le_refl _
  | step _ inductionHypothesis =>
    rw [tallest]
    omega

/-! ## The bound -/

namespace Grammar

open LateBound.Expr

mutual
theorem Primary.height_le : ∀ {tokens tree nest}, Primary tokens tree nest →
    tree.height + nest ≤ tallest nest
  | _, _, _, .literal _ _ => by simp only [height, tallest, Nat.le_refl]
  | _, _, _, .ident _ _ => by simp only [height, tallest, Nat.le_refl]
  | _, _, _, .construct _ _ _ _ args => by
    have bound := args.height_le
    simp only [height]
    omega
  | _, _, _, .paren _ _ chain => by
    have bound := chain.height_le
    simp only [tallest]
    omega

/-- Each link adds one to the height, and its arguments are no higher than a primary nested as deep. -/
theorem Chain.height_le : ∀ {tokens tree links nest}, Chain tokens tree links nest →
    links ≤ nest ∧ tree.height + nest ≤ tallest nest + links
  | _, _, _, _, .primary primary => ⟨Nat.zero_le _, primary.height_le⟩
  | _, _, _, _, @Chain.field _ _ links nest _ _ _ chain => by
    obtain ⟨within, bound⟩ := chain.height_le
    have growth := tallest_add_le (Nat.le_max_left nest (links + 1))
    simp only [height]
    omega
  | _, _, _, _, @Chain.call _ _ _ _ links nest argNest _ _ _ _ _ chain args => by
    obtain ⟨within, bound⟩ := chain.height_le
    have argBound := args.height_le
    have growth := tallest_add_le (Nat.le_max_left nest (links + 1 + argNest))
    have argGrowth := tallest_add_le
      (Nat.le_trans (Nat.le_add_left argNest (links + 1)) (Nat.le_max_right nest (links + 1 + argNest)))
    simp only [height]
    omega
  | _, _, _, _, @Chain.initialise _ _ links nest _ _ chain => by
    obtain ⟨within, bound⟩ := chain.height_le
    have growth := tallest_add_le (Nat.le_max_left nest (links + 1))
    simp only [height]
    omega

theorem Args.height_le : ∀ {tokens args nest}, Args tokens args nest →
    argsHeight args + 1 + nest ≤ tallest nest
  | _, _, _, .none => by simp only [argsHeight, tallest, Nat.le_refl]
  | _, _, _, .some items => by
    have bound := items.height_le
    simp only [tallest]
    omega

theorem Items.height_le : ∀ {tokens args nest}, Items tokens args nest →
    argsHeight args ≤ tallest nest
  | _, _, _, .one chain => by
    have bound := chain.height_le
    simp only [argsHeight]
    omega
  | _, _, _, @Items.more _ _ _ _ _ nest otherNest _ chain items => by
    have bound := chain.height_le
    have others := items.height_le
    have growth := tallest_add_le (Nat.le_max_left nest otherNest)
    have otherGrowth := tallest_add_le (Nat.le_max_right nest otherNest)
    simp only [argsHeight]
    omega
end

end Grammar

/-! ## Chains that end where something was closed -/

def Token.isLink : Token → Bool
  | .dot | .bracket _ => true
  | _ => false

def Token.isOpening : Token → Bool
  | .leftParen => true
  | _ => false

/-- The tokens end with the closing parenthesis of something. -/
def EndsHeld (tokens : List LocatedToken) : Prop :=
  ∃ before held closing, tokens = before ++ [held, ⟨.rightParen, closing⟩] ∧ held.token.isOpening = false

/-- The tokens begin with the end of something, its closing parenthesis and a link. -/
def beginsLinked : List LocatedToken → Bool
  | held :: ⟨.rightParen, _⟩ :: link :: _ => !held.token.isOpening && link.token.isLink
  | _ => false

/-- Behind the closing parenthesis of something stands one more link. -/
def LinksOn (tokens : List LocatedToken) : Prop :=
  ∃ tail, tail <:+ tokens ∧ beginsLinked tail = true

instance (tokens : List LocatedToken) : Decidable (LinksOn tokens) :=
  decidable_of_iff (∃ tail ∈ tokens.tails, beginsLinked tail = true) (by simp only [List.mem_tails, LinksOn])

theorem LinksOn.mono {tokens others : List LocatedToken} (linksOn : LinksOn tokens) (inside : tokens <:+: others) :
    LinksOn others := by
  obtain ⟨tail, ⟨front, rfl⟩, linked⟩ := linksOn
  obtain ⟨before, behind, rfl⟩ := inside
  refine ⟨tail ++ behind, ⟨before ++ front, by simp⟩, ?_⟩
  match tail, linked with
  | _ :: ⟨.rightParen, _⟩ :: _ :: _, linked => exact linked

theorem EndsHeld.linksOn {tokens rest : List LocatedToken} {link : LocatedToken} (ends : EndsHeld tokens)
    (isLink : link.token.isLink = true) : LinksOn (tokens ++ link :: rest) := by
  obtain ⟨before, held, closing, rfl, isHeld⟩ := ends
  refine ⟨held :: ⟨.rightParen, closing⟩ :: link :: rest, ⟨before, by simp⟩, ?_⟩
  simp [beginsLinked, isHeld, isLink]

namespace Grammar

open LateBound.Expr

theorem Primary.last {tokens : List LocatedToken} {tree : Expr} {nest : Nat} (primary : Primary tokens tree nest) :
    ∃ last ∈ tokens.getLast?, last.token.isOpening = false := by
  cases primary with
  | @literal token _ span isLiteral =>
    refine ⟨_, rfl, ?_⟩
    cases token <;> first
      | rfl
      | cases isLiteral
  | ident name span => exact ⟨_, rfl, rfl⟩
  | construct first opening last => exact ⟨⟨.rightParen, last⟩, by simp [List.getLast?_cons], rfl⟩
  | paren opening closing => exact ⟨⟨.rightParen, closing⟩, by simp [List.getLast?_cons], rfl⟩

/-- No chain ends with an opening parenthesis. -/
theorem Chain.last {tokens : List LocatedToken} {tree : Expr} {links nest : Nat} (chain : Chain tokens tree links nest) :
    ∃ last ∈ tokens.getLast?, last.token.isOpening = false := by
  cases chain with
  | primary primary => exact primary.last
  | field name dot span => exact ⟨⟨.identifier name, span⟩, by simp, rfl⟩
  | call name dot span opening last => exact ⟨⟨.rightParen, last⟩, by simp [List.getLast?_cons], rfl⟩
  | initialise raw span => exact ⟨⟨.bracket raw, span⟩, by simp, rfl⟩

theorem Items.last : ∀ {tokens args nest}, Items tokens args nest → ∃ last ∈ tokens.getLast?, last.token.isOpening = false
  | _, _, _, .one chain => chain.last
  | _, _, _, .more _ _ items => by
    obtain ⟨last, isLast, other⟩ := items.last
    exact ⟨last, by simp_all [List.getLast?_cons], other⟩

theorem endsHeld {tokens : List LocatedToken} (last : ∃ last ∈ tokens.getLast?, last.token.isOpening = false)
    (before : List LocatedToken) (closing : Span) : EndsHeld (before ++ (tokens ++ [⟨.rightParen, closing⟩])) := by
  obtain ⟨last, isLast, other⟩ := last
  obtain ⟨others, rfl⟩ := List.getLast?_eq_some_iff.1 isLast
  exact ⟨before ++ others, last, closing, by simp, other⟩

mutual
/-- A primary is no higher than its nesting, and a single node unless it ends with the parenthesis of something. -/
theorem Primary.height_le_nest : ∀ {tokens tree nest}, Primary tokens tree nest → ¬ LinksOn tokens →
    tree.height ≤ nest + 1 ∧ (tree.height = 1 ∨ EndsHeld tokens)
  | _, _, _, .literal _ _, _ => ⟨Nat.le_add_left .., .inl rfl⟩
  | _, _, _, .ident _ _, _ => ⟨Nat.le_add_left .., .inl rfl⟩
  | _, _, _, @Primary.construct names inner _ _ _ first opening last _ args, alone => by
    let before := ⟨.newKeyword, first⟩ :: names ++ [⟨.leftParen, opening⟩]
    obtain ⟨bound, isNone | ends⟩ := args.height_le_nest fun linksOn =>
      alone (linksOn.mono ⟨before, [⟨.rightParen, last⟩], by simp [before]⟩)
    · subst isNone
      exact ⟨Nat.le_add_left .., .inl rfl⟩
    · exact ⟨Nat.succ_le_succ bound, .inr (by simpa [before] using endsHeld ends before last)⟩
  | _, _, _, @Primary.paren tokens _ _ _ opening closing chain, alone => by
    obtain ⟨bound, -⟩ := chain.height_le_nest fun linksOn =>
      alone (linksOn.mono ⟨[⟨.leftParen, opening⟩], [⟨.rightParen, closing⟩], by simp⟩)
    exact ⟨Nat.le_succ_of_le bound, .inr (endsHeld chain.last [⟨.leftParen, opening⟩] closing)⟩

/-- A chain that may go on has one node for each link beside the first. -/
theorem Chain.height_le_nest : ∀ {tokens tree links nest}, Chain tokens tree links nest → ¬ LinksOn tokens →
    tree.height ≤ nest + 1 ∧ (tree.height = links + 1 ∨ EndsHeld tokens)
  | _, _, _, _, .primary primary, alone => primary.height_le_nest alone
  | _, _, _, _, .field name dot span chain, alone => by
    obtain ⟨-, spine | ends⟩ := chain.height_le_nest fun linksOn => alone (linksOn.mono ⟨[], _, rfl⟩)
    · simp only [height]
      omega
    · exact absurd (ends.linksOn rfl) alone
  | _, _, _, _, @Chain.call tokens inner _ _ links nest argNest name dot span opening last chain args, alone => by
    obtain ⟨-, spine | ends⟩ := chain.height_le_nest fun linksOn => alone (linksOn.mono ⟨[], _, rfl⟩)
    · let before := tokens ++ [⟨.dot, dot⟩, ⟨.identifier name, span⟩, ⟨.leftParen, opening⟩]
      obtain ⟨bound, isNone | ends⟩ := args.height_le_nest fun linksOn =>
        alone (linksOn.mono ⟨before, [⟨.rightParen, last⟩], by simp [before]⟩)
      · subst isNone
        simp only [height, argsHeight]
        omega
      · refine ⟨?_, .inr (by simpa [before] using endsHeld ends before last)⟩
        simp only [height]
        omega
    · exact absurd (ends.linksOn rfl) alone
  | _, _, _, _, .initialise raw span chain, alone => by
    obtain ⟨-, spine | ends⟩ := chain.height_le_nest fun linksOn => alone (linksOn.mono ⟨[], _, rfl⟩)
    · simp only [height]
      omega
    · exact absurd (ends.linksOn rfl) alone

theorem Args.height_le_nest : ∀ {tokens args nest}, Args tokens args nest → ¬ LinksOn tokens →
    argsHeight args ≤ nest ∧ (args = [] ∨ ∃ last ∈ tokens.getLast?, last.token.isOpening = false)
  | _, _, _, .none, _ => ⟨Nat.le_refl 0, .inl rfl⟩
  | _, _, _, .some items, alone => ⟨items.height_le_nest alone, .inr items.last⟩

theorem Items.height_le_nest : ∀ {tokens args nest}, Items tokens args nest → ¬ LinksOn tokens →
    argsHeight args ≤ nest + 1
  | _, _, _, .one chain, alone => by
    have bound := (chain.height_le_nest alone).1
    simpa only [argsHeight, Nat.max_zero] using bound
  | _, _, _, @Items.more tokens others _ _ _ nest otherNest comma chain items, alone => by
    have bound := (chain.height_le_nest fun linksOn => alone (linksOn.mono (List.infix_append' [] _ _))).1
    have rest := items.height_le_nest fun linksOn => alone (linksOn.mono ⟨tokens ++ [⟨.comma, comma⟩], [], by simp⟩)
    simp only [argsHeight]
    omega
end

end Grammar

theorem tallest_mono {nest deeper : Nat} (within : nest ≤ deeper) : tallest nest ≤ tallest deeper := by
  have growth := tallest_add_le within
  omega

theorem Expr.height_le_of_parse {source : String} {tree : Expr} (read : Expr.parse source = .ok tree) :
    tree.height ≤ tallest maxDepth := by
  obtain ⟨_, _, _, links, nest, _, _, derived, room, _⟩ := Expr.parse_sound read
  obtain ⟨within, bound⟩ := derived.height_le
  have growth := tallest_mono room
  omega

theorem Expr.height_le_of_not_linksOn {source : String} {tokens : List LocatedToken} {tree : Expr}
    (lexed : tokenize source = .ok tokens) (read : Expr.parse source = .ok tree) (alone : ¬ LinksOn tokens) :
    tree.height ≤ maxDepth + 1 := by
  obtain ⟨_, taken, rest, links, nest, lexed', rfl, derived, room, _⟩ := Expr.parse_sound read
  cases lexed.symm.trans lexed'
  have bound := (derived.height_le_nest fun linksOn => alone (linksOn.mono ⟨[], rest, rfl⟩)).1
  omega

/-! ## Towers -/

def linksText : Nat → List Char
  | 0 => []
  | count + 1 => linksText count ++ ['.', 'a']

def storeyText (argument : List Char) (count : Nat) : List Char :=
  ['n', 'e', 'w', ' ', 'a', '('] ++ argument ++ [')'] ++ linksText count

/-- A text whose tree is as high as its nesting allows: on every level as many links as may stand there,
behind a construction from the level inside. -/
def towerText : Nat → List Char
  | 0 => ['a']
  | nest + 1 => storeyText (towerText nest) (nest + 1)

/-- In front of `rest`, the piece is read as the tokens. -/
def Spells (rest : List Char) (position : Position) (piece : List Char) (tokens : List LocatedToken) : Prop :=
  tokensFrom position (piece ++ rest) = (tokensFrom (position.after piece) rest).map (tokens ++ ·)

namespace Spells

variable {rest piece more : List Char} {position : Position} {tokens others : List LocatedToken}

theorem token (token : Token) (c : Char) (tail : List Char) (isMark : Text.isBlank c = false)
    (scanned : Token.scan c (tail ++ rest) = .token ⟨token, c :: tail, rest, rfl, nofun⟩) (position : Position) :
    Spells rest position (c :: tail) [⟨token, .between position (position.after (c :: tail))⟩] :=
  tokensFrom_token isMark scanned position

theorem blank (rest : List Char) (position : Position) : Spells rest position [' '] [] := by
  refine (tokensFrom_blank rfl position rest).trans ?_
  cases read : tokensFrom (position.next ' ') rest <;> simp [read, Except.map]

theorem append (first : Spells (more ++ rest) position piece tokens)
    (behind : Spells rest (position.after piece) more others) :
    Spells rest position (piece ++ more) (tokens ++ others) := by
  unfold Spells at *
  rw [List.append_assoc, first, behind, Position.after_append]
  cases tokensFrom ((position.after piece).after more) rest with
  | error _ => rfl
  | ok ending => exact congrArg Except.ok (List.append_assoc ..).symm

theorem name (ends : atBoundary rest = true) (position : Position) :
    Spells rest position ['a'] [⟨.identifier "a", .between position (position.after ['a'])⟩] := by
  refine token (.identifier "a") 'a' [] rfl ?_ position
  cases rest with
  | nil => rfl
  | cons c rest =>
    have ends : isSeparator c = true := ends
    simp [Token.scan, startsNumeral, ends, wordToken]

theorem rightParen (rest : List Char) (position : Position) :
    Spells rest position [')'] [⟨.rightParen, .between position (position.after [')'])⟩] :=
  token .rightParen ')' [] rfl rfl position

theorem link (ends : atBoundary rest = true) (position : Position) :
    ∃ dot span, Spells rest position ['.', 'a'] [⟨.dot, dot⟩, ⟨.identifier "a", span⟩] := by
  have dot : Spells (['a'] ++ rest) position ['.'] _ := token .dot '.' [] rfl rfl position
  exact ⟨_, _, dot.append (name ends _)⟩

theorem storey (rest : List Char) (position : Position) : ∃ first span opening,
    Spells rest position ['n', 'e', 'w', ' ', 'a', '(']
      [⟨.newKeyword, first⟩, ⟨.identifier "a", span⟩, ⟨.leftParen, opening⟩] := by
  have first : Spells ([' ', 'a', '('] ++ rest) position ['n', 'e', 'w'] _ :=
    token .newKeyword 'n' ['e', 'w'] rfl rfl position
  have gap : Spells (['a', '('] ++ rest) _ [' '] [] := blank _ (position.after ['n', 'e', 'w'])
  have named : Spells (['('] ++ rest) _ ['a'] _ := name rfl (position.after ['n', 'e', 'w', ' '])
  have opening : Spells rest _ ['('] _ := token .leftParen '(' [] rfl rfl (position.after ['n', 'e', 'w', ' ', 'a'])
  exact ⟨_, _, _, first.append (gap.append (named.append opening))⟩

end Spells

/-- Wherever the text begins, it is a chain of so many links, nested no deeper than `nest`, whose tree has
the height. -/
def Rises (text : List Char) (links nest height : Nat) : Prop :=
  ∀ position rest, atBoundary rest = true →
    ∃ tokens tree nest', Spells rest position text tokens ∧ Grammar.Chain tokens tree links nest' ∧
      nest' ≤ nest ∧ tree.height = height

theorem rises_name : Rises ['a'] 0 0 1 :=
  fun position _ ends =>
    ⟨_, _, 0, .name ends position, .primary (.ident "a" _), Nat.le_refl 0, rfl⟩

theorem Rises.storey {text : List Char} {links nest height : Nat} (rises : Rises text links nest height)
    (count : Nat) : Rises (storeyText text count) count (max (nest + 1) count) (height + 1 + count) := by
  induction count with
  | zero =>
    intro position rest ends
    obtain ⟨first, span, opening, starts⟩ := Spells.storey (text ++ ([')'] ++ rest)) position
    obtain ⟨tokens, tree, nest', inner, chain, within, rfl⟩ :=
      rises (position.after ['n', 'e', 'w', ' ', 'a', '(']) ([')'] ++ rest) rfl
    have closing := Spells.rightParen rest (position.after (['n', 'e', 'w', ' ', 'a', '('] ++ text))
    have spells := (starts.append inner).append closing
    rw [storeyText, linksText, List.append_nil]
    refine ⟨_, _, nest' + 1, spells, .primary (.construct first opening _ (.name "a" span) (.some (.one chain))),
      by omega, ?_⟩
    simp only [Expr.height, Expr.argsHeight, Nat.max_zero, Nat.add_zero]
  | succ count inductionHypothesis =>
    intro position rest ends
    obtain ⟨tokens, tree, nest', inner, chain, within, rises⟩ := inductionHypothesis position (['.', 'a'] ++ rest) rfl
    obtain ⟨dot, span, link⟩ := Spells.link ends (position.after (storeyText text count))
    have spells := inner.append link
    rw [storeyText, List.append_assoc] at spells
    refine ⟨_, _, _, spells, chain.field "a" dot span, by omega, ?_⟩
    rw [Expr.height, rises, Nat.add_assoc _ count]

theorem rises_tower (nest : Nat) : Rises (towerText nest) nest nest (tallest nest) := by
  induction nest with
  | zero => exact rises_name
  | succ nest inductionHypothesis =>
    have rises := inductionHypothesis.storey (nest + 1)
    rwa [Nat.max_self, Nat.add_assoc, Nat.add_comm 1] at rises

/-- A text that rises within the limit is read as a tree of its height. -/
theorem Rises.parse {text : List Char} {links nest height : Nat} (rises : Rises text links nest height)
    (room : nest ≤ maxDepth) : ∃ tree, Expr.parse (String.ofList text) = .ok tree ∧ tree.height = height := by
  obtain ⟨tokens, tree, nest', spells, chain, within, same⟩ := rises .start [] rfl
  have read : tokenize (String.ofList text) =
      .ok (tokens ++ [⟨.endOfText, .between (Position.start.after text) (Position.start.after text)⟩]) := by
    rw [Spells, List.append_nil] at spells
    rw [tokenize, String.toList_ofList, spells, tokensFrom]
    rfl
  refine ⟨tree, ?_, same⟩
  rw [Expr.parse, read]
  exact chain.ofTokens_eq (Nat.le_trans within room) _

/-! ## The limit -/

theorem tallest_eq (nest : Nat) : tallest nest = 1 + nest * (nest + 3) / 2 := by
  have doubled := two_mul_tallest nest
  omega

/-- A tree that a text is read as is no higher than half the square of the limit on nesting, and some tree is as high
as that. The limit by itself bounds the tree where no link stands behind the closing parenthesis of something. -/
theorem Expr.height_le_and_attained {source : String} {tree : Expr} (read : Expr.parse source = .ok tree) :
    tree.height ≤ 1 + maxDepth * (maxDepth + 3) / 2 ∧
      (∃ highest other, Expr.parse other = .ok highest ∧ highest.height = 1 + maxDepth * (maxDepth + 3) / 2) ∧
      ∀ tokens, tokenize source = .ok tokens → ¬ LinksOn tokens → tree.height ≤ maxDepth + 1 := by
  rw [← tallest_eq]
  refine ⟨Expr.height_le_of_parse read, ?_, fun _ lexed => Expr.height_le_of_not_linksOn lexed read⟩
  obtain ⟨highest, readHighest, height⟩ := (rises_tower maxDepth).parse (Nat.le_refl _)
  exact ⟨highest, _, readHighest, height⟩

def linkedTree : Expr :=
  let inner := Expr.construct "d" [.ident "e" ⟨1, 16, 15, 16⟩, .literal (.int 5) ⟨1, 20, 19, 20⟩] ⟨1, 9, 8, 21⟩
  .field (.call (.field (.ident "a" ⟨1, 2, 1, 2⟩) "b" ⟨1, 2, 1, 4⟩) "c" [inner] ⟨1, 2, 1, 22⟩) "f" ⟨1, 2, 1, 24⟩

def closedTokens : List LocatedToken :=
  [⟨.identifier "a", ⟨1, 1, 0, 1⟩⟩, ⟨.dot, ⟨1, 2, 1, 2⟩⟩, ⟨.identifier "b", ⟨1, 3, 2, 3⟩⟩, ⟨.leftParen, ⟨1, 4, 3, 4⟩⟩,
    ⟨.rightParen, ⟨1, 5, 4, 5⟩⟩, ⟨.dot, ⟨1, 6, 5, 6⟩⟩, ⟨.identifier "c", ⟨1, 7, 6, 7⟩⟩, ⟨.leftParen, ⟨1, 8, 7, 8⟩⟩,
    ⟨.newKeyword, ⟨1, 9, 8, 11⟩⟩, ⟨.identifier "d", ⟨1, 13, 12, 13⟩⟩, ⟨.leftParen, ⟨1, 14, 13, 14⟩⟩,
    ⟨.leftParen, ⟨1, 15, 14, 15⟩⟩, ⟨.identifier "e", ⟨1, 16, 15, 16⟩⟩, ⟨.dot, ⟨1, 17, 16, 17⟩⟩,
    ⟨.identifier "f", ⟨1, 18, 17, 18⟩⟩, ⟨.rightParen, ⟨1, 19, 18, 19⟩⟩, ⟨.comma, ⟨1, 20, 19, 20⟩⟩,
    ⟨.int 5, ⟨1, 22, 21, 22⟩⟩, ⟨.rightParen, ⟨1, 23, 22, 23⟩⟩, ⟨.rightParen, ⟨1, 24, 23, 24⟩⟩,
    ⟨.endOfText, ⟨1, 25, 24, 24⟩⟩]

def closedTree : Expr :=
  let argument := Expr.field (.ident "e" ⟨1, 16, 15, 16⟩) "f" ⟨1, 16, 15, 18⟩
  let inner := Expr.construct "d" [argument, .literal (.int 5) ⟨1, 22, 21, 22⟩] ⟨1, 9, 8, 23⟩
  .call (.call (.ident "a" ⟨1, 1, 0, 1⟩) "b" [] ⟨1, 1, 0, 5⟩) "c" [inner] ⟨1, 1, 0, 24⟩

/-- Parentheses, arguments and chains in one text, which goes on behind its parentheses or ends with them. -/
theorem Expr.height_le_of_linked_and_closed :
    Expr.parse "(a.b).c(new d((e), 5)).f" = .ok linkedTree ∧ linkedTree.height ≤ 1 + maxDepth * (maxDepth + 3) / 2 ∧
      tokenize "a.b().c(new d((e.f), 5))" = .ok closedTokens ∧
      Expr.parse "a.b().c(new d((e.f), 5))" = .ok closedTree ∧ ¬ LinksOn closedTokens ∧
      closedTree.height ≤ maxDepth + 1 := by
  have readLinked : Expr.parse "(a.b).c(new d((e), 5)).f" = .ok linkedTree := by cbv
  have lexed : tokenize "a.b().c(new d((e.f), 5))" = .ok closedTokens := by cbv
  have readClosed : Expr.parse "a.b().c(new d((e.f), 5))" = .ok closedTree := by cbv
  have alone : ¬ LinksOn closedTokens := by decide
  obtain ⟨bound, -, -⟩ := Expr.height_le_and_attained readLinked
  obtain ⟨-, -, bounded⟩ := Expr.height_le_and_attained readClosed
  exact ⟨readLinked, bound, lexed, readClosed, alone, bounded _ lexed alone⟩

/-- The height of a tree may be greater than the limit on nesting: here a chain of as many links as the limit
allows stands behind a construction with an argument. -/
theorem Expr.exists_height_gt_maxDepth :
    ∃ tree, Expr.parse (String.ofList (storeyText ['a'] maxDepth)) = .ok tree ∧ ¬ tree.height ≤ maxDepth + 1 := by
  obtain ⟨tree, read, height⟩ := (rises_name.storey maxDepth).parse (by decide)
  exact ⟨tree, read, by omega⟩

end LateBound
