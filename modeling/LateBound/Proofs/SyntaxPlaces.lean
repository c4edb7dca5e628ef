import LateBound.Proofs.Grammar
import LateBound.Proofs.Tiling

/-!
# Where a text stops being an expression

A syntax error that has a place is at a token of the text, or at the stretch that is no token. For the limit
on nesting this takes the end mark: it stands behind every parenthesis that may be the one too many.
-/

namespace LateBound

namespace Grammar

def Inner (tokens : List LocatedToken) : Prop :=
  ∀ located ∈ tokens, located.token ≠ .endOfText

theorem inner_cons {token : Token} (other : token ≠ .endOfText) (span : Span) {tokens : List LocatedToken}
    (inner : Inner tokens) : Inner (⟨token, span⟩ :: tokens) :=
  List.forall_mem_cons.2 ⟨other, inner⟩

theorem inner_single {token : Token} (other : token ≠ .endOfText) (span : Span) : Inner [⟨token, span⟩] :=
  inner_cons other span (List.forall_mem_nil _)

theorem Inner.append {first second : List LocatedToken} (head : Inner first) (tail : Inner second) :
    Inner (first ++ second) :=
  List.forall_mem_append.2 ⟨head, tail⟩

theorem Dotted.inner {tokens : List LocatedToken} {full : String} (dotted : Dotted tokens full) :
    Inner tokens := by
  induction dotted with
  | name name span => exact inner_single (by simp) span
  | part part dot span _ inductionHypothesis =>
    exact inductionHypothesis.append (inner_cons (by simp) dot (inner_single (by simp) span))

mutual
theorem Primary.inner : ∀ {tokens tree nest}, Primary tokens tree nest → Inner tokens
  | _, _, _, .literal span isLiteral => by
    refine inner_single (fun isEnd => ?_) span
    subst isEnd
    cases isLiteral
  | _, _, _, .ident _ span => inner_single (by simp) span
  | _, _, _, .construct first opening last names args =>
    inner_cons (by simp) first (names.inner.append (inner_cons (by simp) opening
      (args.inner.append (inner_single (by simp) last))))
  | _, _, _, .paren opening closing chain =>
    inner_cons (by simp) opening (chain.inner.append (inner_single (by simp) closing))

theorem Chain.inner : ∀ {tokens tree links nest}, Chain tokens tree links nest → Inner tokens
  | _, _, _, _, .primary isPrimary => isPrimary.inner
  | _, _, _, _, .field _ dot span chain =>
    chain.inner.append (inner_cons (by simp) dot (inner_single (by simp) span))
  | _, _, _, _, .call _ dot span opening last chain args =>
    chain.inner.append (inner_cons (by simp) dot (inner_cons (by simp) span (inner_cons (by simp) opening
      (args.inner.append (inner_single (by simp) last)))))
  | _, _, _, _, .initialise _ span chain => chain.inner.append (inner_single (by simp) span)

theorem Args.inner : ∀ {tokens args nest}, Args tokens args nest → Inner tokens
  | _, _, _, .none => List.forall_mem_nil _
  | _, _, _, .some items => items.inner

theorem Items.inner : ∀ {tokens args nest}, Items tokens args nest → Inner tokens
  | _, _, _, .one chain => chain.inner
  | _, _, _, .more comma chain items => chain.inner.append (inner_cons (by simp) comma items.inner)
end

def Ended (tokens : List LocatedToken) : Prop :=
  ∃ located ∈ tokens, located.token = .endOfText

/-- The tokens are what is left of others behind some that are no end mark. -/
def Left (rest tokens : List LocatedToken) : Prop :=
  ∃ taken, tokens = taken ++ rest ∧ Inner taken

namespace Left

variable {rest others tokens : List LocatedToken}

theorem cons {token : Token} (other : token ≠ .endOfText) (span : Span) (rest : List LocatedToken) :
    Left rest (⟨token, span⟩ :: rest) :=
  ⟨[⟨token, span⟩], rfl, inner_single other span⟩

theorem trans (first : Left others tokens) (second : Left rest others) : Left rest tokens := by
  obtain ⟨taken, rfl, inner⟩ := first
  obtain ⟨more, rfl, innerMore⟩ := second
  exact ⟨taken ++ more, (List.append_assoc ..).symm, inner.append innerMore⟩

theorem ended (left : Left rest tokens) (ended : Ended tokens) : Ended rest := by
  obtain ⟨taken, rfl, inner⟩ := left
  obtain ⟨located, isToken, isEnd⟩ := ended
  obtain inTaken | inRest := List.mem_append.1 isToken
  · exact absurd isEnd (inner located inTaken)
  · exact ⟨located, inRest, isEnd⟩

end Left

end Grammar

namespace Expr

open Grammar

def At (tokens : List LocatedToken) (error : SyntaxError) : Prop :=
  ∀ span ∈ error.span?, ∃ located ∈ tokens, located.span = span

theorem At.of_left {rest tokens : List LocatedToken} {error : SyntaxError} (isAt : At rest error)
    (left : Left rest tokens) : At tokens error := by
  obtain ⟨taken, rfl, _⟩ := left
  intro span isSpan
  obtain ⟨located, inRest, same⟩ := isAt span isSpan
  exact ⟨located, List.mem_append_right taken inRest, same⟩

theorem exists_of_bind_eq_error {ε α β : Type} {action : Except ε α} {next : α → Except ε β} {error : ε}
    (ended : action >>= next = .error error) :
    action = .error error ∨ ∃ result, action = .ok result ∧ next result = .error error := by
  cases action with
  | error _ =>
    cases ended
    exact .inl rfl
  | ok result => exact .inr ⟨result, rfl, ended⟩

/-! ## One token -/

theorem unexpected_at (expected : String) (tokens : List LocatedToken) : At tokens (unexpected expected tokens) := by
  unfold unexpected
  split
  · exact fun _ isSpan => nomatch isSpan
  · exact fun _ isSpan => nomatch isSpan
  · intro _ isSpan
    cases isSpan
    exact ⟨_, List.mem_cons_self, rfl⟩

theorem descend_at {depth : Nat} {tokens : List LocatedToken} {error : SyntaxError} (ended : Ended tokens)
    (failed : descend depth tokens = .error error) : At tokens error := by
  unfold descend at failed
  split at failed
  · cases failed
  · cases failed
    cases tokens with
    | nil =>
      obtain ⟨_, isToken, _⟩ := ended
      cases isToken
    | cons located others =>
      intro _ isSpan
      cases isSpan
      exact ⟨located, List.mem_cons_self, rfl⟩

theorem parseName_at {tokens : List LocatedToken} {error : SyntaxError} (failed : parseName tokens = .error error) :
    At tokens error := by
  unfold parseName at failed
  split at failed
  · cases failed
  · cases failed
    exact unexpected_at _ _

theorem parseLeftParen_at {tokens : List LocatedToken} {error : SyntaxError}
    (failed : parseLeftParen tokens = .error error) : At tokens error := by
  unfold parseLeftParen at failed
  split at failed
  · cases failed
  · cases failed
    exact unexpected_at _ _

theorem parseRightParen_at {tokens : List LocatedToken} {error : SyntaxError}
    (failed : parseRightParen tokens = .error error) : At tokens error := by
  unfold parseRightParen at failed
  split at failed
  · cases failed
  · cases failed
    exact unexpected_at _ _

theorem parseDotted_at {name : String} {tokens : List LocatedToken} {error : SyntaxError}
    (failed : parseDotted name tokens = .error error) : At tokens error := by
  induction name, tokens using parseDotted.induct with
  | case1 name dot part span rest inductionHypothesis =>
    rw [parseDotted.eq_1] at failed
    obtain failed | ⟨_, _, failed⟩ := exists_of_bind_eq_error failed
    · exact (inductionHypothesis failed).of_left ((Left.cons (by simp) dot _).trans (.cons (by simp) span _))
    · cases failed
  | case2 name dot tokens noName =>
    rw [parseDotted.eq_2 _ _ _ noName] at failed
    cases failed
    exact (unexpected_at _ _).of_left (.cons (by simp) dot _)
  | case3 name tokens noDot =>
    rw [parseDotted.eq_3 _ _ noDot] at failed
    cases failed

/-! ## One reader at a time

Before a reader goes on, what it has read so far is without the end mark, which is therefore still among the
tokens that are left. -/

/-- Every error of an expression is at one of its tokens. -/
def ExprAt (tokens : List LocatedToken) : Prop :=
  ∀ depth error, depth ≤ maxDepth → Ended tokens → parseExpr depth tokens = .error error → At tokens error

def PrimaryAt (tokens : List LocatedToken) : Prop :=
  ∀ depth error, depth ≤ maxDepth → Ended tokens → parsePrimary depth tokens = .error error → At tokens error

def LinksAt (tokens : List LocatedToken) : Prop :=
  ∀ depth target error, depth ≤ maxDepth → Ended tokens → parseLinks depth target tokens = .error error →
    At tokens error

def ArgsAt (tokens : List LocatedToken) : Prop :=
  ∀ depth error, depth ≤ maxDepth → Ended tokens → parseArgs depth tokens = .error error → At tokens error

def ItemsAt (tokens : List LocatedToken) : Prop :=
  ∀ depth error, depth ≤ maxDepth → Ended tokens → parseItems depth tokens = .error error → At tokens error

variable {tokens : List LocatedToken}

theorem parseName_left {parsed : Parsed (String × Span) tokens} (read : parseName tokens = .ok parsed) :
    Left parsed.rest tokens :=
  ⟨_, parseName_eq_ok read, inner_single (by simp) _⟩

theorem parseLeftParen_left {parsed : Parsed Span tokens} (read : parseLeftParen tokens = .ok parsed) :
    Left parsed.rest tokens :=
  ⟨_, parseLeftParen_eq_ok read, inner_single (by simp) _⟩

theorem parseRightParen_left {parsed : Parsed Span tokens} (read : parseRightParen tokens = .ok parsed) :
    Left parsed.rest tokens :=
  ⟨_, parseRightParen_eq_ok read, inner_single (by simp) _⟩

theorem parseDotted_left {name : String} {parsed : ParsedMaybe String tokens}
    (read : parseDotted name tokens = .ok parsed) : Left parsed.rest tokens := by
  obtain ⟨taken, cut, dotted⟩ := parseDotted_sound (.name name default) read
  exact ⟨taken, cut, (List.forall_mem_cons.1 dotted.inner).2⟩

theorem parseArgs_left {depth : Nat} {parsed : ParsedMaybe (List Expr) tokens} (limited : depth ≤ maxDepth)
    (read : parseArgs depth tokens = .ok parsed) : Left parsed.rest tokens := by
  obtain ⟨taken, _, cut, args, _⟩ := (readers_sound tokens).2.2.2 depth parsed limited read
  exact ⟨taken, cut, args.inner⟩

theorem parsePrimary_left {depth : Nat} {parsed : Parsed Expr tokens} (limited : depth ≤ maxDepth)
    (read : parsePrimary depth tokens = .ok parsed) : Left parsed.rest tokens := by
  have sound : PrimarySound tokens := parsePrimary_sound (fun others _ => (readers_sound others).1)
    fun others _ => (readers_sound others).2.2.2
  obtain ⟨taken, _, cut, primary, _⟩ := sound depth parsed limited read
  exact ⟨taken, cut, primary.inner⟩

theorem parseExpr_left {depth : Nat} {parsed : Parsed Expr tokens} (limited : depth ≤ maxDepth)
    (read : parseExpr depth tokens = .ok parsed) : Left parsed.rest tokens := by
  obtain ⟨taken, _, _, cut, chain, _⟩ := (readers_sound tokens).1 depth parsed limited read
  exact ⟨taken, cut, chain.inner⟩

theorem parsePrimary_at (exprs : ∀ others, others.length < tokens.length → ExprAt others)
    (lists : ∀ others, others.length < tokens.length → ArgsAt others) : PrimaryAt tokens := by
  intro depth error limited ended failed
  cases tokens with
  | nil =>
    rw [parsePrimary] at failed
    cases failed
    exact unexpected_at _ _
  | cons head rest =>
    obtain ⟨token, span⟩ := head
    rw [parsePrimary.eq_def] at failed
    dsimp only at failed
    split at failed
    · cases failed
    · -- From here on `left` says what the tokens so far have been, none of them the end mark.
      have left : Left rest (⟨.newKeyword, span⟩ :: rest) := .cons (by simp) span rest
      obtain failed | ⟨⟨_, behindName, shorter⟩, named, failed⟩ := exists_of_bind_eq_error failed
      · exact (parseName_at failed).of_left left
      have left := left.trans (parseName_left named)
      obtain failed | ⟨⟨_, behindNames, within⟩, dotted, failed⟩ := exists_of_bind_eq_error failed
      · exact (parseDotted_at failed).of_left left
      have left := left.trans (parseDotted_left dotted)
      obtain failed | ⟨⟨_, behindOpening, opened⟩, isOpen, failed⟩ := exists_of_bind_eq_error failed
      · exact (parseLeftParen_at failed).of_left left
      have left := left.trans (parseLeftParen_left isOpen)
      obtain failed | ⟨⟨_, behindArgs, filled⟩, isArgs, failed⟩ := exists_of_bind_eq_error failed
      · dsimp only at shorter within opened
        have fewer : behindOpening.length < (⟨.newKeyword, span⟩ :: rest : List LocatedToken).length := by
          rw [List.length_cons]
          omega
        exact (lists _ fewer depth _ limited (left.ended ended) failed).of_left left
      have left := left.trans (parseArgs_left limited isArgs)
      obtain failed | ⟨_, _, failed⟩ := exists_of_bind_eq_error failed
      · exact (parseRightParen_at failed).of_left left
      · cases failed
    · have left : Left rest (⟨.leftParen, span⟩ :: rest) := .cons (by simp) span rest
      obtain failed | ⟨inside, descended, failed⟩ := exists_of_bind_eq_error failed
      · exact (descend_at (left.ended ended) failed).of_left left
      obtain ⟨rfl, deeper⟩ := descend_eq_ok descended
      obtain failed | ⟨⟨_, behindInner, shorter⟩, isInner, failed⟩ := exists_of_bind_eq_error failed
      · exact (exprs rest (Nat.lt_succ_self _) _ _ deeper (left.ended ended) failed).of_left left
      have left := left.trans (parseExpr_left deeper isInner)
      obtain failed | ⟨_, _, failed⟩ := exists_of_bind_eq_error failed
      · exact (parseRightParen_at failed).of_left left
      · cases failed
    · split at failed
      · cases failed
      · cases failed
        exact unexpected_at _ _

theorem parseLinks_at (chains : ∀ others, others.length < tokens.length → LinksAt others)
    (lists : ∀ others, others.length < tokens.length → ArgsAt others) : LinksAt tokens := by
  intro depth target error limited ended failed
  rw [parseLinks.eq_def] at failed
  split at failed
  · next dot rest =>
    have left : Left rest (⟨.dot, dot⟩ :: rest) := .cons (by simp) dot rest
    -- The limit is checked at the dot itself, before the link is read.
    obtain failed | ⟨inside, descended, failed⟩ := exists_of_bind_eq_error failed
    · exact descend_at ended failed
    obtain ⟨rfl, deeper⟩ := descend_eq_ok descended
    obtain failed | ⟨⟨⟨name, span⟩, behindName, named⟩, isName, failed⟩ := exists_of_bind_eq_error failed
    · exact (parseName_at failed).of_left left
    have left := left.trans (parseName_left isName)
    dsimp only at failed left
    split at failed
    · next opening behindOpening named' =>
      have left := left.trans (.cons (by simp) opening behindOpening)
      rw [List.length_cons] at named'
      obtain failed | ⟨⟨_, behindArgs, filled⟩, isArgs, failed⟩ := exists_of_bind_eq_error failed
      · have fewer : behindOpening.length < (⟨.dot, dot⟩ :: rest : List LocatedToken).length := by
          rw [List.length_cons]
          omega
        exact (lists _ fewer _ _ deeper (left.ended ended) failed).of_left left
      have left := left.trans (parseArgs_left deeper isArgs)
      obtain failed | ⟨⟨_, behind, closed⟩, isClosed, failed⟩ := exists_of_bind_eq_error failed
      · exact (parseRightParen_at failed).of_left left
      have left := left.trans (parseRightParen_left isClosed)
      obtain failed | ⟨_, _, failed⟩ := exists_of_bind_eq_error failed
      · dsimp only at filled closed
        have fewer : behind.length < (⟨.dot, dot⟩ :: rest : List LocatedToken).length := by
          rw [List.length_cons]
          omega
        exact (chains _ fewer _ _ _ deeper (left.ended ended) failed).of_left left
      · cases failed
    · next named' _ =>
      obtain failed | ⟨_, _, failed⟩ := exists_of_bind_eq_error failed
      · have fewer : behindName.length < (⟨.dot, dot⟩ :: rest : List LocatedToken).length := by
          rw [List.length_cons]
          omega
        exact (chains _ fewer _ _ _ deeper (left.ended ended) failed).of_left left
      · cases failed
  · next raw span rest =>
    have left : Left rest (⟨.bracket raw, span⟩ :: rest) := .cons (by simp) span rest
    obtain failed | ⟨inside, descended, failed⟩ := exists_of_bind_eq_error failed
    · exact descend_at ended failed
    obtain ⟨rfl, deeper⟩ := descend_eq_ok descended
    obtain failed | ⟨_, _, failed⟩ := exists_of_bind_eq_error failed
    · exact (chains rest (Nat.lt_succ_self _) _ _ _ deeper (left.ended ended) failed).of_left left
    · cases failed
  · cases failed

theorem parseExpr_at (primary : PrimaryAt tokens) (chains : ∀ others, others.length < tokens.length → LinksAt others) :
    ExprAt tokens := by
  intro depth error limited ended failed
  rw [parseExpr] at failed
  obtain failed | ⟨⟨target, behind, shorter⟩, isPrimary, failed⟩ := exists_of_bind_eq_error failed
  · exact primary depth _ limited ended failed
  have left := parsePrimary_left limited isPrimary
  obtain failed | ⟨_, _, failed⟩ := exists_of_bind_eq_error failed
  · exact (chains _ shorter _ _ _ limited (left.ended ended) failed).of_left left
  · cases failed

theorem parseItems_at (expr : ExprAt tokens) (items : ∀ others, others.length < tokens.length → ItemsAt others) :
    ItemsAt tokens := by
  intro depth error limited ended failed
  rw [parseItems] at failed
  obtain failed | ⟨⟨first, behind, shorter⟩, isFirst, failed⟩ := exists_of_bind_eq_error failed
  · exact expr depth _ limited ended failed
  have left := parseExpr_left limited isFirst
  dsimp only at failed left
  split at failed
  · next comma behindComma shorter' =>
    have left := left.trans (.cons (by simp) comma behindComma)
    rw [List.length_cons] at shorter'
    obtain failed | ⟨_, _, failed⟩ := exists_of_bind_eq_error failed
    · exact (items behindComma (by omega) depth _ limited (left.ended ended) failed).of_left left
    · cases failed
  · cases failed

theorem parseArgs_at (items : ItemsAt tokens) : ArgsAt tokens := by
  intro depth error limited ended failed
  rw [parseArgs.eq_def] at failed
  split at failed
  · cases failed
  · obtain failed | ⟨inside, descended, failed⟩ := exists_of_bind_eq_error failed
    · exact descend_at ended failed
    obtain ⟨rfl, deeper⟩ := descend_eq_ok descended
    obtain failed | ⟨_, _, failed⟩ := exists_of_bind_eq_error failed
    · exact items _ _ deeper ended failed
    · cases failed

/-- Every error of a reader is at one of its tokens, by induction on how many there are. -/
theorem readers_at (tokens : List LocatedToken) : ExprAt tokens ∧ LinksAt tokens ∧ ItemsAt tokens ∧ ArgsAt tokens := by
  induction length : tokens.length using Nat.strongRecOn generalizing tokens with
  | ind size inductionHypothesis =>
    subst length
    have shorter (others : List LocatedToken) (fewer : others.length < tokens.length) :=
      inductionHypothesis others.length fewer others rfl
    have links := parseLinks_at (fun others fewer => (shorter others fewer).2.1)
      fun others fewer => (shorter others fewer).2.2.2
    have primary := parsePrimary_at (fun others fewer => (shorter others fewer).1)
      fun others fewer => (shorter others fewer).2.2.2
    have expr := parseExpr_at primary fun others fewer => (shorter others fewer).2.1
    have items := parseItems_at expr fun others fewer => (shorter others fewer).2.2.1
    exact ⟨expr, links, items, parseArgs_at items⟩

theorem ofTokens_at {error : SyntaxError} (ended : Ended tokens) (failed : ofTokens tokens = .error error) :
    At tokens error := by
  unfold ofTokens at failed
  obtain failed | ⟨⟨tree, rest, shorter⟩, isExpr, failed⟩ := exists_of_bind_eq_error failed
  · exact (readers_at tokens).1 0 _ (Nat.zero_le _) ended failed
  · have left := parseExpr_left (Nat.zero_le _) isExpr
    dsimp only at failed left
    split at failed
    · cases failed
    · cases failed
    · cases failed
      exact (unexpected_at _ _).of_left left

/-! ## Texts -/

/-- A syntax error that has a place marks a stretch of the text. -/
theorem marks_of_parse_eq_error {source : String} {error : SyntaxError} (failed : parse source = .error error)
    {span : Span} (isSpan : error.span? = some span) :
    ∃ before piece behind, source.toList = before ++ (piece ++ behind) ∧ span.Marks before piece := by
  unfold parse at failed
  cases read : tokenize source with
  | error illegible =>
    rw [read] at failed
    cases failed
    cases isSpan
    exact span_of_tokensFrom read
  | ok tokens =>
    rw [read] at failed
    obtain ⟨lead, body, _, rfl, covered⟩ := covers_of_tokensFrom read
    obtain ⟨located, isToken, rfl⟩ :=
      ofTokens_at ⟨⟨.endOfText, _⟩, List.mem_concat_self, rfl⟩ failed span isSpan
    obtain inBody | isEnd := List.mem_append.1 isToken
    · obtain ⟨_, rfl⟩ | ⟨piece, trail, cut, covers⟩ := covered
      · cases inBody
      · obtain ⟨before, lexeme, behind, rfl, place⟩ := covers.exists_span_eq inBody
        rw [← Position.after_append, ← Position.after_append, ← List.append_assoc lead] at place
        refine ⟨lead ++ before, lexeme, behind ++ trail, ?_, place⟩
        rw [cut]
        simp only [List.append_assoc]
    · -- The end mark has the empty stretch behind the whole text.
      cases List.mem_singleton.1 isEnd
      refine ⟨source.toList, [], [], by simp only [List.append_nil], ?_⟩
      rw [Span.Marks, List.append_nil]

end Expr

end LateBound
