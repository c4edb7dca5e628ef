import LateBound.Proofs.Precedence
import LateBound.Proofs.Replay

/-!
# Initialisers with positional arguments

`Type[a, b]` is `new Type(a, b)`. The one is read as a name with a text behind it, which is cut into segments that
are read one by one when the type is known, the other as a whole; both come to the same constructor with the same
arguments, evaluated in the same order.
-/

namespace LateBound

open Grammar Initialiser

/-! ## The texts -/

def initialiserText (name separator : String) (args : List String) : String :=
  name ++ "[" ++ separator.intercalate args ++ "]"

def constructionText (name : String) (args : List String) : String :=
  "new " ++ name ++ "(" ++ ", ".intercalate args ++ ")"

def Separates (separator : String) : Prop :=
  ∃ sign blanks, separator.toList = sign :: blanks ∧ (sign = ',' ∨ sign = ';') ∧
    ∀ c ∈ blanks, Text.isBlank c = true

/-- The text may be a positional argument: it is an expression, its brackets are nested no deeper than may still be
opened, and outside its strings there is no sign that only the text between brackets knows. -/
structure IsPositional (arg : String) : Prop where
  parses : ∃ tree, Expr.parse arg = .ok tree
  shallow : bracketNest arg.toList ≤ 63
  plain : ∀ c ∈ outside false arg.toList, c ∉ ['\x7b', '\x7d', ';', ':', '=']

/-- Between each pair of brackets that belongs to the expression, and not to the text of another pair, the
parentheses match. The scanner of tokens does not ask for that, but the scanner of segments counts on it. -/
def ParensMatchInside (arg : String) : Prop :=
  ∀ tokens, tokenize arg = .ok tokens → ∀ raw, .bracket raw ∈ kinds tokens →
    parensMatch 0 (outside false raw.toList) = true

/-- The characters are those of an argument: what they are without the blanks at their ends is read as the tree, and
the scanner of segments goes over them. -/
structure Argument (arg : List Char) (tree : Expr) : Prop where
  read : Expr.parse (String.ofList (Text.trimChars arg)) = .ok tree
  passes : Scan.Passes .start arg .start
  derives : ∃ tokens links nest, Lexed arg (kinds tokens) ∧ Chain tokens tree links nest ∧
    Holds (fun raw => bracketNest raw.toList < 63) tokens

theorem IsPositional.exists_argument {arg : String} (positional : IsPositional arg) (matched : ParensMatchInside arg) :
    ∃ tree, Argument arg.toList tree := by
  obtain ⟨⟨tree, read⟩, shallow, plain⟩ := positional
  obtain ⟨tokens, last, links, nest, tokenized, chain, room⟩ := Expr.exists_derivation read
  have lexed : Lexed arg.toList (kinds tokens) := lexed_of_tokensFrom tokenized
  have holds : Holds (fun raw => bracketNest raw.toList < 63) tokens :=
    fun raw inside => Nat.lt_of_lt_of_le (lexed.bracketNest_lt inside) shallow
  obtain ⟨located, tree', same, derived, trimmed, _⟩ := lexed.trimChars.parse chain room holds
  refine ⟨tree', trimmed, passes_lexed lexed plain (fun raw inside => ?_) (enclosed_chain chain 0), ?_⟩
  · refine matched _ tokenized raw ?_
    rw [kinds_append]
    exact List.mem_append_left _ inside
  · refine ⟨located, links, nest, same ▸ lexed, derived, fun raw inside => holds raw ?_⟩
    rwa [← same]

theorem exists_args {args : List (List Char)} {trees : List Expr} (arguments : List.Forall₂ Argument args trees) :
    ∃ tokens nest, Args tokens trees nest ∧ Lexed ([',', ' '].intercalate args) (kinds tokens) ∧
      Holds (fun raw => bracketNest raw.toList < 63) tokens := by
  cases arguments with
  | nil => exact ⟨[], 0, .none, .nil, nofun⟩
  | @cons arg tree args trees head rest =>
    suffices items : ∃ tokens nest, Items tokens (tree :: trees) nest ∧
        Lexed ([',', ' '].intercalate (arg :: args)) (kinds tokens) ∧
        Holds (fun raw => bracketNest raw.toList < 63) tokens by
      obtain ⟨tokens, nest, items, lexed, holds⟩ := items
      exact ⟨tokens, nest + 1, .some items, lexed, holds⟩
    induction rest generalizing arg tree with
    | nil =>
      obtain ⟨tokens, links, nest, lexed, chain, holds⟩ := head.derives
      exact ⟨tokens, nest, .one chain, by simpa using lexed, holds⟩
    | @cons next nextTree args trees nextArgument _ inductionHypothesis =>
      obtain ⟨tokens, links, nest, lexed, chain, holds⟩ := head.derives
      obtain ⟨others, otherNest, items, lexedRest, holdsRest⟩ := inductionHypothesis nextArgument
      refine ⟨tokens ++ ⟨.comma, default⟩ :: others, max nest otherNest, .more default chain items, ?_, ?_⟩
      · have separated : Lexed ([','] ++ ' ' :: [',', ' '].intercalate (next :: args)) (.comma :: kinds others) :=
          .token .comma (.blank rfl lexedRest)
        rw [List.intercalate_cons_cons, List.append_assoc, kinds_append, kinds_cons]
        exact lexed.append separated ⟨rfl, nofun⟩
      · refine holds_append.2 ⟨holds, fun raw inside => holdsRest raw ?_⟩
        simpa using inside

/-! ## Reading a construction -/

def IsName (text name : String) : Prop :=
  ∃ tokens last, tokenize text = .ok (tokens ++ [⟨.endOfText, last⟩]) ∧ Dotted tokens name

theorem IsName.lexed {text name : String} (isName : IsName text name) :
    ∃ tokens, Lexed text.toList (kinds tokens) ∧ Dotted tokens name := by
  obtain ⟨tokens, last, tokenized, dotted⟩ := isName
  exact ⟨tokens, lexed_of_tokensFrom tokenized, dotted⟩

theorem noBracket_of_dotted {tokens : List LocatedToken} {name : String} (dotted : Dotted tokens name)
    {held : String → Prop} : Holds held tokens := by
  induction dotted with
  | name name span => exact fun raw inside => nomatch List.mem_singleton.1 inside
  | part part dot span _ inductionHypothesis =>
    refine holds_append.2 ⟨inductionHypothesis, fun raw inside => ?_⟩
    simp only [kinds_cons, kinds_nil, List.mem_cons, List.not_mem_nil, reduceCtorEq, or_self] at inside

theorem exists_chain_of_dotted {tokens : List LocatedToken} {name : String} (dotted : Dotted tokens name) :
    ∃ tree links nest, Chain tokens tree links nest := by
  induction dotted with
  | name name span => exact ⟨_, _, _, .primary (.ident name span)⟩
  | part part dot span _ inductionHypothesis =>
    obtain ⟨tree, links, nest, chain⟩ := inductionHypothesis
    exact ⟨_, _, _, .field part dot span chain⟩

theorem exists_chain_construct {held : String → Prop} {text name : String} (isName : IsName text name)
    {inner : List LocatedToken} {args : List Expr} {nest : Nat} (filled : Args inner args nest)
    (holds : Holds held inner) {body : List Char} (lexedBody : Lexed body (kinds inner)) :
    ∃ tokens span, Lexed ("new ".toList ++ (text.toList ++ '(' :: (body ++ [')']))) (kinds tokens) ∧
      Chain tokens (.construct name args span) 0 nest ∧ Holds held tokens := by
  obtain ⟨names, lexedName, dotted⟩ := isName.lexed
  have closed : Lexed (body ++ [')']) (kinds (inner ++ [⟨.rightParen, default⟩])) := by
    rw [kinds_append]
    exact lexedBody.append (.token .rightParen .nil) (setsOff_of_separator rfl (by decide) [])
  have named : Lexed (text.toList ++ '(' :: (body ++ [')']))
      (kinds (names ++ ⟨.leftParen, default⟩ :: (inner ++ [⟨.rightParen, default⟩]))) := by
    rw [kinds_append]
    exact lexedName.append (.token .leftParen closed) (setsOff_of_separator rfl (by decide) _)
  have letters : ∀ c ∈ ['n', 'e', 'w'], isSeparator c = false :=
    List.forall_iff_forall_mem.1 (by decide)
  have lexed : Lexed (['n', 'e', 'w'] ++ ' ' :: (text.toList ++ '(' :: (body ++ [')']))) (kinds
      (⟨.newKeyword, default⟩ :: (names ++ ⟨.leftParen, default⟩ :: (inner ++ [⟨.rightParen, default⟩])))) :=
    .token (.name letters rfl rfl) (.blank rfl named)
  refine ⟨_, _, lexed, .primary (.construct default default default dotted filled), fun raw inside => ?_⟩
  simp only [kinds_cons, kinds_append, List.mem_cons, List.mem_append, reduceCtorEq, false_or, kinds_nil,
    List.not_mem_nil, or_false] at inside
  obtain inName | inArgs := inside
  · exact noBracket_of_dotted dotted raw inName
  · exact holds raw inArgs

/-- A construction that is read at all is read as its name with the trees of its arguments. -/
theorem exists_construct {text name : String} (isName : IsName text name) {args : List (List Char)} {trees : List Expr}
    (arguments : List.Forall₂ Argument args trees) {whole : List Char}
    (isWhole : whole = "new ".toList ++ (text.toList ++ '(' :: ([',', ' '].intercalate args ++ [')'])))
    {tree : Expr} (read : Expr.parse (String.ofList whole) = .ok tree) :
    ∃ args' span, Expr.parse (String.ofList (Text.trimChars whole)) = .ok (.construct name args' span) ∧
      Expr.ArgsAlike (fun raw => bracketNest raw.toList < 63) trees args' := by
  obtain ⟨inner, nest, filled, lexedArgs, holds⟩ := exists_args arguments
  obtain ⟨tokens, span, lexed, chain, holds⟩ := exists_chain_construct isName filled holds lexedArgs
  rw [← isWhole] at lexed
  obtain ⟨-, tree', -, -, trimmed, alike⟩ := lexed.trimChars.parse chain (lexed.room chain read) holds
  cases alike with
  | construct _ _ span' alikeArgs => exact ⟨_, span', trimmed, alikeArgs⟩

/-! ## Reading an initialiser -/

/-- With any text between the brackets an initialiser is read as the target that it is read with when there is
none, at another place. -/
theorem exists_initialise (held : String → Prop) {text name : String} (isName : IsName text name)
    {target : Expr} {span : Span} (read : Expr.parse (text ++ "[]") = .ok (.initialise target "" span))
    {body : List Char} (inside : InBrackets 0 false body) {whole : List Char}
    (isWhole : whole = text.toList ++ '[' :: (body ++ [']'])) :
    ∃ target' span', Expr.parse (String.ofList (Text.trimChars whole)) =
        .ok (.initialise target' (String.ofList body) span') ∧ target.Alike held target' := by
  obtain ⟨names, lexedName, dotted⟩ := isName.lexed
  have lexed {body : List Char} (inside : InBrackets 0 false body) : Lexed (text.toList ++ '[' :: (body ++ [']']))
      (kinds names ++ [.bracket (String.ofList body)]) := by
    have bracket : Lexed ('[' :: (body ++ [']'])) [.bracket (String.ofList body)] := by
      simpa using Lexed.token (.bracket inside) .nil
    exact lexedName.append bracket (setsOff_of_separator rfl (by decide) _)
  obtain ⟨tokens, last, links, nest, tokenized, derived, room⟩ := Expr.exists_derivation read
  have found : Lexed (text.toList ++ "[]".toList) (kinds tokens) := by
    rw [← String.toList_append]
    exact lexed_of_tokensFrom tokenized
  have same : kinds tokens = kinds (names ++ [⟨.bracket "", default⟩]) := by
    rw [kinds_append]
    exact found.unique (lexed .nil)
  obtain ⟨front, back, rfl, sameFront, sameBack⟩ := exists_append_of_kinds same
  obtain ⟨place, rfl⟩ := exists_singleton_of_kinds sameBack
  have dotted := dotted.relocate sameFront
  obtain ⟨tree, links', nest', chain⟩ := exists_chain_of_dotted dotted
  obtain ⟨sameTree, -, rfl⟩ := derived.eq_of_tokens (.initialise "" place chain)
  cases sameTree
  obtain ⟨located, last', tokenizedWhole, sameWhole⟩ := (isWhole ▸ lexed inside).trimChars.tokenize
  have sameWhole : kinds located = kinds (front ++ [⟨.bracket (String.ofList body), default⟩]) := by
    rw [kinds_append, sameFront]
    exact sameWhole
  obtain ⟨front', back', rfl, sameFront', sameBack'⟩ := exists_append_of_kinds sameWhole
  obtain ⟨place', rfl⟩ := exists_singleton_of_kinds sameBack'
  obtain ⟨target', moved, alike⟩ := chain.relocate (noBracket_of_dotted dotted) sameFront'
  exact ⟨target', _, parse_of_chain tokenizedWhole (.initialise _ place' moved) room, alike⟩

/-! ## The segments of an initialiser -/

namespace Argument

variable {arg : List Char} {tree : Expr}

theorem blanks (argument : Argument arg tree) {blanks : List Char} (all : ∀ c ∈ blanks, Text.isBlank c = true) :
    Argument (blanks ++ arg) tree := by
  obtain ⟨read, passes, tokens, links, nest, lexed, chain, holds⟩ := argument
  refine ⟨?_, passes_blanks all passes, tokens, links, nest, lexed.blanks all, chain, holds⟩
  unfold Text.trimChars at read ⊢
  rwa [List.dropWhile_append_of_pos all]

theorem noBlank (argument : Argument arg tree) : arg.all Text.isBlank = false := by
  obtain ⟨-, -, tokens, links, nest, lexed, chain, -⟩ := argument
  refine Bool.eq_false_iff.2 fun all => chain.ne_nil ?_
  have blank : Lexed (arg ++ []) [] := Lexed.nil.blanks (List.all_eq_true.1 all)
  rw [List.append_nil] at blank
  exact List.map_eq_nil_iff.1 (lexed.unique blank)

theorem inBrackets (argument : Argument arg tree) {behind : List Char} (rest : InBrackets 0 false behind) :
    InBrackets 0 false (arg ++ behind) := by
  obtain ⟨-, -, tokens, links, nest, lexed, -⟩ := argument
  exact lexed.inBrackets rest

end Argument

theorem intercalate_blanks (sign : Char) (blanks arg : List Char) (args : List (List Char)) :
    (sign :: blanks).intercalate (arg :: args) = [sign].intercalate (arg :: args.map (blanks ++ ·)) := by
  induction args generalizing arg with
  | nil => simp
  | cons next args inductionHypothesis =>
    rw [List.map_cons, List.intercalate_cons_cons, List.intercalate_cons_cons, inductionHypothesis]
    cases args with
    | nil => simp
    | cons other args => simp [List.intercalate_cons_cons]

/-- Between separators arguments are the segments, and none of them is an assignment. -/
theorem exists_segments {separator : String} (separates : Separates separator) {args : List (List Char)}
    {trees : List Expr} (arguments : List.Forall₂ Argument args trees) :
    let body := separator.toList.intercalate args
    InBrackets 0 false body ∧ (∀ segment ∈ segments body, assignment? segment = none) ∧
      List.Forall₂ Argument ((segments body).filter fun segment => !segment.all Text.isBlank) trees := by
  intro body
  obtain ⟨sign, blanks, isSeparator, isSign, all⟩ := separates
  cases arguments with
  | nil =>
    have isNone : body = [] := rfl
    rw [isNone]
    exact ⟨.nil, List.forall_mem_singleton.2 rfl, .nil⟩
  | @cons arg tree args trees head rest =>
    have isBody : body = [sign].intercalate (arg :: args.map (blanks ++ ·)) := by
      rw [← intercalate_blanks, ← isSeparator]
    have spaced : List.Forall₂ Argument (arg :: args.map (blanks ++ ·)) (tree :: trees) := by
      refine .cons head (List.forall₂_map_left_iff.2 (rest.imp fun arg tree argument => ?_))
      exact argument.blanks all
    have each : ∀ text ∈ arg :: args.map (blanks ++ ·), ∃ tree, Argument text tree := by
      intro text inside
      obtain ⟨place, here, rfl⟩ := List.getElem_of_mem inside
      exact ⟨_, (List.forall₂_iff_get.1 spaced).2 place here (spaced.length_eq ▸ here)⟩
    have joined : Joined (arg :: args.map (blanks ++ ·)) body := by
      rw [isBody]
      exact joined_intercalate isSign (List.cons_ne_nil _ _)
    have cut : segments body = arg :: args.map (blanks ++ ·) := by
      refine joined.segments_eq fun text inside => ?_
      obtain ⟨tree, argument⟩ := each text inside
      exact argument.passes.uncut
    rw [cut]
    refine ⟨joined.inBrackets fun text inside behind rest => ?_, fun text inside => ?_, ?_⟩
    · obtain ⟨tree, argument⟩ := each text inside
      exact argument.inBrackets rest
    · obtain ⟨tree, argument⟩ := each text inside
      exact assignment?_of_passes argument.passes
    · rw [List.filter_eq_self.2]
      · exact spaced
      · intro text inside
        obtain ⟨tree, argument⟩ := each text inside
        rw [argument.noBlank]
        rfl

end LateBound
