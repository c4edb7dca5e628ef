import LateBound.Proofs.ReadingBack
import LateBound.Proofs.Relocation

/-!
# The text of a tree determines the tree

The structure of a tree is written without its places. Names and the texts between brackets stand in quotes, so that no
comma, parenthesis or node name in them is taken for one of the structure, and every piece that is written shows by
itself where it ends: when two texts are equal and begin with pieces of one sort, then these pieces are equal and so is
what stands behind them. Read from the front, a text can then be that of one tree only.

The literals of floating-point numbers are left out: not every number can be told from its text.
-/

namespace LateBound

theorem append_mark_inj {mark : Char} {front other rest behind : List Char} (free : mark ∉ front)
    (otherFree : mark ∉ other) (same : front ++ mark :: rest = other ++ mark :: behind) :
    front = other ∧ rest = behind := by
  induction front generalizing other with
  | nil =>
    cases other with
    | nil => simpa using same
    | cons d other =>
      obtain ⟨rfl, -⟩ := List.cons.inj same
      exact absurd List.mem_cons_self otherFree
  | cons c front inductionHypothesis =>
    cases other with
    | nil =>
      obtain ⟨rfl, -⟩ := List.cons.inj same
      exact absurd List.mem_cons_self free
    | cons d other =>
      simp only [List.cons_append, List.cons.injEq, List.mem_cons, not_or] at same free otherFree
      obtain ⟨rfl, rfl⟩ := inductionHypothesis free.2 otherFree.2 same.2
      exact ⟨by rw [same.1], rfl⟩

namespace Text

/-! ## Quoted texts -/

theorem digitChar_inj {a b : Nat} (small : a < 16) (otherSmall : b < 16) (same : a.digitChar = b.digitChar) : a = b := by
  have all : ∀ a b : Fin 16, a.val.digitChar = b.val.digitChar → a = b := by decide
  simpa using all ⟨a, small⟩ ⟨b, otherSmall⟩ same

theorem hexDigits_eq (n : Nat) :
    hexDigits n = if n < 16 then [n.digitChar] else hexDigits (n / 16) ++ [(n % 16).digitChar] :=
  Nat.toDigits_eq_if (by decide)

theorem hexDigits_inj {n m : Nat} (same : hexDigits n = hexDigits m) : n = m := by
  have longer (n : Nat) (c : Char) : (hexDigits n ++ [c]).length ≠ 1 := by
    have filled : 0 < (hexDigits n).length := List.length_pos_iff.2 Nat.toDigits_ne_nil
    simp only [List.length_append, List.length_singleton]
    omega
  induction n using Nat.strongRecOn generalizing m with
  | ind n inductionHypothesis =>
    rw [hexDigits_eq n, hexDigits_eq m] at same
    by_cases small : n < 16 <;> by_cases otherSmall : m < 16
    · rw [if_pos small, if_pos otherSmall] at same
      exact digitChar_inj small otherSmall (List.head_eq_of_cons_eq same)
    · rw [if_pos small, if_neg otherSmall] at same
      exact absurd (congrArg List.length same.symm) (longer _ _)
    · rw [if_neg small, if_pos otherSmall] at same
      exact absurd (congrArg List.length same) (longer _ _)
    · rw [if_neg small, if_neg otherSmall] at same
      obtain ⟨sameFront, sameLast⟩ := List.append_inj' same rfl
      have quotients : n / 16 = m / 16 := inductionHypothesis (n / 16) (by omega) sameFront
      have remainders : n % 16 = m % 16 :=
        digitChar_inj (by omega) (by omega) (List.head_eq_of_cons_eq sameLast)
      omega

theorem closing_notMem_hexDigits (n : Nat) : Char.ofNat 0x7D ∉ hexDigits n := by
  induction n using Nat.strongRecOn with
  | ind n inductionHypothesis =>
    rw [hexDigits_eq n]
    by_cases small : n < 16
    · simp [small]
    · simp [small, inductionHypothesis (n / 16) (by omega)]

def marked : List (Char × Char) :=
  [('"', '"'), ('\\', '\\'), ('\n', 'n'), ('\r', 'r'), ('\t', 't'), (Char.ofNat 0, '0')]

theorem marked_inj : ∀ entry ∈ marked, entry.2 ≠ 'u' ∧ ∀ other ∈ marked, entry.2 = other.2 → entry.1 = other.1 := by
  decide

/-- The three ways in which a character is written between quotes. -/
inductive Escapes : Char → List Char → Prop
  | marked {c mark : Char} : (c, mark) ∈ marked → Escapes c ['\\', mark]
  | plain {c : Char} : c ≠ '"' → c ≠ '\\' → Escapes c [c]
  | code (c : Char) : Escapes c ('\\' :: 'u' :: Char.ofNat 0x7B :: (hexDigits c.toNat ++ [Char.ofNat 0x7D]))

theorem escapes_escapeChar (c : Char) : Escapes c (escapeChar c) := by
  unfold escapeChar
  split
  · next same => exact .marked (by simp [marked, same])
  split
  · next same => exact .marked (by simp [marked, same])
  split
  · next same => exact .marked (by simp [marked, same])
  split
  · next same => exact .marked (by simp [marked, same])
  split
  · next same => exact .marked (by simp [marked, same])
  split
  · next isZero =>
    have same : c = Char.ofNat 0 := Char.toNat_inj.1 isZero
    exact .marked (by simp [marked, same])
  split
  · exact .plain ‹_› ‹_›
  · exact .code c

/-- What is written for a character shows where it ends. -/
theorem Escapes.unique {c d : Char} {written other rest behind : List Char} (escapes : Escapes c written)
    (otherEscapes : Escapes d other) (same : written ++ rest = other ++ behind) : c = d ∧ rest = behind := by
  cases escapes with
  | marked isMarked =>
    cases otherEscapes with
    | marked otherMarked =>
      simp only [List.cons_append, List.nil_append, List.cons.injEq, true_and] at same
      exact ⟨(marked_inj _ isMarked).2 _ otherMarked same.1, same.2⟩
    | plain _ noEscape => exact absurd (List.head_eq_of_cons_eq same).symm noEscape
    | code =>
      simp only [List.cons_append, List.cons.injEq, true_and] at same
      exact absurd same.1 (marked_inj _ isMarked).1
  | plain _ noEscape =>
    cases otherEscapes with
    | plain => simpa using same
    | marked | code => exact absurd (List.head_eq_of_cons_eq same) noEscape
  | code =>
    cases otherEscapes with
    | marked otherMarked =>
      simp only [List.cons_append, List.cons.injEq, true_and] at same
      exact absurd same.1.symm (marked_inj _ otherMarked).1
    | plain _ noEscape => exact absurd (List.head_eq_of_cons_eq same).symm noEscape
    | code =>
      simp only [List.cons_append, List.append_assoc, List.nil_append, List.cons.injEq, true_and] at same
      obtain ⟨digits, behind⟩ :=
        append_mark_inj (closing_notMem_hexDigits _) (closing_notMem_hexDigits _) same
      exact ⟨Char.toNat_inj.1 (hexDigits_inj digits), behind⟩

theorem escape_cons (c : Char) (cs : List Char) : escape (c :: cs) = escapeChar c ++ escape cs :=
  List.flatMap_cons

theorem escapeChar_ne_quote (c : Char) (rest behind : List Char) : escapeChar c ++ rest ≠ '"' :: behind := by
  intro same
  have escapes := escapes_escapeChar c
  generalize escapeChar c = written at escapes same
  cases escapes with
  | plain noQuote _ => exact noQuote (List.head_eq_of_cons_eq same)
  | marked | code => simp at same

theorem escape_inj {cs ds rest behind : List Char} (same : escape cs ++ '"' :: rest = escape ds ++ '"' :: behind) :
    cs = ds ∧ rest = behind := by
  induction cs generalizing ds with
  | nil =>
    cases ds with
    | nil => simpa [escape] using same
    | cons d ds =>
      rw [escape_cons, List.append_assoc] at same
      exact absurd same.symm (escapeChar_ne_quote d _ _)
  | cons c cs inductionHypothesis =>
    cases ds with
    | nil =>
      rw [escape_cons, List.append_assoc] at same
      exact absurd same (escapeChar_ne_quote c _ _)
    | cons d ds =>
      rw [escape_cons, escape_cons, List.append_assoc, List.append_assoc] at same
      obtain ⟨rfl, sameRest⟩ := (escapes_escapeChar c).unique (escapes_escapeChar d) same
      obtain ⟨rfl, rfl⟩ := inductionHypothesis sameRest
      exact ⟨rfl, rfl⟩

@[simp] theorem toList_quoted (text : String) : (quoted text).toList = '"' :: (escape text.toList ++ ['"']) :=
  String.toList_ofList

theorem quoted_inj {text other : String} {rest behind : List Char}
    (same : (quoted text).toList ++ rest = (quoted other).toList ++ behind) : text = other ∧ rest = behind := by
  simp only [toList_quoted, List.cons_append, List.append_assoc, List.nil_append, List.cons.injEq, true_and] at same
  obtain ⟨sameText, sameRest⟩ := escape_inj same
  exact ⟨String.toList_injective sameText, sameRest⟩

end Text

/-! ## Literals -/

def Literal.IsFloating : Literal → Prop
  | float _ | double _ => True
  | null | bool _ | int _ | long _ | string _ => False

def Literal.IsBare : Literal → Prop
  | null | bool _ | int _ | long _ => True
  | float _ | double _ | string _ => False

theorem Number.notMem_toString (n : Int) : ∀ c ∈ ['n', 't', 'f', 'L', ')', '"'], c ∉ (toString n).toList := by
  intro c listed inside
  have noDigit : c.isDigit = false ∧ c ≠ '-' := by fin_cases listed <;> decide
  rw [toList_toString] at inside
  split at inside
  · simp [isDigit_of_mem_decimal inside] at noDigit
  · obtain rfl | inside := List.mem_cons.1 inside
    · exact noDigit.2 rfl
    · simp [isDigit_of_mem_decimal inside] at noDigit

namespace Literal

/-- The literal that is written without quotes, told by the letters in it. -/
def readBare? (cs : List Char) : Option Literal :=
  if 'n' ∈ cs then some null
  else if 't' ∈ cs then some (bool true)
  else if 'f' ∈ cs then some (bool false)
  else if 'L' ∈ cs then (Number.readInteger? cs.dropLast).map fun n => long (Int64.ofInt n)
  else (Number.readInteger? cs).map fun n => int (Int32.ofInt n)

theorem toList_text_long (n : Int64) : (long n).text.toList = (toString n.toInt).toList ++ ['L'] := by
  rw [text, String.toList_append]
  rfl

theorem readBare?_text {value : Literal} (bare : value.IsBare) : readBare? value.text.toList = some value := by
  cases value with
  | null => rfl
  | bool value => cases value <;> rfl
  | int n =>
    have noMark := Number.notMem_toString n.toInt
    rw [text, readBare?, if_neg (noMark 'n' (by simp)), if_neg (noMark 't' (by simp)), if_neg (noMark 'f' (by simp)),
      if_neg (noMark 'L' (by simp)), Number.readInteger?_toString, Option.map_some, Int32.ofInt_toInt]
  | long n =>
    have noMark := Number.notMem_toString n.toInt
    have noLetter (c : Char) (listed : c ∈ ['n', 't', 'f']) : c ∉ (toString n.toInt).toList ++ ['L'] := by
      have elsewhere : ∀ c ∈ ['n', 't', 'f'], c ∈ ['n', 't', 'f', 'L', ')', '"'] ∧ c ∉ ['L'] := by simp
      simp only [List.mem_append, not_or]
      exact ⟨noMark c (elsewhere c listed).1, (elsewhere c listed).2⟩
    have isLong : 'L' ∈ (toString n.toInt).toList ++ ['L'] := List.mem_append_right _ List.mem_cons_self
    rw [toList_text_long, readBare?, if_neg (noLetter 'n' (by simp)), if_neg (noLetter 't' (by simp)),
      if_neg (noLetter 'f' (by simp)), if_pos isLong, List.dropLast_concat, Number.readInteger?_toString,
      Option.map_some, Int64.ofInt_toInt]
  | float | double | string => exact bare.elim

theorem notMem_text {value : Literal} (bare : value.IsBare) : ')' ∉ value.text.toList ∧ '"' ∉ value.text.toList := by
  cases value with
  | null => decide
  | bool value => cases value <;> decide
  | int n =>
    have noMark := Number.notMem_toString n.toInt
    exact ⟨noMark _ (by simp), noMark _ (by simp)⟩
  | long n =>
    have noMark := Number.notMem_toString n.toInt
    simp only [toList_text_long, List.mem_append, not_or]
    exact ⟨⟨noMark _ (by simp), by decide⟩, noMark _ (by simp), by decide⟩
  | float | double | string => exact bare.elim

theorem bare_ne_quoted {value : Literal} (bare : value.IsBare) (string : String) (rest behind : List Char) :
    value.text.toList ++ ')' :: rest ≠ (Text.quoted string).toList ++ behind := by
  intro same
  have noQuote := (notMem_text bare).2
  rw [Text.toList_quoted] at same
  cases written : value.text.toList with
  | nil => simp [written] at same
  | cons c cs =>
    rw [written] at same noQuote
    rw [List.head_eq_of_cons_eq same] at noQuote
    exact noQuote List.mem_cons_self

theorem text_inj {value other : Literal} (noFloat : ¬ value.IsFloating) (otherNoFloat : ¬ other.IsFloating)
    {rest behind : List Char} (same : value.text.toList ++ ')' :: rest = other.text.toList ++ ')' :: behind) :
    value = other ∧ rest = behind := by
  have bareOrText (value : Literal) (noFloat : ¬ value.IsFloating) :
      value.IsBare ∨ ∃ text, value = string text := by
    cases value <;> simp_all [IsFloating, IsBare]
  obtain bare | ⟨text, rfl⟩ := bareOrText value noFloat <;>
    obtain otherBare | ⟨otherText, rfl⟩ := bareOrText other otherNoFloat
  · obtain ⟨sameText, sameRest⟩ := append_mark_inj (notMem_text bare).1 (notMem_text otherBare).1 same
    have read := readBare?_text bare
    rw [sameText, readBare?_text otherBare] at read
    exact ⟨(Option.some.inj read).symm, sameRest⟩
  · exact absurd same (bare_ne_quoted bare otherText _ _)
  · exact absurd same.symm (bare_ne_quoted otherBare text _ _)
  · obtain ⟨rfl, sameRest⟩ := Text.quoted_inj same
    exact ⟨rfl, List.tail_eq_of_cons_eq sameRest⟩

end Literal

/-! ## Trees -/

namespace Expr

/-- No literal in the tree is one of a floating-point number. -/
def NoFloating (tree : Expr) : Prop :=
  ∀ value span, literal value span ∈ tree.nodes → ¬ value.IsFloating

def NoFloatingArgs (args : List Expr) : Prop :=
  ∀ value span, literal value span ∈ argNodes args → ¬ value.IsFloating

section

variable {target : Expr} {args : List Expr} {name : String} {held : Literal} {span : Span}

theorem NoFloating.value (noFloat : (literal held span).NoFloating) : ¬ held.IsFloating :=
  noFloat held span (by simp [nodes])

theorem NoFloating.fieldTarget (noFloat : (field target name span).NoFloating) : target.NoFloating :=
  fun value span inside => noFloat value span (by simp [nodes, inside])

theorem NoFloating.callTarget (noFloat : (call target name args span).NoFloating) : target.NoFloating :=
  fun value span inside => noFloat value span (by simp [nodes, inside])

theorem NoFloating.callArgs (noFloat : (call target name args span).NoFloating) : NoFloatingArgs args :=
  fun value span inside => noFloat value span (by simp [nodes, inside])

theorem NoFloating.constructArgs (noFloat : (construct name args span).NoFloating) : NoFloatingArgs args :=
  fun value span inside => noFloat value span (by simp [nodes, inside])

theorem NoFloating.initialiseTarget (noFloat : (initialise target name span).NoFloating) : target.NoFloating :=
  fun value span inside => noFloat value span (by simp [nodes, inside])

theorem NoFloatingArgs.head (noFloat : NoFloatingArgs (target :: args)) : target.NoFloating :=
  fun value span inside => noFloat value span (by simp [argNodes, inside])

theorem NoFloatingArgs.tail (noFloat : NoFloatingArgs (target :: args)) : NoFloatingArgs args :=
  fun value span inside => noFloat value span (by simp [argNodes, inside])

end

/-! ### How a text begins -/

/-- What the text of a tree begins with, which shows the sort of its node. -/
def opening : Expr → String
  | literal .. => "Literal("
  | ident .. => "Variable("
  | field .. => "FieldAccess("
  | call .. => "MethodCall("
  | construct .. => "New("
  | initialise .. => "BracketInit("

def openings : List String :=
  ["Literal(", "Variable(", "FieldAccess(", "MethodCall(", "New(", "BracketInit("]

theorem opening_mem (tree : Expr) : tree.opening ∈ openings := by
  cases tree <;> simp [opening, openings]

def inside : Expr → List Char
  | literal value _ => value.text.toList ++ [')']
  | ident name _ => (Text.quoted name).toList ++ [')']
  | field target name _ => target.text.toList ++ (',' :: ' ' :: ((Text.quoted name).toList ++ [')']))
  | call target name args _ => target.text.toList ++ (',' :: ' ' :: ((Text.quoted name).toList ++
      (',' :: ' ' :: '[' :: ((argsText args).toList ++ [']', ')']))))
  | construct typeName args _ => (Text.quoted typeName).toList ++
      (',' :: ' ' :: '[' :: ((argsText args).toList ++ [']', ')']))
  | initialise target raw _ => target.text.toList ++ (',' :: ' ' :: ((Text.quoted raw).toList ++ [')']))

theorem toList_text (tree : Expr) : tree.text.toList = tree.opening.toList ++ tree.inside := by
  cases tree <;> simp [text, opening, inside]

/-- The text of a tree shows its opening, as no opening is the beginning of another one. -/
theorem opening_inj {tree other : Expr} {rest behind : List Char}
    (same : tree.text.toList ++ rest = other.text.toList ++ behind) :
    tree.opening = other.opening ∧ tree.inside ++ rest = other.inside ++ behind := by
  have apart : ∀ one ∈ openings, ∀ another ∈ openings, one.toList <+: another.toList → one = another := by decide
  rw [toList_text, toList_text, List.append_assoc, List.append_assoc] at same
  have sameOpening : tree.opening = other.opening := by
    obtain front | front := List.prefix_or_prefix_of_prefix (List.prefix_append _ (tree.inside ++ rest))
      (same ▸ List.prefix_append _ (other.inside ++ behind))
    · exact apart _ tree.opening_mem _ other.opening_mem front
    · exact (apart _ other.opening_mem _ tree.opening_mem front).symm
  rw [sameOpening] at same
  exact ⟨sameOpening, List.append_cancel_left same⟩

/-- The text of a tree does not begin with a mark that stands behind arguments. -/
theorem text_ne_closing (tree : Expr) (rest behind : List Char) : tree.text.toList ++ rest ≠ ']' :: behind := by
  have letter : ∀ opening ∈ openings, ∀ rest, opening.toList ++ rest ≠ ']' :: behind := by simp [openings]
  rw [toList_text, List.append_assoc]
  exact letter _ tree.opening_mem _

/-! ### What a text determines -/

def argsBehind : List Expr → List Char
  | [] => []
  | arg :: args => ',' :: ' ' :: (argsText (arg :: args)).toList

theorem toList_argsText_cons (arg : Expr) (args : List Expr) :
    (argsText (arg :: args)).toList = arg.text.toList ++ argsBehind args := by
  cases args <;> simp [argsText, argsBehind]

/-- The trees are one and the same but for the places of their nodes. -/
abbrev SameTree : Expr → Expr → Prop :=
  Alike fun _ => True

abbrev SameArgs : List Expr → List Expr → Prop :=
  ArgsAlike fun _ => True

theorem named_inj {target other : Expr} {name otherName : String} {rest behind : List Char}
    (same : target.text.toList ++ (',' :: ' ' :: ((Text.quoted name).toList ++ rest)) = other.text.toList ++
      (',' :: ' ' :: ((Text.quoted otherName).toList ++ behind)))
    (shown : ∀ {rest behind : List Char}, target.text.toList ++ rest = other.text.toList ++ behind →
      target.SameTree other ∧ rest = behind) :
    target.SameTree other ∧ name = otherName ∧ rest = behind := by
  obtain ⟨alike, sameBehind⟩ := shown same
  obtain ⟨sameName, sameRest⟩ := Text.quoted_inj (List.tail_eq_of_cons_eq (List.tail_eq_of_cons_eq sameBehind))
  exact ⟨alike, sameName, sameRest⟩

mutual
/-- A tree shows where it ends. -/
theorem text_inj : ∀ (tree other : Expr), tree.NoFloating → other.NoFloating → ∀ {rest behind : List Char},
    tree.text.toList ++ rest = other.text.toList ++ behind → tree.SameTree other ∧ rest = behind
  -- In each case the opening leaves one sort for the other tree, and what is inside is taken off from the left.
  | .literal value span, other => by
    intro noFloat otherNoFloat rest behind same
    obtain ⟨sort, sameInside⟩ := opening_inj same
    cases other with
    | literal otherValue otherSpan =>
      simp only [inside, List.append_assoc, List.cons_append] at sameInside
      obtain ⟨rfl, sameRest⟩ := Literal.text_inj noFloat.value otherNoFloat.value sameInside
      exact ⟨.literal value span otherSpan, sameRest⟩
    | _ => simp [opening] at sort
  | .ident name span, other => by
    intro _ _ rest behind same
    obtain ⟨sort, sameInside⟩ := opening_inj same
    cases other with
    | ident otherName otherSpan =>
      simp only [inside, List.append_assoc, List.cons_append] at sameInside
      obtain ⟨rfl, sameRest⟩ := Text.quoted_inj sameInside
      exact ⟨.ident name span otherSpan, List.tail_eq_of_cons_eq sameRest⟩
    | _ => simp [opening] at sort
  | .field target name span, other => by
    intro noFloat otherNoFloat rest behind same
    obtain ⟨sort, sameInside⟩ := opening_inj same
    cases other with
    | field otherTarget otherName otherSpan =>
      simp only [inside, List.append_assoc, List.cons_append] at sameInside
      obtain ⟨alike, rfl, sameRest⟩ := named_inj sameInside (text_inj _ _ noFloat.fieldTarget otherNoFloat.fieldTarget)
      exact ⟨.field name span otherSpan alike, List.tail_eq_of_cons_eq sameRest⟩
    | _ => simp [opening] at sort
  | .call target name args span, other => by
    intro noFloat otherNoFloat rest behind same
    obtain ⟨sort, sameInside⟩ := opening_inj same
    cases other with
    | call otherTarget otherName otherArgs otherSpan =>
      simp only [inside, List.append_assoc, List.cons_append] at sameInside
      obtain ⟨alike, rfl, sameBehind⟩ := named_inj sameInside (text_inj _ _ noFloat.callTarget otherNoFloat.callTarget)
      simp only [List.cons.injEq, true_and] at sameBehind
      obtain ⟨alikeArgs, sameRest⟩ := argsText_inj noFloat.callArgs otherNoFloat.callArgs sameBehind
      exact ⟨.call name span otherSpan alike alikeArgs, List.tail_eq_of_cons_eq sameRest⟩
    | _ => simp [opening] at sort
  | .construct typeName args span, other => by
    intro noFloat otherNoFloat rest behind same
    obtain ⟨sort, sameInside⟩ := opening_inj same
    cases other with
    | construct otherName otherArgs otherSpan =>
      simp only [inside, List.append_assoc, List.cons_append] at sameInside
      obtain ⟨rfl, sameBehind⟩ := Text.quoted_inj sameInside
      simp only [List.cons.injEq, true_and] at sameBehind
      obtain ⟨alikeArgs, sameRest⟩ := argsText_inj noFloat.constructArgs otherNoFloat.constructArgs sameBehind
      exact ⟨.construct typeName span otherSpan alikeArgs, List.tail_eq_of_cons_eq sameRest⟩
    | _ => simp [opening] at sort
  | .initialise target raw span, other => by
    intro noFloat otherNoFloat rest behind same
    obtain ⟨sort, sameInside⟩ := opening_inj same
    cases other with
    | initialise otherTarget otherRaw otherSpan =>
      simp only [inside, List.append_assoc, List.cons_append] at sameInside
      obtain ⟨alike, rfl, sameRest⟩ :=
        named_inj sameInside (text_inj _ _ noFloat.initialiseTarget otherNoFloat.initialiseTarget)
      exact ⟨.initialise raw span otherSpan alike trivial, List.tail_eq_of_cons_eq sameRest⟩
    | _ => simp [opening] at sort

theorem argsText_inj : ∀ {args others : List Expr}, NoFloatingArgs args → NoFloatingArgs others →
    ∀ {rest behind : List Char}, (argsText args).toList ++ ']' :: rest = (argsText others).toList ++ ']' :: behind →
      SameArgs args others ∧ rest = behind
  | [], [], _, _, rest, behind, same => ⟨.nil, List.tail_eq_of_cons_eq same⟩
  | [], other :: others, _, _, rest, behind, same => by
    rw [toList_argsText_cons, List.append_assoc] at same
    exact absurd same.symm (text_ne_closing other _ _)
  | arg :: args, [], _, _, rest, behind, same => by
    rw [toList_argsText_cons, List.append_assoc] at same
    exact absurd same (text_ne_closing arg _ _)
  | arg :: args, other :: others, noFloat, otherNoFloat, rest, behind, same => by
    rw [toList_argsText_cons, toList_argsText_cons, List.append_assoc, List.append_assoc] at same
    obtain ⟨alike, sameBehind⟩ := text_inj _ _ noFloat.head otherNoFloat.head same
    cases args with
    | nil =>
      cases others with
      | nil => exact ⟨.cons alike .nil, List.tail_eq_of_cons_eq sameBehind⟩
      | cons => simp [argsBehind] at sameBehind
    | cons next args =>
      cases others with
      | nil => simp [argsBehind] at sameBehind
      | cons otherNext others =>
        simp only [argsBehind, List.cons_append, List.cons.injEq, true_and] at sameBehind
        obtain ⟨alikeArgs, sameRest⟩ := argsText_inj noFloat.tail otherNoFloat.tail sameBehind
        exact ⟨.cons alike alikeArgs, sameRest⟩
end

mutual
/-- The text of a tree does not show the places of its nodes. -/
theorem SameTree.text_eq : ∀ {tree other : Expr}, tree.SameTree other → tree.text = other.text
  | _, _, .literal _ _ _ | _, _, .ident _ _ _ => rfl
  | _, _, .field name _ _ alike | _, _, .initialise name _ _ alike _ => by
    simp only [text, SameTree.text_eq alike]
  | _, _, .call name _ _ alike alikeArgs => by
    simp only [text, SameTree.text_eq alike, SameArgs.argsText_eq alikeArgs]
  | _, _, .construct typeName _ _ alikeArgs => by
    simp only [text, SameArgs.argsText_eq alikeArgs]

theorem SameArgs.argsText_eq : ∀ {args others : List Expr}, SameArgs args others → argsText args = argsText others
  | _, _, .nil => rfl
  | _, _, .cons alike .nil => SameTree.text_eq alike
  | _, _, .cons alike (.cons next alikeArgs) => by
    simp only [argsText, SameTree.text_eq alike, SameArgs.argsText_eq (.cons next alikeArgs)]
end

/-- Two trees without floating-point numbers have one text if and only if they are the same but for the places of their
nodes. -/
theorem text_eq_iff_sameTree {tree other : Expr} (noFloat : tree.NoFloating) (otherNoFloat : other.NoFloating) :
    tree.text = other.text ↔ tree.SameTree other := by
  constructor
  · intro same
    have sameText : tree.text.toList ++ [] = other.text.toList ++ [] := by rw [same]
    exact (text_inj tree other noFloat otherNoFloat sameText).1
  · exact SameTree.text_eq

/-- Blanks around the parts of a call do not count, and the letter behind a number does. -/
theorem text_eq_iff_sameTree_call :
    ∃ tree spaced short : Expr, parse "p.m(1L)" = .ok tree ∧ parse "p .m( 1L )" = .ok spaced ∧ parse "p.m(1)" = .ok short ∧
      tree.NoFloating ∧ spaced.NoFloating ∧ short.NoFloating ∧ tree.text = spaced.text ∧ tree.text ≠ short.text := by
  have noFloat (number : Literal) (integer : ¬ number.IsFloating) (first second : Span) :
      (call (ident "p" ⟨1, 1, 0, 1⟩) "m" [literal number first] second).NoFloating := by
    intro value span inside
    simp only [nodes, argNodes, List.append_nil, List.cons_append, List.nil_append, List.mem_cons, List.not_mem_nil,
      reduceCtorEq, false_or, or_false, literal.injEq] at inside
    rw [inside.1]
    exact integer
  have long := noFloat (.long 1) id
  have int := noFloat (.int 1) id
  have spaces (first second third fourth : Span) := (text_eq_iff_sameTree (long first second) (long third fourth)).2
    (.call _ _ _ (.ident _ _ _) (.cons (.literal _ _ _) .nil))
  have letter (first second third fourth : Span) :=
    mt (text_eq_iff_sameTree (long first second) (int third fourth)).1 fun alike => by
      cases alike with
      | call _ _ _ _ alikeArgs =>
        cases alikeArgs with
        | cons number _ => cases number
  exact ⟨_, _, _, by cbv, by cbv, by cbv, long ⟨1, 5, 4, 6⟩ ⟨1, 1, 0, 7⟩, long ⟨1, 7, 6, 8⟩ ⟨1, 1, 0, 10⟩,
    int ⟨1, 5, 4, 5⟩ ⟨1, 1, 0, 6⟩, spaces _ _ _ _, letter _ _ _ _⟩

end Expr

end LateBound
