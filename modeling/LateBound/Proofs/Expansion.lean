import LateBound.Engine
import Mathlib.Data.List.Induction
import Mathlib.Algebra.Group.Nat.Even

/-!
# Expanding a text part by part

A delimiter outside all placeholders opens one, and the next one closes it. So a text may be cut wherever its scan
stands outside, and its parts may be expanded one after the other. What a placeholder renders to is put in as it is:
which expressions the renderer is called with is settled by the text alone.
-/

namespace LateBound

namespace Template

/-! ## Where a scan ends -/

/-- Where a scan stands behind a text: outside all placeholders, or in one, of which it has read this in reverse. -/
def scan (delimiter : Char) : Option (List Char) → List Char → Option (List Char)
  | state, [] => state
  | none, c :: cs => scan delimiter (if c = delimiter then some [] else none) cs
  | some inner, c :: cs => scan delimiter (if c = delimiter then none else some (c :: inner)) cs

def EndsOutside (delimiter : Char) (text : String) : Prop :=
  scan delimiter none text.toList = none

variable {delimiter : Char}

theorem scan_append (state : Option (List Char)) (first second : List Char) :
    scan delimiter state (first ++ second) = scan delimiter (scan delimiter state first) second := by
  induction first generalizing state with
  | nil => cases state <;> rfl
  | cons c cs inductionHypothesis => cases state <;> exact inductionHypothesis _

theorem scan_isNone (state : Option (List Char)) (text : List Char) :
    (scan delimiter state text).isNone ↔ (state.isNone ↔ Even (text.count delimiter)) := by
  induction text generalizing state with
  | nil => cases state <;> simp [scan]
  | cons c cs inductionHypothesis =>
    cases state <;> by_cases isDelimiter : c = delimiter <;>
      simp [scan, isDelimiter, inductionHypothesis, Nat.even_add_one]

theorem endsOutside_iff_even (text : String) :
    EndsOutside delimiter text ↔ Even (text.toList.count delimiter) := by
  rw [EndsOutside, ← Option.isNone_iff_eq_none, scan_isNone]
  simp

instance (delimiter : Char) (text : String) : Decidable (EndsOutside delimiter text) :=
  decidable_of_iff _ (endsOutside_iff_even text).symm

theorem exists_opening {text inner : List Char} (isOpen : scan delimiter none text = some inner) :
    ∃ front, text = front ++ delimiter :: inner.reverse ∧ scan delimiter none front = none ∧ delimiter ∉ inner := by
  induction text using List.reverseRecOn generalizing inner with
  | nil => simp [scan] at isOpen
  | append_singleton front c inductionHypothesis =>
    rw [scan_append] at isOpen
    cases stands : scan delimiter none front with
    | none =>
      by_cases isDelimiter : c = delimiter
      · simp only [stands, scan, isDelimiter, if_true, Option.some.injEq] at isOpen
        subst isOpen
        exact ⟨front, by simp [isDelimiter], stands, by simp⟩
      · simp [stands, scan, isDelimiter] at isOpen
    | some before =>
      by_cases isDelimiter : c = delimiter
      · simp [stands, scan, isDelimiter] at isOpen
      · simp only [stands, scan, isDelimiter, if_false, Option.some.injEq] at isOpen
        subst isOpen
        obtain ⟨start, rfl, outside, noDelimiter⟩ := inductionHypothesis stands
        exact ⟨start, by simp, outside, by simp [noDelimiter, Ne.symm isDelimiter]⟩

/-! ## Pieces -/

theorem pieces_append {state : Option (List Char)} {first : List Char} (second : List Char)
    (outside : scan delimiter state first = none) :
    pieces delimiter state (first ++ second) = pieces delimiter state first ++ pieces delimiter none second := by
  induction first generalizing state with
  | nil =>
    cases state with
    | none => rfl
    | some inner => simp [scan] at outside
  | cons c cs inductionHypothesis =>
    cases state <;> by_cases isDelimiter : c = delimiter <;>
      simp_all [scan, pieces]

/-- A placeholder that is not closed is plain text, and so is its delimiter. -/
theorem pieces_unclosed (inner : List Char) {text : List Char} (noDelimiter : delimiter ∉ text) :
    pieces delimiter (some inner) text = (delimiter :: (inner.reverse ++ text)).map .literal := by
  induction text generalizing inner with
  | nil => simp [pieces]
  | cons c cs inductionHypothesis =>
    simp only [List.mem_cons, not_or] at noDelimiter
    obtain ⟨isOther, noDelimiter⟩ := noDelimiter
    simp [pieces, Ne.symm isOther, inductionHypothesis _ noDelimiter]

theorem pieces_closed (inner : List Char) {text : List Char} (noDelimiter : delimiter ∉ text) (filled : inner ++ text ≠ []) :
    pieces delimiter (some inner) (text ++ [delimiter]) = [.placeholder (expressionOf (inner.reverse ++ text))] := by
  induction text generalizing inner with
  | nil =>
    have notEmpty : inner ≠ [] := by simpa using filled
    simp [pieces, notEmpty]
  | cons c cs inductionHypothesis =>
    simp only [List.mem_cons, not_or] at noDelimiter
    obtain ⟨isOther, noDelimiter⟩ := noDelimiter
    simp [pieces, Ne.symm isOther, inductionHypothesis _ noDelimiter]

def doubled (delimiter : Char) (text : String) : String :=
  String.ofList (text.toList.flatMap fun c => if c = delimiter then [delimiter, delimiter] else [c])

theorem ofText_doubled (text : String) : ofText delimiter (doubled delimiter text) = text.toList.map .literal := by
  rw [ofText, doubled, String.toList_ofList]
  induction text.toList with
  | nil => rfl
  | cons c cs inductionHypothesis =>
    by_cases isDelimiter : c = delimiter <;>
      simp [pieces, isDelimiter, inductionHypothesis]

theorem ofText_append {first second : String} (outside : EndsOutside delimiter first) :
    ofText delimiter (first ++ second) = ofText delimiter first ++ ofText delimiter second := by
  rw [ofText, String.toList_append, pieces_append _ outside]
  rfl

theorem ofText_placeholder {inner : String} (noDelimiter : delimiter ∉ inner.toList) (filled : inner ≠ "") :
    ofText delimiter (String.singleton delimiter ++ inner ++ String.singleton delimiter) =
      [.placeholder (expressionOf inner.toList)] := by
  have notEmpty : [] ++ inner.toList ≠ [] := by simpa using filled
  have spelled : (String.singleton delimiter ++ inner ++ String.singleton delimiter).toList =
      delimiter :: (inner.toList ++ [delimiter]) := by simp
  rw [ofText, spelled, pieces, if_pos rfl, pieces_closed [] noDelimiter notEmpty]
  rfl

theorem ofText_unclosed {rest : String} (noDelimiter : delimiter ∉ rest.toList) :
    ofText delimiter (String.singleton delimiter ++ rest) = (delimiter :: rest.toList).map .literal := by
  have spelled : (String.singleton delimiter ++ rest).toList = delimiter :: rest.toList := by simp
  rw [ofText, spelled, pieces, if_pos rfl, pieces_unclosed [] noDelimiter]
  rfl

theorem endsOutside_or_unclosed (delimiter : Char) (text : String) :
    EndsOutside delimiter text ∨ ∃ front rest, text = front ++ String.singleton delimiter ++ rest ∧
      EndsOutside delimiter front ∧ delimiter ∉ rest.toList := by
  cases stands : scan delimiter none text.toList with
  | none => exact .inl stands
  | some inner =>
    obtain ⟨front, isText, outside, noDelimiter⟩ := exists_opening stands
    refine .inr ⟨String.ofList front, String.ofList inner.reverse, ?_, ?_, ?_⟩
    · apply String.toList_inj.1
      simp [isText]
    · simpa [EndsOutside] using outside
    · simpa using noDelimiter

/-! ## Rendering -/

section Rendering

variable {m : Type → Type} [Monad m] [LawfulMonad m] (renderer : String → m String)

theorem render_append (first second : List Piece) :
    render renderer (first ++ second) = do
      let head ← render renderer first
      let tail ← render renderer second
      return head ++ tail := by
  induction first with
  | nil => simp [render]
  | cons piece rest inductionHypothesis =>
    cases piece <;>
      simp only [List.cons_append, render, inductionHypothesis, bind_assoc, pure_bind, List.append_assoc]

theorem render_literals (cs : List Char) : render renderer (cs.map .literal) = pure cs := by
  induction cs with
  | nil => rfl
  | cons c cs inductionHypothesis => simp [render, inductionHypothesis]

theorem expand_append {first second : String} (outside : EndsOutside delimiter first) :
    expand delimiter renderer (first ++ second) = do
      let head ← expand delimiter renderer first
      let tail ← expand delimiter renderer second
      return head ++ tail := by
  simp [expand, ofText_append outside, render_append]

/-- A text without an expression is its own expansion, less what escapes its delimiters. -/
theorem expand_literals {text : String} {cs : List Char} (isPlain : ofText delimiter text = cs.map .literal) :
    expand delimiter renderer text = pure (String.ofList cs) := by
  simp [expand, isPlain, render_literals]

theorem expand_placeholder {inner : String} (noDelimiter : delimiter ∉ inner.toList) (filled : inner ≠ "") :
    expand delimiter renderer (String.singleton delimiter ++ inner ++ String.singleton delimiter) =
      renderer (String.ofList (expressionOf inner.toList)) := by
  rw [expand, ofText_placeholder noDelimiter filled]
  simp [render]

/-! ### What the renderer is called with -/

/-- The renderer, which also writes down what it is called with. -/
def noting (expression : String) : StateT (List String) m String := do
  modify (· ++ [expression])
  renderer expression

def expressions (pieces : List Piece) : List String :=
  pieces.filterMap fun
    | .literal _ => none
    | .placeholder expression => some (String.ofList expression)

theorem render_noting (pieces : List Piece) (noted : List String) :
    (render (noting renderer) pieces).run noted = do
      let text ← render renderer pieces
      return (text, noted ++ expressions pieces) := by
  induction pieces generalizing noted with
  | nil => simp [render, expressions]
  | cons piece rest inductionHypothesis =>
    cases piece with
    | literal c => simp [render, expressions, inductionHypothesis]
    | placeholder expression => simp [render, expressions, noting, inductionHypothesis]

theorem expand_noting (text : String) (noted : List String) :
    (expand delimiter (noting renderer) text).run noted = do
      let expanded ← expand delimiter renderer text
      return (expanded, noted ++ expressions (ofText delimiter text)) := by
  simp [expand, render_noting]

end Rendering

/-! ## Expanding with a renderer that has a state -/

section Calls

variable {σ : Type} (renderer : String → StateM σ String)

def calls (delimiter : Char) (text : String) (state : σ) : List String :=
  (((expand delimiter (noting renderer) text).run []).run state).1.2

/-- The renderer is called with the expressions that stand in the text, whatever it makes of them. -/
theorem calls_eq (text : String) (state : σ) :
    calls renderer delimiter text state = expressions (ofText delimiter text) := by
  rw [calls, expand_noting]
  rfl

theorem expressions_literals (cs : List Char) : expressions (cs.map .literal) = [] := by
  simp [expressions]

/-- A text may be cut where its scan stands outside: its parts are expanded one after the other. A text whose
delimiters are doubled comes back as it was, a placeholder is what the renderer makes of its expression, and a
placeholder that is not closed is copied with all behind it. Which expressions a renderer is called with does not
depend on the renderer, and so not on the texts that it renders. -/
theorem expand_by_parts (delimiter : Char) {σ : Type} (renderer : String → StateM σ String) :
    (∀ first second state, EndsOutside delimiter first →
      let head := (expand delimiter renderer first).run state
      let tail := (expand delimiter renderer second).run head.2
      (expand delimiter renderer (first ++ second)).run state = (head.1 ++ tail.1, tail.2) ∧
        calls renderer delimiter (first ++ second) state =
          calls renderer delimiter first state ++ calls renderer delimiter second head.2) ∧
    (∀ text state,
      (expand delimiter renderer (doubled delimiter text)).run state = (text, state) ∧
        calls renderer delimiter (doubled delimiter text) state = []) ∧
    (∀ inner state, inner ≠ "" → delimiter ∉ inner.toList →
      let placeholder := String.singleton delimiter ++ inner ++ String.singleton delimiter
      let expression := String.ofList (expressionOf inner.toList)
      (expand delimiter renderer placeholder).run state = (renderer expression).run state ∧
        calls renderer delimiter placeholder state = [expression]) ∧
    (∀ text, EndsOutside delimiter text ∨ ∃ front rest, text = front ++ String.singleton delimiter ++ rest ∧
      EndsOutside delimiter front ∧ delimiter ∉ rest.toList) ∧
    (∀ front rest state, EndsOutside delimiter front → delimiter ∉ rest.toList →
      let head := (expand delimiter renderer front).run state
      let unclosed := String.singleton delimiter ++ rest
      (expand delimiter renderer (front ++ unclosed)).run state = (head.1 ++ unclosed, head.2) ∧
        calls renderer delimiter (front ++ unclosed) state = calls renderer delimiter front state) ∧
    ∀ {τ : Type} (other : String → StateM τ String) text state state',
      calls renderer delimiter text state = calls other delimiter text state' := by
  refine ⟨?append, ?doubled, ?placeholder, endsOutside_or_unclosed delimiter, ?unclosed, ?others⟩
  case append =>
    intro first second state outside head tail
    constructor
    · rw [expand_append renderer outside]
      rfl
    · rw [calls_eq, calls_eq, calls_eq, ofText_append outside, expressions, List.filterMap_append]
      rfl
  case doubled =>
    intro text state
    constructor
    · rw [expand_literals renderer (ofText_doubled text), String.ofList_toList]
      rfl
    · rw [calls_eq, ofText_doubled, expressions_literals]
  case placeholder =>
    intro inner state filled noDelimiter placeholder expression
    constructor
    · rw [expand_placeholder renderer noDelimiter filled]
    · rw [calls_eq, ofText_placeholder noDelimiter filled]
      rfl
  case unclosed =>
    intro front rest state outside noDelimiter head unclosed
    have isPlain := ofText_unclosed noDelimiter
    constructor
    · rw [expand_append renderer outside, expand_literals renderer isPlain]
      have spelled : String.ofList (delimiter :: rest.toList) = unclosed := by
        apply String.toList_inj.1
        simp [unclosed]
      rw [spelled]
      rfl
    · rw [calls_eq, calls_eq, ofText_append outside, isPlain, expressions, List.filterMap_append]
      exact (List.append_right_eq_self).2 (expressions_literals _)
  case others =>
    intro τ other text state state'
    rw [calls_eq, calls_eq]

/-- A renderer that counts its calls and renders to what looks like a placeholder. -/
def tally (expression : String) : StateM Nat String := do
  modify (· + 1)
  return "%" ++ expression ++ "%"

/-- Two placeholders side by side, of which the delimiters in the middle look like a doubled one, and a third that is
not closed. -/
theorem expand_by_parts_tally :
    EndsOutside '%' "%a%" ∧ '%' ∉ "b".toList ∧
      (let head := (expand '%' tally "%a%").run 0
       let tail := (expand '%' tally "%b%").run head.2
       (expand '%' tally ("%a%" ++ "%b%")).run 0 = (head.1 ++ tail.1, tail.2)) ∧
      (expand '%' tally (String.singleton '%' ++ "b" ++ String.singleton '%')).run 1 =
        (tally (String.ofList (expressionOf "b".toList))).run 1 ∧
      (let head := (expand '%' tally "%a%").run 0
       (expand '%' tally ("%a%" ++ (String.singleton '%' ++ "b"))).run 0 =
        (head.1 ++ (String.singleton '%' ++ "b"), head.2)) := by
  have outside : EndsOutside '%' "%a%" := by decide
  have noDelimiter : '%' ∉ "b".toList := by decide
  obtain ⟨append, -, placeholder, -, unclosed, -⟩ := expand_by_parts '%' tally
  exact ⟨outside, noDelimiter, (append "%a%" "%b%" 0 outside).1, (placeholder "b" 1 (by decide) noDelimiter).1,
    (unclosed "%a%" "b" 0 outside noDelimiter).1⟩

end Calls

end Template

end LateBound
