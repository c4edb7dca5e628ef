import LateBound.Proofs.Expansion

/-!
# A text that is one placeholder

Such a text is told by its two ends, and any other is expanded by a scan from left to right. Both ways see the same
expression in it: the scan comes upon one placeholder and nothing else exactly when the ends match. So the value of the
expression, which is what the text evaluates to, is shown as the text expands.
-/

namespace LateBound

namespace Template

variable {delimiter : Char}

/-- What expanding a text copies from it: what it comes to when every expression renders to nothing. -/
def copied (delimiter : Char) (text : String) : String :=
  Id.run (expand delimiter (fun _ => (pure "" : Id String)) text)

def literals (pieces : List Piece) : List Char :=
  pieces.filterMap fun
    | .literal c => some c
    | .placeholder _ => none

theorem render_nothing (pieces : List Piece) :
    Id.run (render (fun _ => (pure "" : Id String)) pieces) = literals pieces := by
  induction pieces with
  | nil => rfl
  | cons piece rest inductionHypothesis =>
    cases piece with
    | literal c => exact congrArg (c :: ·) inductionHypothesis
    | placeholder expression => exact inductionHypothesis

theorem copied_eq (text : String) : copied delimiter text = String.ofList (literals (ofText delimiter text)) :=
  congrArg String.ofList (render_nothing _)

theorem eq_placeholder_iff (pieces : List Piece) (expression : List Char) :
    pieces = [.placeholder expression] ↔
      expressions pieces = [String.ofList expression] ∧ literals pieces = [] := by
  constructor
  · rintro rfl
    exact ⟨rfl, rfl⟩
  · rintro ⟨called, nothing⟩
    match pieces with
    | [] => cases called
    | .literal c :: rest => cases nothing
    | [.placeholder inner] =>
      rw [String.ofList_injective (List.singleton_inj.1 called)]
    | .placeholder inner :: .literal c :: rest => cases nothing
    | .placeholder inner :: .placeholder other :: rest => simp [expressions] at called

/-! ## What the scan sees as one placeholder -/

theorem pieces_open_ne_nil (inner text : List Char) : pieces delimiter (some inner) text ≠ [] := by
  induction text generalizing inner with
  | nil => simp [pieces]
  | cons c cs inductionHypothesis =>
    by_cases isDelimiter : c = delimiter <;> simp [pieces, isDelimiter, inductionHypothesis]

theorem pieces_eq_nil {text : List Char} (none : pieces delimiter none text = []) : text = [] := by
  match text with
  | [] => rfl
  | c :: cs =>
    by_cases isDelimiter : c = delimiter
    · rw [pieces, if_pos isDelimiter] at none
      exact absurd none (pieces_open_ne_nil _ _)
    · simp [pieces, isDelimiter] at none

theorem exists_closing {inner text expression : List Char}
    (isOne : pieces delimiter (some inner) text = [.placeholder expression]) :
    ∃ more, text = more ++ [delimiter] ∧ delimiter ∉ more ∧ inner.reverse ++ more ≠ [] ∧
      expression = expressionOf (inner.reverse ++ more) := by
  induction text generalizing inner with
  | nil => simp [pieces] at isOne
  | cons c cs inductionHypothesis =>
    by_cases isDelimiter : c = delimiter
    · cases inner with
      | nil => simp [pieces, isDelimiter] at isOne
      | cons last before =>
        simp only [pieces, isDelimiter, if_true, List.isEmpty_cons, Bool.false_eq_true, if_false, List.cons.injEq,
          Piece.placeholder.injEq] at isOne
        obtain ⟨isExpression, rest⟩ := isOne
        rw [pieces_eq_nil rest, isDelimiter]
        exact ⟨[], rfl, by simp, by simp, by rw [List.append_nil, isExpression]⟩
    · rw [pieces, if_neg isDelimiter] at isOne
      obtain ⟨more, rfl, noDelimiter, filled, isExpression⟩ := inductionHypothesis isOne
      refine ⟨c :: more, rfl, ?_, by simp, by simpa using isExpression⟩
      simp [noDelimiter, Ne.symm isDelimiter]

/-- The scan sees one placeholder in a text exactly when it is one by its ends. -/
theorem pieces_eq_placeholder_iff (text expression : List Char) :
    pieces delimiter none text = [.placeholder expression] ↔
      ∃ inner, text = delimiter :: (inner ++ [delimiter]) ∧ inner ≠ [] ∧ delimiter ∉ inner ∧
        expression = expressionOf inner := by
  constructor
  · intro isOne
    match text with
    | [] => cases isOne
    | c :: cs =>
      by_cases isDelimiter : c = delimiter
      · rw [pieces, if_pos isDelimiter] at isOne
        obtain ⟨inner, rfl, noDelimiter, filled, isExpression⟩ := exists_closing isOne
        exact ⟨inner, by rw [isDelimiter], filled, noDelimiter, isExpression⟩
      · simp [pieces, isDelimiter] at isOne
  · rintro ⟨inner, rfl, filled, noDelimiter, rfl⟩
    rw [pieces, if_pos rfl, pieces_closed [] noDelimiter filled]
    rfl

theorem whole?_eq_some_iff (text expression : String) :
    whole? delimiter text = some expression ↔
      ∃ inner, Text.trimChars text.toList = delimiter :: (inner ++ [delimiter]) ∧ inner ≠ [] ∧ delimiter ∉ inner ∧
        expression = String.ofList (expressionOf inner) := by
  unfold whole?
  constructor
  · intro isWhole
    split at isWhole
    next => cases isWhole
    next c rest trimmed =>
      dsimp only at isWhole
      split at isWhole
      next ends =>
        obtain ⟨rfl, isLast, filled, noDelimiter⟩ := ends
        obtain ⟨inner, rfl⟩ := List.getLast?_eq_some_iff.1 isLast
        rw [List.dropLast_concat] at filled noDelimiter isWhole
        exact ⟨inner, trimmed, filled, noDelimiter, (Option.some.inj isWhole).symm⟩
      next => cases isWhole
  · rintro ⟨inner, trimmed, filled, noDelimiter, rfl⟩
    rw [trimmed]
    simp [filled, noDelimiter]

/-- A text is one placeholder for its ends exactly when it is one for the scan. -/
theorem whole?_iff_ofText (text expression : String) :
    whole? delimiter text = some expression ↔
      ofText delimiter (Text.trim text) = [.placeholder expression.toList] := by
  rw [whole?_eq_some_iff, ofText, Text.trim, String.toList_ofList, pieces_eq_placeholder_iff]
  simp only [← String.toList_inj, String.toList_ofList]

theorem whole?_iff_calls (delimiter : Char) (text expression : String) {σ : Type}
    (renderer : String → StateM σ String) (state : σ) :
    whole? delimiter text = some expression ↔
      calls renderer delimiter (Text.trim text) state = [expression] ∧ copied delimiter (Text.trim text) = "" := by
  have empty (cs : List Char) : String.ofList cs = "" ↔ cs = [] := by
    rw [← String.toList_inj, String.toList_ofList]
    rfl
  rw [whole?_iff_ofText, eq_placeholder_iff, String.ofList_toList, calls_eq, copied_eq, empty]

end Template

/-! ## The value of the expression and the expansion -/

namespace Engine

theorem settled_bind {μ α β : Type} (first : Settings → Gate → Run μ α) (next : Settings → α → Gate → Run μ β)
    (engine : Engine μ) :
    ((do run (first (← get).settings)) >>= fun a => do run (next (← get).settings a) : Action μ β).run engine =
      (do
        let settings := (← get).settings
        run fun gate => do next settings (← first settings gate) gate : Action μ β).run engine :=
  rfl

variable {μ : Type} [Memory μ] (context : Context)

def stringify (source : String) (value : Value) : Action μ String := do
  let settings := (← get).settings
  run fun gate =>
    let evaluation : Evaluation := ⟨gate, settings, context, source⟩
    evaluation.textOf value

theorem stringify_of_unwrapped (source : String) {value value' : Value} (same : value.unwrapped = value'.unwrapped) :
    (stringify context source value : Action μ String) = stringify context source value' := by
  unfold stringify Evaluation.textOf
  rw [same]

theorem evaluateSource_stringify (text source : String) (engine : Engine μ) :
    (evaluateSource context text >>= stringify context source).run engine = (renderSource context text).run engine :=
  settled_bind (fun settings gate => Evaluation.run ⟨gate, settings, context, text⟩)
    (fun settings value gate => Evaluation.textOf ⟨gate, settings, context, source⟩ value) engine

theorem evaluateText_of_whole? {engine : Engine μ} {text expression : String}
    (isWhole : Template.whole? engine.settings.delimiter text = some expression) :
    (evaluateText context text).run engine = (evaluateSource context expression).run engine := by
  simp only [evaluateText, StateT.run_bind, StateT.run_get, pure_bind, isWhole]

theorem run_expandTemplate (text : String) (engine : Engine μ) :
    (expandTemplate context text).run engine =
      (Template.expand engine.settings.delimiter (renderSource context) text).run engine :=
  rfl

theorem expandTemplate_of_whole? {engine : Engine μ} {text expression : String}
    (isWhole : Template.whole? engine.settings.delimiter text = some expression) :
    (expandTemplate context (Text.trim text)).run engine = (renderSource context expression).run engine := by
  rw [run_expandTemplate, Template.expand, (Template.whole?_iff_ofText text expression).1 isWhole]
  simp [Template.render]

/-- A text counts as one placeholder exactly when expanding it, less the blanks around it, calls the renderer once and
copies nothing, and its expression is what the renderer is called with. The value of such a text is shown as the text
expands, and leaves the engine as the expansion does; so is the value that the host has boxed. -/
theorem whole_placeholder_either_way :
    (∀ (delimiter : Char) (text expression : String) {σ : Type} (renderer : String → StateM σ String) (state : σ),
      Template.whole? delimiter text = some expression ↔
        Template.calls renderer delimiter (Text.trim text) state = [expression] ∧
          Template.copied delimiter (Text.trim text) = "") ∧
    ∀ {μ : Type} [Memory μ] (context : Context) (engine : Engine μ) (text expression source : String),
      Template.whole? engine.settings.delimiter text = some expression →
        let expanded := (expandTemplate context (Text.trim text)).run engine
        (evaluateText context text >>= stringify context source).run engine = expanded ∧
          ((∀ value, (context.host.wrap value).unwrapped = value.unwrapped) →
            (evaluate context text >>= stringify context source).run engine = expanded) := by
  refine ⟨Template.whole?_iff_calls, ?_⟩
  intro μ _ context engine text expression source isWhole expanded
  have shown : (evaluateText context text >>= stringify context source).run engine = expanded := by
    calc (evaluateText context text >>= stringify context source).run engine
        = (evaluateSource context expression >>= stringify context source).run engine := by
          rw [StateT.run_bind, evaluateText_of_whole? context isWhole, ← StateT.run_bind]
      _ = (renderSource context expression).run engine := evaluateSource_stringify context expression source engine
      _ = expanded := (expandTemplate_of_whole? context isWhole).symm
  refine ⟨shown, fun boxes => ?_⟩
  have unboxed : (evaluate context text >>= stringify context source : Action μ String) =
      evaluateText context text >>= stringify context source := by
    simp only [evaluate, bind_assoc, pure_bind]
    exact bind_congr fun value => stringify_of_unwrapped context source (boxes value)
  rw [unboxed, shown]

/-- A placeholder with angle brackets and blanks, for a host that boxes what it is given. -/
theorem whole_placeholder_either_way_boxed :
    let boxing : Context := { Context.empty with host := { HostModel.none with wrap := (·.wrap "host") } }
    let engine := Engine.cached (gateOf .empty .empty) .standard
    let expanded := (expandTemplate boxing (Text.trim " %< 'a' >% ")).run engine
    Template.whole? engine.settings.delimiter " %< 'a' >% " = some "'a'" ∧
      (∀ value, (boxing.host.wrap value).unwrapped = value.unwrapped) ∧
      (evaluateText boxing " %< 'a' >% " >>= stringify boxing "'a'").run engine = expanded ∧
      (evaluate boxing " %< 'a' >% " >>= stringify boxing "'a'").run engine = expanded := by
  intro boxing engine expanded
  have isWhole : Template.whole? engine.settings.delimiter " %< 'a' >% " = some "'a'" := by decide
  have boxes (value : Value) : (boxing.host.wrap value).unwrapped = value.unwrapped := Value.unwrapped_wrap _ _
  obtain ⟨shown, shownBoxed⟩ := whole_placeholder_either_way.2 boxing engine " %< 'a' >% " "'a'" "'a'" isWhole
  exact ⟨isWhole, boxes, shown, shownBoxed boxes⟩

end Engine

end LateBound
