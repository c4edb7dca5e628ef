import LateBound.Proofs.BracketDepth
import LateBound.Proofs.Silence

/-!
# Evaluating a tree elsewhere

What a tree comes to depends neither on the places of its nodes nor on the source that reports are on. Nor does
it depend on how many initialisers may still be opened, as long as the text between the brackets is nested less
deep than that.
-/

namespace LateBound

open Initialiser

namespace Evaluation

variable {μ : Type} {tables : Imports}

/-- The same evaluation with reports on another source. -/
def on (evaluation : Evaluation) (source : String) : Evaluation :=
  { evaluation with source }

variable (evaluation : Evaluation) (source : String)

/-! ## Reporting -/

theorem report_beside (text text' : String) (node? node?' : Option Expr) {failure failure' : Failure}
    (same : failure.cause = failure'.cause) :
    Coupled (Machine.Beside SameCauses tables) (fun _ _ => True) (evaluation.report (μ := μ) text node? failure)
      ((evaluation.on source).report text' node?' failure') := by
  have reports : evaluation.settings.reports failure = evaluation.settings.reports failure' := by
    unfold Settings.reports Failure.isReportable Failure.kind Failure.message
    rw [same]
  refine Coupled.update fun machine machine' beside => { beside with reported := ?_ }
  change SameCauses (Settings.record ..) (Settings.record ..)
  unfold Settings.record
  change SameCauses (if _ then _ else _) (if evaluation.settings.reports failure' then _ else _)
  rw [reports]
  split
  · exact .cons ⟨same, rfl⟩ beside.reported
  · exact beside.reported

theorem recover_beside (text text' : String) (node node' : Expr) {first second : Attempt μ Value}
    (attempts : AttemptsBeside SameCauses tables first second) :
    RunsBeside SameCauses tables (evaluation.recover text node first)
      ((evaluation.on source).recover text' node' second) := by
  apply recover_of_report _ attempts
  intro failure
  exact report_beside evaluation source _ _ _ _ rfl

variable [Memory μ]

/-! ## Nodes -/

variable {held : String → Prop} {opening opening' : Value → String → Attempt μ Value}

mutual
/-- Trees that differ in places only come to one value. -/
theorem expression_beside
    (opens : ∀ target raw, held raw → AttemptsBeside SameCauses tables (opening target raw) (opening' target raw))
    (text text' : String) : ∀ {tree tree'}, Expr.Alike held tree tree' →
      RunsBeside SameCauses tables (evaluation.expression opening text tree)
        ((evaluation.on source).expression opening' text' tree')
  | _, _, .literal value span span' => Coupled.pure rfl
  | _, _, .ident name span span' => by
    exact evaluation.recover_beside source _ _ _ _ (evaluation.silent_word name)
  | _, _, .field name span span' target => by
    refine Coupled.bindEq (expression_beside opens text text' target) fun value => ?_
    exact evaluation.recover_beside source _ _ _ _ (evaluation.silent_member value name)
  | _, _, .call name span span' target args => by
    refine Coupled.bindEq (expression_beside opens text text' target) fun value => ?_
    refine Coupled.bindEq (arguments_beside opens text text' args) fun values => ?_
    exact evaluation.recover_beside source _ _ _ _ (silent_callMember _ value name values)
  | _, _, .construct typeName span span' args => by
    refine Coupled.bindEq (arguments_beside opens text text' args) fun values => ?_
    refine evaluation.recover_beside source _ _ _ _ (.bind (evaluation.silent_namedType typeName) fun type => ?_)
    exact silent_construct _ type values
  | _, _, .initialise raw span span' target isHeld => by
    refine Coupled.bindEq (expression_beside opens text text' target) fun value => ?_
    exact evaluation.recover_beside source _ _ _ _ (opens value raw isHeld)

theorem arguments_beside
    (opens : ∀ target raw, held raw → AttemptsBeside SameCauses tables (opening target raw) (opening' target raw))
    (text text' : String) : ∀ {args args'}, Expr.ArgsAlike held args args' →
      RunsBeside SameCauses tables (evaluation.arguments opening text args)
        ((evaluation.on source).arguments opening' text' args')
  | _, _, .nil => Coupled.pure rfl
  | _, _, .cons arg args => by
    refine Coupled.bindEq (expression_beside opens text text' arg) fun value => ?_
    exact Coupled.bindEq (arguments_beside opens text text' args) fun values => Coupled.pure rfl
end

end Evaluation

/-! ## Initialisers -/

theorem Expr.alike_of_parse {text : String} {tree : Expr} (read : Expr.parse text = .ok tree) {nest : Nat}
    (within : bracketNest text.toList ≤ nest) : tree.Alike (fun raw => bracketNest raw.toList < nest) tree := by
  obtain ⟨tokens, last, _, _, tokenized, chain, -⟩ := Expr.exists_derivation read
  refine chain.alike_self fun raw inside => ?_
  exact Nat.lt_of_lt_of_le ((lexed_of_tokensFrom tokenized).bracketNest_lt inside) within

namespace Evaluation

theorem remember_parse (text : String) :
    (Run.remember (Memory.parse text) : Run Unit _) = pure (Expr.parse text) := rfl

variable (evaluation : Evaluation) (source : String) {nest : Nat}
  {opening opening' : Value → String → Attempt Unit Value}
  (opens : ∀ target raw, bracketNest raw.toList < nest →
    AttemptsBeside SameCauses tables (opening target raw) (opening' target raw))

include opens

theorem segment_beside {text : List Char} (within : bracketNest (Text.trimChars text) ≤ nest) :
    RunsBeside SameCauses tables (evaluation.segment opening text) ((evaluation.on source).segment opening' text) := by
  unfold Evaluation.segment
  dsimp only
  rw [remember_parse]
  simp only [pure_bind]
  cases read : Expr.parse (String.ofList (Text.trimChars text)) with
  | error error => exact Coupled.pure rfl
  | ok tree =>
    rw [← String.toList_ofList (l := Text.trimChars text)] at within
    have alike := Expr.alike_of_parse read within
    exact Coupled.bindEq (evaluation.expression_beside source opens _ _ alike) fun value => Coupled.pure rfl

theorem fill_beside (type : HostType) {raw : String} (within : bracketNest raw.toList ≤ nest) :
    AttemptsBeside SameCauses tables (evaluation.fill opening type raw)
      ((evaluation.on source).fill opening' type raw) := by
  have gates : evaluation.gate = (evaluation.on source).gate := rfl
  apply fill_of_segments gates
  intro text given
  exact evaluation.segment_beside source opens (given.bracketNest_le.trans within)

omit opens

/-- An initialiser comes to one value wherever more may be opened than its text is nested deep. -/
theorem initialise_beside {raw : String} (target : Value) {room room' : Nat} (within : bracketNest raw.toList < room)
    (within' : bracketNest raw.toList < room') :
    AttemptsBeside (μ := Unit) SameCauses tables (evaluation.initialise room target raw)
      ((evaluation.on source).initialise room' target raw) := by
  induction room generalizing room' target raw with
  | zero => omega
  | succ room inductionHypothesis =>
    cases room' with
    | zero => omega
    | succ room' =>
      refine .bind (evaluation.silent_initialised target raw) fun found => ?_
      cases found with
      | inr value => exact .pure value
      | inl type =>
        refine evaluation.fill_beside source (fun target raw shallow => ?_) type (Nat.le_refl _)
        exact inductionHypothesis target (by omega) (by omega)

end Evaluation

end LateBound
