import LateBound.Proofs.EngineCoupling
import LateBound.Proofs.Silence

/-!
# Failures that are not reported

A setting keeps failed resolutions from being reported, and that is all it does to an evaluation: with it and
without it the evaluation reaches the same members and comes to the same value, and the reports differ in these
failures only. So it is with everything that an engine does.
-/

namespace LateBound

def Settings.reporting (settings : Settings) (reportsResolution : Bool) : Settings :=
  { settings with reportsResolution }

/-- The second reports are the first without those of failed resolutions. -/
def MutedReports (loud quiet : List Report) : Prop :=
  quiet = loud.filter fun report => report.diagnostic.kind != .resolution

theorem Settings.record_muted (settings : Settings) (source : String) (unit : Option String) (text : String)
    (node? : Option Expr) (failure : Failure) {loud quiet : List Report} (muted : MutedReports loud quiet) :
    MutedReports ((settings.reporting true).record source unit text node? failure loud)
      ((settings.reporting false).record source unit text node? failure quiet) := by
  unfold MutedReports at muted
  subst muted
  have told : (Diagnostic.ofFailure failure source unit).kind = failure.kind := rfl
  by_cases failed : failure.kind = .resolution <;>
    cases reportable : failure.isReportable <;>
      simp [MutedReports, record, reports, reporting, told, failed, reportable]

namespace Evaluation

def reporting (evaluation : Evaluation) (reportsResolution : Bool) : Evaluation :=
  { evaluation with settings := evaluation.settings.reporting reportsResolution }

variable {μ : Type} {related : List Report → List Report → Prop} {tables : Imports} (evaluation : Evaluation)

/-! ## Evaluations that report alike -/

/-- Whatever fails in both evaluations is reported by each in such a way that the reports stay related. -/
abbrev ReportsBeside (μ : Type) (related : List Report → List Report → Prop) (tables : Imports)
    (evaluation : Evaluation) (one other : Bool) : Prop :=
  ∀ text node? failure, Coupled (Machine.Beside (μ := μ) related tables) (fun _ _ => True)
    ((evaluation.reporting one).report text node? failure) ((evaluation.reporting other).report text node? failure)

variable {evaluation} {one other : Bool}

theorem recover_of_reports (reports : evaluation.ReportsBeside μ related tables one other) (text : String)
    (node : Expr) {first second : Attempt μ Value} (attempts : AttemptsBeside related tables first second) :
    RunsBeside related tables ((evaluation.reporting one).recover text node first)
      ((evaluation.reporting other).recover text node second) := by
  apply recover_of_report _ attempts
  intro failure
  exact reports text _ _

variable [Memory μ] {opening opening' : Value → String → Attempt μ Value}

mutual
theorem expression_of_reports (reports : evaluation.ReportsBeside μ related tables one other)
    (opens : ∀ target raw, AttemptsBeside related tables (opening target raw) (opening' target raw))
    (text : String) : ∀ tree : Expr,
      RunsBeside related tables ((evaluation.reporting one).expression opening text tree)
        ((evaluation.reporting other).expression opening' text tree)
  | .literal value span => Coupled.pure rfl
  | .ident name span => by
    exact recover_of_reports reports _ _ (evaluation.silent_word name)
  | .field target name span => by
    refine Coupled.bindEq (expression_of_reports reports opens text target) fun value => ?_
    exact recover_of_reports reports _ _ (evaluation.silent_member value name)
  | .call target name args span => by
    refine Coupled.bindEq (expression_of_reports reports opens text target) fun value => ?_
    refine Coupled.bindEq (arguments_of_reports reports opens text args) fun values => ?_
    exact recover_of_reports reports _ _ (silent_callMember _ value name values)
  | .construct typeName args span => by
    refine Coupled.bindEq (arguments_of_reports reports opens text args) fun values => ?_
    refine recover_of_reports reports _ _ (.bind (evaluation.silent_namedType typeName) fun type => ?_)
    exact silent_construct _ type values
  | .initialise target raw span => by
    refine Coupled.bindEq (expression_of_reports reports opens text target) fun value => ?_
    exact recover_of_reports reports _ _ (opens value raw)

theorem arguments_of_reports (reports : evaluation.ReportsBeside μ related tables one other)
    (opens : ∀ target raw, AttemptsBeside related tables (opening target raw) (opening' target raw))
    (text : String) : ∀ args : List Expr,
      RunsBeside related tables ((evaluation.reporting one).arguments opening text args)
        ((evaluation.reporting other).arguments opening' text args)
  | [] => Coupled.pure rfl
  | arg :: args => by
    refine Coupled.bindEq (expression_of_reports reports opens text arg) fun value => ?_
    exact Coupled.bindEq (arguments_of_reports reports opens text args) fun values => Coupled.pure rfl
end

theorem segment_of_reports (reports : evaluation.ReportsBeside μ related tables one other)
    (opens : ∀ target raw, AttemptsBeside related tables (opening target raw) (opening' target raw))
    (text : List Char) :
    RunsBeside related tables ((evaluation.reporting one).segment opening text)
      ((evaluation.reporting other).segment opening' text) := by
  refine Coupled.bindEq (remember_beside _) fun parsed => ?_
  cases parsed with
  | error error => exact Coupled.pure rfl
  | ok tree => exact Coupled.bindEq (expression_of_reports reports opens _ tree) fun value => Coupled.pure rfl

theorem initialise_of_reports (reports : evaluation.ReportsBeside μ related tables one other) (room : Nat)
    (target : Value) (raw : String) :
    AttemptsBeside (μ := μ) related tables ((evaluation.reporting one).initialise room target raw)
      ((evaluation.reporting other).initialise room target raw) := by
  induction room generalizing target raw with
  | zero =>
    refine .bind (evaluation.silent_initialised target raw) fun found => ?_
    cases found with
    | inr value => exact .pure value
    | inl type => exact .fail _
  | succ room inductionHypothesis =>
    refine .bind (evaluation.silent_initialised target raw) fun found => ?_
    cases found with
    | inr value => exact .pure value
    | inl type =>
      have gates : (evaluation.reporting one).gate = (evaluation.reporting other).gate := rfl
      apply fill_of_segments gates
      intro text _
      exact segment_of_reports reports inductionHypothesis text

theorem run_of_reports (reports : evaluation.ReportsBeside μ related tables one other) :
    RunsBeside (μ := μ) related tables (evaluation.reporting one).run (evaluation.reporting other).run := by
  unfold Evaluation.run
  change RunsBeside related tables (if evaluation.source = "" then _ else _)
    (if evaluation.source = "" then _ else _)
  split
  · exact Coupled.pure rfl
  · refine Coupled.bindEq (remember_beside _) fun parsed => ?_
    cases parsed with
    | error error => exact Coupled.bind (reports _ none _) fun _ _ _ => Coupled.pure rfl
    | ok tree => exact expression_of_reports reports (initialise_of_reports reports maxInitialisers) _ tree

/-- An evaluation comes to one value whether failed resolutions are reported or not. -/
theorem run_muted (evaluation : Evaluation) :
    RunsBeside (μ := μ) MutedReports tables (evaluation.reporting true).run (evaluation.reporting false).run := by
  apply run_of_reports
  intro text node? failure
  apply Coupled.update
  intro machine machine' beside
  exact { beside with reported := Settings.record_muted _ _ _ _ _ _ beside.reported }

end Evaluation

/-! ## Engines -/

variable {μ α : Type}

/-- The machines have come the same way, but the second is without the reports of failed resolutions. -/
def Machine.Muted (loud quiet : Machine μ) : Prop :=
  ∃ tables, loud.Beside MutedReports tables quiet

theorem Coupled.muted {answers : α → α → Prop} {first second : Run μ α}
    (runs : ∀ tables, Coupled (Machine.Beside MutedReports tables) answers first second) :
    Coupled Machine.Muted answers first second := by
  rintro loud quiet ⟨tables, beside⟩
  obtain ⟨answered, beside⟩ := runs tables loud quiet beside
  exact ⟨answered, tables, beside⟩

/-- The engines have come the same way, but the second is quiet about failed resolutions. -/
structure Engine.Muted (gate : Gate) (settings : Settings) (loud quiet : Engine μ) : Prop where
  loudGate : loud.gate = gate
  quietGate : quiet.gate = gate
  loudSettings : loud.settings = settings.reporting true
  quietSettings : quiet.settings = settings.reporting false
  machine : loud.machine.Muted quiet.machine

variable {gate : Gate} {settings : Settings}

abbrev ActsMuted (gate : Gate) (settings : Settings) (answers : α → α → Prop) (first second : Engine.Action μ α) :
    Prop :=
  Coupled (Engine.Muted gate settings) answers first second

namespace Engine.Muted

theorem start (gate : Gate) (settings : Settings) (memory : μ) (store : Store) :
    Muted gate settings (.start gate (settings.reporting true) memory store)
      (.start gate (settings.reporting false) memory store) where
  loudGate := rfl
  quietGate := rfl
  loudSettings := rfl
  quietSettings := rfl
  machine := ⟨.empty, rfl, rfl, rfl, rfl, rfl, rfl⟩

theorem delimiter {loud quiet : Engine μ} (muted : loud.Muted gate settings quiet) :
    loud.settings.delimiter = quiet.settings.delimiter := by
  rw [muted.loudSettings, muted.quietSettings]
  rfl

theorem run {answers : α → α → Prop} {first second : Gate → Run μ α}
    (runs : Coupled Machine.Muted answers (first gate) (second gate)) :
    ActsMuted gate settings answers (Engine.run first) (Engine.run second) := by
  apply Coupled.exchange
  intro loud quiet muted
  obtain ⟨answered, machine⟩ := runs _ _ muted.machine
  simp only [muted.loudGate, muted.quietGate]
  exact ⟨answered, rfl, rfl, muted.loudSettings, muted.quietSettings, machine⟩

theorem takeReports : ActsMuted (μ := μ) gate settings
    (fun loud quiet => quiet = loud.filter (·.kind != .resolution)) Engine.takeReports Engine.takeReports := by
  have drained : ActsMuted (μ := μ) gate settings MutedReports Engine.drainReports Engine.drainReports := by
    apply Coupled.exchange
    intro loud quiet muted
    obtain ⟨tables, beside⟩ := muted.machine
    constructor
    · show _ = List.filter _ _
      rw [beside.reported, List.filter_reverse]
    · exact { muted with machine := ⟨tables, { beside with reported := rfl }⟩ }
  apply Coupled.map drained
  intro loud quiet muted
  unfold MutedReports at muted
  rw [muted, List.filter_map]
  rfl

variable [Memory μ] (context : Context)

/-! ### Texts -/

theorem evaluateSource (source : String) :
    ActsMuted (μ := μ) gate settings Eq (Engine.evaluateSource context source)
      (Engine.evaluateSource context source) := by
  refine Coupled.bind Coupled.read fun loud quiet muted => ?_
  rw [muted.loudSettings, muted.quietSettings]
  exact run (Coupled.muted fun tables => Evaluation.run_muted ⟨gate, settings, context, source⟩)

theorem renderSource (source : String) :
    ActsMuted (μ := μ) gate settings Eq (Engine.renderSource context source)
      (Engine.renderSource context source) := by
  refine Coupled.bind Coupled.read fun loud quiet muted => ?_
  rw [muted.loudSettings, muted.quietSettings]
  let evaluation : Evaluation := ⟨gate, settings, context, source⟩
  apply run
  apply Coupled.muted
  intro tables
  exact Coupled.bindEq evaluation.run_muted fun value => evaluation.textOf_beside value

theorem expandTemplate (text : String) :
    ActsMuted (μ := μ) gate settings Eq (Engine.expandTemplate context text)
      (Engine.expandTemplate context text) :=
  Engine.expandTemplate_coupled delimiter (renderSource context) text

theorem evaluate (text : String) :
    ActsMuted (μ := μ) gate settings Eq (Engine.evaluate context text) (Engine.evaluate context text) := by
  refine Coupled.bindEq ?_ fun value => Coupled.pure rfl
  exact Engine.evaluateText_coupled delimiter (fun _ => rfl) (evaluateSource context) (expandTemplate context) text

/-! ### The other operations -/

theorem parse (text : String) :
    ActsMuted (μ := μ) gate settings Eq (Engine.parse text) (Engine.parse text) :=
  run (Coupled.muted fun _ => remember_beside _)

theorem addImport (unit : Option String) (name : String) (label? : Option String) :
    ActsMuted (μ := μ) gate settings Eq (Engine.addImport unit name label?) (Engine.addImport unit name label?) := by
  have inserted (type : HostType) : Coupled Machine.Muted (fun _ _ => True)
      (modify fun machine : Machine μ => { machine with imports := machine.imports.insert unit type label? })
      (modify fun machine : Machine μ => { machine with imports := machine.imports.insert unit type label? }) := by
    apply Coupled.update
    rintro loud quiet ⟨tables, beside⟩
    refine ⟨tables.insert unit type label?, { beside with imports := ?_, sameImports := ?_ }⟩
    · rw [beside.imports]
    · rw [beside.sameImports]
  refine Coupled.weaken (run (Coupled.bindExcept (Coupled.muted fun _ => silent_requireType gate name)
    fun type _ same => ?_)) fun _ _ related => eq_of_endings related
  subst same
  exact Coupled.bindExcept (Coupled.lift (inserted type)) fun _ _ _ => Coupled.pureExcept rfl

theorem clearAll :
    ActsMuted (μ := μ) gate settings (fun _ _ => True) Engine.clearAll Engine.clearAll := by
  apply Coupled.update
  intro loud quiet muted
  obtain ⟨tables, beside⟩ := muted.machine
  refine { muted with machine := ⟨.empty, { beside with memory := ?_, imports := rfl, sameImports := rfl }⟩ }
  rw [beside.memory]

end Engine.Muted

end LateBound
