import LateBound.Proofs.Twins

/-!
# What never reports

Only evaluation reports, and it never reads what was reported. Looking up types, calling members and reaching
fields neither read nor write the reports, and nobody changes the imports while an expression is evaluated. So
two machines that differ in what was reported are led by every such action to machines that differ in no more, and
with the same answer.
-/

namespace LateBound

/-- The reports are of one cause in one unit, wherever it arose. -/
structure Report.SameCause (first second : Report) : Prop where
  cause : first.diagnostic.cause = second.diagnostic.cause
  unit : first.diagnostic.unit = second.diagnostic.unit

theorem Report.SameCause.refl (report : Report) : report.SameCause report :=
  ⟨rfl, rfl⟩

theorem Report.SameCause.symm {first second : Report} (same : first.SameCause second) : second.SameCause first :=
  ⟨same.cause.symm, same.unit.symm⟩

abbrev SameCauses : List Report → List Report → Prop :=
  List.Forall₂ Report.SameCause

/-- The machines have come the same way but for their reports, which are related, with these imports. -/
structure Machine.Beside {μ : Type} (related : List Report → List Report → Prop) (tables : Imports)
    (first second : Machine μ) : Prop where
  memory : first.memory = second.memory
  store : first.store = second.store
  runs : first.runs = second.runs
  reported : related first.reported second.reported
  imports : first.imports = tables
  sameImports : second.imports = tables

theorem Machine.Beside.refl {μ : Type} (machine : Machine μ) :
    machine.Beside SameCauses machine.imports machine where
  memory := rfl
  store := rfl
  runs := rfl
  reported := List.forall₂_same.2 fun report _ => .refl report
  imports := rfl
  sameImports := rfl

theorem Machine.Beside.symm {μ : Type} {tables : Imports} {first second : Machine μ}
    (beside : first.Beside SameCauses tables second) : second.Beside SameCauses tables first where
  memory := beside.memory.symm
  store := beside.store.symm
  runs := beside.runs.symm
  reported := (beside.reported.imp fun _ _ same => same.symm).flip
  imports := beside.sameImports
  sameImports := beside.imports

variable {μ α β : Type} {related : List Report → List Report → Prop} {tables : Imports}

/-- The actions come to one answer, from machines beside each other. -/
abbrev RunsBeside (related : List Report → List Report → Prop) (tables : Imports) (first second : Run μ α) : Prop :=
  Coupled (Machine.Beside related tables) Eq first second

abbrev AttemptsBeside (related : List Report → List Report → Prop) (tables : Imports) (first second : Attempt μ α) :
    Prop :=
  Coupled (Machine.Beside related tables) (Endings Eq Eq) first.run second.run

/-! ## Parts of the machine -/

theorem remember_beside (action : StateM μ α) : RunsBeside related tables (Run.remember action) (.remember action) := by
  refine Coupled.exchange fun machine machine' beside => ?_
  rw [beside.memory]
  exact ⟨rfl, { beside with memory := rfl }⟩

theorem host_beside (run : HostRun) (action : Host α) :
    RunsBeside (μ := μ) related tables (Run.host run action) (.host run action) := by
  refine Coupled.exchange fun machine machine' beside => ?_
  rw [beside.store, beside.runs]
  exact ⟨rfl, { beside with store := rfl, runs := rfl }⟩

namespace AttemptsBeside

theorem pure (a : α) : AttemptsBeside (μ := μ) related tables (Pure.pure a) (Pure.pure a) :=
  Coupled.pureExcept rfl

theorem fail (cause : Cause) : AttemptsBeside (μ := μ) (α := α) related tables (.fail cause) (.fail cause) :=
  Coupled.fail rfl

theorem throws (failure : Failure) : AttemptsBeside (μ := μ) (α := α) related tables (throw failure) (throw failure) :=
  Coupled.fail rfl

theorem lift {first second : Run μ α} (runs : RunsBeside related tables first second) :
    AttemptsBeside related tables (.lift first) (.lift second) :=
  Coupled.lift runs

theorem bind {first second : Attempt μ α} {next follow : α → Attempt μ β}
    (head : AttemptsBeside related tables first second)
    (tail : ∀ a, AttemptsBeside related tables (next a) (follow a)) :
    AttemptsBeside related tables (first >>= next) (second >>= follow) := by
  refine Coupled.bindExcept head fun a _ same => ?_
  subst same
  exact tail a

end AttemptsBeside

theorem mapM_beside {f g : α → Run μ β} {as : List α} (each : ∀ a ∈ as, RunsBeside related tables (f a) (g a)) :
    RunsBeside related tables (as.mapM f) (as.mapM g) := by
  have same : List.Forall₂ (Same (· ∈ as)) as as := List.forall₂_same.2 fun a inside => ⟨rfl, inside⟩
  refine (Coupled.mapM (fun a a' related => ?_) same).weaken fun _ _ mapped => List.forall₂_eq_eq_eq ▸ mapped
  obtain ⟨rfl, inside⟩ := related
  exact each a inside

/-! ## Types and members -/

abbrev Silent (related : List Report → List Report → Prop) (tables : Imports) (action : Attempt μ α) : Prop :=
  AttemptsBeside related tables action action

variable (gate : Gate)

theorem silent_checkAdmitted (name : String) : Silent (μ := μ) related tables (checkAdmitted gate name) := by
  unfold checkAdmitted
  split
  · exact .pure _
  · exact .fail _

theorem silent_fieldOutcome (access : Access) (handle : FieldHandle) (name : String) (outcome : Except Fault α) :
    Silent (μ := μ) related tables (fieldOutcome access handle name outcome) := by
  unfold fieldOutcome
  split
  · exact .pure _
  · exact .fail _
  · exact .fail _

variable [Memory μ]

theorem silent_lookupType (name : String) : Silent (μ := μ) related tables (lookupType gate name) := by
  refine .bind (.lift (remember_beside _)) fun answer => ?_
  cases answer with
  | found type => exact .pure _
  | notFound => exact .pure _
  | denied => exact .fail _

theorem silent_requireType (name : String) : Silent (μ := μ) related tables (requireType gate name) := by
  refine .bind (silent_lookupType gate name) fun found => ?_
  cases found with
  | some type => exact .pure _
  | none => exact .fail _

theorem silent_runtimeType (value : Value) : Silent (μ := μ) related tables (runtimeType gate value) := by
  unfold runtimeType
  split
  · exact silent_requireType gate _
  · exact .fail _

theorem coerceArg_beside (value : Value) (param : ParamType) :
    RunsBeside (μ := μ) related tables (coerceArg gate value param) (coerceArg gate value param) := by
  unfold coerceArg
  split
  · exact Coupled.pure rfl
  · exact Coupled.bindEq (remember_beside (Memory.lookup gate _)) fun answer => Coupled.pure rfl

theorem silent_invoke (handle : MethodHandle) (receiver : Option Value) (args : List Value) :
    Silent (μ := μ) related tables (invoke gate handle receiver args) := by
  refine .bind (.lift (mapM_beside fun (value, param) _ => coerceArg_beside gate value param)) fun coerced => ?_
  refine .bind (.lift (host_beside _ _)) fun outcome => ?_
  cases outcome with
  | ok value => exact .pure _
  | error fault => exact .throws _

theorem silent_methodHandle (type : HostType) (name : String) (args : List Value) :
    Silent (μ := μ) related tables (methodHandle gate type name args) := by
  refine .bind (.lift (remember_beside _)) fun found => ?_
  cases found with
  | some handle => exact .pure _
  | none => exact .fail _

theorem silent_constructorHandle (type : HostType) (args : List Value) :
    Silent (μ := μ) related tables (constructorHandle gate type args) := by
  refine .bind (.lift (remember_beside _)) fun found => ?_
  cases found with
  | some handle => exact .pure _
  | none => exact .fail _

theorem silent_fieldHandle (type : HostType) (name : String) :
    Silent (μ := μ) related tables (fieldHandle gate type name) := by
  refine .bind (.lift (remember_beside _)) fun found => ?_
  cases found with
  | some handle => exact .pure _
  | none => exact .fail _

theorem silent_invokeStatic (type : HostType) (name : String) (args : List Value) :
    Silent (μ := μ) related tables (invokeStatic gate type name args) :=
  .bind (silent_checkAdmitted gate _) fun _ =>
    .bind (silent_methodHandle gate type name args) fun handle => silent_invoke gate handle none args

theorem silent_invokeInstance (receiver : Value) (name : String) (args : List Value) :
    Silent (μ := μ) related tables (invokeInstance gate receiver name args) :=
  .bind (silent_runtimeType gate _) fun type =>
    .bind (silent_methodHandle gate type name args) fun handle => silent_invoke gate handle _ args

theorem silent_construct (type : HostType) (args : List Value) :
    Silent (μ := μ) related tables (construct gate type args) :=
  .bind (silent_checkAdmitted gate _) fun _ =>
    .bind (silent_constructorHandle gate type args) fun handle => silent_invoke gate handle none args

theorem silent_callMember (target : Value) (name : String) (args : List Value) :
    Silent (μ := μ) related tables (callMember gate target name args) := by
  unfold callMember
  split
  · exact silent_invokeStatic gate _ name args
  · exact silent_invokeInstance gate _ name args

theorem silent_reachField (target : Value) (name : String) {onType : TypeRef → FieldHandle → Attempt μ α}
    {onValue : Value → FieldHandle → Attempt μ α} (typed : ∀ ref handle, Silent related tables (onType ref handle))
    (valued : ∀ value handle, Silent related tables (onValue value handle)) :
    Silent related tables (reachField gate target name onType onValue) := by
  unfold reachField
  split
  · exact .fail _
  · exact .bind (silent_checkAdmitted gate _) fun _ =>
      .bind (silent_fieldHandle gate _ name) fun handle => typed _ handle
  · exact .bind (silent_runtimeType gate _) fun type =>
      .bind (silent_fieldHandle gate type name) fun handle => valued _ handle

theorem silent_readField (target : Value) (name : String) :
    Silent (μ := μ) related tables (readField gate target name) := by
  refine .bind (silent_reachField gate target name (fun ref handle => ?_) fun value handle => .pure _) fun found => ?_
  · split
    · exact .pure _
    · exact .fail _
  · exact .bind (.lift (host_beside _ _)) fun outcome => silent_fieldOutcome _ _ _ outcome

theorem silent_writeField (target : Value) (name : String) (written : Value) :
    Silent (μ := μ) related tables (writeField gate target name written) := by
  refine .bind (silent_reachField gate target name (fun ref handle => ?_) fun value handle => ?_) fun found => ?_
  · split
    · exact .pure _
    · exact .fail _
  · split
    · exact .fail _
    · exact .pure _
  · dsimp only
    split
    · refine .bind (.lift (coerceArg_beside gate _ _)) fun value => ?_
      exact .bind (.lift (host_beside _ _)) fun outcome => silent_fieldOutcome _ _ _ outcome
    · exact .fail _

/-! ## Evaluating -/

namespace Evaluation

omit [Memory μ] in
theorem recover_of_report {first second : Evaluation} {text text' : String} {node node' : Expr}
    (reports : ∀ failure : Failure, Coupled (Machine.Beside related tables) (fun _ _ => True)
      (first.report (μ := μ) text (some node) (failure.orAt node.span))
      (second.report text' (some node') (failure.orAt node'.span)))
    {attempt attempt' : Attempt μ Value} (attempts : AttemptsBeside related tables attempt attempt') :
    RunsBeside related tables (first.recover text node attempt) (second.recover text' node' attempt') := by
  refine Coupled.bind attempts fun ended ended' same => ?_
  match ended, ended', same with
  | .ok _, .ok _, same => exact Coupled.pure same
  | .error failure, .error _, same =>
    subst same
    exact Coupled.bind (reports failure) fun _ _ _ => Coupled.pure rfl

variable (evaluation : Evaluation)

omit [Memory μ] in
theorem imported?_beside (word : String) :
    RunsBeside (μ := μ) related tables (evaluation.imported? word) (evaluation.imported? word) := by
  refine Coupled.bind Coupled.read fun machine machine' beside => Coupled.pure ?_
  rw [beside.imports, beside.sameImports]

theorem silent_wordType? (word : String) : Silent (μ := μ) related tables (evaluation.wordType? word) := by
  refine .bind (.lift (evaluation.imported?_beside word)) fun found => ?_
  cases found with
  | some type => exact .bind (silent_checkAdmitted _ _) fun _ => .pure _
  | none => exact silent_lookupType _ word

theorem silent_word (word : String) : Silent (μ := μ) related tables (evaluation.word word) := by
  unfold Evaluation.word
  split
  · refine .bind (evaluation.silent_wordType? word) fun found => ?_
    cases found <;> exact .pure _
  · exact .pure _

theorem silent_namedType (name : String) : Silent (μ := μ) related tables (evaluation.namedType name) := by
  refine .bind (.lift (evaluation.imported?_beside name)) fun found => ?_
  cases found with
  | some type => exact .bind (silent_checkAdmitted _ _) fun _ => .pure _
  | none => exact silent_requireType _ name

theorem silent_member (target : Value) (name : String) :
    Silent (μ := μ) related tables (evaluation.member target name) := by
  unfold Evaluation.member
  split
  · refine .bind (silent_lookupType _ _) fun found => ?_
    cases found <;> exact .pure _
  · exact silent_readField _ _ name

theorem silent_bracketType? (name : String) : Silent (μ := μ) related tables (evaluation.bracketType? name) := by
  refine .bind (.lift (evaluation.imported?_beside name)) fun found => ?_
  cases found with
  | some type => exact .bind (evaluation.silent_namedType _) fun _ => .pure _
  | none => exact silent_lookupType _ name

theorem silent_initialised (target : Value) (raw : String) :
    Silent (μ := μ) related tables (evaluation.initialised target raw) := by
  unfold Evaluation.initialised
  split
  · exact .pure _
  · refine .bind (evaluation.silent_bracketType? _) fun found => ?_
    cases found with
    | some type => exact .pure _
    | none =>
      refine .bind ?_ fun value => .pure _
      unfold Evaluation.interpreted
      split
      · exact .pure _
      · exact .fail _
  · exact .fail _
  · exact .fail _

theorem textOf_beside (value : Value) :
    RunsBeside (μ := μ) related tables (evaluation.textOf value) (evaluation.textOf value) := by
  unfold Evaluation.textOf
  split
  · refine Coupled.bind (silent_invokeInstance _ _ "toString" []) fun ended ended' same => ?_
    match ended, ended', same with
    | .ok _, .ok _, same => exact Coupled.pure (congrArg Value.display same)
    | .error _, .error _, _ => exact Coupled.pure rfl
  · exact Coupled.pure rfl

section Segments

variable {first second : Evaluation} (gates : first.gate = second.gate)
  {opening opening' : Value → String → Attempt μ Value} {raw : String}
  (segments : ∀ text, Initialiser.Given raw text →
    RunsBeside related tables (first.segment opening text) (second.segment opening' text))

include gates segments

theorem assignAll_of_segments (object : Value) (texts : List (List Char))
    (given : ∀ text ∈ texts, ∀ name value, Initialiser.assignment? text = some (name, value) →
      Initialiser.Given raw value) :
    AttemptsBeside related tables (first.assignAll opening object raw texts)
      (second.assignAll opening' object raw texts) := by
  induction texts with
  | nil => exact .pure ()
  | cons text rest inductionHypothesis =>
    obtain ⟨here, behind⟩ := List.forall_mem_cons.1 given
    unfold Evaluation.assignAll
    cases assigned : Initialiser.assignment? text with
    | none => exact .fail _
    | some sides =>
      obtain ⟨name, value⟩ := sides
      refine .bind (.lift (segments value (here name value assigned))) fun value => ?_
      rw [gates]
      exact .bind (silent_writeField _ object _ value) fun _ => inductionHypothesis behind

theorem fill_of_segments (type : HostType) :
    AttemptsBeside related tables (first.fill opening type raw) (second.fill opening' type raw) := by
  unfold Evaluation.fill
  dsimp only
  rw [gates]
  split
  · refine .bind (silent_construct _ type []) fun object => ?_
    refine .bind (assignAll_of_segments gates segments object _ fun text inside name value assigned => ?_)
      fun _ => .pure object
    obtain ⟨segment, isSegment, rfl⟩ := List.mem_map.1 (List.mem_filter.1 inside).1
    exact .value isSegment assigned
  · refine .bind (.lift (mapM_beside fun text inside => ?_)) fun args => silent_construct _ type args
    exact segments text (.segment (List.mem_filter.1 inside).1)

end Segments

end Evaluation

end LateBound
