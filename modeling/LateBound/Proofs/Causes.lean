import LateBound.Evaluate

/-!
# Why members and searches fail

To look up a type, to call a member, to reach a field and to find what stands in front of a bracket fails for causes
that have to do with the host and with names. That a text is no expression, that a segment is no assignment and that
initialisers are nested too deep is for the evaluation of texts alone to say.
-/

namespace LateBound

/-- The cause lies in a name or in the host. -/
def Cause.Plain : Cause → Prop
  | malformed _ | initialisersTooDeep _ | notAssignment .. => False
  | _ => True

variable {μ α β : Type}

/-- If the action fails, then for a cause that lies in a name or in the host. -/
def FailsPlainly (action : Attempt μ α) : Prop :=
  ∀ machine failure, (action.outcome.run machine).1 = .error failure → failure.cause.Plain

namespace FailsPlainly

theorem pure (a : α) : FailsPlainly (μ := μ) (Pure.pure a) :=
  fun _ _ ended => nomatch ended

theorem throws {failure : Failure} (plain : failure.cause.Plain) :
    FailsPlainly (throw failure : Attempt μ α) := by
  rintro machine _ ⟨⟩
  exact plain

theorem fail {cause : Cause} (plain : cause.Plain) : FailsPlainly (Attempt.fail cause : Attempt μ α) :=
  throws plain

theorem lift (action : Run μ α) : FailsPlainly (Attempt.lift action) :=
  fun _ _ ended => nomatch ended

theorem bind {action : Attempt μ α} {next : α → Attempt μ β} (head : FailsPlainly action)
    (tail : ∀ a, FailsPlainly (next a)) : FailsPlainly (action >>= next) := by
  intro machine failure ended
  cases first : action.outcome.run machine with
  | mk outcome between =>
    cases outcome with
    | ok a =>
      rw [Attempt.run_bind_of_ok first] at ended
      exact tail a between failure ended
    | error failed =>
      rw [Attempt.run_bind_of_error first] at ended
      cases ended
      exact head machine failure (congrArg Prod.fst first)

end FailsPlainly

/-! ## Types and members -/

variable (gate : Gate)

theorem checkAdmitted_failsPlainly (name : String) : FailsPlainly (checkAdmitted gate name : Attempt μ Unit) := by
  unfold checkAdmitted
  split
  · exact .pure ()
  · exact .fail trivial

theorem fieldOutcome_failsPlainly (access : Access) (handle : FieldHandle) (name : String) (outcome : Except Fault α) :
    FailsPlainly (fieldOutcome access handle name outcome : Attempt μ α) := by
  unfold fieldOutcome
  split
  · exact .pure _
  · exact .fail trivial
  · exact .fail trivial

theorem plain_callFailure (handle : MethodHandle) (args : List Value) (fault : Fault) :
    (callFailure handle args fault).cause.Plain := by
  unfold callFailure
  cases firstMismatch? args handle.member.params with
  | none | some _ =>
    dsimp only
    split <;> trivial

variable [Memory μ]

theorem lookupType_failsPlainly (name : String) : FailsPlainly (lookupType gate name : Attempt μ _) := by
  refine .bind (.lift _) fun answer => ?_
  cases answer with
  | found type => exact .pure _
  | notFound => exact .pure _
  | denied => exact .fail trivial

theorem requireType_failsPlainly (name : String) : FailsPlainly (requireType gate name : Attempt μ _) := by
  refine .bind (lookupType_failsPlainly gate name) fun found => ?_
  cases found with
  | some type => exact .pure _
  | none => exact .fail trivial

theorem runtimeType_failsPlainly (value : Value) : FailsPlainly (runtimeType gate value : Attempt μ _) := by
  unfold runtimeType
  split
  · exact requireType_failsPlainly gate _
  · exact .fail trivial

theorem invoke_failsPlainly (handle : MethodHandle) (receiver : Option Value) (args : List Value) :
    FailsPlainly (invoke gate handle receiver args : Attempt μ _) := by
  refine .bind (.lift _) fun coerced => .bind (.lift _) fun outcome => ?_
  cases outcome with
  | ok value => exact .pure _
  | error fault => exact .throws (plain_callFailure handle _ fault)

theorem methodHandle_failsPlainly (type : HostType) (name : String) (args : List Value) :
    FailsPlainly (methodHandle gate type name args : Attempt μ _) := by
  refine .bind (.lift _) fun found => ?_
  cases found with
  | some handle => exact .pure _
  | none => exact .fail trivial

theorem constructorHandle_failsPlainly (type : HostType) (args : List Value) :
    FailsPlainly (constructorHandle gate type args : Attempt μ _) := by
  refine .bind (.lift _) fun found => ?_
  cases found with
  | some handle => exact .pure _
  | none => exact .fail trivial

theorem fieldHandle_failsPlainly (type : HostType) (name : String) :
    FailsPlainly (fieldHandle gate type name : Attempt μ _) := by
  refine .bind (.lift _) fun found => ?_
  cases found with
  | some handle => exact .pure _
  | none => exact .fail trivial

theorem invokeStatic_failsPlainly (type : HostType) (name : String) (args : List Value) :
    FailsPlainly (invokeStatic gate type name args : Attempt μ _) :=
  .bind (checkAdmitted_failsPlainly gate _) fun _ =>
    .bind (methodHandle_failsPlainly gate type name args) fun handle => invoke_failsPlainly gate handle none args

theorem invokeInstance_failsPlainly (receiver : Value) (name : String) (args : List Value) :
    FailsPlainly (invokeInstance gate receiver name args : Attempt μ _) :=
  .bind (runtimeType_failsPlainly gate _) fun type =>
    .bind (methodHandle_failsPlainly gate type name args) fun handle => invoke_failsPlainly gate handle _ args

theorem construct_failsPlainly (type : HostType) (args : List Value) :
    FailsPlainly (construct gate type args : Attempt μ _) :=
  .bind (checkAdmitted_failsPlainly gate _) fun _ =>
    .bind (constructorHandle_failsPlainly gate type args) fun handle => invoke_failsPlainly gate handle none args

theorem callMember_failsPlainly (target : Value) (name : String) (args : List Value) :
    FailsPlainly (callMember gate target name args : Attempt μ _) := by
  unfold callMember
  split
  · exact invokeStatic_failsPlainly gate _ name args
  · exact invokeInstance_failsPlainly gate _ name args

theorem reachField_failsPlainly (target : Value) (name : String) {onType : TypeRef → FieldHandle → Attempt μ α}
    {onValue : Value → FieldHandle → Attempt μ α} (typed : ∀ ref handle, FailsPlainly (onType ref handle))
    (valued : ∀ value handle, FailsPlainly (onValue value handle)) :
    FailsPlainly (reachField gate target name onType onValue) := by
  unfold reachField
  split
  · exact .fail trivial
  · exact .bind (checkAdmitted_failsPlainly gate _) fun _ =>
      .bind (fieldHandle_failsPlainly gate _ name) fun handle => typed _ handle
  · exact .bind (runtimeType_failsPlainly gate _) fun type =>
      .bind (fieldHandle_failsPlainly gate type name) fun handle => valued _ handle

theorem readField_failsPlainly (target : Value) (name : String) :
    FailsPlainly (readField gate target name : Attempt μ _) := by
  refine .bind (reachField_failsPlainly gate target name (fun ref handle => ?_) fun value handle => .pure _)
    fun found => .bind (.lift _) fun outcome => fieldOutcome_failsPlainly _ _ _ outcome
  split
  · exact .pure _
  · exact .fail trivial

theorem writeField_failsPlainly (target : Value) (name : String) (written : Value) :
    FailsPlainly (writeField gate target name written : Attempt μ _) := by
  refine .bind (reachField_failsPlainly gate target name (fun ref handle => ?_) fun value handle => ?_) fun found => ?_
  · split
    · exact .pure _
    · exact .fail trivial
  · split
    · exact .fail trivial
    · exact .pure _
  · dsimp only
    split
    · exact .bind (.lift _) fun value => .bind (.lift _) fun outcome => fieldOutcome_failsPlainly _ _ _ outcome
    · exact .fail trivial

/-! ## Nodes -/

namespace Evaluation

variable (evaluation : Evaluation)

theorem wordType?_failsPlainly (word : String) : FailsPlainly (evaluation.wordType? word : Attempt μ _) := by
  refine .bind (.lift _) fun found => ?_
  cases found with
  | some type => exact .bind (checkAdmitted_failsPlainly _ _) fun _ => .pure _
  | none => exact lookupType_failsPlainly _ word

theorem word_failsPlainly (word : String) : FailsPlainly (evaluation.word word : Attempt μ _) := by
  unfold Evaluation.word
  split
  · refine .bind (evaluation.wordType?_failsPlainly word) fun found => ?_
    cases found <;> exact .pure _
  · exact .pure _

theorem namedType_failsPlainly (name : String) : FailsPlainly (evaluation.namedType name : Attempt μ _) := by
  refine .bind (.lift _) fun found => ?_
  cases found with
  | some type => exact .bind (checkAdmitted_failsPlainly _ _) fun _ => .pure _
  | none => exact requireType_failsPlainly _ name

theorem member_failsPlainly (target : Value) (name : String) :
    FailsPlainly (evaluation.member target name : Attempt μ _) := by
  unfold Evaluation.member
  split
  · refine .bind (lookupType_failsPlainly _ _) fun found => ?_
    cases found <;> exact .pure _
  · exact readField_failsPlainly _ _ name

theorem bracketType?_failsPlainly (name : String) : FailsPlainly (evaluation.bracketType? name : Attempt μ _) := by
  refine .bind (.lift _) fun found => ?_
  cases found with
  | some type => exact .bind (evaluation.namedType_failsPlainly _) fun _ => .pure _
  | none => exact lookupType_failsPlainly _ name

theorem initialised_failsPlainly (target : Value) (raw : String) :
    FailsPlainly (evaluation.initialised target raw : Attempt μ _) := by
  unfold Evaluation.initialised
  split
  · exact .pure _
  · refine .bind (evaluation.bracketType?_failsPlainly _) fun found => ?_
    cases found with
    | some type => exact .pure _
    | none =>
      refine .bind ?_ fun value => .pure _
      unfold Evaluation.interpreted
      split
      · exact .pure _
      · exact .fail trivial
  · exact .fail trivial
  · exact .fail trivial

end Evaluation

end LateBound
