import LateBound.Proofs.Twins
import LateBound.Resolution.Invoke

/-!
# Twins that call members and reach fields

Twins look up the same types and so find the same members. They coerce alike arguments to alike ones, run
the member that was found on them, and lay its failure on the same argument.
-/

namespace LateBound

variable {hides : String → Bool}

/-! ## The argument to blame -/

theorem firstMismatch?_alike {args args' : List Value} (alike : List.Forall₂ (Value.Alike hides) args args')
    (params : List ParamType) :
    Option.Rel (fun blamed blamed' => blamed.1 = blamed'.1 ∧ Value.Alike hides blamed.2.1 blamed'.2.1 ∧
      blamed.2.2 = blamed'.2.2) (firstMismatch? args params) (firstMismatch? args' params) := by
  unfold firstMismatch?
  generalize 1 = place
  induction alike generalizing params place with
  | nil => exact .none
  | cons head _ inductionHypothesis =>
    cases params with
    | nil => exact .none
    | cons param params =>
      simp only [List.zip_cons_cons, List.zipIdx_cons, List.findSome?_cons, head.conforms_eq]
      cases conforms _ param with
      | true => exact inductionHypothesis params (place + 1)
      | false => exact .some ⟨rfl, head, rfl⟩

theorem callFailure_alike {args args' : List Value} (alike : List.Forall₂ (Value.Alike hides) args args')
    (handle : MethodHandle) (fault : Fault) :
    callFailure handle args fault = callFailure handle args' fault := by
  have blamed := firstMismatch?_alike alike handle.member.params
  unfold callFailure
  generalize firstMismatch? args _ = blame, firstMismatch? args' _ = blame' at blamed ⊢
  cases blamed with
  | none => rfl
  | some same =>
    obtain ⟨place, shown, param⟩ := same
    simp only [place, param, shown.display_eq]

theorem callFailure_span {places : Option Span → Prop} (placeless : places none) (handle : MethodHandle)
    (args : List Value) {fault : Fault} (placed : places fault.span?) :
    places (callFailure handle args fault).span := by
  unfold callFailure
  cases fault with
  | panic message => exact placeless
  | error message => cases firstMismatch? args handle.member.params <;> exact placeless
  | raised kind message span =>
    cases kind with
    | invocation => cases firstMismatch? args handle.member.params <;> exact placed
    | _ => exact placed

namespace Twins

variable {μ ν α β : Type} [Memory μ] [Memory ν] {twins : Twins μ ν}

/-! ## Types -/

theorem lookupType (name : String) :
    twins.Attempts (Same fun found => ∀ type ∈ found, twins.known type)
      (LateBound.lookupType twins.first name) (LateBound.lookupType twins.second name) := by
  refine Attempts.bindSame (.lift (remember (twins.showSame name))) fun answer shown => ?_
  cases answer with
  | found type => exact Attempts.pure ⟨rfl, shown⟩
  | notFound => exact Attempts.pure ⟨rfl, shown⟩
  | denied => exact Attempts.fail rfl

theorem requireType (name : String) :
    twins.Attempts (Same twins.known) (LateBound.requireType twins.first name)
      (LateBound.requireType twins.second name) := by
  exact Attempts.bindFound (lookupType name) (.fail rfl) fun _ isKnown => .pure ⟨rfl, isKnown⟩

theorem checkAdmitted (name : String) :
    twins.Attempts (fun _ _ => twins.first.admits name = true)
      (LateBound.checkAdmitted twins.first name) (LateBound.checkAdmitted twins.second name) := by
  unfold LateBound.checkAdmitted
  rw [← twins.admitSame]
  split
  · next admitted => exact Attempts.pure admitted
  · exact Attempts.fail rfl

theorem runtimeType {value value' : Value} (alike : Value.Alike twins.hides value value') :
    twins.Attempts (Same twins.known) (LateBound.runtimeType twins.first value)
      (LateBound.runtimeType twins.second value') := by
  unfold LateBound.runtimeType Value.runtimeTypeName?
  rw [alike.tag_eq]
  cases value'.tag.runtimeTypeName? with
  | none => exact Attempts.fail rfl
  | some name => exact requireType name

theorem findMember {type : HostType} (isKnown : twins.known type) (sort : MemberSort) (name : String)
    (args : List Value) :
    twins.Attempts (Same fun found => ∀ handle ∈ found, sort.Of twins.known handle)
      (.lift (.remember (sort.find twins.first type (.of type.name name args))))
      (.lift (.remember (sort.find twins.second type (.of type.name name args)))) :=
  .lift (remember (twins.findSame isKnown rfl sort))

/-! ## Arguments -/

theorem coerceArg {value value' : Value} (alike : Value.Alike twins.hides value value')
    (param : ParamType) :
    twins.Runs (Value.Alike twins.hides) (LateBound.coerceArg twins.first value param)
      (LateBound.coerceArg twins.second value' param) := by
  unfold LateBound.coerceArg
  rw [alike.neededType?_eq]
  cases neededType? value' param with
  | none => exact Coupled.pure (alike.coerce _ param)
  | some name =>
    refine Coupled.bindSame (remember (twins.showSame name)) fun answer _ => ?_
    exact Coupled.pure (alike.coerce _ param)

theorem coerceArgs {args args' : List Value} (alike : List.Forall₂ (Value.Alike twins.hides) args args')
    (params : List ParamType) :
    twins.Runs (List.Forall₂ (Value.Alike twins.hides)) (LateBound.coerceArgs twins.first args params)
      (LateBound.coerceArgs twins.second args' params) := by
  have paired : List.Forall₂
      (fun entry entry' => Value.Alike twins.hides entry.1 entry'.1 ∧ entry.2 = entry'.2)
      (args.zip params) (args'.zip params) := by
    induction alike generalizing params with
    | nil => exact .nil
    | cons head _ inductionHypothesis =>
      cases params with
      | nil => exact .nil
      | cons param params => exact .cons ⟨head, rfl⟩ (inductionHypothesis params)
  refine Coupled.mapM (fun (value, param) (value', param') ⟨alike, same⟩ => ?_) paired
  subst same
  exact coerceArg alike param

/-! ## Calls -/

/-- A call of a member that does the same on the receivers, whatever it is given. -/
theorem invokeSame {handle : MethodHandle} (isOf : handle.Of twins.known) {receiver receiver' : Option Value}
    (alikeReceiver : Option.Rel (Value.Alike twins.hides) receiver receiver')
    (acts : ∀ passed passed', List.Forall₂ (Value.Alike twins.hides) passed passed' →
      Host.ActAlike twins.hides twins.ledger.places (Value.Alike twins.hides) (handle.member.run receiver passed)
        (handle.member.run receiver' passed'))
    {args args' : List Value} (alike : List.Forall₂ (Value.Alike twins.hides) args args') :
    twins.Attempts (Value.Alike twins.hides) (LateBound.invoke twins.first handle receiver args)
      (LateBound.invoke twins.second handle receiver' args') := by
  obtain ⟨type, isKnown, declaring, -⟩ := isOf
  refine Attempts.bind (.lift (coerceArgs alike handle.member.params)) fun coerced coerced' alike => ?_
  refine Attempts.bind (.lift (host ⟨rfl, rfl, alikeReceiver, alike⟩ (declaring ▸ twins.permitKnown isKnown)
    (acts _ _ alike))) fun ended ended' related => ?_
  match ended, ended', related with
  | .ok value, .ok value', alike => exact Attempts.pure alike
  | .error fault, .error _, ⟨rfl, placed⟩ =>
    refine Coupled.fail ⟨callFailure_alike alike handle fault, ?_⟩
    exact callFailure_span twins.ledger.placeless handle coerced placed

theorem invoke {handle : MethodHandle} (isOf : handle.Of twins.known) {receiver receiver' : Option Value}
    (alikeReceiver : Option.Rel (Value.AlikeInstances twins.hides) receiver receiver') {args args' : List Value}
    (alike : List.Forall₂ (Value.Alike twins.hides) args args') :
    twins.Attempts (Value.Alike twins.hides) (LateBound.invoke twins.first handle receiver args)
      (LateBound.invoke twins.second handle receiver' args') := by
  obtain ⟨type, isKnown, -, isMember⟩ := id isOf
  have isDiscreet : handle.member.Discreet twins.hides twins.ledger.places := by
    cases isMember with
    | inl isMethod => exact (twins.discreet isKnown).methods handle.member isMethod
    | inr isConstructor => exact (twins.discreet isKnown).constructors handle.member isConstructor
  exact invokeSame isOf (alike_receivers alikeReceiver) (fun _ _ alike => isDiscreet _ _ _ _ alikeReceiver alike) alike

theorem shape_of {args args' : List Value} (alike : List.Forall₂ (Value.Alike twins.hides) args args')
    (owner name : String) : CallShape.of owner name args = CallShape.of owner name args' := by
  have tags : args.map Value.tag = args'.map Value.tag := by
    induction alike with
    | nil => rfl
    | cons head _ inductionHypothesis => rw [List.map_cons, List.map_cons, head.tag_eq, inductionHypothesis]
  rw [CallShape.of, CallShape.of, tags]

theorem methodHandle {type : HostType} (isKnown : twins.known type) (name : String) {args args' : List Value}
    (alike : List.Forall₂ (Value.Alike twins.hides) args args') :
    twins.Attempts (Same (MethodHandle.Of twins.known))
      (LateBound.methodHandle twins.first type name args)
      (LateBound.methodHandle twins.second type name args') := by
  unfold LateBound.methodHandle
  rw [shape_of alike]
  exact Attempts.bindFound (findMember isKnown .method name args') (.fail rfl) fun _ isOf => .pure ⟨rfl, isOf⟩

theorem constructorHandle {type : HostType} (isKnown : twins.known type) {args args' : List Value}
    (alike : List.Forall₂ (Value.Alike twins.hides) args args') :
    twins.Attempts (Same (MethodHandle.Of twins.known))
      (LateBound.constructorHandle twins.first type args)
      (LateBound.constructorHandle twins.second type args') := by
  unfold LateBound.constructorHandle
  rw [shape_of alike]
  exact Attempts.bindFound (findMember isKnown .constructor constructorName args') (.fail rfl) fun _ isOf => .pure ⟨rfl, isOf⟩

theorem invokeStatic {type type' : HostType}
    (peers : Peers twins.first.admits twins.known type type') (name : String) {args args' : List Value}
    (alike : List.Forall₂ (Value.Alike twins.hides) args args') :
    twins.Attempts (Value.Alike twins.hides) (LateBound.invokeStatic twins.first type name args)
      (LateBound.invokeStatic twins.second type' name args') := by
  unfold LateBound.invokeStatic
  rw [← peers.names]
  refine Attempts.bind (checkAdmitted type.name) fun _ _ admitted => ?_
  obtain ⟨rfl, isKnown⟩ := peers.same admitted
  refine Attempts.bindSame (methodHandle isKnown name alike) fun handle isOf => ?_
  exact invoke isOf .none alike

theorem invokeInstance {receiver receiver' : Value}
    (alikeReceiver : Value.AlikeInstances twins.hides receiver receiver') (name : String) {args args' : List Value}
    (alike : List.Forall₂ (Value.Alike twins.hides) args args') :
    twins.Attempts (Value.Alike twins.hides) (LateBound.invokeInstance twins.first receiver name args)
      (LateBound.invokeInstance twins.second receiver' name args') := by
  refine Attempts.bindSame (runtimeType alikeReceiver.1.unwrapped) fun type isKnown => ?_
  refine Attempts.bindSame (methodHandle isKnown name alike) fun handle isOf => ?_
  exact invoke isOf (.some alikeReceiver.unwrapped) alike

theorem construct {type type' : HostType}
    (peers : Peers twins.first.admits twins.known type type') {args args' : List Value} (alike : List.Forall₂ (Value.Alike twins.hides) args args') :
    twins.Attempts (Value.Alike twins.hides) (LateBound.construct twins.first type args)
      (LateBound.construct twins.second type' args') := by
  unfold LateBound.construct
  rw [← peers.names]
  refine Attempts.bind (checkAdmitted type.name) fun _ _ admitted => ?_
  obtain ⟨rfl, isKnown⟩ := peers.same admitted
  refine Attempts.bindSame (constructorHandle isKnown alike) fun handle isOf => ?_
  exact invoke isOf .none alike

theorem callMember {target target' : Value} (alikeTarget : Value.Alike twins.hides target target')
    (name : String) {args args' : List Value}
    (alike : List.Forall₂ (Value.Alike twins.hides) args args') :
    twins.Attempts (Value.Alike twins.hides) (LateBound.callMember twins.first target name args)
      (LateBound.callMember twins.second target' name args') := by
  have alikeTarget := alikeTarget.unwrapped
  unfold LateBound.callMember
  split
  · next ref shape =>
    rw [shape] at alikeTarget
    obtain ⟨ref', shape', names⟩ := alikeTarget.exists_type
    simp only [shape', ← names]
    exact invokeStatic (twins.describeSame ref.name).1 name alike
  · next noType =>
    split
    · next ref shape =>
      rw [shape] at alikeTarget
      obtain ⟨ref', shape', -⟩ := alikeTarget.symm.exists_type
      exact absurd shape' (noType ref')
    · exact invokeInstance ⟨alikeTarget, target.tag_unwrapped.symm ▸ Value.tag_ne_type noType⟩ name alike

/-! ## Fields -/

theorem fieldHandle {type : HostType} (isKnown : twins.known type) (name : String) :
    twins.Attempts (Same (FieldHandle.Of twins.known)) (LateBound.fieldHandle twins.first type name)
      (LateBound.fieldHandle twins.second type name) := by
  exact Attempts.bindFound (findMember isKnown .field name []) (.fail rfl) fun _ isOf => .pure ⟨rfl, isOf⟩

theorem fieldOutcome {answers : α → β → Prop} (access : Access) (handle : FieldHandle) (name : String)
    {ended : Except Fault α} {ended' : Except Fault β}
    (related : Endings (Fault.SameAt twins.ledger.places) answers ended ended') :
    twins.Attempts answers (LateBound.fieldOutcome access handle name ended)
      (LateBound.fieldOutcome access handle name ended') := by
  match ended, ended', related with
  | .ok _, .ok _, answered => exact Attempts.pure answered
  | .error fault, .error _, ⟨rfl, _⟩ => cases fault <;> exact Attempts.fail rfl

def FieldOn (twins : Twins μ ν) (found found' : FieldHandle × Option Value) : Prop :=
  found.1 = found'.1 ∧ found.1.Of twins.known ∧ Option.Rel (Value.AlikeInstances twins.hides) found.2 found'.2

theorem reachField {answers : α → β → Prop} {target target' : Value}
    (alike : Value.Alike twins.hides target target') (name : String)
    {onType : TypeRef → FieldHandle → Attempt μ α} {onType' : TypeRef → FieldHandle → Attempt ν β}
    {onValue : Value → FieldHandle → Attempt μ α} {onValue' : Value → FieldHandle → Attempt ν β}
    (typed : ∀ ref ref' handle, ref.name = ref'.name → handle.Of twins.known →
      twins.Attempts answers (onType ref handle) (onType' ref' handle))
    (valued : ∀ value value' handle, Value.AlikeInstances twins.hides value value' → handle.Of twins.known →
      twins.Attempts answers (onValue value handle) (onValue' value' handle)) :
    twins.Attempts answers (LateBound.reachField twins.first target name onType onValue)
      (LateBound.reachField twins.second target' name onType' onValue') := by
  have alike := alike.unwrapped
  unfold LateBound.reachField
  split
  · next shape =>
    rw [shape] at alike
    simp only [alike.eq_of_isPlain trivial]
    exact Attempts.fail rfl
  · next ref shape =>
    rw [shape] at alike
    obtain ⟨ref', shape', names⟩ := alike.exists_type
    simp only [shape', ← names]
    refine Attempts.bind (checkAdmitted ref.name) fun _ _ admitted => ?_
    obtain ⟨same, isKnown⟩ := (twins.describeSame ref.name).2 admitted
    rw [← same]
    refine Attempts.bindSame (fieldHandle isKnown name) fun handle isOf => ?_
    exact typed ref ref' handle names isOf
  · next noNull noType =>
    split
    · next shape =>
      rw [shape] at alike
      exact absurd (alike.symm.eq_of_isPlain trivial) noNull
    · next ref shape =>
      rw [shape] at alike
      obtain ⟨ref', shape', -⟩ := alike.symm.exists_type
      exact absurd shape' (noType ref')
    · refine Attempts.bindSame (runtimeType alike) fun type isKnown => ?_
      refine Attempts.bindSame (fieldHandle isKnown name) fun handle isOf => ?_
      exact valued _ _ handle ⟨alike, target.tag_unwrapped.symm ▸ Value.tag_ne_type noType⟩ isOf

theorem readableField {target target' : Value} (alike : Value.Alike twins.hides target target')
    (name : String) :
    twins.Attempts twins.FieldOn (LateBound.readableField twins.first target name)
      (LateBound.readableField twins.second target' name) := by
  refine reachField alike name (fun ref ref' handle names isOf => ?_) fun value value' handle alike isOf => ?_
  · rw [names]
    split
    · exact Attempts.pure ⟨rfl, isOf, .none⟩
    · exact Attempts.fail rfl
  · exact Attempts.pure ⟨rfl, isOf, .some alike⟩

theorem readField {target target' : Value} (alike : Value.Alike twins.hides target target')
    (name : String) :
    twins.Attempts (Value.Alike twins.hides) (LateBound.readField twins.first target name)
      (LateBound.readField twins.second target' name) := by
  refine Attempts.bind (readableField alike name) fun (handle, receiver) (_, receiver') found => ?_
  obtain ⟨rfl, ⟨type, isKnown, declaring, isField⟩, alike⟩ := found
  have isDiscreet := (twins.discreet isKnown).fields handle.field isField
  refine Attempts.bind (.lift (host ⟨rfl, rfl, alike_receivers alike, .nil⟩ (declaring ▸ twins.permitKnown isKnown)
    (isDiscreet.read receiver receiver' alike))) fun ended ended' related => ?_
  exact fieldOutcome .reading handle name related

theorem writableField {target target' : Value} (alike : Value.Alike twins.hides target target')
    (name : String) :
    twins.Attempts twins.FieldOn (LateBound.writableField twins.first target name)
      (LateBound.writableField twins.second target' name) := by
  refine reachField alike name (fun ref ref' handle names isOf => ?_) fun value value' handle alike isOf => ?_
  · rw [names]
    split
    · exact Attempts.pure ⟨rfl, isOf, .none⟩
    · exact Attempts.fail rfl
  · split
    · exact Attempts.fail rfl
    · exact Attempts.pure ⟨rfl, isOf, .some alike⟩

theorem writeField {target target' : Value} (alike : Value.Alike twins.hides target target')
    (name : String) {written written' : Value} (alikeWritten : Value.Alike twins.hides written written') :
    twins.Attempts Eq (LateBound.writeField twins.first target name written)
      (LateBound.writeField twins.second target' name written') := by
  refine Attempts.bind (writableField alike name) fun (handle, receiver) (_, receiver') found => ?_
  obtain ⟨rfl, ⟨type, isKnown, declaring, isField⟩, alike⟩ := found
  have isDiscreet := (twins.discreet isKnown).fields handle.field isField
  dsimp only
  split
  · next setter isSetter _ =>
    refine Attempts.bind (.lift (coerceArg alikeWritten handle.field.type)) fun value value' alikeValue => ?_
    refine Attempts.bind (.lift (host ⟨rfl, rfl, alike_receivers alike, .cons alikeValue .nil⟩
      (declaring ▸ twins.permitKnown isKnown)
      (isDiscreet.write setter isSetter receiver receiver' value value' alike alikeValue)))
      fun ended ended' related => ?_
    exact fieldOutcome .writing handle name related
  · exact Attempts.fail rfl

end Twins

end LateBound
