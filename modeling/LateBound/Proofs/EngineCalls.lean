import LateBound.Proofs.FieldWrites
import LateBound.Proofs.Settling

/-!
# Members reached on an engine

What a call on a value or on a type answers, and what a static field holds, depends on the member alone that a search
finds which remembers nothing. Whatever an engine has come to remember, it answers the same, and it leaves the store of
the host as the member leaves it.
-/

namespace LateBound

/-! ## Arguments and outcomes -/

theorem passed_hold (gate : Gate) (kind : Primitive) (payload : kind.Payload) :
    gate.passed (kind.hold payload) (.primitive kind) = kind.hold payload :=
  coerce_hold _ kind payload

theorem Gate.passed_of_held (gate : Gate) {value : Value} {kind : Primitive} {payload : kind.Payload}
    (isHeld : value.unwrapped = kind.hold payload) :
    value.tag = .primitive kind ∧ gate.passed value (.primitive kind) = kind.hold payload := by
  have isKind : value.tag = .primitive kind := by rw [← Value.tag_unwrapped, isHeld, kind.tag_hold]
  exact ⟨isKind, (coerce_of_tag _ isKind).trans isHeld⟩

theorem passed_int (gate : Gate) (i : Int32) : gate.passed (.int i) (.primitive .int) = .int i :=
  passed_hold gate .int i

theorem Host.run_ofOutcome {α : Type} (outcome : Except Fault α) (store : Store) :
    (Host.ofOutcome outcome).run.run store = (outcome, store) := by
  cases outcome <;> rfl

theorem Host.run_return_ofOutcome {α : Type} (outcome : Except Fault α) (finish : α → Value) (store : Store) :
    (do return finish (← Host.ofOutcome outcome) : Host Value).run.run store = (outcome.map finish, store) := by
  cases outcome <;> rfl

/-! ## Searches that end on the owner -/

theorem exists_ancestors_eq (gate : Gate) (owner : HostType) :
    ∃ above, answer (ancestors gate owner) = owner :: above :=
  ⟨_, rfl⟩

theorem Callee.found_of_strict {gate : Gate} (named : gate.Named) {owner : HostType} {name : String} {member : Member}
    {others : List Member} (isFirst : (method name).members owner = member :: others)
    (isPublic : member.isPublic = true) {args : List Value}
    (accepted : gate.Accepts .strict member (args.map Value.tag)) :
    (method name).found gate owner args = some ⟨owner.name, member⟩ := by
  obtain ⟨above, isChain⟩ := exists_ancestors_eq gate owner
  have fits := (answer_accepts named .strict member (args.map Value.tag)).2 accepted
  have searched : (method name).found gate owner args = answer (searchMember gate
      ((answer (ancestors gate owner)).map fun type => (type, (method name).members type)) (args.map Value.tag)) := rfl
  rw [searched, isChain, List.map_cons, isFirst]
  simp [searchMember, searchMode, firstMember, isPublic, fits]

theorem eq_root_of_mem_above {gate : Gate} {owner root : HostType} (isRoot : owner.parent? = some root.name)
    (shown : ∀ type, gate.lookup root.name = .found type → type = root) (ends : root.parent? = none)
    {above : List HostType} (isChain : answer (ancestors gate owner) = owner :: above) :
    ∀ type ∈ above, type = root := by
  intro type isAbove
  obtain ⟨level, isThere⟩ := List.mem_iff_getElem?.1 isAbove
  have passed : (answer (ancestors gate owner))[level + 1]? = some type := by
    rw [isChain, List.getElem?_cons_succ, isThere]
  obtain ⟨isAncestor, -⟩ := ancestor?_of_ancestors passed
  obtain ⟨parent, isParent, isAncestor⟩ := Option.bind_eq_some_iff.1 isAncestor
  rw [Gate.parent?, isRoot, Option.bind_some] at isParent
  cases looked : gate.lookup root.name with
  | notFound | denied =>
    rw [looked] at isParent
    cases isParent
  | found =>
    rw [looked] at isParent
    cases isParent
    obtain rfl := shown _ looked
    cases level with
    | zero => exact (Option.some.inj isAncestor).symm
    | succ level =>
      obtain ⟨_, hasParent, -⟩ := Option.bind_eq_some_iff.1 isAncestor
      rw [Gate.parent?, ends] at hasParent
      cases hasParent

section

variable {gate : Gate} {owner : HostType}

theorem answer_firstMember_own {members : List Member} (arePublic : ∀ member ∈ members, member.isPublic = true)
    {above : List (HostType × List Member)} (noneAbove : ∀ entry ∈ above, entry.2 = []) (mode : MatchMode)
    (signature : List Tag) (publicOnly : Bool) :
    answer (firstMember ((owner, members) :: above) (fun member => member.accepts mode (isSubtype gate) signature)
        publicOnly) =
      (members.find? fun member => answer (member.accepts mode (isSubtype gate) signature)).map
        (MethodHandle.mk owner.name) := by
  have counts : (members.find? fun member => answer (if publicOnly && !member.isPublic then pure false
        else member.accepts mode (isSubtype gate) signature)) =
      members.find? fun member => answer (member.accepts mode (isSubtype gate) signature) := by
    refine List.find?_congr fun member isMember => ?_
    rw [arePublic member isMember, Bool.not_true, Bool.and_false]
    rfl
  have vain : (above.findSome? fun entry => (entry.2.find? fun member =>
      answer (if publicOnly && !member.isPublic then pure false
        else member.accepts mode (isSubtype gate) signature)).map (MethodHandle.mk entry.1.name)) = none := by
    refine List.findSome?_eq_none_iff.2 fun entry isEntry => ?_
    rw [noneAbove entry isEntry]
    rfl
  unfold firstMember
  simp only [answer_findSomeM?, answer_bind, answer_findM?, answer_pure, List.findSome?_cons, counts]
  split
  · next isFound => rw [isFound]
  · next isNone => rw [isNone, vain]

/-- Of public overloads that one type alone declares the first is called that takes the arguments as they are, and where
there is none, the first that takes them after conversion. -/
theorem Callee.found_overload {name : String}
    (arePublic : ∀ member ∈ (method name).members owner, member.isPublic = true) {above : List HostType}
    (isChain : answer (ancestors gate owner) = owner :: above)
    (noneAbove : ∀ type ∈ above, (method name).members type = []) (args : List Value) :
    let accepting (mode : MatchMode) := ((method name).members owner).find? fun member =>
      answer (member.accepts mode (isSubtype gate) (args.map Value.tag))
    (method name).found gate owner args =
      ((accepting .strict).or (accepting .lenient)).map (MethodHandle.mk owner.name) := by
  intro accepting
  have searched : (method name).found gate owner args = answer (searchMember gate
      ((answer (ancestors gate owner)).map fun type => (type, (method name).members type)) (args.map Value.tag)) := rfl
  have emptyAbove : ∀ entry ∈ above.map fun type => (type, (method name).members type), entry.2 = [] := by
    intro entry isEntry
    obtain ⟨type, isAbove, rfl⟩ := List.mem_map.1 isEntry
    exact noneAbove type isAbove
  -- The walk over all members finds nothing that the walk over the public ones has not found.
  have inMode (mode : MatchMode) : answer (searchMode gate
      ((owner, (method name).members owner) :: above.map fun type => (type, (method name).members type))
      (args.map Value.tag) mode) = (accepting mode).map (MethodHandle.mk owner.name) := by
    simp only [searchMode, answer_bind, answer_firstMember_own arePublic emptyAbove]
    cases isFound : accepting mode with
    | none =>
      change List.find? _ _ = none at isFound
      rw [isFound]
      exact (answer_firstMember_own arePublic emptyAbove ..).trans (by rw [isFound])
    | some member =>
      change List.find? _ _ = some member at isFound
      rw [isFound]
      rfl
  rw [searched, isChain, List.map_cons, searchMember, answer_bind, inMode]
  cases accepting .strict with
  | none => exact inMode .lenient
  | some member => rfl

end

theorem found_field_of_own (gate : Gate) {owner : HostType} {name : String} {field : Field}
    (isField : owner.field? name = some field) (isPublic : field.isPublic = true) :
    MemberSort.field.found gate owner (.of owner.name name []) = some ⟨owner.name, field⟩ := by
  obtain ⟨above, isChain⟩ := exists_ancestors_eq gate owner
  have searched : MemberSort.field.found gate owner (.of owner.name name []) =
      fieldIn? (answer (ancestors gate owner)) name := rfl
  rw [searched, isChain]
  simp [fieldIn?, isField, isPublic]

/-! ## Attempts behind any operations -/

section

variable {registry : Registry} {policy : AllowList} (settings : Settings) (store : Store) (operations : List Operation)

theorem Engine.attempt_after (act : {μ : Type} → [Memory μ] → Gate → Attempt μ Value)
    (attempts : ∀ {μ ν : Type} [Memory μ] [Memory ν] {twins : Twins μ ν},
      twins.Attempts (Value.Alike twins.hides) (act twins.first) (act twins.second))
    (ending : Store → Except Failure Value × Store)
    (ran : ∀ machine : Machine Unit, ∃ behind, behind.store = (ending machine.store).2 ∧
      (act (Engine.gateOf registry policy)).outcome.run machine = ((ending machine.store).1, behind)) :
    let engine := (Engine.cached (Engine.gateOf registry policy) settings store).after operations
    let ended := (Engine.attempt (μ := Caches) fun gate => act gate).run engine
    ended.1 = (ending engine.machine.store).1 ∧ ended.2.machine.store = (ending engine.machine.store).2 := by
  intro engine ended
  have coherent : (Engine.gateOf registry policy).Coherent := Engine.coherent_gateOf registry policy
  let fresh := (Engine.start (Engine.gateOf registry policy) settings () store).after operations
  have engines : coherent.twins.Engines engine fresh := coherent.engines_after settings store operations
  have isGate : fresh.gate = Engine.gateOf registry policy := engines.second
  have sameStore := (coherent.seen_of_engines engines).1
  obtain ⟨answered, after⟩ := Twins.attempt attempts engine fresh engines
  change Endings Eq (Value.Alike fun _ => false) _ _ at answered
  rw [Value.alike_none] at answered
  obtain ⟨behind, isStore, ends⟩ := ran fresh.machine
  rw [← sameStore] at isStore ends
  constructor
  · refine (eq_of_endings answered).trans ?_
    show ((act fresh.gate).outcome.run fresh.machine).1 = _
    rw [isGate, ends]
  · refine (coherent.seen_of_engines after).1.trans ?_
    show ((act fresh.gate).outcome.run fresh.machine).2.store = _
    rw [isGate, ends]
    exact isStore

end

/-! ## Members of types and of values -/

def Engine.answer (engine : Engine Caches) (target : Value) (name : String) (args : List Value) :
    Except Failure Value :=
  ((Engine.callMethod target name args).run engine).1

theorem run_callMember_of_found {gate : Gate} {owner : HostType} (found : gate.lookup owner.name = .found owner)
    {receiver : Value} (plain : receiver.unwrapped = receiver) (noType : ∀ ref, receiver ≠ .type ref)
    (isOwner : receiver.runtimeTypeName? = some owner.name) {name : String} {args : List Value} {handle : MethodHandle}
    (isFound : (Callee.method name).found gate owner args = some handle) (machine : Machine Unit) :
    let passed := args.zipWith gate.passed handle.member.params
    (callMember gate receiver name args).outcome.run machine =
      ((handle.member.ending (some receiver) passed machine.store).1.mapError (callFailure handle passed),
        machine.behind handle (some receiver) passed) := by
  intro passed
  have onValue : (callMember gate receiver name args : Attempt Unit Value) =
      invokeInstance gate receiver name args := by
    unfold callMember
    rw [plain]
    split
    · next ref => exact absurd rfl (noType ref)
    · rfl
  have isType := run_runtimeType gate isOwner machine
  rw [found] at isType
  rw [onValue, Callee.invokeInstance_eq, plain]
  refine (Attempt.run_bind_of_ok isType).trans ?_
  rw [Callee.run_call _ _ _ _ _ isFound]
  exact run_invoke gate handle (some receiver) args machine

theorem run_callMember_type {gate : Gate} {owner : HostType} (describes : gate.Describes owner)
    (admitted : gate.admits owner.name = true)
    {name : String} {args : List Value} {handle : MethodHandle}
    (isFound : (Callee.method name).found gate owner args = some handle) (machine : Machine Unit) :
    let passed := args.zipWith gate.passed handle.member.params
    (callMember gate (.type owner.ref) name args).outcome.run machine =
      ((handle.member.ending none passed machine.store).1.mapError (callFailure handle passed),
        machine.behind handle none passed) := by
  intro passed
  have admission := run_checkAdmitted gate owner.name machine
  rw [admitted] at admission
  have isStatic : (callMember gate (.type owner.ref) name args : Attempt Unit Value) =
      invokeStatic gate (gate.describe owner.name) name args := rfl
  rw [isStatic, describes, Callee.invokeStatic_eq]
  refine (Attempt.run_bind_of_ok admission).trans ?_
  rw [Callee.run_call _ _ _ _ _ isFound]
  exact run_invoke gate handle none args machine

theorem run_readField_type {gate : Gate} {owner : HostType} (describes : gate.Describes owner)
    (admitted : gate.admits owner.name = true)
    {name : String} {field : Field} (isField : owner.field? name = some field) (isPublic : field.isPublic = true)
    (isStatic : field.isStatic = true) {value : Value} (holds : field.read none = pure value) (machine : Machine Unit) :
    ∃ behind, behind.store = machine.store ∧
      (readField gate (.type owner.ref) name).outcome.run machine = (.ok value, behind) := by
  have admission := run_checkAdmitted gate owner.ref.name machine
  have looked := run_fieldHandle gate owner name machine
  rw [show gate.admits owner.ref.name = true from admitted] at admission
  rw [found_field_of_own gate isField isPublic] at looked
  have reached : (readableField gate (.type owner.ref) name).outcome.run machine =
      (.ok (⟨owner.name, field⟩, none), machine) := by
    have isType : (Value.type owner.ref).unwrapped = .type owner.ref := rfl
    rw [readableField, reachField_type isType]
    refine (Attempt.run_bind_of_ok admission).trans ?_
    rw [show gate.describe owner.ref.name = owner from describes]
    refine (Attempt.run_bind_of_ok looked).trans ?_
    rw [if_pos isStatic]
    rfl
  have isRead : (Attempt.lift (FieldHandle.read ⟨owner.name, field⟩ none)).outcome.run machine =
      (.ok (.ok value), { machine with runs := ⟨owner.name, .getter field.name, none, []⟩ :: machine.runs }) := by
    rw [FieldHandle.read, holds]
    rfl
  refine ⟨_, ?_, (Attempt.run_bind_of_ok reached).trans (Attempt.run_bind_of_ok isRead)⟩
  rfl

def Engine.brought (engine : Engine Caches) (value : Value) (param : ParamType) : Value :=
  ((Engine.run fun gate => coerceArg gate value param).run engine).1

def StaticOutcome (gate : Gate) (owner : HostType) (name : String) (args : List Value)
    (outcome : Except Fault Value) : Prop :=
  ∃ handle, (Callee.method name).found gate owner args = some handle ∧
    ∀ store, handle.member.ending none (args.zipWith gate.passed handle.member.params) store = (outcome, store)

section

variable {registry : Registry} {policy : AllowList} {owner : HostType}

theorem describes_of_shown (shown : (Engine.gateOf registry policy).lookup owner.name = .found owner) :
    (Engine.gateOf registry policy).Describes owner :=
  Engine.describe_of_found (Gate.find?_of_lookup (congrArg Lookup.type? shown)).1

theorem admits_of_shown (shown : (Engine.gateOf registry policy).lookup owner.name = .found owner) :
    (Engine.gateOf registry policy).admits owner.name = true :=
  (Gate.find?_of_lookup (congrArg Lookup.type? shown)).2

variable (shown : (Engine.gateOf registry policy).lookup owner.name = .found owner) (settings : Settings) (store : Store)
  (operations : List Operation)

include shown

/-- A method that is found on the type of a plain value is run on what is passed for the arguments, whatever the engine
remembers. -/
theorem callMethod_of_found {receiver : Value} (plain : receiver.unwrapped = receiver)
    (noType : ∀ ref, receiver ≠ .type ref) (isOwner : receiver.runtimeTypeName? = some owner.name) {name : String}
    {args : List Value} {handle : MethodHandle}
    (isFound : (Callee.method name).found (Engine.gateOf registry policy) owner args = some handle) :
    let gate := Engine.gateOf registry policy
    let engine := (Engine.cached gate settings store).after operations
    let passed := args.zipWith gate.passed handle.member.params
    let ended := handle.member.ending (some receiver) passed engine.machine.store
    ((Engine.callMethod receiver name args).run engine).1 = ended.1.mapError (callFailure handle passed) ∧
      ((Engine.callMethod receiver name args).run engine).2.machine.store = ended.2 := by
  intro gate engine passed ended
  exact Engine.attempt_after settings store operations (fun gate => callMember gate receiver name args)
    (Twins.callMember (.refl receiver) name (List.forall₂_same.2 fun value _ => .refl value))
    (fun store => ((handle.member.ending (some receiver) passed store).1.mapError (callFailure handle passed),
      (handle.member.ending (some receiver) passed store).2))
    fun machine => ⟨_, rfl, run_callMember_of_found shown plain noType isOwner isFound machine⟩

theorem callStatic_of_found {name : String} {args : List Value} {handle : MethodHandle}
    (isFound : (Callee.method name).found (Engine.gateOf registry policy) owner args = some handle) :
    let gate := Engine.gateOf registry policy
    let engine := (Engine.cached gate settings store).after operations
    let passed := args.zipWith gate.passed handle.member.params
    let ended := handle.member.ending none passed engine.machine.store
    ((Engine.callMethod (.type owner.ref) name args).run engine).1 = ended.1.mapError (callFailure handle passed) ∧
      ((Engine.callMethod (.type owner.ref) name args).run engine).2.machine.store = ended.2 := by
  intro gate engine passed ended
  exact Engine.attempt_after settings store operations (fun gate => callMember gate (.type owner.ref) name args)
    (Twins.callMember (.refl _) name (List.forall₂_same.2 fun value _ => .refl value))
    (fun store => ((handle.member.ending none passed store).1.mapError (callFailure handle passed),
      (handle.member.ending none passed store).2))
    fun machine => ⟨_, rfl, run_callMember_type (describes_of_shown shown) (admits_of_shown shown) isFound machine⟩

theorem answer_of_found {receiver : Value} (plain : receiver.unwrapped = receiver)
    (noType : ∀ ref, receiver ≠ .type ref) (isOwner : receiver.runtimeTypeName? = some owner.name) {name : String}
    {args : List Value} {handle : MethodHandle}
    (isFound : (Callee.method name).found (Engine.gateOf registry policy) owner args = some handle)
    {outcome : Except Fault Value}
    (ends : ∀ store, handle.member.ending (some receiver)
      (args.zipWith (Engine.gateOf registry policy).passed handle.member.params) store = (outcome, store)) :
    ((Engine.cached (Engine.gateOf registry policy) settings store).after operations).answer receiver name args =
      outcome.mapError
        (callFailure handle (args.zipWith (Engine.gateOf registry policy).passed handle.member.params)) := by
  have answered := (callMethod_of_found shown settings store operations plain noType isOwner isFound).1
  rw [ends] at answered
  exact answered

theorem answer_type_of_ok {name : String} {args : List Value} {value : Value}
    (isOutcome : StaticOutcome (Engine.gateOf registry policy) owner name args (.ok value)) :
    ((Engine.cached (Engine.gateOf registry policy) settings store).after operations).answer (.type owner.ref) name
      args = .ok value := by
  obtain ⟨handle, isFound, ends⟩ := isOutcome
  have answered := (callStatic_of_found shown settings store operations isFound).1
  rw [ends] at answered
  exact answered

theorem getField_of_holds {name : String} {field : Field} (isField : owner.field? name = some field)
    (isPublic : field.isPublic = true) (isStatic : field.isStatic = true) {value : Value}
    (holds : field.read none = pure value) :
    ((Engine.getField (.type owner.ref) name).run
      ((Engine.cached (Engine.gateOf registry policy) settings store).after operations)).1 = .ok value :=
  (Engine.attempt_after settings store operations (fun gate => readField gate (.type owner.ref) name)
    (Twins.readField (.refl _) name) (fun store => (.ok value, store))
    fun machine => run_readField_type (describes_of_shown shown) (admits_of_shown shown) isField isPublic isStatic holds
      machine).1

omit shown

theorem brought_after (value : Value) (param : ParamType) :
    ((Engine.cached (Engine.gateOf registry policy) settings store).after operations).brought value param =
      (Engine.gateOf registry policy).passed value param := by
  have coherent : (Engine.gateOf registry policy).Coherent := Engine.coherent_gateOf registry policy
  have engines := coherent.engines_after settings store operations
  let act {μ : Type} [Memory μ] (gate : Gate) : Run μ Value := coerceArg gate value param
  have runs : coherent.twins.Runs (Value.Alike fun _ => false) (act coherent.twins.first) (act coherent.twins.second) :=
    Twins.coerceArg (.refl value) param
  obtain ⟨coerced, -⟩ := Twins.engineRun runs _ _ engines
  rw [Value.alike_none] at coerced
  refine coerced.trans ?_
  show ((coerceArg _ value param).run _).1 = _
  rw [engines.second, run_coerceArg]
  rfl

end

end LateBound
