import LateBound.Proofs.Importing
import LateBound.Proofs.Passing

/-!
# Which writes reach a setter

A field is written when its target's type may be reached, the name stands for a field there that is neither final nor
without a setter, and the field is static just when the target is a type. Every one of these is looked at before the
setter is run, so that a write that is refused has changed nothing.

A type that is the target need only be admitted: the value carries its description, whether the provider knows it or
not.
-/

namespace LateBound

/-! ## What a name stands for -/

theorem Gate.Coherent.unrivalled {gate : Gate} (coherent : gate.Coherent) (named : gate.Named) {type : HostType}
    (describes : gate.Describes type) : gate.Unrivalled type := by
  intro other found
  have isOther : gate.describe other.name = other := coherent.found _ _ found
  rw [named _ _ found] at isOther
  exact isOther.symm.trans describes

namespace Gate

/-- The visible parent chain of a type declares a field under a name at a level, as far up as chains are followed. -/
def Declares (gate : Gate) (owner : HostType) (name : String) (level : ℕ) (handle : FieldHandle) : Prop :=
  level < maxChain ∧ ∃ type field, gate.ancestor? owner level = some type ∧ type.field? name = some field ∧
    ⟨type.name, field⟩ = handle

/-- The field that a name stands for: the nearest public one, or the nearest hidden one if none is public. -/
structure Designates (gate : Gate) (owner : HostType) (name : String) (level : ℕ) (handle : FieldHandle) : Prop where
  declared : gate.Declares owner name level handle
  nearest : ∀ other handle', gate.Declares owner name other handle' →
    handle'.field.isPublic = handle.field.isPublic → level ≤ other
  publicFirst : ∀ other handle', gate.Declares owner name other handle' → handle'.field.isPublic = true →
    handle.field.isPublic = true

variable {gate : Gate} {owner : HostType} {name : String}

theorem Declares.functional {level : ℕ} {handle handle' : FieldHandle} (declared : gate.Declares owner name level handle)
    (declared' : gate.Declares owner name level handle') : handle = handle' := by
  obtain ⟨-, type, field, isType, isField, rfl⟩ := declared
  obtain ⟨-, type', field', isType', isField', rfl⟩ := declared'
  cases isType.symm.trans isType'
  cases isField.symm.trans isField'
  rfl

theorem Designates.functional {level level' : ℕ} {handle handle' : FieldHandle}
    (designated : gate.Designates owner name level handle) (designated' : gate.Designates owner name level' handle') :
    handle = handle' := by
  have alike : handle.field.isPublic = handle'.field.isPublic :=
    Bool.eq_iff_iff.2 ⟨designated'.publicFirst _ _ designated.declared, designated.publicFirst _ _ designated'.declared⟩
  have same : level = level' :=
    (designated.nearest _ _ designated'.declared alike.symm).antisymm (designated'.nearest _ _ designated.declared alike)
  subst same
  exact designated.declared.functional designated'.declared

end Gate

section

variable {gate : Gate} (named : gate.Named) {owner : HostType} (unrivalled : gate.Unrivalled owner) (name : String)

include named unrivalled

end

/-! ## What may be written -/

namespace Gate

/-- The type whose fields a target has, and the receiver they are written on: an admitted type has its own static
fields, any other value those of the visible type that owns its members. -/
inductive Holds (gate : Gate) (target : Value) : HostType → Option Value → Prop
  | type {ref : TypeRef} : target.unwrapped = .type ref → gate.admits ref.name = true →
      Holds gate target (gate.describe ref.name) none
  | value {name : String} {owner : HostType} : (∀ ref, target.unwrapped ≠ .type ref) →
      target.unwrapped.runtimeTypeName? = some name → gate.lookup name = .found owner →
      Holds gate target owner (some target.unwrapped)

/-- A name stands for a field of a target, which is static just when the target is a type. -/
structure Reaches (gate : Gate) (target : Value) (name : String) (handle : FieldHandle) (receiver : Option Value) :
    Prop where
  designated : ∃ owner level, gate.Holds target owner receiver ∧ gate.Designates owner name level handle
  static : handle.field.isStatic = true ↔ ∃ ref, target.unwrapped = .type ref

variable {gate : Gate} {target : Value} {name : String}

theorem Holds.functional {owner owner' : HostType} {receiver receiver' : Option Value}
    (holds : gate.Holds target owner receiver) (holds' : gate.Holds target owner' receiver') :
    owner = owner' ∧ receiver = receiver' := by
  cases holds with
  | type isType =>
    cases holds' with
    | type isType' =>
      cases isType.symm.trans isType'
      exact ⟨rfl, rfl⟩
    | value noType => exact absurd isType (noType _)
  | value noType isName shown =>
    cases holds' with
    | type isType => exact absurd isType (noType _)
    | value _ isName' shown' =>
      cases isName.symm.trans isName'
      cases shown.symm.trans shown'
      exact ⟨rfl, rfl⟩

theorem Holds.describes (coherent : gate.Coherent) {owner : HostType} {receiver : Option Value}
    (holds : gate.Holds target owner receiver) : gate.Describes owner := by
  cases holds with
  | type => exact coherent.carried _
  | value _ _ shown => exact coherent.found _ _ (Gate.find?_of_lookup (Gate.lookup_eq_found.1 shown)).1

theorem Reaches.functional {handle handle' : FieldHandle} {receiver receiver' : Option Value}
    (reached : gate.Reaches target name handle receiver) (reached' : gate.Reaches target name handle' receiver') :
    handle = handle' ∧ receiver = receiver' := by
  obtain ⟨owner, level, holds, designated⟩ := reached.designated
  obtain ⟨owner', level', holds', designated'⟩ := reached'.designated
  obtain ⟨rfl, rfl⟩ := holds.functional holds'
  exact ⟨designated.functional designated', rfl⟩

end Gate

/-! ## What a write does -/

section

variable {gate : Gate}

theorem run_fieldHandle (gate : Gate) (type : HostType) (name : String) (machine : Machine Unit) :
    (fieldHandle gate type name).outcome.run machine =
      (match MemberSort.field.found gate type (.of type.name name []) with
        | some handle => .ok handle
        | none => .error (.of (.noField name type.name)), machine) := by
  have searched : (Attempt.lift (Run.remember (MemberSort.field.find gate type
      (.of type.name name [])))).outcome.run machine =
        (.ok (MemberSort.field.found gate type (.of type.name name [])), machine) := rfl
  refine (Attempt.run_bind_of_ok searched).trans ?_
  cases MemberSort.field.found gate type (.of type.name name []) <;> rfl

theorem reachField_type {α : Type} {target : Value} {ref : TypeRef} (isType : target.unwrapped = .type ref) (name : String)
    (onType : TypeRef → FieldHandle → Attempt Unit α) (onValue : Value → FieldHandle → Attempt Unit α) :
    reachField gate target name onType onValue = (do
      checkAdmitted gate ref.name
      let handle ← fieldHandle gate (gate.describe ref.name) name
      onType ref handle) := by
  rw [reachField, isType]

theorem run_checkAdmitted (gate : Gate) (name : String) (machine : Machine Unit) :
    (checkAdmitted gate name).outcome.run machine =
      (if gate.admits name then .ok () else .error (.of (.denied name)), machine) := by
  unfold checkAdmitted
  split <;> rfl

theorem run_runtimeType (gate : Gate) {value : Value} {name : String} (isName : value.runtimeTypeName? = some name)
    (machine : Machine Unit) :
    (runtimeType gate value).outcome.run machine = ((gate.lookup name).required name, machine) := by
  rw [runtimeType, isName]
  exact run_requireType gate name machine

variable (named : gate.Named) (coherent : gate.Coherent)

include named coherent

end

/-! ### Running the setter -/

def setterEnding (setter : Option Value → Value → Host Unit) (receiver : Option Value) (passed : Value)
    (store : Store) : Except Fault Unit × Store :=
  (setter receiver passed).run.run store

structure Written {μ : Type} (handle : FieldHandle) (setter : Option Value → Value → Host Unit)
    (receiver : Option Value) (passed : Value) (before behind : Machine μ) (answer : Except Failure Unit) : Prop where
  runs : behind.runs = ⟨handle.declaring, .setter handle.field.name, receiver, [passed]⟩ :: before.runs
  store : behind.store = (setterEnding setter receiver passed before.store).2
  answered : answer = .ok () ↔ (setterEnding setter receiver passed before.store).1 = .ok ()

/-- Nothing was run or changed, and there is a failure, which for a null target is not reported. -/
structure Refused {μ : Type} (target : Value) (before behind : Machine μ) (answer : Except Failure Unit) : Prop where
  runs : behind.runs = before.runs
  store : behind.store = before.store
  failed : ∃ failure, answer = .error failure ∧
    (target.unwrapped = .null → failure.kind = .nothing ∧ failure.isReportable = false)

section

variable {gate : Gate} (named : gate.Named) (coherent : gate.Coherent) {target : Value} {name : String} (written : Value)
  (machine : Machine Unit)

include named coherent

end

/-! ## Writes on an engine -/

section

variable {μ ν : Type} {target : Value} {before behind : Machine μ} {before' behind' : Machine ν}
  {answer : Except Failure Unit} (same : before.store = before'.store ∧ before.runs = before'.runs)
  (sameBehind : behind.store = behind'.store ∧ behind.runs = behind'.runs)

include same sameBehind

theorem Written.transfer {handle : FieldHandle} {setter : Option Value → Value → Host Unit} {receiver : Option Value}
    {passed : Value} (written : Written handle setter receiver passed before' behind' answer) :
    Written handle setter receiver passed before behind answer := by
  obtain ⟨runs, store, answered⟩ := written
  rw [← same.1] at store answered
  exact ⟨by rw [sameBehind.2, runs, same.2], by rw [sameBehind.1, store], answered⟩

theorem Refused.transfer (refused : Refused target before' behind' answer) : Refused target before behind answer where
  runs := by rw [sameBehind.2, refused.runs, same.2]
  store := by rw [sameBehind.1, refused.store, same.1]
  failed := refused.failed

end

def dial : HostType where
  name := "Dial"
  declaredParent? := none
  constants? := none
  constructors := []
  methods := []
  fields := [⟨"level", .primitive .int, false, false, true, fun _ => pure .null, some fun _ _ => pure ()⟩,
    ⟨"limit", .primitive .int, false, true, true, fun _ => pure .null, some fun _ _ => pure ()⟩]

/-- A storey of a shaft: a type whose parent is the next one, with a field where the chain is over. -/
def storey (place : ℕ) : HostType :=
  { Callee.level place with
    methods := []
    fields := if place = maxChain then
      [⟨"f", .any, false, false, true, fun _ => pure .null, some fun _ _ => pure ()⟩] else [] }

end LateBound
