import LateBound.Machine
import LateBound.Proofs.Veil

/-!
# Members that are discreet

A member is discreet when what it does depends on a type that `hides` names by its name alone: on values
and stores that differ at most behind such names it does the same, and its results differ at most behind
them. With nothing hidden every member is.

A type that is used as a value has static members only, so nothing is asked of a member that is run on one.
-/

namespace LateBound

variable {hides : String → Bool} {places : Option Span → Prop}

theorem optionRel_eq {α : Type} : Option.Rel (Eq : α → α → Prop) = Eq := by
  funext first second
  cases first <;> cases second <;> simp

/-! ## Runs of members -/

/-- The runs are of one member, on values that differ at most in what lies behind hidden names. -/
structure HostRun.Alike (hides : String → Bool) (first second : HostRun) : Prop where
  declaring : first.declaring = second.declaring
  part : first.part = second.part
  receiver : Option.Rel (Value.Alike hides) first.receiver second.receiver
  args : List.Forall₂ (Value.Alike hides) first.args second.args

theorem HostRun.alike_none : HostRun.Alike (fun _ => false) = (Eq : HostRun → HostRun → Prop) := by
  funext first second
  obtain ⟨declaring, part, receiver, args⟩ := first
  obtain ⟨declaring', part', receiver', args'⟩ := second
  simp only [HostRun.mk.injEq, eq_iff_iff]
  refine ⟨fun alike => ?_, fun ⟨sameType, samePart, sameReceiver, sameArgs⟩ => ?_⟩
  · obtain ⟨sameType, samePart, receiver, args⟩ := alike
    rw [Value.alike_none] at receiver args
    exact ⟨sameType, samePart, optionRel_eq ▸ receiver, List.forall₂_eq_eq_eq ▸ args⟩
  · subst sameType samePart sameReceiver sameArgs
    refine ⟨rfl, rfl, ?_, ?_⟩
    · rw [Value.alike_none, optionRel_eq]
    · rw [Value.alike_none, List.forall₂_eq_eq_eq]

/-! ## Actions of the host -/

def Fault.span? : Fault → Option Span
  | raised _ _ span => span
  | error _ | panic _ => none

/-- The faults are the same, and at a place that `places` allows. -/
def Fault.SameAt (places : Option Span → Prop) (first second : Fault) : Prop :=
  first = second ∧ places first.span?

/-- From alike stores the two actions come to alike stores and to the same fault or to related
answers. -/
def Host.ActAlike {α : Type} (hides : String → Bool) (places : Option Span → Prop)
    (answers : α → α → Prop) (first second : Host α) : Prop :=
  Coupled (Store.Alike hides) (Endings (Fault.SameAt places) answers) first.run second.run

/-- What the action fails with is at a place that `places` allows. -/
def Host.FailsAt {α : Type} (places : Option Span → Prop) (action : Host α) : Prop :=
  ∀ store fault, (action.run.run store).1 = .error fault → places fault.span?

/-- With nothing hidden, an action is alike to itself as soon as its faults are at the right places. -/
theorem Host.FailsAt.actAlike {α : Type} {action : Host α} (placed : action.FailsAt places) :
    Host.ActAlike (fun _ => false) places Eq action action := by
  rw [Host.ActAlike, Store.alike_none]
  rintro store _ rfl
  refine ⟨?_, rfl⟩
  have reason := placed store
  match ended : (action.run.run store).1 with
  | .ok answer => exact rfl
  | .error fault => exact ⟨rfl, reason fault ended⟩

/-! ## Members -/

def Value.AlikeInstances (hides : String → Bool) (first second : Value) : Prop :=
  Value.Alike hides first second ∧ first.tag ≠ .type

/-- What the member does depends on a type that `hides` names by its name alone. -/
def Member.Discreet (hides : String → Bool) (places : Option Span → Prop) (member : Member) : Prop :=
  ∀ receiver receiver' args args', Option.Rel (Value.AlikeInstances hides) receiver receiver' →
    List.Forall₂ (Value.Alike hides) args args' →
    Host.ActAlike hides places (Value.Alike hides) (member.run receiver args)
      (member.run receiver' args')

theorem Value.AlikeInstances.unwrapped {first second : Value} (alike : AlikeInstances hides first second) :
    AlikeInstances hides first.unwrapped second.unwrapped :=
  ⟨alike.1.unwrapped, first.tag_unwrapped.symm ▸ alike.2⟩

theorem alike_receivers {receiver receiver' : Option Value}
    (alike : Option.Rel (Value.AlikeInstances hides) receiver receiver') :
    Option.Rel (Value.Alike hides) receiver receiver' := by
  cases alike with
  | none => exact .none
  | some alike => exact .some alike.1

theorem receivers_eq {receiver receiver' : Option Value}
    (alike : Option.Rel (Value.AlikeInstances fun _ => false) receiver receiver') : receiver = receiver' := by
  have same := alike_receivers alike
  rwa [Value.alike_none, optionRel_eq] at same

/-- What the accesses to the field do depends on a type that `hides` names by its name alone. -/
structure Field.Discreet (hides : String → Bool) (places : Option Span → Prop) (field : Field) :
    Prop where
  read : ∀ receiver receiver', Option.Rel (Value.AlikeInstances hides) receiver receiver' →
    Host.ActAlike hides places (Value.Alike hides) (field.read receiver) (field.read receiver')
  write : ∀ setter ∈ field.write?, ∀ receiver receiver' value value',
    Option.Rel (Value.AlikeInstances hides) receiver receiver' → Value.Alike hides value value' →
    Host.ActAlike hides places Eq (setter receiver value) (setter receiver' value')

/-- The members of the type are discreet about the types that `hides` names. -/
structure HostType.Discreet (hides : String → Bool) (places : Option Span → Prop) (type : HostType) :
    Prop where
  constructors : ∀ member ∈ type.constructors, member.Discreet hides places
  methods : ∀ member ∈ type.methods, member.Discreet hides places
  fields : ∀ field ∈ type.fields, field.Discreet hides places

structure HostType.FailsAt (places : Option Span → Prop) (type : HostType) : Prop where
  constructors : ∀ member ∈ type.constructors, ∀ receiver args, (member.run receiver args).FailsAt places
  methods : ∀ member ∈ type.methods, ∀ receiver args, (member.run receiver args).FailsAt places
  getters : ∀ field ∈ type.fields, ∀ receiver, (field.read receiver).FailsAt places
  setters : ∀ field ∈ type.fields, ∀ setter ∈ field.write?, ∀ receiver value,
    (setter receiver value).FailsAt places

theorem HostType.FailsAt.discreet {type : HostType} (placed : type.FailsAt places) :
    type.Discreet (fun _ => false) places := by
  -- With nothing hidden, what is alike is equal, and one run of a member cannot differ from itself.
  have member_discreet {member : Member}
      (placed : ∀ receiver args, (member.run receiver args).FailsAt places) :
      member.Discreet (fun _ => false) places := by
    rw [Member.Discreet, Value.alike_none]
    intro receiver receiver' args args' sameReceiver sameArgs
    rw [List.forall₂_eq_eq_eq] at sameArgs
    obtain rfl := receivers_eq sameReceiver
    subst sameArgs
    exact (placed receiver args).actAlike
  refine ⟨fun member inside => member_discreet (placed.constructors member inside),
    fun member inside => member_discreet (placed.methods member inside), fun field inside => ⟨?_, ?_⟩⟩
  · rw [Value.alike_none]
    intro receiver receiver' sameReceiver
    obtain rfl := receivers_eq sameReceiver
    exact (placed.getters field inside receiver).actAlike
  · rw [Value.alike_none]
    intro setter isSetter receiver receiver' value value' sameReceiver sameValue
    obtain rfl := receivers_eq sameReceiver
    subst sameValue
    exact (placed.setters field inside setter isSetter receiver value).actAlike

theorem HostType.failsAt_anywhere (type : HostType) : type.FailsAt fun _ => True := by
  constructor <;> simp [Host.FailsAt]

theorem HostType.discreet_none (type : HostType) : type.Discreet (fun _ => false) fun _ => True :=
  type.failsAt_anywhere.discreet

end LateBound
