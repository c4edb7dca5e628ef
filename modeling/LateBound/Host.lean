import LateBound.Failure

/-!
# The host

Members of host types run against a store of objects and of static slots. An action of the host
yields a value or ends in a fault, and what it did to the store before the fault stays done.

An object whose state was being changed when the host panicked is spoiled: nobody reads or writes it
again.
-/

namespace LateBound

/-- The state of a host object: named fields given at will, a text being built, or the values of a
structure that is known by its layout's name. -/
inductive Instance
  | record (fields : List (String × Value))
  | buffer (text : String)
  | struct (layout : String) (values : List Value)
  deriving Repr, Inhabited

structure HostObject where
  state : Instance
  spoiled : Bool
  deriving Repr, Inhabited

/-- The objects of the host by number, and its static fields that were written, by the qualified
name of their type and their own. -/
structure Store where
  objects : Array HostObject
  slots : List ((String × String) × Value)
  deriving Repr, Inhabited

def Store.empty : Store := ⟨#[], []⟩

/-- How an action of the host ends badly. -/
inductive Fault
  /-- A plain error. -/
  | error (message : String)
  /-- An error that the host has classified itself, perhaps with a place. -/
  | raised (kind : FailureKind) (message : String) (span : Option Span)
  /-- A bug of the host, with a text if it left one. -/
  | panic (message : Option String)
  deriving Repr

namespace Fault

def message : Fault → String
  | error message => message
  | raised _ message _ => message
  | panic message => message.getD "unknown panic"

end Fault

/-- The failure that a fault is by itself: of the sort the host says, or else a failed invocation. -/
def Failure.ofFault : Fault → Failure
  | .raised kind message span => ⟨.raised kind message, span⟩
  | fault => .of (.raised .invocation fault.message)

abbrev Host (α : Type) := ExceptT Fault (StateM Store) α

namespace Host

def fail {α : Type} (message : String) : Host α :=
  throw (.error message)

theorem pure_injective {α : Type} : Function.Injective (pure : α → Host α) := by
  intro result other same
  have answers := congrFun same Store.empty
  exact Except.ok.inj (congrArg Prod.fst answers)

theorem pure_ne_fail {α : Type} (result : α) (message : String) : (pure result : Host α) ≠ fail message := by
  intro same
  have answers := congrFun same Store.empty
  cases congrArg Prod.fst answers

def create (typeName : String) (state : Instance) : Host Value :=
  modifyGet fun store =>
    (.object ⟨typeName, store.objects.size⟩,
      { store with objects := store.objects.push ⟨state, false⟩ })

/-- The message about an object that a panic has spoiled. -/
def spoiledMessage (ref : ObjectRef) : String :=
  "instance of " ++ ref.typeName ++ " is poisoned"

/-- The message about an object whose state is not of the kind that a member works on. -/
def layoutMessage (ref : ObjectRef) : String :=
  "instance of " ++ ref.typeName ++ " has an unexpected layout"

/-- The state of an object, seen through a view that not every state has. -/
def view {α : Type} (ref : ObjectRef) (project : Instance → Option α) : Host α := do
  match (← get).objects[ref.id]? with
  | none => fail (layoutMessage ref)
  | some object =>
    if object.spoiled then fail (spoiledMessage ref)
    else
      match project object.state with
      | none => fail (layoutMessage ref)
      | some seen => pure seen

theorem run_view {α : Type} (ref : ObjectRef) (project : Instance → Option α) (store : Store) :
    (view ref project).run.run store =
      (match store.objects[ref.id]? with
        | none => .error (.error (layoutMessage ref))
        | some object =>
          if object.spoiled then .error (.error (spoiledMessage ref))
          else
            match project object.state with
            | none => .error (.error (layoutMessage ref))
            | some seen => .ok seen, store) := by
  have opened : (view ref project).run.run store =
      (match store.objects[ref.id]? with
        | none => fail (layoutMessage ref)
        | some object =>
          if object.spoiled then fail (spoiledMessage ref)
          else
            match project object.state with
            | none => fail (layoutMessage ref)
            | some seen => pure seen : Host α).run.run store := rfl
  rw [opened]
  split
  · rfl
  split
  · rfl
  split <;> rfl

def setState (ref : ObjectRef) (state : Instance) : Host Unit :=
  modify fun store => { store with objects := store.objects.modify ref.id ({ · with state }) }

def spoil (ref : ObjectRef) : Host Unit :=
  modify fun store =>
    { store with objects := store.objects.modify ref.id ({ · with spoiled := true }) }

/-- What a static slot holds, or its initial value. -/
def slot (typeName field : String) (initial : Value) : Host Value :=
  return ((← get).slots.lookup (typeName, field)).getD initial

def setSlot (typeName field : String) (value : Value) : Host Unit :=
  modify fun store =>
    { store with
      slots := ((typeName, field), value) ::
        store.slots.filter (·.1 != (typeName, field)) }

/-! ## Actions that change nothing -/

/-- The action leaves the store as it is, however it ends. -/
def ReadOnly {α : Type} (action : Host α) : Prop :=
  ∀ store, (action.run.run store).2 = store

section

variable {α β : Type}

theorem readOnly_pure (result : α) : (pure result : Host α).ReadOnly :=
  fun _ => rfl

theorem readOnly_fail (message : String) : (fail message : Host α).ReadOnly :=
  fun _ => rfl

theorem readOnly_view (ref : ObjectRef) (project : Instance → Option α) : (view ref project).ReadOnly := by
  intro store
  rw [run_view]

theorem run_bind (action : Host α) (next : α → Host β) (store : Store) :
    (action >>= next).run.run store =
      match action.run.run store with
      | (.ok result, behind) => (next result).run.run behind
      | (.error fault, behind) => (.error fault, behind) := by
  rw [ExceptT.run_bind, StateT.run_bind]
  show StateT.run _ (action.run.run store).2 = _
  cases action.run.run store with
  | mk outcome behind => cases outcome <;> rfl

section

variable {action : Host α} {store behind : Store}

theorem run_bind_of_ok {result : α} (ended : action.run.run store = (.ok result, behind)) (next : α → Host β) :
    (action >>= next).run.run store = (next result).run.run behind := by
  rw [run_bind, ended]

theorem run_bind_of_error {fault : Fault} (ended : action.run.run store = (.error fault, behind)) (next : α → Host β) :
    (action >>= next).run.run store = (.error fault, behind) := by
  rw [run_bind, ended]

end

theorem ReadOnly.bind {action : Host α} {next : α → Host β} (readOnly : action.ReadOnly)
    (rest : ∀ result, (next result).ReadOnly) : (action >>= next).ReadOnly := by
  intro store
  have kept := readOnly store
  rw [run_bind]
  cases ran : action.run.run store with
  | mk outcome behind =>
    rw [ran] at kept
    cases outcome with
    | ok result => exact (rest result behind).trans kept
    | error fault => exact kept

end

end Host

end LateBound
