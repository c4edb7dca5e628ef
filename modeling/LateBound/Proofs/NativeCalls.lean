import LateBound.Sample.Counter

/-!
# Functions of the host run all or nothing

A member that is made of a function enters the body of that function once, when every argument converts and the body
finds the receiver that it takes. Then all that happens is what the body does, on what the arguments were read as
before the call, and what is made of its result. Otherwise the body plays no part: whatever the function, the call
ends in the same fault and changes nothing.
-/

namespace LateBound

/-! ## The receiver -/

/-- The value refers, its box apart, to an object that no panic has spoiled and that holds a state of the layout. -/
structure Native.Holds {σ : Type} [Native σ] (store : Store) (value : Value) (ref : ObjectRef) (state : σ) : Prop where
  refers : value.unwrapped = .object ref
  held : ∃ object, store.objects[ref.id]? = some object ∧ object.spoiled = false ∧ load? object.state = some state

namespace Native

variable {σ : Type} [Native σ] {store : Store} {value : Value}

theorem Holds.run_reach {ref : ObjectRef} {state : σ} (holds : Holds store value ref state) :
    (reach value).run.run store = (.ok (ref, state), store) := by
  obtain ⟨refers, object, isThere, isWhole, loaded⟩ := holds
  have opened : (Host.view ref load?).run.run store = (.ok state, store) := by
    rw [Host.run_view, isThere]
    simp [isWhole, loaded]
  unfold reach
  rw [refers]
  exact Host.run_bind_of_ok opened _

theorem run_reach_of_not_holds (noState : ∀ ref (state : σ), ¬ Holds store value ref state) :
    ∃ message, (reach value : Host (ObjectRef × σ)).run.run store = (.error (.error message), store) := by
  unfold reach
  cases refers : value.unwrapped with
  | object ref =>
    have closed : ∃ message, (Host.view ref (load? (σ := σ))).run.run store = (.error (.error message), store) := by
      rw [Host.run_view]
      split
      · exact ⟨_, rfl⟩
      · next object isThere =>
        split
        · exact ⟨_, rfl⟩
        · next isWhole =>
          split
          · exact ⟨_, rfl⟩
          · next state loaded =>
            exact absurd ⟨refers, object, isThere, eq_false_of_ne_true isWhole, loaded⟩ (noState ref state)
    obtain ⟨message, closed⟩ := closed
    exact ⟨message, Host.run_bind_of_error closed _⟩
  | _ => exact ⟨_, rfl⟩

end Native

namespace ReceiverUse

/-- There is a receiver for the body, if it takes one. -/
def Opens {β ρ : Type} (store : Store) : ReceiverUse β ρ → Option Value → Prop
  | none, _ => True
  | @shared σ _ _, receiver | @exclusive σ _ _, receiver =>
    ∃ value ref, ∃ state : σ, receiver = some value ∧ Native.Holds store value ref state

/-- What entering the body once comes to, on the state of the receiver if it takes one. -/
inductive Enters (store : Store) : {β ρ : Type} → ReceiverUse β ρ → Option Value → β → Host ρ → Prop
  | none {ρ : Type} (receiver : Option Value) (body : Static ρ) : Enters store .none receiver body body.run
  | shared {σ ρ : Type} [Native σ] (body : Reading σ ρ) {value : Value} {ref : ObjectRef} {state : σ} :
      Native.Holds store value ref state → Enters store .shared (some value) body (body.run state)
  | exclusive {σ ρ : Type} [Native σ] (body : Changing σ ρ) {value : Value} {ref : ObjectRef} {state : σ} :
      Native.Holds store value ref state → Enters store .exclusive (some value) body (body.enter ref state)

section

variable {β ρ : Type} {use : ReceiverUse β ρ} {store : Store} {receiver : Option Value}

theorem invoke_of_opens {prepare : Host β} {body : β} (label : String) (opens : use.Opens store receiver)
    (prepared : prepare.run.run store = (.ok body, store)) :
    ∃ entered, Enters store use receiver body entered ∧
      (use.invoke label receiver prepare).run.run store = entered.run.run store := by
  cases use with
  | none => exact ⟨_, .none receiver body, Host.run_bind_of_ok prepared _⟩
  | shared =>
    obtain ⟨value, ref, state, rfl, holds⟩ := opens
    have entered : (body.on value).run.run store = (body.run state).run.run store := Host.run_bind_of_ok holds.run_reach _
    exact ⟨_, .shared body holds, (Host.run_bind_of_ok prepared _).trans entered⟩
  | exclusive =>
    obtain ⟨value, ref, state, rfl, holds⟩ := opens
    have entered : (body.on value).run.run store = (body.enter ref state).run.run store :=
      Host.run_bind_of_ok holds.run_reach _
    exact ⟨_, .exclusive body holds, (Host.run_bind_of_ok prepared _).trans entered⟩

/-- Without a receiver to open, all bodies fare alike. -/
theorem invoke_of_not_opens (label : String) (closed : ¬ use.Opens store receiver) :
    ∃ fault, ∀ (prepare : Host β) (body : β), prepare.run.run store = (.ok body, store) →
      (use.invoke label receiver prepare).run.run store = (.error fault, store) := by
  cases use with
  | none => exact absurd trivial closed
  | shared =>
    cases receiver with
    | none => exact ⟨_, fun _ _ _ => rfl⟩
    | some value =>
      obtain ⟨message, failed⟩ :=
        Native.run_reach_of_not_holds fun ref state holds => closed ⟨value, ref, state, rfl, holds⟩
      refine ⟨.error message, fun prepare body prepared => ?_⟩
      exact (Host.run_bind_of_ok prepared _).trans (Host.run_bind_of_error failed _)
  | exclusive =>
    cases receiver with
    | none => exact ⟨_, fun _ _ _ => rfl⟩
    | some value =>
      obtain ⟨message, failed⟩ :=
        Native.run_reach_of_not_holds fun ref state holds => closed ⟨value, ref, state, rfl, holds⟩
      refine ⟨.error message, fun prepare body prepared => ?_⟩
      exact (Host.run_bind_of_ok prepared _).trans (Host.run_bind_of_error failed _)

/-- Where no body is arrived at, none is entered. -/
theorem invoke_of_error (label : String) (fault : Fault) :
    ∃ fault', ∀ prepare : Host β, prepare.run.run store = (.error fault, store) →
      (use.invoke label receiver prepare).run.run store = (.error fault', store) := by
  cases use with
  | none => exact ⟨fault, fun prepare failed => Host.run_bind_of_error failed _⟩
  | shared | exclusive =>
    cases receiver with
    | none => exact ⟨_, fun _ _ => rfl⟩
    | some value => exact ⟨fault, fun prepare failed => Host.run_bind_of_error failed _⟩

end

end ReceiverUse

/-! ## The arguments -/

/-- What a value is read as for a parameter, in a store. -/
def HostArg.Reads {α : Type} [HostArg α] (store : Store) (value : Value) (arg : α) : Prop :=
  ((read value).run.run store).1 = .ok arg

theorem HostArg.run_read {α : Type} [HostArg α] (store : Store) (value : Value) :
    (read value : Host α).run.run store = (((read value : Host α).run.run store).1, store) :=
  Prod.ext rfl (HostArg.readOnly value store)

namespace Signature

def Converts {β : Type} (store : Store) : {φ : Type} → Signature φ β → List Value → Prop
  | _, body, args => args = []
  | _, @arg α _ _ _ signature, value :: values =>
    (∃ arg : α, HostArg.Reads store value arg) ∧ signature.Converts store values
  | _, arg _, [] => False

/-- The body that a function arrives at with what the arguments are read as in a store. -/
inductive Arrives (store : Store) : {φ β : Type} → Signature φ β → φ → List Value → β → Prop
  | body {β : Type} (body : β) : Arrives store .body body [] body
  | arg {α φ β : Type} [HostArg α] {signature : Signature φ β} {function : α → φ} {value : Value} {values : List Value}
      {arg : α} {body : β} : HostArg.Reads store value arg → Arrives store signature (function arg) values body →
      Arrives store (.arg signature) function (value :: values) body

theorem apply_of_converts {φ β : Type} {store : Store} (signature : Signature φ β) {args : List Value}
    (converts : signature.Converts store args) (function : φ) :
    ∃ body, Arrives store signature function args body ∧
      (signature.apply function args).run.run store = (.ok body, store) := by
  induction signature generalizing args with
  | body =>
    cases converts
    exact ⟨function, .body function, rfl⟩
  | arg signature inductionHypothesis =>
    cases args with
    | nil => exact converts.elim
    | cons value values =>
      obtain ⟨⟨arg, reads⟩, rest⟩ := converts
      obtain ⟨body, arrives, applied⟩ := inductionHypothesis rest (function arg)
      refine ⟨body, .arg reads arrives, ?_⟩
      rw [apply, Host.run_bind, HostArg.run_read, reads]
      exact applied

theorem apply_of_not_converts {φ β : Type} {store : Store} (signature : Signature φ β) {args : List Value}
    (sized : args.length = signature.params.length) (refused : ¬ signature.Converts store args) :
    ∃ fault, ∀ function, (signature.apply function args).run.run store = (.error fault, store) := by
  induction signature generalizing args with
  | body => exact absurd (List.length_eq_zero_iff.1 sized) refused
  | @arg α _ _ _ signature inductionHypothesis =>
    cases args with
    | nil => cases sized
    | cons value values =>
      cases ended : ((HostArg.read value : Host α).run.run store).1 with
      | error fault =>
        have failed := HostArg.run_read (α := α) store value
        rw [ended] at failed
        exact ⟨fault, fun function => Host.run_bind_of_error failed _⟩
      | ok arg =>
        have isRead := HostArg.run_read (α := α) store value
        rw [ended] at isRead
        obtain ⟨fault, failed⟩ := inductionHypothesis (Nat.succ.inj sized) fun rest => refused ⟨⟨arg, ended⟩, rest⟩
        exact ⟨fault, fun function => (Host.run_bind_of_ok isRead _).trans (failed (function arg))⟩

end Signature

/-- An argument that is a structure is a copy of the state that its object has. -/
theorem HostArg.reads_native_iff {σ : Type} [Native σ] {store : Store} {value : Value} {state : σ} :
    HostArg.Reads store value state ↔ ∃ ref, Native.Holds store value ref state := by
  have copies : (read value : Host σ) = Native.reach value >>= fun seen => pure seen.2 := rfl
  unfold Reads
  rw [copies, Host.run_bind]
  constructor
  · intro isRead
    by_cases found : ∃ ref, ∃ other : σ, Native.Holds store value ref other
    · obtain ⟨ref, other, holds⟩ := found
      rw [holds.run_reach] at isRead
      cases isRead
      exact ⟨ref, holds⟩
    · obtain ⟨message, failed⟩ :=
        Native.run_reach_of_not_holds fun ref (other : σ) holds => found ⟨ref, other, holds⟩
      rw [failed] at isRead
      cases isRead
  · rintro ⟨ref, holds⟩
    rw [holds.run_reach]
    rfl

/-! ## Calls -/

section

variable {φ β ρ α : Type} [HostBody β ρ] {signature : Signature φ β}

/-- What comes of calling the functions of one signature with a receiver and arguments, when `finish` is made of the
result. -/
structure AllOrNothing (signature : Signature φ β) (call : φ → Host α) (finish : ρ → Host α) (receiver : Option Value)
    (args : List Value) (store : Store) : Prop where
  entered : signature.Converts store args → (HostBody.use : ReceiverUse β ρ).Opens store receiver →
    ∀ function, ∃ body entered, signature.Arrives store function args body ∧
      HostBody.use.Enters store receiver body entered ∧
      (call function).run.run store = (entered >>= finish).run.run store
  refused : ¬ (signature.Converts store args ∧ (HostBody.use : ReceiverUse β ρ).Opens store receiver) →
    ∃ fault, ∀ function, (call function).run.run store = (.error fault, store)

theorem call_allOrNothing (label : String) (finish : ρ → Host α) (receiver : Option Value) {args : List Value}
    (store : Store) (sized : args.length = signature.params.length) :
    AllOrNothing signature (fun function => do finish (← signature.call label function receiver args)) finish receiver
      args store := by
  have failing {fault : Fault} {function : φ}
      (failed : (signature.call label function receiver args).run.run store = (.error fault, store)) :
      (signature.call label function receiver args >>= finish).run.run store = (.error fault, store) :=
    Host.run_bind_of_error failed _
  constructor
  · intro converts opens function
    obtain ⟨body, arrives, applied⟩ := signature.apply_of_converts converts function
    obtain ⟨entered, enters, same⟩ := ReceiverUse.invoke_of_opens label opens applied
    refine ⟨body, entered, arrives, enters, ?_⟩
    show (signature.call label function receiver args >>= finish).run.run store = _
    rw [Host.run_bind, Host.run_bind, ← same]
    rfl
  · intro closed
    by_cases converts : signature.Converts store args
    · obtain ⟨fault, failed⟩ := ReceiverUse.invoke_of_not_opens label fun opens => closed ⟨converts, opens⟩
      refine ⟨fault, fun function => failing ?_⟩
      obtain ⟨body, -, applied⟩ := signature.apply_of_converts converts function
      exact failed _ body applied
    · obtain ⟨fault, failed⟩ := signature.apply_of_not_converts sized converts
      obtain ⟨fault', failed'⟩ := ReceiverUse.invoke_of_error label fault
      exact ⟨fault', fun function => failing (failed' _ (failed function))⟩

end

namespace HostType

/-- Members and fields that are made of functions run all or nothing: constructors and methods on every list of
arguments of their length, properties on none, and what writes a property on the value that is written. An argument
that is a structure is the state which its object has in the store before the call, whatever else refers to it. -/
theorem native_members_all_or_nothing {φ β ρ : Type} [HostFunction φ β] [HostBody β ρ] [HostResult ρ] {γ τ : Type}
    [HostBody γ τ] [HostArg τ] [HostResult τ] {α δ υ : Type} [HostArg α] [HostBody δ υ] (typeName name : String)
    (isPublic : Bool) (receiver : Option Value) (store : Store) :
    (∀ args, args.length = (HostFunction.signature : Signature φ β).params.length →
      AllOrNothing HostFunction.signature
        (fun function : φ => (nativeMember typeName name isPublic function).run receiver args) HostResult.give receiver
        args store) ∧
      AllOrNothing .body (fun get : γ => (nativeField typeName name isPublic get).read receiver) HostResult.give
        receiver [] store ∧
      (∃ write : (α → δ) → Option Value → Value → Host Unit,
        (∀ (get : γ) set, (nativeMutableField typeName name isPublic get set).write? = some (write set)) ∧
          ∀ value, AllOrNothing (.arg .body) (fun set => write set receiver value) (fun _ => pure ()) receiver [value]
            store) ∧
      ∀ {σ : Type} [Native σ] (value : Value) (state : σ),
        HostArg.Reads store value state ↔ ∃ ref, Native.Holds store value ref state := by
  refine ⟨fun args sized => ?_, ?_, ?_, fun value state => HostArg.reads_native_iff⟩
  · exact call_allOrNothing (typeName ++ "." ++ name) HostResult.give receiver store sized
  · exact call_allOrNothing (typeName ++ "." ++ name) HostResult.give receiver store rfl
  · refine ⟨_, fun _ _ => rfl, fun value => ?_⟩
    exact call_allOrNothing (typeName ++ ".set_" ++ name) (fun _ => pure ()) receiver store rfl

/-- A counter that is told to add its own count, from inside a box, adds the count that it had before. -/
theorem native_members_all_or_nothing_self :
    let counter : Value := .wrapped "Box" (.object ⟨Sample.Counter.typeName, 0⟩)
    let holding (count : Int32) : Store := ⟨#[⟨Native.save (Sample.Counter.mk count), false⟩], []⟩
    let call (function : Sample.Counter → Changing Sample.Counter Int32) : Host Value :=
      (nativeMember Sample.Counter.typeName "addCount" true function).run (some counter) [counter]
    let signature : Signature (Sample.Counter → Changing Sample.Counter Int32) _ := HostFunction.signature
    [counter].length = signature.params.length ∧
      AllOrNothing signature call HostResult.give (some counter) [counter] (holding 21) ∧
      HostArg.Reads (holding 21) counter (Sample.Counter.mk 21) ∧
      (call fun other => .of (Sample.Counter.add other.count)).run.run (holding 21) = (.ok (.int 42), holding 42) := by
  intro counter holding call signature
  obtain ⟨calls, -, -, reads_iff⟩ := native_members_all_or_nothing (φ := Sample.Counter → Changing Sample.Counter Int32)
    (γ := Reading Sample.Counter Int32) (α := Int32) (δ := Changing Sample.Counter Unit)
    Sample.Counter.typeName "addCount" true (some counter) (holding 21)
  have holds : Native.Holds (holding 21) counter ⟨Sample.Counter.typeName, 0⟩ (Sample.Counter.mk 21) :=
    ⟨rfl, _, rfl, rfl, Native.load_save _⟩
  exact ⟨rfl, calls [counter] rfl, (reads_iff _ _).2 ⟨_, holds⟩, rfl⟩

end HostType

end LateBound
