import LateBound.Proofs.Coupling
import LateBound.Resolution.Search

/-!
# Searches that look up the same types

A search reads nothing of the host but what the gate shows it. So two searches for one shape find the
same member as soon as their lookups show the same types, whatever else the two gates hold and whatever
the two memories remember. The member that is found belongs to the type it is searched on or to one that
a lookup has shown.
-/

namespace LateBound

/-! ## Whose member it is -/

/-- The member belongs to a type that `known` holds of, which the handle names. -/
def MethodHandle.Of (known : HostType → Prop) (handle : MethodHandle) : Prop :=
  ∃ type, known type ∧ handle.declaring = type.name ∧
    (handle.member ∈ type.methods ∨ handle.member ∈ type.constructors)

/-- The field belongs to a type that `known` holds of, which the handle names. -/
def FieldHandle.Of (known : HostType → Prop) (handle : FieldHandle) : Prop :=
  ∃ type, known type ∧ handle.declaring = type.name ∧ handle.field ∈ type.fields

/-- What is found belongs to a type that `known` holds of. -/
def MemberSort.Of (known : HostType → Prop) : (sort : MemberSort) → sort.Handle → Prop
  | method | constructor => MethodHandle.Of known
  | field => FieldHandle.Of known

theorem FieldHandle.of_fieldIn? {chain : List HostType} (allKnown : ∀ type ∈ chain, known type)
    {name : String} {handle : FieldHandle} (isFound : fieldIn? chain name = some handle) :
    handle.Of known := by
  have nearest {counts : Field → Bool} (isNearest : chain.findSome? (fun type =>
      ((type.field? name).filter counts).map (⟨type.name, ·⟩)) = some handle) : handle.Of known := by
    obtain ⟨type, inside, named⟩ := List.exists_of_findSome?_eq_some isNearest
    obtain ⟨field, filtered, rfl⟩ := Option.map_eq_some_iff.1 named
    obtain ⟨isField, -⟩ := Option.filter_eq_some_iff.1 filtered
    exact ⟨type, allKnown type inside, rfl, List.mem_of_find?_eq_some isField⟩
  obtain isPublic | ⟨-, isAny⟩ := Option.or_eq_some_iff.1 isFound
  · exact nearest isPublic
  · exact nearest isAny

/-- Two walks along a chain that agree on which members fit find the same member, one of the chain. -/
theorem firstMember_coupled {σ τ : Type} {states : σ → τ → Prop} {known : HostType → Prop}
    {chain : List (HostType × List Member)} {fits : Member → StateM σ Bool}
    {fits' : Member → StateM τ Bool} (each : ∀ member, Coupled states Eq (fits member) (fits' member))
    (chainOf : ∀ entry ∈ chain, known entry.1 ∧
      ∀ member ∈ entry.2, member ∈ entry.1.methods ∨ member ∈ entry.1.constructors)
    (publicOnly : Bool) :
    Coupled states (Same fun found => ∀ handle ∈ found, MethodHandle.Of known handle)
      (firstMember chain fits publicOnly) (firstMember chain fits' publicOnly) := by
  refine Coupled.findSomeM? chain fun entry inside => ?_
  obtain ⟨isKnown, owned⟩ := chainOf entry inside
  have counts (member : Member) : Coupled states Eq
      (if publicOnly && !member.isPublic then pure false else fits member)
      (if publicOnly && !member.isPublic then pure false else fits' member) := by
    split
    · exact Coupled.pure rfl
    · exact each member
  refine Coupled.bindSame (Coupled.findM? entry.2 counts) fun found isMember => ?_
  refine Coupled.pure ⟨rfl, fun handle isHandle => ?_⟩
  obtain ⟨member, isFound, rfl⟩ := Option.map_eq_some_iff.1 isHandle
  exact ⟨entry.1, isKnown, rfl, owned member (isMember member isFound)⟩

/-! ## Searches -/

variable {μ ν : Type} [Memory μ] [Memory ν] {linked : μ → ν → Prop} {first second : Gate}
  {known : HostType → Prop}

/-- Both gates show the same under each name, and types only that `known` holds of. -/
def ShowSame (linked : μ → ν → Prop) (known : HostType → Prop) (first second : Gate) : Prop :=
  ∀ name, Coupled linked (Same fun answer => ∀ type ∈ answer.type?, known type)
    (Memory.lookup first name) (Memory.lookup second name)

namespace ShowSame

variable (shows : ShowSame linked known first second)

include shows

/-! ## Parent chains -/

theorem extendChain (seen : List String) (last : HostType) (room : Nat) :
    Coupled linked (Same fun chain => ∀ type ∈ chain, known type)
      (LateBound.extendChain first seen last room) (LateBound.extendChain second seen last room) := by
  induction room generalizing seen last with
  | zero => exact Coupled.pure ⟨rfl, fun _ inside => nomatch inside⟩
  | succ room inductionHypothesis =>
    unfold LateBound.extendChain
    cases last.parent? with
    | none => exact Coupled.pure ⟨rfl, fun _ inside => nomatch inside⟩
    | some parent =>
      cases cyclic : seen.contains parent with
      | true =>
        simp only [cyclic, if_true]
        exact Coupled.pure ⟨rfl, fun _ inside => nomatch inside⟩
      | false =>
        simp only [cyclic, Bool.false_eq_true, if_false]
        refine Coupled.bindSame (shows parent) fun answer shown => ?_
        cases answer with
        | notFound | denied => exact Coupled.pure ⟨rfl, fun _ inside => nomatch inside⟩
        | found next =>
          refine Coupled.bindSame (inductionHypothesis (parent :: seen) next) fun rest isKnown => ?_
          refine Coupled.pure ⟨rfl, fun type inside => ?_⟩
          cases inside with
          | head => exact shown next rfl
          | tail _ inside => exact isKnown type inside

theorem ancestors {type : HostType} (isKnown : known type) :
    Coupled linked (Same fun chain => ∀ type ∈ chain, known type)
      (LateBound.ancestors first type) (LateBound.ancestors second type) := by
  refine Coupled.bindSame (shows.extendChain [type.name] type (maxChain - 1)) fun rest allKnown => ?_
  exact Coupled.pure ⟨rfl, List.forall_mem_cons.2 ⟨isKnown, allKnown⟩⟩

theorem isSubtype (name ancestor : String) :
    Coupled linked Eq (LateBound.isSubtype first name ancestor)
      (LateBound.isSubtype second name ancestor) := by
  unfold LateBound.isSubtype
  by_cases same : name = ancestor
  · simpa only [if_pos same] using Coupled.pure rfl
  · simp only [if_neg same]
    refine Coupled.bindSame (shows name) fun answer shown => ?_
    cases answer with
    | notFound | denied => exact Coupled.pure rfl
    | found type =>
      refine Coupled.bindSame (shows.ancestors (shown type rfl)) fun chain _ => ?_
      exact Coupled.pure rfl

/-! ## Fitting arguments -/

theorem strictlyFits (arg : Tag) (param : ParamType) :
    Coupled linked Eq (LateBound.strictlyFits (LateBound.isSubtype first) arg param)
      (LateBound.strictlyFits (LateBound.isSubtype second) arg param) := by
  unfold LateBound.strictlyFits
  split
  · exact Coupled.pure rfl
  · exact Coupled.pure rfl
  · split
    · exact shows.isSubtype _ _
    · exact Coupled.pure rfl
  · exact Coupled.pure rfl

theorem fits (mode : MatchMode) (arg : Tag) (param : ParamType) :
    Coupled linked Eq (mode.fits (LateBound.isSubtype first) arg param)
      (mode.fits (LateBound.isSubtype second) arg param) := by
  cases mode with
  | strict => exact shows.strictlyFits arg param
  | lenient =>
    refine Coupled.bindEq (shows.strictlyFits arg param) fun fitting => ?_
    cases fitting <;> exact Coupled.pure rfl

theorem accepts (member : Member) (mode : MatchMode) (args : List Tag) :
    Coupled linked Eq (member.accepts mode (LateBound.isSubtype first) args)
      (member.accepts mode (LateBound.isSubtype second) args) := by
  unfold Member.accepts
  split
  · exact Coupled.allM (fun (param, arg) => shows.fits mode arg param) _
  · exact Coupled.pure rfl

/-! ## Members -/

theorem searchMode {chain : List (HostType × List Member)}
    (chainOf : ∀ entry ∈ chain, known entry.1 ∧
      ∀ member ∈ entry.2, member ∈ entry.1.methods ∨ member ∈ entry.1.constructors)
    (signature : List Tag) (mode : MatchMode) :
    Coupled linked (Same fun found => ∀ handle ∈ found, MethodHandle.Of known handle)
      (LateBound.searchMode first chain signature mode)
      (LateBound.searchMode second chain signature mode) := by
  have each (member : Member) := shows.accepts member mode signature
  refine Coupled.bindSame (firstMember_coupled each chainOf true) fun found isOf => ?_
  cases found with
  | some handle => exact Coupled.pure ⟨rfl, isOf⟩
  | none => exact firstMember_coupled each chainOf false

theorem searchMember {chain : List (HostType × List Member)}
    (chainOf : ∀ entry ∈ chain, known entry.1 ∧
      ∀ member ∈ entry.2, member ∈ entry.1.methods ∨ member ∈ entry.1.constructors)
    (signature : List Tag) :
    Coupled linked (Same fun found => ∀ handle ∈ found, MethodHandle.Of known handle)
      (LateBound.searchMember first chain signature)
      (LateBound.searchMember second chain signature) := by
  refine Coupled.bindSame (shows.searchMode chainOf signature .strict) fun found isOf => ?_
  cases found with
  | some handle => exact Coupled.pure ⟨rfl, isOf⟩
  | none => exact shows.searchMode chainOf signature .lenient

theorem search {type : HostType} (isKnown : known type) (shape : CallShape) (sort : MemberSort) :
    Coupled linked (Same fun found => ∀ handle ∈ found, sort.Of known handle)
      (sort.search first type shape) (sort.search second type shape) := by
  cases sort with
  | method =>
    refine Coupled.bindSame (shows.ancestors isKnown) fun chain allKnown => ?_
    refine shows.searchMember (fun entry inside => ?_) shape.signature
    obtain ⟨type, onChain, rfl⟩ := List.mem_map.1 inside
    exact ⟨allKnown type onChain, fun member named => .inl (List.mem_filter.1 named).1⟩
  | constructor =>
    refine shows.searchMember (fun entry inside => ?_) shape.signature
    cases List.mem_singleton.1 inside
    exact ⟨isKnown, fun member inside => .inr inside⟩
  | field =>
    refine Coupled.bindSame (shows.ancestors isKnown) fun chain allKnown => ?_
    exact Coupled.pure ⟨rfl, fun handle isFound => FieldHandle.of_fieldIn? allKnown isFound⟩

end ShowSame

end LateBound
