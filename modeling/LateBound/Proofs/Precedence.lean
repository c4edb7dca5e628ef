import LateBound.Proofs.Lineage
import Mathlib

/-!
# Which member a call goes to

A call can reach members on many routes: by a strict or a lenient match, among the public members or in the
walk over all, at a nearer or a farther type of the chain, and at an earlier or a later declaration. The
search takes the least route in just this order. That is shown search by search: each of the loops finds what
it reaches first, and one loop inside another, or one tried after another, finds the first by both.
-/

namespace LateBound

/-! ## Which arguments a parameter takes -/

/-- An argument can be passed for a parameter in a mode: a parameter for anything takes all arguments and one
that is no primitive takes null; otherwise the argument is exactly of the parameter's type or of one below it,
or, leniently, both are numeric or the argument is a text for a primitive or an enum. -/
inductive Gate.Assignable (gate : Gate) : MatchMode → Tag → ParamType → Prop
  | any (mode : MatchMode) (arg : Tag) : Assignable gate mode arg .any
  | null (mode : MatchMode) {param : ParamType} : param.isPrimitive = false → Assignable gate mode .null param
  | exact (mode : MatchMode) {arg : Tag} {param : ParamType} : param.exactTag? = some arg →
      Assignable gate mode arg param
  | below (mode : MatchMode) {arg : Tag} {name expected : String} : arg.runtimeTypeName? = some name →
      gate.Below name expected → Assignable gate mode arg (.object expected)
  | number {arg : Tag} {param : ParamType} : arg.isNumeric = true → param.isNumeric = true →
      Assignable gate .lenient arg param
  | readPrimitive (kind : Primitive) : Assignable gate .lenient .str (.primitive kind)
  | readConstant (typeName : String) : Assignable gate .lenient .str (.enum typeName)

/-- The arguments of a call can be passed for the parameters of a member, one to one. -/
def Gate.Accepts (gate : Gate) (mode : MatchMode) (member : Member) (signature : List Tag) : Prop :=
  List.Forall₂ (fun param arg => gate.Assignable mode arg param) member.params signature

section

variable {gate : Gate}

theorem Gate.Assignable.lenient {arg : Tag} {param : ParamType} (assignable : gate.Assignable .strict arg param) :
    gate.Assignable .lenient arg param := by
  cases assignable with
  | any => exact .any .lenient arg
  | null _ noPrimitive => exact .null .lenient noPrimitive
  | exact _ isExact => exact .exact .lenient isExact
  | below _ owned isBelow => exact .below .lenient owned isBelow

theorem Gate.Assignable.of_mode {mode : MatchMode} {arg : Tag} {param : ParamType}
    (assignable : gate.Assignable mode arg param) : gate.Assignable .lenient arg param := by
  cases mode with
  | strict => exact assignable.lenient
  | lenient => exact assignable

theorem Gate.Assignable.converted {arg : Tag} {param : ParamType} (converted : converts arg param = true) :
    gate.Assignable .lenient arg param := by
  unfold converts at converted
  split at converted
  · exact .readPrimitive _
  · exact .readConstant _
  · obtain ⟨isNumber, takesNumbers⟩ := Bool.and_eq_true_iff.1 converted
    exact .number isNumber takesNumbers

theorem Gate.Assignable.strict_or_converts {arg : Tag} {param : ParamType}
    (assignable : gate.Assignable .lenient arg param) :
    gate.Assignable .strict arg param ∨ converts arg param = true := by
  cases assignable with
  | any => exact .inl (.any .strict arg)
  | null _ noPrimitive => exact .inl (.null .strict noPrimitive)
  | exact _ isExact => exact .inl (.exact .strict isExact)
  | below _ owned isBelow => exact .inl (.below .strict owned isBelow)
  | number isNumber takesNumbers =>
    cases arg with
    | primitive kind => exact .inr (Bool.and_eq_true_iff.2 ⟨isNumber, takesNumbers⟩)
    | _ => cases isNumber
  | readPrimitive | readConstant => exact .inr rfl

variable (named : gate.Named)

include named

theorem answer_strictlyFits (arg : Tag) (param : ParamType) :
    answer (strictlyFits (isSubtype gate) arg param) = true ↔ gate.Assignable .strict arg param := by
  constructor
  · intro fits
    unfold strictlyFits at fits
    split at fits
    · exact .any .strict arg
    · next noPrimitive =>
      exact .null .strict (by simpa using fits)
    · next expected _ =>
      split at fits
      · next name owned => exact .below .strict owned ((answer_isSubtype named name expected).1 fits)
      · cases fits
    · exact .exact .strict (by simpa using fits)
  · intro assignable
    cases assignable with
    | any => rfl
    | null _ noPrimitive => cases param <;> first | rfl | cases noPrimitive
    | exact _ isExact =>
      cases param with
      | any => cases isExact
      | object expected =>
        cases isExact
        exact (answer_isSubtype named expected expected).2 (.inl rfl)
      | primitive _ | str | enum _ | list =>
        cases isExact
        simp [strictlyFits, ParamType.exactTag?]
    | below _ owned isBelow =>
      cases arg with
      | null => rfl
      | _ =>
        simp only [strictlyFits, owned]
        exact (answer_isSubtype named _ _).2 isBelow

theorem answer_fits (mode : MatchMode) (arg : Tag) (param : ParamType) :
    answer (mode.fits (isSubtype gate) arg param) = true ↔ gate.Assignable mode arg param := by
  cases mode with
  | strict => exact answer_strictlyFits named arg param
  | lenient =>
    have strict := answer_strictlyFits named arg param
    simp only [MatchMode.fits, lenientlyFits, answer_bind]
    cases fits : answer (strictlyFits (isSubtype gate) arg param) with
    | true => exact iff_of_true rfl (strict.1 fits).lenient
    | false =>
      have notStrict : ¬ gate.Assignable .strict arg param := fun assignable => by
        rw [strict.2 assignable] at fits
        cases fits
      exact ⟨.converted, fun assignable => assignable.strict_or_converts.resolve_left notStrict⟩

theorem answer_accepts (mode : MatchMode) (member : Member) (signature : List Tag) :
    answer (member.accepts mode (isSubtype gate) signature) = true ↔ gate.Accepts mode member signature := by
  unfold Member.accepts Gate.Accepts
  split
  · next sameLength =>
    rw [answer_allM, List.forall₂_iff_zip, List.all_eq_true, Prod.forall]
    simp only [answer_fits named, sameLength, true_and]
  · next otherLength =>
    exact iff_of_false (fun holds => nomatch holds) fun accepted => otherLength accepted.length_eq

end

/-! ## What a search reaches first -/

section FirstOf

variable {α β ι κ : Type}

/-- What was found is reached on the least of all routes, and if nothing was found, nothing can be reached. -/
def FirstOf [LE ι] (reaches : ι → α → Prop) : Option α → Prop
  | none => ∀ route a, ¬ reaches route a
  | some a => ∃ route, reaches route a ∧ ∀ other b, reaches other b → route ≤ other

theorem FirstOf.self (found : Option α) : FirstOf (fun (_ : Unit) a => found = some a) found := by
  cases found with
  | none => exact fun _ _ same => nomatch same
  | some a => exact ⟨(), rfl, fun _ _ _ => le_refl _⟩

theorem FirstOf.find? (fits : α → Bool) (as : List α) :
    FirstOf (fun (place : ℕ) a => as[place]? = some a ∧ fits a = true) (as.find? fits) := by
  cases found : as.find? fits with
  | none =>
    intro place a ⟨isThere, isFitting⟩
    exact absurd isFitting (List.find?_eq_none.1 found a (List.mem_of_getElem? isThere))
  | some a =>
    obtain ⟨isFitting, place, within, isThere, before⟩ := List.find?_eq_some_iff_getElem.1 found
    refine ⟨place, ⟨List.getElem?_eq_some_iff.2 ⟨within, isThere⟩, isFitting⟩, fun other b ⟨isOther, alsoFitting⟩ => ?_⟩
    by_contra earlier
    obtain ⟨_, rfl⟩ := List.getElem?_eq_some_iff.1 isOther
    have failed := before other (Nat.lt_of_not_le earlier)
    rw [alsoFitting] at failed
    cases failed

theorem FirstOf.findSome? [PartialOrder ι] {find : α → Option β} {reaches : α → ι → β → Prop}
    (each : ∀ a, FirstOf (reaches a) (find a)) (as : List α) :
    FirstOf (fun (route : ℕ ×ₗ ι) b => ∃ a, as[(ofLex route).1]? = some a ∧ reaches a (ofLex route).2 b)
      (as.findSome? find) := by
  cases found : as.findSome? find with
  | none =>
    intro route b ⟨a, isThere, isReached⟩
    have vain := List.findSome?_eq_none_iff.1 found a (List.mem_of_getElem? isThere)
    have none := each a
    rw [vain] at none
    exact none _ _ isReached
  | some b =>
    obtain ⟨before, a, behind, rfl, isFound, vain⟩ := List.findSome?_eq_some_iff.1 found
    have first := each a
    rw [isFound] at first
    obtain ⟨route, isReached, least⟩ := first
    refine ⟨toLex (before.length, route), ⟨a, by simp, isReached⟩, fun other c ⟨d, isThere, alsoReached⟩ => ?_⟩
    rw [Prod.Lex.le_iff]
    -- At an earlier place nothing is reached, at the same one the search there was the first, a later one is later.
    obtain earlier | same | later := Nat.lt_trichotomy (ofLex other).1 before.length
    · rw [List.getElem?_append_left earlier] at isThere
      have none := each d
      rw [vain d (List.mem_of_getElem? isThere)] at none
      exact absurd alsoReached (none _ _)
    · rw [same, List.getElem?_append_right (Nat.le_refl _), Nat.sub_self] at isThere
      cases isThere
      exact .inr ⟨same.symm, least _ _ alsoReached⟩
    · exact .inl later

theorem FirstOf.map [LE ι] {reaches : ι → α → Prop} {found : Option α} (isFirst : FirstOf reaches found)
    (f : α → β) : FirstOf (fun route b => ∃ a, reaches route a ∧ f a = b) (found.map f) := by
  cases found with
  | none => exact fun route _ ⟨a, isReached, _⟩ => isFirst route a isReached
  | some a =>
    obtain ⟨route, isReached, least⟩ := isFirst
    exact ⟨route, ⟨a, isReached, rfl⟩, fun other _ ⟨b, alsoReached, _⟩ => least other b alsoReached⟩

theorem FirstOf.or [PartialOrder ι] {first second : Option α} {reaches : Bool → ι → α → Prop}
    (isFirst : FirstOf (reaches false) first) (isSecond : FirstOf (reaches true) second) :
    FirstOf (fun (route : Bool ×ₗ ι) a => reaches (ofLex route).1 (ofLex route).2 a) (first.or second) := by
  cases first with
  | some a =>
    obtain ⟨route, isReached, least⟩ := isFirst
    refine ⟨toLex (false, route), isReached, fun other b alsoReached => ?_⟩
    rw [Prod.Lex.le_iff]
    cases which : (ofLex other).1 with
    | true => exact .inl Bool.false_lt_true
    | false =>
      simp only [which] at alsoReached
      exact .inr ⟨rfl, least _ b alsoReached⟩
  | none =>
    have onlySecond {route : Bool ×ₗ ι} {a : α} (isReached : reaches (ofLex route).1 (ofLex route).2 a) :
        (ofLex route).1 = true := by
      cases which : (ofLex route).1 with
      | true => rfl
      | false =>
        rw [which] at isReached
        exact absurd isReached (isFirst _ a)
    rw [Option.none_or]
    cases second with
    | none =>
      intro route a isReached
      have which := onlySecond isReached
      rw [which] at isReached
      exact isSecond _ a isReached
    | some a =>
      obtain ⟨route, isReached, least⟩ := isSecond
      refine ⟨toLex (true, route), isReached, fun other b alsoReached => ?_⟩
      have which := onlySecond alsoReached
      simp only [which] at alsoReached
      exact Prod.Lex.le_iff.2 (.inr ⟨which.symm, least _ b alsoReached⟩)

theorem FirstOf.rename [LE ι] [Preorder κ] {reaches : ι → α → Prop} {reaches' : κ → α → Prop} (rename : ι → κ)
    (mono : ∀ route other, route ≤ other → rename route ≤ rename other)
    (sound : ∀ route a, reaches route a → reaches' (rename route) a)
    (complete : ∀ route a, reaches' route a → ∃ other b, reaches other b ∧ rename other ≤ route)
    {found : Option α} (isFirst : FirstOf reaches found) : FirstOf reaches' found := by
  cases found with
  | none =>
    intro route a isReached
    obtain ⟨other, b, alsoReached, -⟩ := complete route a isReached
    exact isFirst other b alsoReached
  | some a =>
    obtain ⟨route, isReached, least⟩ := isFirst
    refine ⟨rename route, sound route a isReached, fun other b alsoReached => ?_⟩
    obtain ⟨sooner, c, reachedSooner, isSooner⟩ := complete other b alsoReached
    exact (mono _ _ (least sooner c reachedSooner)).trans isSooner

/-- What is found is what is reached on the least route, if a route leads to no more than one thing. -/
theorem FirstOf.eq_some_iff [PartialOrder ι] {reaches : ι → α → Prop} {found : Option α}
    (isFirst : FirstOf reaches found)
    (functional : ∀ route a b, reaches route a → reaches route b → a = b) (a : α) :
    found = some a ↔ ∃ route, IsLeast {route | ∃ b, reaches route b} route ∧ reaches route a := by
  cases found with
  | none =>
    refine iff_of_false (fun same => nomatch same) fun ⟨route, _, isReached⟩ => ?_
    exact isFirst route a isReached
  | some b =>
    obtain ⟨route, isReached, least⟩ := isFirst
    constructor
    · intro same
      cases same
      exact ⟨route, ⟨⟨a, isReached⟩, fun other ⟨c, alsoReached⟩ => least other c alsoReached⟩, isReached⟩
    · intro ⟨other, isLeast, alsoReached⟩
      have same : route = other := (least other a alsoReached).antisymm (isLeast.2 ⟨b, isReached⟩)
      subst same
      rw [functional route b a isReached alsoReached]

theorem FirstOf.exists_iff [LE ι] {reaches : ι → α → Prop} {found : Option α} (isFirst : FirstOf reaches found) :
    (∃ a, found = some a) ↔ ∃ route a, reaches route a := by
  cases found with
  | none => exact iff_of_false (fun ⟨_, same⟩ => nomatch same) fun ⟨route, a, isReached⟩ => isFirst route a isReached
  | some a =>
    obtain ⟨route, isReached, -⟩ := isFirst
    exact iff_of_true ⟨a, rfl⟩ ⟨route, a, isReached⟩

end FirstOf

/-! ## Routes -/

/-- A route to a member: by which match it fits, whether it is met in the walk over all members or among the
public ones, at which level of the chain, and at which place among the members in question there. -/
structure Route where
  mode : MatchMode
  overAll : Bool
  level : ℕ
  place : ℕ

namespace Route

def key (route : Route) : Bool ×ₗ Bool ×ₗ ℕ ×ₗ ℕ :=
  toLex (route.mode == .lenient, toLex (route.overAll, toLex (route.level, route.place)))

theorem key_injective : Function.Injective key := by
  intro ⟨mode, overAll, level, place⟩ ⟨mode', overAll', level', place'⟩ same
  cases mode <;> cases mode' <;> cases same <;> rfl

instance : PartialOrder Route :=
  PartialOrder.lift key key_injective

def ofKey (key : Bool ×ₗ Bool ×ₗ ℕ ×ₗ ℕ) : Route :=
  let (lenient, walk) := ofLex key
  let (overAll, declared) := ofLex walk
  let (level, place) := ofLex declared
  ⟨if lenient then .lenient else .strict, overAll, level, place⟩

theorem key_ofKey (key : Bool ×ₗ Bool ×ₗ ℕ ×ₗ ℕ) : (ofKey key).key = key := by
  obtain ⟨lenient, overAll, level, place⟩ := key
  cases lenient <;> rfl

theorem ofKey_key (route : Route) : ofKey route.key = route :=
  key_injective (key_ofKey route.key)

theorem nearer_le (route : Route) {nearer : ℕ} (isNearer : nearer ≤ route.level) :
    { route with level := nearer } ≤ route := by
  obtain same | sooner := isNearer.eq_or_lt
  · rw [same]
  · exact Prod.Lex.le_iff.2 (.inr ⟨rfl, Prod.Lex.le_iff.2 (.inr ⟨rfl, Prod.Lex.le_iff.2 (.inl sooner)⟩)⟩)

theorem strict_of_le {route other : Route} (sooner : route ≤ other) (isStrict : other.mode = .strict) :
    route.mode = .strict := by
  obtain ⟨mode, overAll, level, place⟩ := route
  obtain ⟨mode', overAll', level', place'⟩ := other
  cases isStrict
  cases mode with
  | strict => rfl
  | lenient =>
    obtain earlier | ⟨same, -⟩ := Prod.Lex.le_iff.1 sooner
    · cases earlier
    · cases same

end Route

/-- What is called on a type: a method of some name, or a constructor. -/
inductive Callee
  | method (name : String)
  | constructor

namespace Callee

def members : Callee → HostType → List Member
  | method name, type => type.methods.filter (·.name == name)
  | constructor, type => type.constructors

/-- The type at a level whose members are in question: for a method one of the nearest visible ancestors, for
a constructor the owner alone. -/
def type? (callee : Callee) (gate : Gate) (owner : HostType) (level : ℕ) : Option HostType :=
  match callee with
  | method _ => if level < maxChain then gate.ancestor? owner level else none
  | constructor => if level = 0 then some owner else none

/-- A call with arguments of these tags reaches the member of the handle on the route. -/
def Reaches (callee : Callee) (gate : Gate) (owner : HostType) (signature : List Tag) (route : Route)
    (handle : MethodHandle) : Prop :=
  ∃ type member, callee.type? gate owner route.level = some type ∧
    (callee.members type)[route.place]? = some member ∧ gate.Accepts route.mode member signature ∧
    (route.overAll = false → member.isPublic = true) ∧ handle = ⟨type.name, member⟩

theorem Reaches.functional {callee : Callee} {gate : Gate} {owner : HostType} {signature : List Tag}
    {route : Route} {handle other : MethodHandle} (isReached : callee.Reaches gate owner signature route handle)
    (alsoReached : callee.Reaches gate owner signature route other) : handle = other := by
  obtain ⟨type, member, isType, isMember, -, -, rfl⟩ := isReached
  obtain ⟨type', member', isType', isMember', -, -, rfl⟩ := alsoReached
  cases isType.symm.trans isType'
  cases isMember.symm.trans isMember'
  rfl

variable {μ : Type} [Memory μ]

def handle (callee : Callee) (gate : Gate) (owner : HostType) (args : List Value) : Attempt μ MethodHandle :=
  match callee with
  | method name => methodHandle gate owner name args
  | constructor => constructorHandle gate owner args

end Callee

/-! ## Searches along a chain -/

section

variable {gate : Gate} (named : gate.Named) (chain : List (HostType × List Member)) (signature : List Tag)

/-- The walk along a chain reaches the member of the handle at a level and a place. -/
def Walks (gate : Gate) (chain : List (HostType × List Member)) (signature : List Tag) (mode : MatchMode)
    (overAll : Bool) (declared : ℕ ×ₗ ℕ) (handle : MethodHandle) : Prop :=
  ∃ entry, chain[(ofLex declared).1]? = some entry ∧ ∃ member, (entry.2[(ofLex declared).2]? = some member ∧
    gate.Accepts mode member signature ∧ (overAll = false → member.isPublic = true)) ∧ 
    (⟨entry.1.name, member⟩ : MethodHandle) = handle

include named

theorem answer_firstMember (mode : MatchMode) (overAll : Bool) :
    FirstOf (Walks gate chain signature mode overAll) (answer (firstMember chain
      (fun member => member.accepts mode (isSubtype gate) signature) !overAll)) := by
  have counts (member : Member) : answer (if !overAll && !member.isPublic then pure false
        else member.accepts mode (isSubtype gate) signature) = true ↔
      gate.Accepts mode member signature ∧ (overAll = false → member.isPublic = true) := by
    rw [← answer_accepts named]
    cases overAll <;> cases member.isPublic <;> simp
  have each (entry : HostType × List Member) := (FirstOf.find? (fun member => answer
    (if !overAll && !member.isPublic then pure false
      else member.accepts mode (isSubtype gate) signature)) entry.2).map (MethodHandle.mk entry.1.name)
  simp only [counts] at each
  unfold firstMember
  simp only [answer_findSomeM?, answer_bind, answer_findM?, answer_pure]
  exact FirstOf.findSome? each chain

theorem answer_searchMode (mode : MatchMode) :
    FirstOf (fun (route : Bool ×ₗ ℕ ×ₗ ℕ) => Walks gate chain signature mode (ofLex route).1 (ofLex route).2)
      (answer (searchMode gate chain signature mode)) := by
  have same : answer (searchMode gate chain signature mode) =
      (answer (firstMember chain (fun member => member.accepts mode (isSubtype gate) signature) true)).or
        (answer (firstMember chain (fun member => member.accepts mode (isSubtype gate) signature) false)) := by
    simp only [searchMode, answer_bind]
    cases answer (firstMember chain _ true) <;> rfl
  rw [same]
  exact FirstOf.or (answer_firstMember named chain signature mode false)
    (answer_firstMember named chain signature mode true)

theorem answer_searchMember :
    FirstOf (fun key handle => Walks gate chain signature (Route.ofKey key).mode (Route.ofKey key).overAll
      (toLex ((Route.ofKey key).level, (Route.ofKey key).place)) handle)
      (answer (searchMember gate chain signature)) := by
  have same : answer (searchMember gate chain signature) =
      (answer (searchMode gate chain signature .strict)).or (answer (searchMode gate chain signature .lenient)) := by
    simp only [searchMember, answer_bind]
    cases answer (searchMode gate chain signature .strict) <;> rfl
  rw [same]
  let reaches (lenient : Bool) (walk : Bool ×ₗ ℕ ×ₗ ℕ) : MethodHandle → Prop :=
    Walks gate chain signature (if lenient then .lenient else .strict) (ofLex walk).1 (ofLex walk).2
  have first : FirstOf (reaches false) (answer (searchMode gate chain signature .strict)) :=
    answer_searchMode named chain signature .strict
  exact first.or (answer_searchMode named chain signature .lenient)

end

/-! ## Calls -/

namespace Callee

def found (callee : Callee) (gate : Gate) (owner : HostType) (args : List Value) : Option MethodHandle :=
  match callee with
  | method name => MemberSort.method.found gate owner (.of owner.name name args)
  | constructor => MemberSort.constructor.found gate owner (.of owner.name constructorName args)

def missing (callee : Callee) (owner : HostType) (args : List Value) : Cause :=
  match callee with
  | method name => .noMethod (.of owner.name name args)
  | constructor => .noConstructor (.of owner.name constructorName args)

/-- Renaming the routes along a chain shows that its walk reaches first what the call reaches first. -/
theorem first_of_chain {gate : Gate} (named : gate.Named) (callee : Callee) {owner : HostType}
    (types : List HostType) (signature : List Tag)
    (passed : ∀ level type, types[level]? = some type → callee.type? gate owner level = some type)
    (reached : ∀ level type, callee.type? gate owner level = some type → ∃ nearer ≤ level, types[nearer]? = some type) :
    FirstOf (callee.Reaches gate owner signature)
      (answer (searchMember gate (types.map fun type => (type, callee.members type)) signature)) := by
  refine (answer_searchMember named _ signature).rename Route.ofKey (fun key other sooner => ?_)
    (fun key handle isReached => ?_) fun route handle isReached => ?_
  · change (Route.ofKey key).key ≤ (Route.ofKey other).key
    rwa [Route.key_ofKey, Route.key_ofKey]
  · obtain ⟨entry, isEntry, member, ⟨isMember, accepted, counts⟩, rfl⟩ := isReached
    rw [List.getElem?_map, Option.map_eq_some_iff] at isEntry
    obtain ⟨type, isType, rfl⟩ := isEntry
    exact ⟨type, member, passed _ type isType, isMember, accepted, counts, rfl⟩
  · obtain ⟨type, member, isType, isMember, accepted, counts, rfl⟩ := isReached
    -- A type that stands twice in the chain is met where it stands first, which is the sooner route.
    obtain ⟨nearer, isNearer, isPassed⟩ := reached _ type isType
    refine ⟨Route.key { route with level := nearer }, ⟨type.name, member⟩, ?_, ?_⟩
    · rw [Route.ofKey_key]
      refine ⟨(type, callee.members type), ?_, member, ⟨isMember, accepted, counts⟩, rfl⟩
      exact List.getElem?_map.trans (congrArg (Option.map _) isPassed)
    · rw [Route.ofKey_key]
      exact route.nearer_le isNearer

theorem first {gate : Gate} (named : gate.Named) {owner : HostType} (known : gate.find? owner.name = some owner)
    (callee : Callee) (args : List Value) :
    FirstOf (callee.Reaches gate owner (args.map Value.tag)) (callee.found gate owner args) := by
  cases callee with
  | method name =>
    refine first_of_chain named (.method name) (answer (ancestors gate owner)) _ (fun level type passed => ?_)
      fun level type isType => ?_
    · obtain ⟨isAncestor, within⟩ := ancestor?_of_ancestors passed
      exact (if_pos within).trans isAncestor
    · obtain ⟨within, isAncestor⟩ := Option.ite_none_right_eq_some.1 isType
      exact exists_passed_of_ancestor? named (Gate.unrivalled_of_found known) within isAncestor
  | constructor =>
    refine first_of_chain named .constructor [owner] _ (fun level type passed => ?_) fun level type isType => ?_
    · cases level with
      | zero => exact passed
      | succ level => cases passed
    · obtain ⟨rfl, isOwner⟩ := Option.ite_none_right_eq_some.1 isType
      exact ⟨0, Nat.le_refl 0, isOwner⟩

theorem accepts_of_found {gate : Gate} (named : gate.Named) {owner : HostType}
    (known : gate.find? owner.name = some owner) {callee : Callee} {args : List Value} {handle : MethodHandle}
    (isFound : callee.found gate owner args = some handle) :
    gate.Accepts .lenient handle.member (args.map Value.tag) := by
  have isFirst := callee.first named known args
  rw [isFound] at isFirst
  obtain ⟨route, ⟨type, member, -, -, accepted, -, rfl⟩, -⟩ := isFirst
  exact accepted.imp fun _ _ assignable => assignable.of_mode

theorem run_handle (callee : Callee) (gate : Gate) (owner : HostType) (args : List Value) (machine : Machine Unit) :
    (callee.handle gate owner args).outcome.run machine =
      match callee.found gate owner args with
      | some handle => (.ok handle, machine)
      | none => (.error (.of (callee.missing owner args)), machine) := by
  cases callee with
  | method name =>
    have searched : (Attempt.lift (Run.remember (MemberSort.method.find gate owner
        (.of owner.name name args)))).outcome.run machine =
          (.ok (MemberSort.method.found gate owner (.of owner.name name args)), machine) := rfl
    refine (Attempt.run_bind_of_ok searched).trans ?_
    rw [found]
    cases MemberSort.method.found gate owner _ <;> rfl
  | constructor =>
    have searched : (Attempt.lift (Run.remember (MemberSort.constructor.find gate owner
        (.of owner.name constructorName args)))).outcome.run machine =
          (.ok (MemberSort.constructor.found gate owner (.of owner.name constructorName args)), machine) := rfl
    refine (Attempt.run_bind_of_ok searched).trans ?_
    rw [found]
    cases MemberSort.constructor.found gate owner _ <;> rfl

/-- A call reaches something exactly if a member in question accepts its arguments leniently. -/
theorem exists_reaches_iff (callee : Callee) (gate : Gate) (owner : HostType) (signature : List Tag) :
    (∃ route handle, callee.Reaches gate owner signature route handle) ↔
      ∃ level type, callee.type? gate owner level = some type ∧
        ∃ member ∈ callee.members type, gate.Accepts .lenient member signature := by
  constructor
  · rintro ⟨route, _, type, member, isType, isMember, accepted, -, rfl⟩
    refine ⟨route.level, type, isType, member, List.mem_of_getElem? isMember, ?_⟩
    exact accepted.imp fun _ _ assignable => assignable.of_mode
  · rintro ⟨level, type, isType, member, isMember, accepted⟩
    obtain ⟨place, isThere⟩ := List.mem_iff_getElem?.1 isMember
    exact ⟨⟨.lenient, true, level, place⟩, _, type, member, isType, isThere, accepted, nofun, rfl⟩

end Callee

/-! ## Behind any operations -/

def Engine.after {μ : Type} [Memory μ] (engine : Engine μ) (operations : List Operation) : Engine μ :=
  ((operations.mapM observe).run engine).2

theorem Gate.Coherent.engines_after {gate : Gate} (coherent : gate.Coherent) (settings : Settings) (store : Store)
    (operations : List Operation) :
    coherent.twins.Engines ((Engine.cached gate settings store).after operations)
      ((Engine.start gate settings () store).after operations) := by
  have alike : List.Forall₂ (Operation.Alike fun _ => false) operations operations :=
    List.forall₂_same.2 fun operation _ => operation.alike_self
  exact (Coupled.mapM (fun _ _ alike => Twins.observe alike) alike _ _ (coherent.start settings store)).2

namespace Callee

def resolved {μ : Type} [Memory μ] (callee : Callee) (engine : Engine μ) (owner : HostType) (args : List Value) :
    Except Failure MethodHandle :=
  ((Engine.attempt fun gate => callee.handle gate owner args).run engine).1

theorem attempts_handle {gate : Gate} (coherent : gate.Coherent) {owner : HostType}
    (known : gate.find? owner.name = some owner) (callee : Callee) (args : List Value) :
    coherent.twins.Attempts (Same (MethodHandle.Of coherent.twins.known))
      (callee.handle coherent.twins.first owner args) (callee.handle coherent.twins.second owner args) := by
  have values : List.Forall₂ (Value.Alike fun _ => false) args args :=
    List.forall₂_same.2 fun value _ => .refl value
  cases callee with
  | method name => exact Twins.methodHandle (coherent.found _ _ known) name values
  | constructor => exact Twins.constructorHandle (coherent.found _ _ known) values

theorem resolved_fresh (callee : Callee) {gate : Gate} {engine : Engine Unit} (isGate : engine.gate = gate)
    {owner : HostType} {args : List Value} :
    callee.resolved engine owner args =
      match callee.found gate owner args with
      | some handle => .ok handle
      | none => .error (.of (callee.missing owner args)) := by
  subst isGate
  change ((callee.handle engine.gate owner args).outcome.run engine.machine).1 = _
  rw [run_handle]
  cases callee.found engine.gate owner args <;> rfl

/-- Whatever an engine has come to remember, it resolves a call as a search that remembers nothing. -/
theorem resolved_after {gate : Gate} (coherent : gate.Coherent) {owner : HostType}
    (known : gate.find? owner.name = some owner) (callee : Callee) (settings : Settings) (store : Store)
    (operations : List Operation) (args : List Value) :
    callee.resolved ((Engine.cached gate settings store).after operations) owner args =
      match callee.found gate owner args with
      | some handle => .ok handle
      | none => .error (.of (callee.missing owner args)) := by
  have engines := coherent.engines_after settings store operations
  let handle {μ : Type} [Memory μ] (gate : Gate) : Attempt μ MethodHandle := callee.handle gate owner args
  have handles : coherent.twins.Attempts (Same (MethodHandle.Of coherent.twins.known))
      (handle coherent.twins.first) (handle coherent.twins.second) := attempts_handle coherent known callee args
  have ended : Endings Eq (Same (MethodHandle.Of coherent.twins.known))
      (callee.resolved ((Engine.cached gate settings store).after operations) owner args)
      (callee.resolved ((Engine.start gate settings () store).after operations) owner args) :=
    (Twins.attempt handles _ _ engines).1
  refine Eq.trans ?_ (callee.resolved_fresh engines.second)
  generalize callee.resolved ((Engine.cached gate settings store).after operations) owner args = resolved,
    callee.resolved ((Engine.start gate settings () store).after operations) owner args = fresh at ended
  match resolved, fresh, ended with
  | .ok _, .ok _, ⟨rfl, _⟩ => rfl
  | .error _, .error _, rfl => rfl

/-- Overload resolution picks the least admissible member. -/
theorem resolved_eq_ok_iff {registry : Registry} {owner : HostType} (known : registry.find? owner.name = some owner)
    (policy : AllowList) (settings : Settings) (store : Store) (operations : List Operation) (callee : Callee)
    (args : List Value) :
    let gate := Engine.gateOf registry policy
    let engine := (Engine.cached gate settings store).after operations
    let signature := args.map Value.tag
    ((∃ handle, callee.resolved engine owner args = .ok handle) ↔
      ∃ level type, callee.type? gate owner level = some type ∧
        ∃ member ∈ callee.members type, gate.Accepts .lenient member signature) ∧
    (∀ handle, callee.resolved engine owner args = .ok handle ↔
      ∃ route, IsLeast {route | ∃ other, callee.Reaches gate owner signature route other} route ∧
        callee.Reaches gate owner signature route handle) ∧
    ∀ handle, callee.resolved engine owner args = .ok handle →
      (∃ level type, callee.type? gate owner level = some type ∧
        ∃ member ∈ callee.members type, gate.Accepts .strict member signature) →
      gate.Accepts .strict handle.member signature := by
  intro gate engine signature
  have named : gate.Named := fun _ _ => Registry.name_of_find?
  have isFirst := callee.first named known args
  have resolves (handle : MethodHandle) :
      callee.resolved engine owner args = .ok handle ↔ callee.found gate owner args = some handle := by
    rw [resolved_after (Engine.coherent_gateOf registry policy) known]
    cases callee.found gate owner args <;> simp
  have picks (handle : MethodHandle) := (resolves handle).trans
    (isFirst.eq_some_iff (fun _ _ _ => Reaches.functional) handle)
  refine ⟨?_, picks, fun handle isResolved ⟨level, type, isType, member, isMember, accepted⟩ => ?_⟩
  · simp only [resolves]
    exact isFirst.exists_iff.trans (callee.exists_reaches_iff gate owner signature)
  · obtain ⟨route, ⟨-, isLeast⟩, isReached⟩ := (picks handle).1 isResolved
    obtain ⟨place, isThere⟩ := List.mem_iff_getElem?.1 isMember
    have reached : callee.Reaches gate owner signature ⟨.strict, true, level, place⟩ ⟨type.name, member⟩ :=
      ⟨type, member, isType, isThere, accepted, nofun, rfl⟩
    have isStrict := Route.strict_of_le (isLeast ⟨_, reached⟩) rfl
    obtain ⟨_, _, _, _, accepted, -, rfl⟩ := isReached
    rwa [isStrict] at accepted

def gauge : HostType where
  name := "Gauge"
  declaredParent? := none
  constants? := none
  constructors := []
  methods := [⟨"set", [.primitive .double], false, true, fun _ _ => pure .null⟩,
    ⟨"set", [.primitive .int], false, false, fun _ _ => pure .null⟩]
  fields := []

/-- A whole number goes to the hidden overload, also after a call with a floating-point number. -/
theorem resolved_hidden_overload :
    (Registry.mk [gauge]).find? gauge.name = some gauge ∧
      ∃ handle, (method "set").resolved ((Engine.cached (Engine.gateOf ⟨[gauge]⟩ .all) .standard).after
          [.callMethod (.object ⟨"Gauge", 0⟩) "set" [.double 0]]) gauge [.int 1] = .ok handle ∧
        (Engine.gateOf ⟨[gauge]⟩ .all).Accepts .strict handle.member [.primitive .int] := by
  have known : (Registry.mk [gauge]).find? gauge.name = some gauge := rfl
  have ⟨resolves, _, strict⟩ := resolved_eq_ok_iff known .all .standard .empty
    [.callMethod (.object ⟨"Gauge", 0⟩) "set" [.double 0]] (.method "set") [.int 1]
  have exactly (mode : MatchMode) :
      (Engine.gateOf ⟨[gauge]⟩ .all).Assignable mode (.primitive .int) (.primitive .int) := .exact mode rfl
  have isMember : gauge.methods[1] ∈ (method "set").members gauge := List.mem_of_getElem? (i := 1) rfl
  obtain ⟨handle, isResolved⟩ := resolves.2 ⟨0, gauge, rfl, _, isMember, .cons (exactly .lenient) .nil⟩
  exact ⟨known, handle, isResolved, strict handle isResolved ⟨0, gauge, rfl, _, isMember, .cons (exactly .strict) .nil⟩⟩

/-! ## Where the chain ends -/

/-- A level of a tower: a type whose parent is the next level, with a method where the chain is over. -/
def level (place : ℕ) : HostType where
  name := String.singleton (Char.ofNat ('A'.toNat + place))
  declaredParent? := some (String.singleton (Char.ofNat ('A'.toNat + place + 1)))
  constants? := none
  constructors := []
  methods := if place = maxChain then [⟨"f", [], true, true, fun _ _ => pure .null⟩] else []
  fields := []

def tower : Registry :=
  ⟨(List.range (maxChain + 1)).map level⟩

/-- A method that the first ancestor beyond the chain declares is not found. -/
theorem exists_ancestor_beyond_chain : ∃ (registry : Registry) (owner : HostType),
    registry.find? owner.name = some owner ∧
      (∃ level type, (Engine.gateOf registry .all).ancestor? owner level = some type ∧
        ∃ member ∈ (method "f").members type, (Engine.gateOf registry .all).Accepts .lenient member []) ∧
      ∀ handle, (method "f").resolved (Engine.cached (Engine.gateOf registry .all) .standard) owner [] ≠ .ok handle := by
  refine ⟨tower, level 0, rfl, ⟨maxChain, level maxChain, rfl, _, List.mem_cons_self, .nil⟩, ?_⟩
  intro handle isResolved
  have fails :
      ((method "f").resolved (Engine.cached (Engine.gateOf tower .all) .standard) (level 0) []).toBool = false := by
    decide +kernel
  rw [isResolved] at fails
  cases fails

end Callee

end LateBound
