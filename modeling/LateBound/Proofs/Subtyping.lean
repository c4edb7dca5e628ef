import LateBound.Proofs.Precedence

/-!
# Subtyping is a preorder

The visible parent links between types need not end: they may run into a cycle. A parent chain passes every type that
is reached over them, once and the nearest first, as long as these are no more than fit on a chain. Then one type lies
below another exactly when it reaches it, and so what lies below is ordered.
-/

namespace LateBound

open Relation

namespace Gate

/-- The name of a type and that of its parent, both of which the gate shows. -/
def Link (gate : Gate) (name above : String) : Prop :=
  ∃ type parent, gate.lookup name = .found type ∧ type.parent? = some above ∧ gate.lookup above = .found parent

def reached (gate : Gate) (name : String) : Set String :=
  {above | ReflTransGen gate.Link name above}

variable {gate : Gate}

theorem Named.of_found (named : gate.Named) {name : String} {type : HostType} (found : gate.lookup name = .found type) :
    type.name = name :=
  named name type (find?_of_lookup (congrArg Lookup.type? found)).1

/-! ## Links and levels -/

theorem ancestor?_add {type middle : HostType} {low : Nat} (isMiddle : gate.ancestor? type low = some middle)
    (high : Nat) : gate.ancestor? type (low + high) = gate.ancestor? middle high := by
  induction low generalizing type with
  | zero =>
    cases isMiddle
    rw [Nat.zero_add]
  | succ low inductionHypothesis =>
    obtain ⟨parent, isParent, rest⟩ := Option.bind_eq_some_iff.1 isMiddle
    rw [Nat.succ_add, ancestor?, isParent, Option.bind_some]
    exact inductionHypothesis rest

theorem parent?_of_link (named : gate.Named) {type : HostType} {above : String}
    (found : gate.lookup type.name = .found type) (link : gate.Link type.name above) :
    ∃ parent, gate.parent? type = some parent ∧ parent.name = above ∧ gate.lookup above = .found parent := by
  obtain ⟨shown, parent, isShown, isParent, isFound⟩ := link
  obtain rfl : type = shown := by
    rw [found] at isShown
    cases isShown
    rfl
  refine ⟨parent, ?_, named.of_found isFound, isFound⟩
  rw [parent?, isParent, Option.bind_some, isFound]
  rfl

theorem link_of_parent? (named : gate.Named) {type parent : HostType} (found : gate.lookup type.name = .found type)
    (isParent : gate.parent? type = some parent) :
    gate.Link type.name parent.name ∧ gate.lookup parent.name = .found parent := by
  obtain ⟨above, declared, shown⟩ := Option.bind_eq_some_iff.1 isParent
  have isFound : gate.lookup above = .found parent := lookup_eq_found.2 shown
  obtain rfl := named.of_found isFound
  exact ⟨⟨type, parent, found, declared, isFound⟩, isFound⟩

theorem reached_of_ancestor? (named : gate.Named) {type above : HostType} (found : gate.lookup type.name = .found type)
    {level : Nat} (isAncestor : gate.ancestor? type level = some above) :
    ReflTransGen gate.Link type.name above.name ∧ gate.lookup above.name = .found above := by
  induction level generalizing type with
  | zero =>
    cases isAncestor
    exact ⟨.refl, found⟩
  | succ level inductionHypothesis =>
    obtain ⟨parent, isParent, rest⟩ := Option.bind_eq_some_iff.1 isAncestor
    obtain ⟨link, shown⟩ := link_of_parent? named found isParent
    obtain ⟨reaches, isFound⟩ := inductionHypothesis shown rest
    exact ⟨.head link reaches, isFound⟩

theorem exists_ancestor?_of_reached (named : gate.Named) {type : HostType} (found : gate.lookup type.name = .found type)
    {name : String} (reaches : ReflTransGen gate.Link type.name name) :
    ∃ level above, gate.ancestor? type level = some above ∧ above.name = name := by
  induction reaches with
  | refl => exact ⟨0, type, rfl, rfl⟩
  | tail _ link inductionHypothesis =>
    obtain ⟨level, middle, isMiddle, rfl⟩ := inductionHypothesis
    obtain ⟨-, shown⟩ := reached_of_ancestor? named found isMiddle
    obtain ⟨parent, isParent, isName, -⟩ := parent?_of_link named shown link
    refine ⟨level + 1, parent, ?_, isName⟩
    rw [ancestor?_add isMiddle, ancestor?, isParent]
    rfl

/-! ## Levels that fit on a chain -/

theorem exists_ancestor?_below {type above : HostType} {low high : Nat}
    (isAncestor : gate.ancestor? type (low + high) = some above) : ∃ middle, gate.ancestor? type low = some middle := by
  induction low generalizing type with
  | zero => exact ⟨type, rfl⟩
  | succ low inductionHypothesis =>
    rw [Nat.succ_add] at isAncestor
    obtain ⟨parent, isParent, rest⟩ := Option.bind_eq_some_iff.1 isAncestor
    obtain ⟨middle, isMiddle⟩ := inductionHypothesis rest
    refine ⟨middle, ?_⟩
    rw [ancestor?, isParent]
    exact isMiddle

/-- Two levels up to any that holds as many types as can be reached have one ancestor. -/
theorem exists_level_twice (named : gate.Named) {type above : HostType} (found : gate.lookup type.name = .found type)
    {room level : Nat} (few : (gate.reached type.name).encard ≤ room) (within : room ≤ level)
    (isAncestor : gate.ancestor? type level = some above) :
    ∃ low high, low < high ∧ high ≤ room ∧ gate.ancestor? type low = gate.ancestor? type high := by
  have each (place : Nat) (below : place ≤ room) : ∃ middle, gate.ancestor? type place = some middle := by
    obtain ⟨rest, rfl⟩ := Nat.exists_eq_add_of_le (below.trans within)
    exact exists_ancestor?_below isAncestor
  let nameAt (place : Nat) : String := ((gate.ancestor? type place).map HostType.name).getD ""
  have finite : (gate.reached type.name).Finite := Set.finite_of_encard_le_coe few
  have fewer : finite.toFinset.card < (Finset.range (room + 1)).card := by
    rw [finite.encard_eq_coe_toFinset_card] at few
    rw [Finset.card_range]
    exact Nat.lt_succ_of_le (Nat.cast_le.1 few)
  have inside : ∀ place ∈ Finset.range (room + 1), nameAt place ∈ finite.toFinset := by
    intro place isPlace
    obtain ⟨middle, isMiddle⟩ := each place (Nat.le_of_lt_succ (Finset.mem_range.1 isPlace))
    rw [Set.Finite.mem_toFinset]
    unfold nameAt
    rw [isMiddle]
    exact (reached_of_ancestor? named found isMiddle).1
  obtain ⟨one, isOne, other, isOther, differ, sameName⟩ := Finset.exists_ne_map_eq_of_card_lt_of_maps_to fewer inside
  have one_le := Nat.le_of_lt_succ (Finset.mem_range.1 isOne)
  have other_le := Nat.le_of_lt_succ (Finset.mem_range.1 isOther)
  have same : gate.ancestor? type one = gate.ancestor? type other := by
    obtain ⟨first, isFirst⟩ := each one one_le
    obtain ⟨second, isSecond⟩ := each other other_le
    have firstShown := (reached_of_ancestor? named found isFirst).2
    have secondShown := (reached_of_ancestor? named found isSecond).2
    unfold nameAt at sameName
    rw [isFirst, isSecond] at sameName ⊢
    have sameName : first.name = second.name := sameName
    rw [sameName, secondShown] at firstShown
    cases firstShown
    rfl
  obtain less | less := Nat.lt_or_gt_of_ne differ
  · exact ⟨one, other, less, other_le, same⟩
  · exact ⟨other, one, less, one_le, same.symm⟩

/-- What is an ancestor at some level is one at a level that is less than the number of types that can be reached. -/
theorem exists_level_lt (named : gate.Named) {type above : HostType} (found : gate.lookup type.name = .found type)
    {room : Nat} (few : (gate.reached type.name).encard ≤ room) {level : Nat}
    (isAncestor : gate.ancestor? type level = some above) :
    ∃ nearer < room, gate.ancestor? type nearer = some above := by
  induction level using Nat.strongRecOn with
  | ind level inductionHypothesis =>
    obtain below | beyond := Nat.lt_or_ge level room
    · exact ⟨level, below, isAncestor⟩
    · obtain ⟨low, high, less, within, same⟩ := exists_level_twice named found few beyond isAncestor
      -- The way from the lower of the two levels leads to the same ancestor in fewer steps.
      obtain ⟨rest, rfl⟩ := Nat.exists_eq_add_of_le (within.trans beyond)
      obtain ⟨middle, isMiddle⟩ := exists_ancestor?_below isAncestor
      have shorter : gate.ancestor? type (low + rest) = some above := by
        rw [ancestor?_add (same.trans isMiddle)]
        rwa [ancestor?_add isMiddle] at isAncestor
      exact inductionHypothesis (low + rest) (Nat.add_lt_add_right less rest) shorter

end Gate

/-! ## The chain -/

theorem extendChain_fresh {gate : Gate} (named : gate.Named) (seen : List String) (last : HostType) (room : Nat) :
    let names := (answer (extendChain gate seen last room)).map HostType.name
    names.Nodup ∧ ∀ name ∈ names, name ∉ seen := by
  induction room generalizing seen last with
  | zero => exact ⟨List.nodup_nil, List.forall_mem_nil _⟩
  | succ room inductionHypothesis =>
    rw [answer_extendChain]
    cases last.parent? with
    | none => exact ⟨List.nodup_nil, List.forall_mem_nil _⟩
    | some parent =>
      dsimp only
      split
      · exact ⟨List.nodup_nil, List.forall_mem_nil _⟩
      · next isNew =>
        cases shown : gate.lookup parent with
        | notFound | denied => exact ⟨List.nodup_nil, List.forall_mem_nil _⟩
        | found next =>
          obtain rfl := named.of_found shown
          obtain ⟨nodup, fresh⟩ := inductionHypothesis (next.name :: seen) next
          refine ⟨List.nodup_cons.2 ⟨fun inside => ?_, nodup⟩, List.forall_mem_cons.2 ⟨?_, fun name inside => ?_⟩⟩
          · exact fresh _ inside List.mem_cons_self
          · exact fun isSeen => isNew (List.contains_iff_mem.2 isSeen)
          · exact fun isSeen => fresh name inside (List.mem_cons_of_mem _ isSeen)

/-- The types are the visible type and all that it reaches, each once and the nearest first. -/
structure Gate.Lineage (gate : Gate) (type : HostType) (types : List HostType) : Prop where
  first : types.head? = some type
  once : (types.map HostType.name).Nodup
  all : ∀ above, above ∈ types ↔
    gate.lookup above.name = .found above ∧ ReflTransGen gate.Link type.name above.name
  nearest : ∀ place above, types[place]? = some above →
    gate.ancestor? type place = some above ∧ ∀ level, gate.ancestor? type level = some above → place ≤ level

theorem lineage_ancestors {gate : Gate} (named : gate.Named) {type : HostType}
    (found : gate.lookup type.name = .found type) (few : (gate.reached type.name).encard ≤ maxChain) :
    gate.Lineage type (answer (ancestors gate type)) := by
  have unrivalled := Gate.unrivalled_of_found (Gate.find?_of_lookup (congrArg Lookup.type? found)).1
  have once : ((answer (ancestors gate type)).map HostType.name).Nodup := by
    obtain ⟨nodup, fresh⟩ := extendChain_fresh named [type.name] type (maxChain - 1)
    exact List.nodup_cons.2 ⟨fun inside => fresh _ inside List.mem_cons_self, nodup⟩
  constructor
  case first => rfl
  case once => exact once
  case all =>
    intro above
    constructor
    · intro inside
      obtain ⟨level, passed⟩ := List.mem_iff_getElem?.1 inside
      obtain ⟨reaches, shown⟩ := Gate.reached_of_ancestor? named found (ancestor?_of_ancestors passed).1
      exact ⟨shown, reaches⟩
    · rintro ⟨shown, reaches⟩
      obtain ⟨level, other, isAncestor, sameName⟩ := Gate.exists_ancestor?_of_reached named found reaches
      obtain rfl : other = above := by
        have otherShown := (Gate.reached_of_ancestor? named found isAncestor).2
        rw [sameName, shown] at otherShown
        cases otherShown
        rfl
      obtain ⟨nearer, within, isNearer⟩ := Gate.exists_level_lt named found few isAncestor
      obtain ⟨place, -, passed⟩ := exists_passed_of_ancestor? named unrivalled within isNearer
      exact List.mem_of_getElem? passed
  case nearest =>
    intro place above passed
    obtain ⟨isAncestor, within⟩ := ancestor?_of_ancestors passed
    refine ⟨isAncestor, fun level isOther => ?_⟩
    obtain below | beyond := Nat.lt_or_ge level maxChain
    · obtain ⟨nearer, nearer_le, isPassed⟩ := exists_passed_of_ancestor? named unrivalled below isOther
      have inRange : place < ((answer (ancestors gate type)).map HostType.name).length := by
        rw [List.length_map]
        exact (List.getElem?_eq_some_iff.1 passed).1
      obtain rfl : place = nearer := (List.getElem?_inj inRange once).1 <| by
        rw [List.getElem?_map, List.getElem?_map, passed, isPassed]
      exact nearer_le
    · omega

/-- One type lies below another exactly if it is the other or reaches it. -/
theorem below_iff_reaches {gate : Gate} (named : gate.Named) {name ancestor : String}
    (few : (gate.reached name).encard ≤ maxChain) :
    gate.Below name ancestor ↔ name = ancestor ∨ TransGen gate.Link name ancestor := by
  constructor
  · rintro (rfl | ⟨type, level, above, found, -, isAncestor, rfl⟩)
    · exact .inl rfl
    · obtain rfl := named.of_found found
      obtain ⟨reaches, -⟩ := Gate.reached_of_ancestor? named found isAncestor
      obtain same | further := reflTransGen_iff_eq_or_transGen.1 reaches
      · exact .inl same.symm
      · exact .inr further
  · rintro (rfl | reaches)
    · exact .inl rfl
    · obtain ⟨_, ⟨type, parent, found, declared, isFound⟩, rest⟩ := TransGen.head'_iff.1 reaches
      obtain rfl := named.of_found found
      have whole : ReflTransGen gate.Link type.name ancestor := reaches.to_reflTransGen
      obtain ⟨level, above, isAncestor, rfl⟩ := Gate.exists_ancestor?_of_reached named found whole
      obtain ⟨nearer, within, isNearer⟩ := Gate.exists_level_lt named found few isAncestor
      exact .inr ⟨type, nearer, above, found, within, isNearer, rfl⟩

/-! ## Behind any operations -/

namespace Engine

def isSubtype (engine : Engine Caches) (name ancestor : String) : Bool :=
  ((LateBound.isSubtype engine.gate name ancestor).run engine.machine.memory).1

def ancestors (engine : Engine Caches) (type : HostType) : List HostType :=
  ((LateBound.ancestors engine.gate type).run engine.machine.memory).1

theorem isSubtype_eq_answer {gate : Gate} (coherent : gate.Coherent) (settings : Settings) (store : Store)
    (operations : List Operation) (name ancestor : String) :
    ((cached gate settings store).after operations).isSubtype name ancestor =
      LateBound.answer (LateBound.isSubtype gate name ancestor) := by
  have engines := coherent.engines_after settings store operations
  have same := (coherent.showSame.isSubtype name ancestor _ () engines.machine.memory).1
  have isGate : ((cached gate settings store).after operations).gate = gate := engines.first
  unfold isSubtype
  rw [isGate]
  exact same

theorem ancestors_eq_answer {gate : Gate} (coherent : gate.Coherent) (settings : Settings) (store : Store)
    (operations : List Operation) {type : HostType} (known : gate.find? type.name = some type) :
    ((cached gate settings store).after operations).ancestors type =
      LateBound.answer (LateBound.ancestors gate type) := by
  have engines := coherent.engines_after settings store operations
  have same := (coherent.showSame.ancestors (coherent.found _ _ known) _ () engines.machine.memory).1.1
  have isGate : ((cached gate settings store).after operations).gate = gate := engines.first
  unfold ancestors
  rw [isGate]
  exact same

end Engine

/-- Behind any operations, if from each type few enough types are reached over visible parents, then one lies below
another exactly when it reaches it, what lies below is a preorder, and the parent chain of a type are the types that
it reaches. -/
theorem subtypes_preordered (registry : Registry) (policy : AllowList) (settings : Settings) (store : Store)
    (operations : List Operation) (few : ∀ name, ((Engine.gateOf registry policy).reached name).encard ≤ 32) :
    let gate := Engine.gateOf registry policy
    let engine := (Engine.cached gate settings store).after operations
    (∀ name ancestor, engine.isSubtype name ancestor = true ↔ name = ancestor ∨ TransGen gate.Link name ancestor) ∧
      IsPreorder String (fun name ancestor => engine.isSubtype name ancestor = true) ∧
      ∀ name type, gate.lookup name = .found type → gate.Lineage type (engine.ancestors type) := by
  intro gate engine
  have named : gate.Named := fun _ _ => Registry.name_of_find?
  have coherent := Engine.coherent_gateOf registry policy
  have below (name ancestor : String) :
      engine.isSubtype name ancestor = true ↔ name = ancestor ∨ TransGen gate.Link name ancestor := by
    unfold engine
    rw [Engine.isSubtype_eq_answer coherent, answer_isSubtype named]
    exact below_iff_reaches named (few name)
  refine ⟨below, { refl := fun name => (below name name).2 (.inl rfl), trans := fun a b c first second => ?_ }, ?_⟩
  · refine (below a c).2 ?_
    obtain rfl | first := (below a b).1 first
    · exact (below _ c).1 second
    · obtain rfl | second := (below b c).1 second
      · exact .inr first
      · exact .inr (first.trans second)
  · intro name type found
    obtain rfl := named.of_found found
    have known : gate.find? type.name = some type := (Gate.find?_of_lookup (congrArg Lookup.type? found)).1
    unfold engine
    rw [Engine.ancestors_eq_answer coherent settings store operations known]
    exact lineage_ancestors named found (few type.name)

/-- No more names are reached than those of registered types, but for one that stands for none. -/
theorem Engine.encard_reached_le (registry : Registry) (policy : AllowList) (name : String) :
    ((gateOf registry policy).reached name).encard ≤ registry.types.length + 1 := by
  let names : Set String := {other | other ∈ registry.types.map HostType.name}
  have inside : (gateOf registry policy).reached name ⊆ insert name names := by
    intro other reaches
    obtain rfl | ⟨_, -, _, parent, -, -, found⟩ := ReflTransGen.cases_tail reaches
    · exact Set.mem_insert other names
    · have isFound : registry.find? other = some parent := (Gate.find?_of_lookup (congrArg Lookup.type? found)).1
      refine Set.mem_insert_of_mem _ (List.mem_map.2 ⟨parent, List.mem_of_find?_eq_some isFound, ?_⟩)
      exact Registry.name_of_find? isFound
  have registered : names.encard ≤ registry.types.length := by
    unfold names
    rw [← List.coe_toFinset, Set.encard_coe_eq_coe_finsetCard, Nat.cast_le]
    exact (List.toFinset_card_le _).trans_eq (List.length_map _)
  calc ((gateOf registry policy).reached name).encard
      ≤ (insert name names).encard := Set.encard_le_encard inside
    _ ≤ names.encard + 1 := Set.encard_insert_le _ _
    _ ≤ registry.types.length + 1 := by gcongr

def typeBelow (name parent : String) : HostType :=
  ⟨name, some parent, none, [], [], []⟩

def parentsInCycle : Registry :=
  ⟨[typeBelow "A" "B", typeBelow "B" "A", typeBelow "C" "A"]⟩

/-- From outside a cycle all of it is reached, and from within the cycle nothing outside. -/
theorem cycle_entered_from_outside :
    let gate := Engine.gateOf parentsInCycle .all
    let engine := (Engine.cached gate .standard .empty).after [.construct "C" [.null]]
    (∀ name, (gate.reached name).encard ≤ 32) ∧ engine.isSubtype "C" "B" = true ∧ engine.isSubtype "B" "C" = false ∧
      gate.Lineage (typeBelow "C" "A") (engine.ancestors (typeBelow "C" "A")) := by
  have few (name : String) : ((Engine.gateOf parentsInCycle .all).reached name).encard ≤ 32 :=
    (Engine.encard_reached_le parentsInCycle .all name).trans (by decide)
  obtain ⟨below, ordered, lineage⟩ :=
    subtypes_preordered parentsInCycle .all .standard .empty [.construct "C" [.null]] few
  have isChild (name parent : String) (isLink : (Engine.gateOf parentsInCycle .all).Link name parent) :=
    (below name parent).2 (.inr (.single isLink))
  refine ⟨few, ?_, ?_, lineage "C" _ rfl⟩
  · exact ordered.trans "C" "A" "B" (isChild _ _ ⟨_, _, rfl, rfl, rfl⟩) (isChild _ _ ⟨_, _, rfl, rfl, rfl⟩)
  · rw [Bool.eq_false_iff, Ne, below]
    rintro (same | reaches)
    · exact absurd same (by decide)
    · obtain ⟨_, -, child, _, shown, isParent, -⟩ := TransGen.tail'_iff.1 reaches
      have isFound : parentsInCycle.find? _ = some child := (Gate.find?_of_lookup (congrArg Lookup.type? shown)).1
      have noParent : ∀ type ∈ parentsInCycle.types, type.parent? ≠ some "C" := by decide
      exact noParent child (List.mem_of_find?_eq_some isFound) isParent

end LateBound
