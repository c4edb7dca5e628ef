import LateBound.Proofs.Transparency

/-!
# What a search without memory sees

Which types a parent chain passes, which type lies below which and which argument fits which parameter, said
without walking: by the iterated visible parent of a type and by rules for tags. A search that remembers
nothing comes to exactly that. A chain that runs into a cycle passes every type of it once, so that a type
that is an ancestor at some level is passed at this level or nearer.
-/

namespace LateBound

/-! ## Actions that remember nothing -/

/-- What an action comes to that remembers nothing. -/
def answer {α : Type} (action : StateM Unit α) : α :=
  (action.run ()).1

variable {α β : Type}

@[simp] theorem answer_pure (a : α) : answer (pure a) = a := rfl

@[simp] theorem answer_bind (action : StateM Unit α) (next : α → StateM Unit β) :
    answer (action >>= next) = answer (next (answer action)) := rfl

@[simp] theorem answer_lookup (gate : Gate) (name : String) :
    answer (Memory.lookup gate name) = gate.lookup name := rfl

theorem answer_findM? (fits : α → StateM Unit Bool) (as : List α) :
    answer (as.findM? fits) = as.find? fun a => answer (fits a) := by
  induction as with
  | nil => rfl
  | cons a as inductionHypothesis =>
    rw [List.findM?, answer_bind, List.find?_cons]
    cases answer (fits a) with
    | false => exact inductionHypothesis
    | true => rfl

theorem answer_findSomeM? (find : α → StateM Unit (Option β)) (as : List α) :
    answer (as.findSomeM? find) = as.findSome? fun a => answer (find a) := by
  induction as with
  | nil => rfl
  | cons a as inductionHypothesis =>
    rw [List.findSomeM?, answer_bind, List.findSome?_cons]
    cases answer (find a) with
    | none => exact inductionHypothesis
    | some b => rfl

theorem answer_allM (fits : α → StateM Unit Bool) (as : List α) :
    answer (as.allM fits) = as.all fun a => answer (fits a) := by
  induction as with
  | nil => rfl
  | cons a as inductionHypothesis =>
    rw [List.allM, answer_bind, List.all_cons]
    cases answer (fits a) with
    | false => rfl
    | true => exact inductionHypothesis

/-! ## Ancestors -/

namespace Gate

def parent? (gate : Gate) (type : HostType) : Option HostType :=
  type.parent?.bind fun name => (gate.lookup name).type?

/-- The visible ancestor of a type so many levels above it, itself at level zero. -/
def ancestor? (gate : Gate) : HostType → Nat → Option HostType
  | type, 0 => some type
  | type, level + 1 => (gate.parent? type).bind (gate.ancestor? · level)

def Named (gate : Gate) : Prop :=
  ∀ name type, gate.find? name = some type → type.name = name

/-- No other type is found under the name of the type, which the provider need not have. -/
def Unrivalled (gate : Gate) (type : HostType) : Prop :=
  ∀ other, gate.find? type.name = some other → other = type

/-- A name is another one, or that of a visible type one of whose nearest ancestors has the other name. -/
def Below (gate : Gate) (name ancestor : String) : Prop :=
  name = ancestor ∨ ∃ type level above, gate.lookup name = .found type ∧ level < maxChain ∧
    gate.ancestor? type level = some above ∧ above.name = ancestor

variable {gate : Gate}

theorem lookup_eq_found {name : String} {type : HostType} :
    gate.lookup name = .found type ↔ (gate.lookup name).type? = some type := by
  cases gate.lookup name <;> simp [Lookup.type?]

theorem unrivalled_of_found {type : HostType} (found : gate.find? type.name = some type) : gate.Unrivalled type := by
  intro other isOther
  rw [found] at isOther
  exact (Option.some.inj isOther).symm

theorem find?_of_parent? {type parent : HostType} (isParent : gate.parent? type = some parent) :
    ∃ name, type.parent? = some name ∧ gate.find? name = some parent := by
  obtain ⟨name, declared, shown⟩ := Option.bind_eq_some_iff.1 isParent
  exact ⟨name, declared, (find?_of_lookup shown).1⟩

end Gate

theorem answer_extendChain (gate : Gate) (seen : List String) (last : HostType) (room : Nat) :
    answer (extendChain gate seen last (room + 1)) =
      match last.parent? with
      | none => []
      | some parent =>
        if seen.contains parent then []
        else
          match gate.lookup parent with
          | .found next => next :: answer (extendChain gate (parent :: seen) next room)
          | .notFound | .denied => [] := by
  rw [extendChain]
  cases last.parent? with
  | none => rfl
  | some parent =>
    cases cyclic : seen.contains parent with
    | true =>
      simp only [cyclic, if_true]
      rfl
    | false =>
      simp only [cyclic, Bool.false_eq_true, if_false, answer_bind, answer_lookup]
      cases gate.lookup parent <;> rfl

theorem ancestor?_of_extendChain {gate : Gate} {seen : List String} {last type : HostType} {room level : Nat}
    (passed : (answer (extendChain gate seen last room))[level]? = some type) :
    gate.ancestor? last (level + 1) = some type ∧ level < room := by
  induction room generalizing seen last level with
  | zero => cases passed
  | succ room inductionHypothesis =>
    rw [answer_extendChain] at passed
    split at passed
    · cases passed
    next parent isParent =>
      split at passed
      · cases passed
      split at passed
      · next next shown =>
        have above : gate.parent? last = some next := by
          rw [Gate.parent?, isParent, Option.bind_some, shown]
          rfl
        rw [Gate.ancestor?, above, Option.bind_some]
        cases level with
        | zero => exact ⟨passed, Nat.succ_pos room⟩
        | succ level =>
          obtain ⟨isAncestor, within⟩ := inductionHypothesis passed
          exact ⟨isAncestor, Nat.succ_lt_succ within⟩
      · cases passed
      · cases passed

theorem Gate.ancestor?_mem {gate : Gate} {types : List HostType}
    (closed : ∀ type ∈ types, ∀ parent, gate.parent? type = some parent → parent ∈ types) {type above : HostType}
    (inside : type ∈ types) {level : Nat} (isAncestor : gate.ancestor? type level = some above) : above ∈ types := by
  induction level generalizing type with
  | zero =>
    cases isAncestor
    exact inside
  | succ level inductionHypothesis =>
    obtain ⟨parent, isParent, rest⟩ := Option.bind_eq_some_iff.1 isAncestor
    exact inductionHypothesis (closed type inside parent isParent) rest

/-- The types that a chain has passed: the last of them is where it goes on, and the parents of all others are
among them. -/
structure Passed (gate : Gate) (seen : List String) (last : HostType) (types : List HostType) : Prop where
  unrivalled : ∀ type ∈ types, gate.Unrivalled type
  seen : ∀ name ∈ seen, ∃ type ∈ types, type.name = name
  reached : last ∈ types
  closed : ∀ type ∈ types, type = last ∨ ∀ parent, gate.parent? type = some parent → parent ∈ types

theorem Passed.extend {gate : Gate} {seen : List String} {last next : HostType} {types : List HostType}
    (passed : Passed gate seen last types) (unrivalled : gate.Unrivalled next)
    (isParent : gate.parent? last = some next) : Passed gate (next.name :: seen) next (next :: types) where
  unrivalled := List.forall_mem_cons.2 ⟨unrivalled, passed.unrivalled⟩
  seen := List.forall_mem_cons.2 ⟨⟨next, List.mem_cons_self, rfl⟩, fun name isSeen => by
    obtain ⟨type, inside, rfl⟩ := passed.seen name isSeen
    exact ⟨type, List.mem_cons_of_mem next inside, rfl⟩⟩
  reached := List.mem_cons_self
  closed := List.forall_mem_cons.2 ⟨.inl rfl, fun type inside => .inr fun parent above => by
    obtain rfl | within := passed.closed type inside
    · cases isParent.symm.trans above
      exact List.mem_cons_self
    · exact List.mem_cons_of_mem next (within parent above)⟩

/-- An ancestor was passed before, or the chain passes it no later than at its level. -/
theorem mem_of_ancestor? {gate : Gate} (named : gate.Named) {seen : List String} {last above : HostType}
    {types : List HostType} (passed : Passed gate seen last types) {room level : Nat} (within : level < room)
    (isAncestor : gate.ancestor? last (level + 1) = some above) :
    above ∈ types ∨ above ∈ (answer (extendChain gate seen last room)).take (level + 1) := by
  induction room generalizing seen last types level with
  | zero => exact absurd within (Nat.not_lt_zero level)
  | succ room inductionHypothesis =>
    obtain ⟨parent, isParent, rest⟩ := Option.bind_eq_some_iff.1 isAncestor
    obtain ⟨name, declared, found⟩ := Gate.find?_of_parent? isParent
    have isName : parent.name = name := named name parent found
    subst isName
    rw [answer_extendChain, declared]
    dsimp only
    cases cyclic : seen.contains parent.name with
    | true =>
      -- The parent was passed already, and so from here on all ancestors were.
      obtain ⟨type, inside, same⟩ := passed.seen _ (List.contains_iff_mem.1 cyclic)
      obtain rfl := passed.unrivalled type inside parent (same.symm ▸ found)
      refine .inl (Gate.ancestor?_mem (fun type inside next above => ?_) inside rest)
      obtain rfl | within := passed.closed type inside
      · cases isParent.symm.trans above
        assumption
      · exact within next above
    | false =>
      have shown : gate.lookup parent.name = .found parent := by
        rw [Gate.parent?, declared, Option.bind_some] at isParent
        exact Gate.lookup_eq_found.2 isParent
      simp only [Bool.false_eq_true, if_false, shown, List.take_succ_cons]
      cases level with
      | zero =>
        cases rest
        exact .inr List.mem_cons_self
      | succ level =>
        have unrivalled := Gate.unrivalled_of_found found
        obtain old | new := inductionHypothesis (passed.extend unrivalled isParent) (Nat.lt_of_succ_lt_succ within) rest
        · obtain rfl | before := List.mem_cons.1 old
          · exact .inr List.mem_cons_self
          · exact .inl before
        · exact .inr (List.mem_cons_of_mem parent new)

theorem ancestor?_of_ancestors {gate : Gate} {type above : HostType} {level : Nat}
    (passed : (answer (ancestors gate type))[level]? = some above) :
    gate.ancestor? type level = some above ∧ level < maxChain := by
  rw [ancestors, answer_bind, answer_pure] at passed
  cases level with
  | zero =>
    cases passed
    exact ⟨rfl, by decide⟩
  | succ level =>
    obtain ⟨isAncestor, within⟩ := ancestor?_of_extendChain passed
    exact ⟨isAncestor, by unfold maxChain at *; omega⟩

theorem exists_passed_of_ancestor? {gate : Gate} (named : gate.Named) {type above : HostType}
    (unrivalled : gate.Unrivalled type) {level : Nat} (within : level < maxChain)
    (isAncestor : gate.ancestor? type level = some above) :
    ∃ nearer ≤ level, (answer (ancestors gate type))[nearer]? = some above := by
  cases level with
  | zero =>
    cases isAncestor
    exact ⟨0, Nat.le_refl 0, rfl⟩
  | succ level =>
    have passed : Passed gate [type.name] type [type] :=
      ⟨List.forall_mem_singleton.2 unrivalled, List.forall_mem_singleton.2 ⟨type, List.mem_singleton_self type, rfl⟩,
        List.mem_singleton_self type, List.forall_mem_singleton.2 (.inl rfl)⟩
    have room : level < maxChain - 1 := by
      unfold maxChain at *
      omega
    obtain isSelf | above := mem_of_ancestor? named passed room isAncestor
    · cases List.mem_singleton.1 isSelf
      exact ⟨0, Nat.zero_le _, rfl⟩
    · obtain ⟨nearer, isPassed⟩ := List.mem_iff_getElem?.1 above
      rw [List.getElem?_take] at isPassed
      split at isPassed
      · next earlier => exact ⟨nearer + 1, earlier, isPassed⟩
      · cases isPassed

theorem answer_isSubtype {gate : Gate} (named : gate.Named) (name ancestor : String) :
    answer (isSubtype gate name ancestor) = true ↔ gate.Below name ancestor := by
  unfold isSubtype Gate.Below
  by_cases same : name = ancestor
  · simp [same]
  · simp only [same, if_false, false_or, answer_bind, answer_lookup]
    cases shown : gate.lookup name with
    | notFound | denied => simp
    | found type =>
      have found : gate.find? name = some type :=
        (Gate.find?_of_lookup (Gate.lookup_eq_found.1 shown)).1
      have isName : type.name = name := named name type found
      have unrivalled : gate.Unrivalled type := Gate.unrivalled_of_found (isName.symm ▸ found)
      simp only [answer_bind, answer_pure, List.any_eq_true, beq_iff_eq, Lookup.found.injEq]
      constructor
      · rintro ⟨above, inside, isAncestor⟩
        obtain ⟨level, passed⟩ := List.mem_iff_getElem?.1 inside
        obtain ⟨atLevel, within⟩ := ancestor?_of_ancestors passed
        exact ⟨type, level, above, rfl, within, atLevel, isAncestor⟩
      · rintro ⟨_, level, above, rfl, within, atLevel, isAncestor⟩
        obtain ⟨nearer, -, passed⟩ := exists_passed_of_ancestor? named unrivalled within atLevel
        exact ⟨above, List.mem_of_getElem? passed, isAncestor⟩

end LateBound
