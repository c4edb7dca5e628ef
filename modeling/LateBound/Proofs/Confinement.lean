import LateBound.Proofs.DiscreetBuiltins
import LateBound.Proofs.Transparency

/-!
# Denied types are opaque

Whatever is performed on an engine over a registry under an allow-list, only members of admitted types are
run. And nobody learns anything of a denied type but that there is one of its name: engines over two
registries that differ in nothing but what the denied names stand for are twins, as long as the members of
the admitted types do not look inside the types they are given as values.
-/

namespace LateBound

/-- The registries know the same names, and the same types under those that are admitted. -/
structure Registry.DifferBehind (policy : AllowList) (first second : Registry) : Prop where
  admitted : ∀ name, policy.admits name = true → first.find? name = second.find? name
  names : ∀ name, (first.find? name).isSome = (second.find? name).isSome

def AllowList.denies (policy : AllowList) (name : String) : Bool :=
  !policy.admits name

/-- The type is the one that goes by its name, which is admitted. -/
structure Gate.Shows (gate : Gate) (type : HostType) : Prop where
  describes : gate.Describes type
  admitted : gate.admits type.name = true

namespace Registry.DifferBehind

variable {policy : AllowList} {first second carried carried' : Registry}

theorem refl (policy : AllowList) (registry : Registry) : registry.DifferBehind policy registry :=
  ⟨fun _ _ => rfl, fun _ => rfl⟩

variable (differ : first.DifferBehind policy second) (differCarried : carried.DifferBehind policy carried')

include differ

theorem lookup_eq (name : String) :
    (Engine.gateOf first policy carried).lookup name = (Engine.gateOf second policy carried').lookup name := by
  show Gate.judge _ name (first.find? name) = Gate.judge _ name (second.find? name)
  have names := differ.names name
  unfold Gate.judge
  cases found : first.find? name with
  | none =>
    rw [found, Option.isSome_none, eq_comm, Option.isSome_eq_false_iff, Option.isNone_iff_eq_none] at names
    rw [names]
  | some type =>
    rw [found, Option.isSome_some, eq_comm, Option.isSome_iff_exists] at names
    obtain ⟨type', found'⟩ := names
    rw [found']
    show (if policy.admits name then Lookup.found type else .denied) =
      if policy.admits name then Lookup.found type' else .denied
    split
    · next admitted => rw [← Option.some.inj (found.symm.trans ((differ.admitted name admitted).trans found'))]
    · rfl

theorem showSame : ShowSame (fun _ _ : Unit => True) (Engine.gateOf first policy carried).Shows
    (Engine.gateOf first policy carried) (Engine.gateOf second policy carried') := by
  refine fun name => Coupled.pure ⟨differ.lookup_eq name, fun type shown => ?_⟩
  obtain ⟨found, admitted⟩ := Gate.find?_of_lookup shown
  have same : type.name = name := Registry.name_of_find? found
  subst same
  exact ⟨Engine.describe_of_found found, admitted⟩

include differCarried

theorem describe_eq {name : String} (admitted : policy.admits name = true) :
    (Engine.gateOf first policy carried).describe name = (Engine.gateOf second policy carried').describe name := by
  unfold Engine.gateOf
  dsimp only
  rw [differ.admitted name admitted, differCarried.admitted name admitted]

/-- Engines over the two registries, on values that differ at most behind the names that `hides` picks
out. -/
def twins (hides : String → Bool)
    (discreet : ∀ type, (Engine.gateOf first policy carried).Shows type → type.Discreet hides fun _ => True) :
    Twins Unit Unit where
  first := Engine.gateOf first policy carried
  second := Engine.gateOf second policy carried'
  ledger := .any
  hides := hides
  known := (Engine.gateOf first policy carried).Shows
  permits name := policy.admits name = true
  linked _ _ := True
  admitSame := rfl
  showSame := differ.showSame
  describeSame name := by
    have isName := Engine.name_describe first policy carried name
    have isName' := Engine.name_describe second policy carried' name
    have same (admitted : policy.admits name = true) :
        (Engine.gateOf first policy carried).describe name = (Engine.gateOf second policy carried').describe name ∧
          (Engine.gateOf first policy carried).Shows ((Engine.gateOf first policy carried).describe name) :=
      ⟨differ.describe_eq differCarried admitted, (Engine.coherent_gateOf first policy carried).carried name,
        isName.symm ▸ admitted⟩
    exact ⟨⟨isName.trans isName'.symm, fun admitted => same (isName ▸ admitted)⟩, same⟩
  findSame isKnown _ sort := differ.showSame.search isKnown _ sort
  parseSame _ := Coupled.pure ⟨rfl, rfl⟩
  permitKnown isShown := isShown.admitted
  discreet := discreet _

instance (hides : String → Bool)
    (discreet : ∀ type, (Engine.gateOf first policy carried).Shows type → type.Discreet hides fun _ => True) :
    (differ.twins differCarried hides discreet).Forgetful where
  forgetSame _ := trivial

/-- What engines over the two registries let see that remember nothing. -/
theorem observeAll_seen {hides : String → Bool}
    (discreet : ∀ type, (Engine.gateOf first policy carried).Shows type → type.Discreet hides fun _ => True)
    (settings : Settings) {store store' : Store} (alikeStore : store.Alike hides store')
    {operations operations' : List Operation} (alike : List.Forall₂ (Operation.Alike hides) operations operations') :
    List.Forall₂ (differ.twins differCarried hides discreet).Seen
      ((Engine.start (Engine.gateOf first policy carried) settings () store).observeAll operations)
      ((Engine.start (Engine.gateOf second policy carried') settings () store').observeAll operations') := by
  have related : (differ.twins differCarried hides discreet).Engines
      (.start (Engine.gateOf first policy carried) settings () store)
      (.start (Engine.gateOf second policy carried') settings () store') := Twins.start trivial settings alikeStore
  exact Twins.observeAll related alike

end Registry.DifferBehind

/-- Another type in the place of a denied one makes no difference but behind its name. -/
theorem Registry.differBehind_insert {policy : AllowList} (registry : Registry) {type type' : HostType}
    (same : type.name = type'.name) (denied : policy.admits type.name = false) :
    (registry.insert type).DifferBehind policy (registry.insert type') := by
  constructor
  · intro name admitted
    have beside : type.name ≠ name := by
      rintro rfl
      simp only [denied, Bool.false_eq_true] at admitted
    rw [find?_insert_of_ne registry beside, find?_insert_of_ne registry (same ▸ beside)]
  · intro name
    by_cases named : type.name = name
    · subst named
      rw [find?_insert_self, same, find?_insert_self]
      rfl
    · rw [find?_insert_of_ne registry named, find?_insert_of_ne registry (same ▸ named)]

/-! ## Denied types are opaque -/

/-- Only members that an admitted type declares are run. And if a denied name stands for anything else, in
the registry, in the values that are handed in and in the store, then what is seen stays the same but for
what lies behind such names. -/
theorem denied_types_unseen (registry carried : Registry) (policy : AllowList) (settings : Settings) :
    (∀ store operations, ∀ observation ∈
        (Engine.cached (Engine.gateOf registry policy carried) settings store).observeAll operations,
      ∀ run ∈ observation.runs, policy.admits run.declaring = true) ∧
    ∀ other carried', registry.DifferBehind policy other → carried.DifferBehind policy carried' →
      (∀ type, (Engine.gateOf registry policy carried).Shows type → type.Discreet policy.denies fun _ => True) →
      ∀ store store' operations operations', Store.Alike policy.denies store store' →
        List.Forall₂ (Operation.Alike policy.denies) operations operations' →
        List.Forall₂ (Observation.Alike policy.denies)
          ((Engine.cached (Engine.gateOf registry policy carried) settings store).observeAll operations)
          ((Engine.cached (Engine.gateOf other policy carried') settings store').observeAll operations') := by
  constructor
  · intro store operations
    rw [registry.observeAll_cached_eq policy settings store operations carried]
    have alike : List.Forall₂ (Operation.Alike fun _ => false) operations operations :=
      List.forall₂_same.2 fun operation _ => operation.alike_self
    have alikeStore : store.Alike (fun _ => false) store := rfl
    have seen := (Registry.DifferBehind.refl policy registry).observeAll_seen (.refl policy carried)
      (fun type _ => type.discreet_none) settings alikeStore alike
    exact fun observation inside => (Twins.promised seen observation inside).2
  · intro other carried' differ differCarried discreet store store' operations operations' alikeStore alike
    rw [registry.observeAll_cached_eq policy settings store operations carried,
      other.observeAll_cached_eq policy settings store' operations' carried']
    exact (differ.observeAll_seen differCarried discreet settings alikeStore alike).imp fun _ _ seen => seen.alike

/-! ### A vault behind a denied name -/

theorem Registry.mem_insertAll {registry : Registry} {types : List HostType} {type : HostType}
    (inside : type ∈ (registry.insertAll types).types) : type ∈ types ∨ type ∈ registry.types := by
  induction types generalizing registry with
  | nil => exact .inr inside
  | cons added types inductionHypothesis =>
    obtain within | kept := inductionHypothesis inside
    · exact .inl (List.mem_cons_of_mem added within)
    · obtain rfl | kept := List.mem_cons.1 kept
      · exact .inl List.mem_cons_self
      · exact .inr (List.mem_filter.1 kept).1

/-- Beside the standard types and one more that is denied, all types that can be reached under `lang` are
discreet. -/
theorem discreet_of_shows_standard {vault : HostType} (denied : AllowList.admits ⟨["lang"]⟩ vault.name = false)
    {hides : String → Bool} (type : HostType)
    (shown : (Engine.gateOf (standardRegistry.insert vault) ⟨["lang"]⟩).Shows type) :
    type.Discreet hides fun _ => True := by
  obtain ⟨describes, admitted⟩ := shown
  have admitted : AllowList.admits ⟨["lang"]⟩ type.name = true := admitted
  unfold Gate.Describes Engine.gateOf at describes
  dsimp only at describes
  cases found : (standardRegistry.insert vault).find? type.name with
  | none =>
    rw [found] at describes
    rw [← show HostType.empty type.name = type from describes]
    exact .empty type.name
  | some other =>
    rw [found] at describes
    obtain rfl : other = type := describes
    obtain rfl | kept := List.mem_cons.1 (List.mem_of_find?_eq_some found)
    · cases denied.symm.trans admitted
    · obtain isSample | kept := Registry.mem_insertAll (List.mem_filter.1 kept).1
      · have denied : ∀ type ∈ sampleTypes, AllowList.admits ⟨["lang"]⟩ type.name = false := by decide
        cases (denied other isSample).symm.trans admitted
      · obtain isBuiltin | none := Registry.mem_insertAll kept
        · exact builtinTypes_discreet other isBuiltin
        · exact nomatch none

/-- A type that would tell a secret if it could be reached. -/
def vaultType : HostType :=
  (HostType.empty "dark.Vault").addConstructor
    ⟨"Vault", [], true, true, fun _ _ => return .str "secret"⟩

/-- What is tried on the vault: to construct it, and to pass it on from a local. -/
def vaultAttempts (vault : TypeRef) : List Operation :=
  [.construct "dark.Vault" [],
    .evaluate { Context.empty with locals := fun word => if word = "vault" then some (.type vault) else none }
      "lang.String.valueOf(vault)"]

theorem vaultAttempts_alike : List.Forall₂ (Operation.Alike (AllowList.denies ⟨["lang"]⟩))
    (vaultAttempts ⟨"dark.Vault", false⟩) (vaultAttempts ⟨"dark.Vault", true⟩) := by
  refine .cons (.construct "dark.Vault" .nil) (.cons (.evaluate _ ?_) .nil)
  refine ⟨rfl, .none, fun word => ?_, fun _ => .none, fun _ => .none, fun _ => .none, fun alike => alike⟩
  dsimp only
  split
  · exact .some (.type rfl (fun shown => absurd shown (by decide)))
  · exact .none

/-- Among the standard types, the vault that tells a secret looks like one that has nothing to tell. -/
theorem denied_types_unseen_vault :
    let known (vault : HostType) := standardRegistry.insert vault
    let engine (vault : HostType) := Engine.cached (Engine.gateOf (known vault) ⟨["lang"]⟩) .standard
    (engine vaultType).gate.lookup "lang.Class" = .found Builtin.classType ∧
    List.Forall₂ (Observation.Alike (AllowList.denies ⟨["lang"]⟩))
      ((engine vaultType).observeAll (vaultAttempts ⟨"dark.Vault", false⟩))
      ((engine (.empty "dark.Vault")).observeAll (vaultAttempts ⟨"dark.Vault", true⟩)) := by
  intro known engine
  have denied : AllowList.admits ⟨["lang"]⟩ vaultType.name = false := by decide
  refine ⟨rfl, ?_⟩
  exact (denied_types_unseen (known vaultType) .empty ⟨["lang"]⟩ .standard).2 (known (.empty "dark.Vault")) .empty
    (Registry.differBehind_insert _ rfl denied) (.refl _ _) (discreet_of_shows_standard denied) .empty .empty _ _ rfl
    vaultAttempts_alike

end LateBound
