import LateBound.Proofs.Twins.Engine

/-!
# Caches are invisible

An engine with caches and one that remembers nothing are twins: every entry of the caches is what a fresh
search, lookup or reading would give, so that nobody can tell whether an answer was remembered. The five
maps of the caches grow, are reordered, lose entries and are forgotten, and each of these keeps them sound.

The handles of a type are kept under its own name. That name must lead back to the type, or the caches
would confuse what two types of one name have; a gate of which this holds is coherent.
-/

namespace LateBound

/-- The type is what a value of its name stands for. -/
def Gate.Describes (gate : Gate) (type : HostType) : Prop :=
  gate.describe type.name = type

/-- The name of a type leads back to it, whether the provider has it or a value carries it. -/
structure Gate.Coherent (gate : Gate) : Prop where
  found : ∀ name type, gate.find? name = some type → gate.Describes type
  carried : ∀ name, gate.Describes (gate.describe name)

theorem Gate.find?_of_lookup {gate : Gate} {name : String} {type : HostType}
    (shown : (gate.lookup name).type? = some type) :
    gate.find? name = some type ∧ gate.admits name = true := by
  unfold Gate.lookup Gate.judge at shown
  split at shown
  · simp only [Lookup.type?, reduceCtorEq] at shown
  · next found =>
    split at shown
    · next admitted =>
      cases shown
      exact ⟨found, admitted⟩
    · simp only [Lookup.type?, reduceCtorEq] at shown

theorem Registry.name_of_find? {registry : Registry} {name : String} {type : HostType}
    (found : registry.find? name = some type) : type.name = name :=
  eq_of_beq (List.find?_eq_some_iff_append.1 found).1

theorem Engine.name_describe (registry : Registry) (policy : AllowList) (carried : Registry) (name : String) :
    ((Engine.gateOf registry policy carried).describe name).name = name := by
  unfold gateOf
  dsimp only
  cases described : (registry.find? name).or (carried.find? name) with
  | none => rfl
  | some type =>
    obtain found | ⟨-, found⟩ := Option.or_eq_some_iff.1 described
    · exact Registry.name_of_find? found
    · exact Registry.name_of_find? found

theorem Engine.describe_of_found {registry : Registry} {policy : AllowList} {carried : Registry} {name : String}
    {type : HostType} (found : registry.find? name = some type) :
    (Engine.gateOf registry policy carried).describe name = type := by
  simp [gateOf, found]

theorem Engine.coherent_gateOf (registry : Registry) (policy : AllowList) (carried : Registry := .empty) :
    (Engine.gateOf registry policy carried).Coherent where
  found name type found := by
    have isName : type.name = name := Registry.name_of_find? found
    rw [Gate.Describes, isName]
    exact describe_of_found found
  carried name := by rw [Gate.Describes, name_describe]

/-! ## Trees -/

/-- Every tree that is kept is what its text reads as. -/
def TreeCache.Sound (cache : TreeCache) : Prop :=
  ∀ entry ∈ cache.entries, Expr.parse entry.1 = .ok entry.2

namespace TreeCache

variable {cache : TreeCache}

theorem sound_empty (capacity : Nat) : (empty capacity).Sound :=
  fun _ inside => nomatch inside

theorem Sound.without (sound : cache.Sound) (source : String) :
    ∀ entry ∈ RecentMap.without source cache.entries, Expr.parse entry.1 = .ok entry.2 :=
  fun entry kept => sound entry (RecentMap.mem_without.1 kept).1

theorem Sound.insert (sound : cache.Sound) {source : String} {tree : Expr}
    (parsed : Expr.parse source = .ok tree) : (cache.insert source tree).Sound := by
  intro entry kept
  obtain rfl | inside := RecentMap.mem_put kept
  · exact parsed
  · exact sound.without source entry inside

/-- A text is answered with its tree, whether it was kept or not, and what is kept stays sound. -/
theorem Sound.getOrParse (sound : cache.Sound) (source : String) :
    (cache.getOrParse source).1 = Expr.parse source ∧ (cache.getOrParse source).2.Sound := by
  unfold TreeCache.getOrParse
  cases kept : cache.entries.lookup source with
  | some tree =>
    have parsed := sound _ (mem_of_lookup_eq_some kept)
    rw [get?_of_lookup kept, RecentMap.get?_of_lookup kept]
    refine ⟨parsed.symm, fun entry inside => ?_⟩
    cases inside with
    | head => exact parsed
    | tail _ inside => exact sound.without source entry inside
  | none =>
    rw [get?_of_lookup_eq_none kept]
    dsimp only
    cases parsed : Expr.parse source with
    | ok tree => exact ⟨rfl, Sound.insert sound parsed⟩
    | error error => exact ⟨rfl, sound⟩

end TreeCache

/-! ## Types -/

def TypeCache.Sound (gate : Gate) (cache : TypeCache) : Prop :=
  ∀ entry ∈ cache.entries, gate.find? entry.1 = entry.2

/-- A name is answered as the gate answers it, and what is kept stays sound. -/
theorem TypeCache.Sound.lookup {gate : Gate} {cache : TypeCache} (sound : cache.Sound gate) (name : String) :
    ((TypeCache.lookup gate name).run cache).1 = gate.lookup name ∧
      ((TypeCache.lookup gate name).run cache).2.Sound gate := by
  cases kept : cache.entries.lookup name with
  | some answer =>
    have same := sound _ (mem_of_lookup_eq_some kept)
    simp only [TypeCache.lookup, TypeCache.fetch, StateT.run_bind, StateT.run_get, pure_bind, kept,
      StateT.run_pure]
    exact ⟨congrArg (gate.judge name) same.symm, sound⟩
  | none =>
    simp only [TypeCache.lookup, TypeCache.fetch, StateT.run_bind, StateT.run_get, pure_bind, kept,
      StateT.run_set, StateT.run_pure]
    exact ⟨rfl, List.forall_mem_cons.2 ⟨rfl, sound⟩⟩

/-! ## Members -/

/-- What a search finds that remembers nothing. -/
def MemberSort.found (sort : MemberSort) (gate : Gate) (type : HostType) (shape : CallShape) :
    Option sort.Handle :=
  ((sort.search gate type shape : StateM Unit _).run ()).1

/-- Every member that is kept for a shape is what a fresh search on the owner of the shape would find. -/
def HandleCache.Sound (gate : Gate) (cache : HandleCache) : Prop :=
  ∀ sort : MemberSort, ∀ entry ∈ cache.known sort,
    sort.found gate (gate.describe entry.1.owner) entry.1 = some entry.2

namespace HandleCache

theorem forall_known_add {holds : (sort : MemberSort) → CallShape × sort.Handle → Prop} {cache : HandleCache}
    (old : ∀ sort, ∀ entry ∈ cache.known sort, holds sort entry) {sort : MemberSort} {shape : CallShape}
    {handle : sort.Handle} (new : holds sort (shape, handle)) :
    ∀ other, ∀ entry ∈ (cache.add shape sort handle).known other, holds other entry := by
  intro other entry inside
  cases sort <;> cases other <;> first
    | exact old _ entry inside
    | cases inside with
      | head => exact new
      | tail _ inside => exact old _ entry inside

theorem known_count (cache : HandleCache) (searches hits : Nat) (sort : MemberSort) :
    known { cache with searches, hits } sort = cache.known sort := by
  cases sort <;> rfl

theorem known_empty (sort : MemberSort) : empty.known sort = [] := by
  cases sort <;> rfl

theorem known_clear (cache : HandleCache) (sort : MemberSort) : cache.clear.known sort = [] := by
  cases sort <;> rfl

end HandleCache

theorem HandleCache.Sound.add {gate : Gate} {cache : HandleCache} (sound : cache.Sound gate)
    {sort : MemberSort} {shape : CallShape} {handle : sort.Handle}
    (isFound : sort.found gate (gate.describe shape.owner) shape = some handle) :
    (cache.add shape sort handle).Sound gate :=
  forall_known_add sound isFound

theorem HandleCache.Sound.count {gate : Gate} {cache : HandleCache} (sound : cache.Sound gate)
    (searches hits : Nat) : HandleCache.Sound gate { cache with searches, hits } := by
  intro sort
  rw [known_count]
  exact sound sort

/-! ## The twins -/

structure Caches.Sound (gate : Gate) (caches : Caches) : Prop where
  trees : caches.trees.Sound
  types : caches.types.Sound gate
  handles : caches.handles.Sound gate

theorem Caches.sound_empty (gate : Gate) (capacity : Nat) : (Caches.empty capacity).Sound gate where
  trees := TreeCache.sound_empty capacity
  types := fun _ inside => nomatch inside
  handles := fun sort _ inside => nomatch HandleCache.known_empty sort ▸ inside

namespace Caches

variable {sort : MemberSort} {shape : CallShape} {caches : Caches}

theorem run_retrieve_kept (search : StateM Caches (Option sort.Handle)) {handle : sort.Handle}
    (kept : (caches.handles.known sort).lookup shape = some handle) :
    (Memory.retrieve sort shape search).run caches =
      (some handle, { caches with handles := { caches.handles with hits := caches.handles.hits + 1 } }) := by
  simp only [Memory.retrieve, Caches.retrieve, StateT.run_bind, StateT.run_get, pure_bind, kept,
    StateT.run_modify, StateT.run_pure]
  rfl

theorem run_retrieve_new (search : StateM Caches (Option sort.Handle))
    (kept : (caches.handles.known sort).lookup shape = none) :
    (Memory.retrieve sort shape search).run caches =
      match search.run
        { caches with handles := { caches.handles with searches := caches.handles.searches + 1 } } with
      | (some handle, after) => (some handle, { after with handles := after.handles.add shape sort handle })
      | (none, after) => (none, after) := by
  simp only [Memory.retrieve, Caches.retrieve, StateT.run_bind, StateT.run_get, pure_bind, kept,
    StateT.run_modify]
  generalize search.run _ = ended
  obtain ⟨found, after⟩ := ended
  cases found <;> rfl

end Caches

theorem Caches.sound_forget (caches : Caches) (gate : Gate) : (Memory.forget caches).Sound gate where
  trees := TreeCache.sound_empty caches.trees.capacity
  types := fun _ inside => nomatch inside
  handles := fun sort _ inside => nomatch caches.handles.known_clear sort ▸ inside

/-- The caches are sound; there is nothing to say of a memory that keeps nothing. -/
def Caches.SoundBeside (gate : Gate) (caches : Caches) (_ : Unit) : Prop :=
  caches.Sound gate

namespace Gate.Coherent

variable {gate : Gate} (coherent : gate.Coherent)

include coherent

theorem showSame : ShowSame (Caches.SoundBeside gate) gate.Describes gate gate := by
  intro name caches _ sound
  obtain ⟨answered, types⟩ := sound.types.lookup name
  refine ⟨⟨answered, fun type shown => ?_⟩, { sound with types }⟩
  have shown : (gate.lookup name).type? = some type := answered ▸ shown
  exact coherent.found name type (Gate.find?_of_lookup shown).1

/-- A member that is kept is the one that the type's search finds, since the owner of the shape leads
back to the type; one that is not kept is searched for and then kept. -/
theorem findSame {type : HostType} (isKnown : gate.Describes type) {shape : CallShape}
    (owner : shape.owner = type.name) (sort : MemberSort) :
    Coupled (Caches.SoundBeside gate) (Same fun found => ∀ handle ∈ found, sort.Of gate.Describes handle)
      (sort.find gate type shape) (sort.find gate type shape) := by
  have search := coherent.showSame.search isKnown shape sort
  have isOwner : gate.describe shape.owner = type := owner ▸ isKnown
  intro caches memory sound
  have counted (searches hits : Nat) :
      Caches.Sound gate { caches with handles := { caches.handles with searches, hits } } :=
    { sound with handles := sound.handles.count searches hits }
  cases kept : (caches.handles.known sort).lookup shape with
  | some handle =>
    rw [MemberSort.find, MemberSort.find, Caches.run_retrieve_kept _ kept]
    refine ⟨?_, counted _ _⟩
    have isFound := sound.handles sort _ (mem_of_lookup_eq_some kept)
    rw [isOwner] at isFound
    obtain ⟨same, isOf⟩ := (search caches memory sound).1
    have isFound : ((sort.search gate type shape).run memory).1 = some handle := isFound
    rw [same, isFound] at isOf
    exact ⟨isFound.symm, isOf⟩
  | none =>
    rw [MemberSort.find, MemberSort.find, Caches.run_retrieve_new _ kept]
    have searched := search _ memory (counted (caches.handles.searches + 1) caches.handles.hits)
    generalize (sort.search gate type shape : StateM Caches _).run _ = ended at searched ⊢
    obtain ⟨found, after⟩ := ended
    obtain ⟨⟨same, isOf⟩, sound⟩ := searched
    cases found with
    | none => exact ⟨⟨same, isOf⟩, sound⟩
    | some handle =>
      have isFound : sort.found gate (gate.describe shape.owner) shape = some handle := isOwner.symm ▸ same.symm
      exact ⟨⟨same, isOf⟩, { sound with handles := sound.handles.add isFound }⟩

def twins : Twins Caches Unit where
  first := gate
  second := gate
  ledger := .any
  hides _ := false
  known := gate.Describes
  permits _ := True
  linked := Caches.SoundBeside gate
  admitSame := rfl
  showSame := coherent.showSame
  describeSame name := ⟨.refl (coherent.carried name), fun _ => ⟨rfl, coherent.carried name⟩⟩
  findSame isKnown owner := coherent.findSame isKnown owner
  parseSame source caches _ sound := by
    obtain ⟨parsed, trees⟩ := sound.trees.getOrParse source
    exact ⟨⟨parsed, parsed⟩, { sound with trees }⟩
  permitKnown _ := trivial
  discreet _ := HostType.discreet_none _

instance : coherent.twins.Forgetful where
  forgetSame {caches _} _ := caches.sound_forget gate

theorem start (settings : Settings) (store : Store) :
    coherent.twins.Engines (.cached gate settings store) (.start gate settings () store) :=
  Twins.start (Caches.sound_empty gate settings.treeCapacity) settings rfl

theorem observeAll_eq {engine : Engine Caches} {engine' : Engine Unit}
    (related : coherent.twins.Engines engine engine') (operations : List Operation) :
    engine.observeAll operations = engine'.observeAll operations := by
  have alike : List.Forall₂ (Operation.Alike fun _ => false) operations operations :=
    List.forall₂_same.2 fun operation _ => operation.alike_self
  rw [← List.forall₂_eq_eq_eq]
  exact (Twins.observeAll related alike).imp fun _ _ seen => seen.alike.eq

end Gate.Coherent

/-- What is seen of an engine with caches is what is seen of one that remembers nothing. -/
theorem Registry.observeAll_cached_eq (registry : Registry) (policy : AllowList) (settings : Settings)
    (store : Store) (operations : List Operation) (carried : Registry := .empty) :
    (Engine.cached (Engine.gateOf registry policy carried) settings store).observeAll operations =
      (Engine.start (Engine.gateOf registry policy carried) settings () store).observeAll operations :=
  have coherent := Engine.coherent_gateOf registry policy carried
  coherent.observeAll_eq (coherent.start settings store) operations

/-! ## Caches are invisible -/

/-- Whatever is performed on a new engine with caches, what is seen of it is what is seen of an engine that
remembers nothing but its imports. -/
theorem observeAll_cached {gate : Gate} (coherent : gate.Coherent) (settings : Settings) (store : Store)
    (operations : List Operation) :
    (Engine.cached gate settings store).observeAll operations =
      (Engine.start gate settings () store).observeAll operations :=
  coherent.observeAll_eq (coherent.start settings store) operations

/-- A text that is evaluated twice, around a reload, among the types that are always there. -/
theorem observeAll_cached_standard :
    (Engine.gateOf standardRegistry Settings.standard.allowList).Coherent ∧
      (Engine.cached (Engine.gateOf standardRegistry Settings.standard.allowList) .standard).observeAll
          [.evaluate .empty "lang.Math.abs(-1)", .clearAll, .evaluate .empty "lang.Math.abs(-1)"] =
        (Engine.start (Engine.gateOf standardRegistry Settings.standard.allowList) .standard ()).observeAll
          [.evaluate .empty "lang.Math.abs(-1)", .clearAll, .evaluate .empty "lang.Math.abs(-1)"] :=
  ⟨Engine.coherent_gateOf standardRegistry Settings.standard.allowList,
    observeAll_cached (Engine.coherent_gateOf standardRegistry Settings.standard.allowList) .standard .empty
      [.evaluate .empty "lang.Math.abs(-1)", .clearAll, .evaluate .empty "lang.Math.abs(-1)"]⟩

end LateBound
