import LateBound.Proofs.Transparency

/-!
# What a provider is asked

A gate with a cache answers every name as the gate alone does, and asks its provider once about each name until
the cache is cleared. That a provider was asked leaves no trace in the gate. So the cache is also run over a
provider that is an action and writes down each name it is asked about; it asks this one as it asks the gate's.
-/

namespace LateBound

namespace TypeCache

/-! ## Requests -/

/-- What a gate with a cache is asked for. -/
inductive Request
  | lookup (name : String)
  | clear

inductive Reply
  | told (answer : Lookup)
  | cleared

def serve (gate : Gate) : Request → StateM TypeCache Reply
  | .lookup name => .told <$> lookup gate name
  | .clear => (fun _ => .cleared) <$> modify clear

/-- The reply to a name is what provider and policy say on it: the policy counts for what the provider has. -/
def Answered (gate : Gate) : Request → Reply → Prop
  | .lookup name, .told answer =>
    (answer = .notFound ↔ gate.find? name = none) ∧
      (answer = .denied ↔ (gate.find? name).isSome ∧ gate.admits name = false) ∧
      ∀ type, answer = .found type ↔ gate.find? name = some type ∧ gate.admits name = true
  | .clear, .cleared => True
  | .lookup _, .cleared | .clear, .told _ => False

theorem answered_lookup (gate : Gate) (name : String) : Answered gate (.lookup name) (.told (gate.lookup name)) := by
  unfold Gate.lookup Gate.judge
  cases found : gate.find? name with
  | none => simp [Answered, found]
  | some type => cases admitted : gate.admits name <;> simp [Answered, found, admitted]

/-- The names looked up between one clear and the next, in order; `current` are those since the last one. -/
def generations (current : List String) : List Request → List (List String)
  | [] => [current]
  | .lookup name :: requests => generations (current ++ [name]) requests
  | .clear :: requests => current :: generations [] requests

/-! ## A provider that is watched -/

/-- The provider of a gate, which writes down the names that it is asked about. -/
def watchedProvider (gate : Gate) (name : String) : StateM (List String) (Option HostType) := do
  modify (· ++ [name])
  return gate.find? name

def watch (gate : Gate) : Request → StateT TypeCache (StateM (List String)) Reply
  | .lookup name => do return .told (gate.judge name (← fetch (watchedProvider gate) name))
  | .clear => do
    modify clear
    return .cleared

/-- The cache holds what was looked up in this generation, the latest name in front, and the provider was asked
about each of these names once, behind everything that it was asked in earlier generations. -/
structure Watched (gate : Gate) (earlier current : List String) (cache : TypeCache) (asked : List String) : Prop where
  sound : cache.Sound gate
  keys : cache.entries.map Prod.fst = current.eraseDups.reverse
  inOrder : asked = earlier ++ current.eraseDups
  calls : cache.calls = asked.length

variable {gate : Gate} {earlier current asked : List String} {cache : TypeCache}

theorem watched_empty (gate : Gate) : Watched gate [] [] .empty [] where
  sound := by simp [Sound, empty]
  keys := by simp [empty]
  inOrder := by simp
  calls := rfl

/-! ## Single requests -/

theorem eraseDups_concat (names : List String) (name : String) :
    (names ++ [name]).eraseDups = if name ∈ names then names.eraseDups else names.eraseDups ++ [name] := by
  rw [List.eraseDups_append]
  by_cases isOld : name ∈ names
  · simp [List.removeAll, isOld]
  · simp [List.removeAll, isOld, List.eraseDups_cons]

/-- A name is kept exactly if it was looked up in this generation. -/
theorem Watched.lookup_eq_none_iff (holds : Watched gate earlier current cache asked) (name : String) :
    cache.entries.lookup name = none ↔ name ∉ current := by
  rw [lookup_eq_none_iff_notMem_keys, holds.keys, List.mem_reverse, List.mem_eraseDups]

/-- A lookup is the same whether the provider is watched or not, and the provider is asked about a name only when
it was not looked up in this generation. -/
theorem Watched.lookup (holds : Watched gate earlier current cache asked) (name : String) :
    let after := ((watch gate (.lookup name)).run cache).run asked
    after.1 = (serve gate (.lookup name)).run cache ∧ Answered gate (.lookup name) after.1.1 ∧
      Watched gate earlier (current ++ [name]) after.1.2 after.2 := by
  intro after
  have isNew := holds.lookup_eq_none_iff name
  cases kept : cache.entries.lookup name with
  | some known =>
    have isOld : name ∈ current := by
      by_contra isOther
      simp [isNew.2 isOther] at kept
    have isSaid : gate.find? name = known := holds.sound _ (mem_of_lookup_eq_some kept)
    have same : after = ((.told (gate.judge name known), cache), asked) := by
      simp only [after, watch, fetch, kept, StateT.run_bind, StateT.run_get, pure_bind, StateT.run_pure]
      rfl
    have served : (serve gate (.lookup name)).run cache = (.told (gate.judge name known), cache) := by
      simp only [serve, TypeCache.lookup, fetch, kept, StateT.run_bind, StateT.run_get, pure_bind, StateT.run_pure,
        StateT.run_map]
      rfl
    rw [same, served]
    refine ⟨rfl, ?_, ?_⟩
    · rw [← isSaid]
      exact answered_lookup gate name
    · exact { holds with
        keys := by simp [holds.keys, eraseDups_concat, isOld]
        inOrder := by simp [holds.inOrder, eraseDups_concat, isOld] }
  | none =>
    have isOther : name ∉ current := isNew.1 kept
    let behind : TypeCache := ⟨(name, gate.find? name) :: cache.entries, cache.calls + 1⟩
    have same : after = ((.told (gate.lookup name), behind), asked ++ [name]) := by
      simp only [after, watch, fetch, watchedProvider, kept, StateT.run_bind, StateT.run_get, pure_bind, StateT.run_pure,
        StateT.run_set]
      rfl
    have served : (serve gate (.lookup name)).run cache = (.told (gate.lookup name), behind) := by
      simp only [serve, TypeCache.lookup, fetch, kept, StateT.run_bind, StateT.run_get, pure_bind, StateT.run_pure,
        StateT.run_set, StateT.run_map]
      rfl
    rw [same, served]
    refine ⟨rfl, answered_lookup gate name, ?_⟩
    constructor
    case sound => exact List.forall_mem_cons.2 ⟨rfl, holds.sound⟩
    case keys => simp [behind, holds.keys, eraseDups_concat, isOther]
    case inOrder => simp [holds.inOrder, eraseDups_concat, isOther]
    case calls => simp [behind, holds.calls]

theorem Watched.clear (holds : Watched gate earlier current cache asked) :
    let after := ((watch gate .clear).run cache).run asked
    after.1 = (serve gate .clear).run cache ∧ Answered gate .clear after.1.1 ∧
      Watched gate (earlier ++ current.eraseDups) [] after.1.2 after.2 := by
  refine ⟨rfl, trivial, ?_⟩
  constructor
  case sound =>
    intro entry inside
    cases inside
  case keys => rfl
  case inOrder =>
    show asked = _
    simp [holds.inOrder]
  case calls => exact holds.calls

/-! ## Sequences of requests -/

/-- Watched or not, the same is served; and what holds at first holds behind all requests, of the generation that
goes on then. -/
theorem Watched.serveAll (holds : Watched gate earlier current cache asked) (requests : List Request) :
    let after := ((requests.mapM (watch gate)).run cache).run asked
    after.1 = (requests.mapM (serve gate)).run cache ∧ List.Forall₂ (Answered gate) requests after.1.1 ∧
      ∃ before last, generations current requests = before ++ [last] ∧
        Watched gate (earlier ++ before.flatMap List.eraseDups) last after.1.2 after.2 := by
  induction requests generalizing earlier current cache asked with
  | nil =>
    refine ⟨rfl, .nil, [], current, rfl, ?_⟩
    rw [List.flatMap_nil, List.append_nil]
    exact holds
  | cons request requests inductionHypothesis =>
    intro after
    let head := ((watch gate request).run cache).run asked
    let rest := ((requests.mapM (watch gate)).run head.1.2).run head.2
    have isAfter : after = ((head.1.1 :: rest.1.1, rest.1.2), rest.2) := by
      simp only [after, List.mapM_cons]
      rfl
    have isServed (same : head.1 = (serve gate request).run cache)
        (sameRest : rest.1 = (requests.mapM (serve gate)).run head.1.2) :
        (head.1.1 :: rest.1.1, rest.1.2) = ((request :: requests).mapM (serve gate)).run cache := by
      rw [sameRest, same, List.mapM_cons]
      rfl
    rw [isAfter]
    cases request with
    | lookup name =>
      obtain ⟨same, answered, holds⟩ := holds.lookup name
      obtain ⟨sameRest, answeredRest, before, last, isGenerations, holds⟩ := inductionHypothesis holds
      exact ⟨isServed same sameRest, .cons answered answeredRest, before, last, isGenerations, holds⟩
    | clear =>
      obtain ⟨same, answered, holds⟩ := holds.clear
      obtain ⟨sameRest, answeredRest, before, last, isGenerations, holds⟩ := inductionHypothesis holds
      refine ⟨isServed same sameRest, .cons answered answeredRest, current :: before, last, ?_, ?_⟩
      · simp [generations, isGenerations]
      · simpa only [List.flatMap_cons, List.append_assoc] using holds

/-- A gate with a cache answers each name as provider and policy have it. Between one clear and the next the provider
is asked exactly once about each name that is looked up, in the order of their first lookups, and the cache holds as
many entries as different names were looked up since the last clear. -/
theorem lookups_asked_once (gate : Gate) (requests : List Request) :
    let watched := ((requests.mapM (watch gate)).run empty).run []
    let served := (requests.mapM (serve gate)).run empty
    watched.1 = served ∧ List.Forall₂ (Answered gate) requests served.1 ∧
      watched.2 = (generations [] requests).flatMap List.eraseDups ∧
      served.2.calls = watched.2.length ∧
      served.2.size = ((generations [] requests).getLastD []).eraseDups.length := by
  intro watched served
  obtain ⟨same, answered, before, last, isGenerations, holds⟩ := (watched_empty gate).serveAll requests
  rw [same] at answered holds
  refine ⟨same, answered, ?_, holds.calls, ?_⟩
  · show watched.2 = _
    rw [holds.inOrder, isGenerations]
    simp
  · have sizes := congrArg List.length holds.keys
    rw [isGenerations]
    simpa [size] using sizes

/-- A name that no type has is looked up twice and asked about once, and once more when the cache was cleared. -/
example : generations [] [.lookup "a", .lookup "b", .lookup "a", .clear, .lookup "a"] = [["a", "b", "a"], ["a"]] := rfl

end TypeCache

end LateBound
