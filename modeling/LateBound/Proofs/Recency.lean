import LateBound.Expr.Cache
import LateBound.Proofs.Coupling

/-!
# The texts used last

A map of what was used last drops what it has no more room for, and what it drops depends on every use before.
Beside it stands the plain record of its use, which drops nothing: which keys were used, and which values were put
for them. The map holds what the record has of the latest different keys, as many as there is room for. A cache of
trees is such a map over texts, and so it answers as if it had its whole history.
-/

namespace LateBound

/-! ## Lists without repetitions -/

section Distinct

variable {α : Type} [BEq α] [LawfulBEq α]

theorem eraseDups_filter (test : α → Bool) (names : List α) :
    (names.filter test).eraseDups = names.eraseDups.filter test := by
  cases names with
  | nil => rfl
  | cons name names =>
    by_cases passes : test name = true
    · rw [List.filter_cons_of_pos passes, List.eraseDups_cons, List.eraseDups_cons, List.filter_cons_of_pos passes]
      rw [List.filter_comm, eraseDups_filter test]
    · rw [List.filter_cons_of_neg passes, List.eraseDups_cons, List.filter_cons_of_neg passes]
      rw [← eraseDups_filter test, List.filter_filter]
      congr 1
      apply List.filter_congr
      intro other _
      by_cases same : other = name
      · simp [same, passes]
      · simp [same]
termination_by names.length
decreasing_by all_goals exact Nat.lt_succ_of_le (List.length_filter_le ..)

theorem nodup_eraseDups (names : List α) : names.eraseDups.Nodup := by
  cases names with
  | nil => exact List.nodup_nil
  | cons name names =>
    rw [List.eraseDups_cons]
    apply List.nodup_cons.2
    constructor
    · simp [List.mem_eraseDups]
    · exact nodup_eraseDups _
termination_by names.length
decreasing_by exact Nat.lt_succ_of_le (List.length_filter_le ..)

theorem eraseDups_cons_eq (name : α) (names : List α) :
    (name :: names).eraseDups = name :: names.eraseDups.filter (· != name) := by
  rw [List.eraseDups_cons, eraseDups_filter]
  rfl

/-- Which names come first does not change when one is left out beyond them. -/
theorem take_filter_take {names : List α} (distinct : names.Nodup) (name : α) (room : Nat) :
    ((names.take (room + 1)).filter (· != name)).take room = (names.filter (· != name)).take room := by
  induction names generalizing room with
  | nil => rfl
  | cons first names inductionHypothesis =>
    obtain ⟨isNew, distinct⟩ := List.nodup_cons.1 distinct
    by_cases same : first = name
    · subst same
      have kept {others : List α} (within : ∀ other ∈ others, other ∈ names) :
          others.filter (· != first) = others := by
        apply List.filter_eq_self.2
        intro other inside
        exact bne_iff_ne.2 fun same => isNew (same ▸ within other inside)
      simp [kept fun _ inside => List.mem_of_mem_take inside, kept fun _ inside => inside, List.take_take]
    · cases room with
      | zero => simp
      | succ room => simp [same, inductionHypothesis distinct room]

end Distinct

/-! ## Maps of what was used last -/

namespace RecentMap

variable {α β : Type} [BEq α]

/-- The different keys used last, as many as there is room for. -/
def recent (room : Nat) (used : List α) : List α :=
  used.eraseDups.take room

/-- The map holds the recent keys of a record, latest first, each with the value put last for it. -/
structure Holds (room : Nat) (map : RecentMap α β) (used : List α) (stored : List (α × β)) : Prop where
  capacity : map.capacity = room
  keys : map.keys = recent room used
  values : ∀ entry ∈ map.entries, stored.lookup entry.1 = some entry.2
  bounded : map.entries.length ≤ room

variable {room : Nat} {map : RecentMap α β} {used : List α} {stored : List (α × β)} {key : α} {value : β}

theorem Holds.clear (holds : map.Holds room used stored) : map.clear.Holds room [] [] where
  capacity := holds.capacity
  keys := by simp [RecentMap.clear, RecentMap.keys, recent]
  values := by simp [RecentMap.clear]
  bounded := Nat.zero_le _

theorem holds_empty (room : Nat) : (empty room : RecentMap α β).Holds room [] [] where
  capacity := rfl
  keys := by simp [empty, RecentMap.keys, recent]
  values := by simp [empty]
  bounded := Nat.zero_le _

variable [LawfulBEq α]

theorem recent_cons (room : Nat) (used : List α) (key : α) :
    recent (room + 1) (key :: used) = key :: ((recent (room + 1) used).filter (· != key)).take room := by
  rw [recent, eraseDups_cons_eq, List.take_succ_cons, recent, take_filter_take (nodup_eraseDups _)]

theorem Holds.lookup_eq (holds : map.Holds room used stored) (key : α) :
    map.entries.lookup key = if key ∈ recent room used then stored.lookup key else none := by
  rw [← holds.keys, RecentMap.keys]
  cases found : map.entries.lookup key with
  | some value =>
    have inside := mem_of_lookup_eq_some found
    rw [if_pos (List.mem_map.2 ⟨_, inside, rfl⟩)]
    exact (holds.values _ inside).symm
  | none =>
    rw [if_neg]
    intro isKey
    obtain ⟨entry, inside, rfl⟩ := List.mem_map.1 isKey
    have other := List.lookup_eq_none_iff.1 found _ inside
    exact bne_iff_ne.1 other rfl

/-- A key that is found leaves the same keys and comes to the front. -/
theorem Holds.get? (holds : map.Holds (room + 1) used stored) (found : map.entries.lookup key = some value) :
    (map.get? key).2.Holds (room + 1) (key :: used) stored := by
  have inside := mem_of_lookup_eq_some found
  have fewer : (without key map.entries).length < map.entries.length := by
    apply List.length_filter_lt_length_iff_exists.2
    exact ⟨_, inside, by simp⟩
  have bounded := holds.bounded
  rw [get?_of_lookup found]
  constructor
  case capacity => exact holds.capacity
  case keys =>
    have few : ((recent (room + 1) used).filter (· != key)).length ≤ room := by
      rw [← holds.keys, RecentMap.keys, ← keys_without, List.length_map]
      omega
    show key :: (without key map.entries).map Prod.fst = _
    rw [recent_cons, List.take_of_length_le few, keys_without, ← RecentMap.keys, holds.keys]
  case values =>
    intro entry kept
    rcases List.mem_cons.1 kept with rfl | kept
    · exact holds.values _ inside
    · exact holds.values _ (mem_without.1 kept).1
  case bounded =>
    simp only [List.length_cons]
    omega

theorem Holds.put (holds : map.Holds (room + 1) used stored) (key : α) (value : β) :
    (map.put key value).Holds (room + 1) (key :: used) ((key, value) :: stored) := by
  have isRoom := holds.capacity
  constructor
  case capacity => exact isRoom
  case keys => rw [keys_put, isRoom, holds.keys, recent_cons, List.take_succ_cons]
  case values =>
    intro entry kept
    rcases mem_put kept with rfl | kept
    · exact List.lookup_cons_self
    · -- An older entry is of another key, whose value is the one put before.
      obtain ⟨inside, other⟩ := mem_without.1 kept
      have old := holds.values entry inside
      have other : (entry.1 == key) = false := beq_eq_false_iff_ne.2 (bne_iff_ne.1 other)
      simpa [List.lookup_cons, other] using old
  case bounded => exact isRoom ▸ map.length_entries_put_le key value

end RecentMap

namespace TreeCache

/-! ## Requests -/

/-- What a cache of trees is asked for. -/
inductive Request
  | get (source : String)
  | getOrParse (source : String)
  | insert (source : String) (tree : Expr)
  | clear

inductive Reply
  | found (tree? : Option Expr)
  | parsed (outcome : Except SyntaxError Expr)
  | done

def serve (request : Request) : StateM TreeCache Reply :=
  modifyGet fun cache =>
    match request with
    | .get source => (cache.get? source).map .found id
    | .getOrParse source => (cache.getOrParse source).map .parsed id
    | .insert source tree => (.done, cache.insert source tree)
    | .clear => (.done, cache.clear)

/-! ## The history -/

/-- How a cache has been used since it was cleared last, latest first: the texts that were found, parsed or
inserted, and the trees that were stored. The counts are those of its whole life. -/
structure History where
  used : List String
  stored : List (String × Expr)
  parses : Nat
  hits : Nat

namespace History

def empty : History :=
  ⟨[], [], 0, 0⟩

def recent (room : Nat) (history : History) : List String :=
  RecentMap.recent room history.used

/-- The tree stored last for a text, if the text is one of the recent ones. -/
def tree? (room : Nat) (history : History) (source : String) : Option Expr :=
  if source ∈ history.recent room then history.stored.lookup source else none

def hit (history : History) (source : String) : History :=
  { history with used := source :: history.used, hits := history.hits + 1 }

def store (history : History) (source : String) (tree : Expr) : History :=
  { history with used := source :: history.used, stored := (source, tree) :: history.stored }

def miss (history : History) : History :=
  { history with parses := history.parses + 1 }

def serve (room : Nat) (request : Request) : StateM History Reply :=
  modifyGet fun history =>
    match request with
    | .get source =>
      match history.tree? room source with
      | some tree => (.found (some tree), history.hit source)
      | none => (.found none, history)
    | .getOrParse source =>
      match history.tree? room source with
      | some tree => (.parsed (.ok tree), history.hit source)
      | none =>
        match Expr.parse source with
        | .ok tree => (.parsed (.ok tree), history.miss.store source tree)
        | .error error => (.parsed (.error error), history.miss)
    | .insert source tree => (.done, history.store source tree)
    | .clear => (.done, { history with used := [], stored := [] })

end History

/-- The cache holds the recent texts of the history, latest first, each with the tree stored last for it. -/
structure Remembers (room : Nat) (cache : TreeCache) (history : History) : Prop where
  kept : cache.Holds room history.used history.stored
  parses : cache.parses = history.parses
  hits : cache.hits = history.hits

/-! ## Single requests -/

section Steps

variable {room : Nat} {cache : TreeCache} {history : History}

theorem Remembers.lookup_eq (remembers : cache.Remembers room history) (source : String) :
    cache.entries.lookup source = history.tree? room source :=
  remembers.kept.lookup_eq source

theorem Remembers.hit (remembers : cache.Remembers (room + 1) history) {source : String} {tree : Expr}
    (found : cache.entries.lookup source = some tree) :
    (cache.get? source).2.Remembers (room + 1) (history.hit source) := by
  rw [get?_of_lookup found]
  exact ⟨remembers.kept.get? found, remembers.parses, congrArg (· + 1) remembers.hits⟩

theorem Remembers.insert (remembers : cache.Remembers (room + 1) history) (source : String) (tree : Expr) :
    (cache.insert source tree).Remembers (room + 1) (history.store source tree) :=
  ⟨remembers.kept.put source tree, remembers.parses, remembers.hits⟩

theorem Remembers.miss (remembers : cache.Remembers room history) :
    Remembers room { cache with parses := cache.parses + 1 } history.miss :=
  ⟨remembers.kept, congrArg (· + 1) remembers.parses, remembers.hits⟩

theorem Remembers.clear (remembers : cache.Remembers room history) :
    cache.clear.Remembers room { history with used := [], stored := [] } :=
  ⟨remembers.kept.clear, remembers.parses, remembers.hits⟩

/-- One request has the same reply from the cache and from the history, and the cache still remembers. -/
theorem serve_coupled (request : Request) :
    Coupled (Remembers (room + 1)) Eq (serve request) (History.serve (room + 1) request) := by
  apply Coupled.exchange
  intro cache history remembers
  cases request with
  | get source =>
    have same := remembers.lookup_eq source
    dsimp only
    rw [← same]
    cases found : cache.entries.lookup source with
    | some tree =>
      have hit := remembers.hit found
      rw [get?_of_lookup found] at hit ⊢
      exact ⟨rfl, hit⟩
    | none =>
      rw [get?_of_lookup_eq_none found]
      exact ⟨rfl, remembers⟩
  | getOrParse source =>
    have same := remembers.lookup_eq source
    dsimp only
    rw [← same, getOrParse]
    cases found : cache.entries.lookup source with
    | some tree =>
      have hit := remembers.hit found
      rw [get?_of_lookup found] at hit ⊢
      exact ⟨rfl, hit⟩
    | none =>
      rw [get?_of_lookup_eq_none found]
      dsimp only
      cases Expr.parse source with
      | ok tree => exact ⟨rfl, remembers.miss.insert source tree⟩
      | error error => exact ⟨rfl, remembers.miss⟩
  | insert source tree => exact ⟨rfl, remembers.insert source tree⟩
  | clear => exact ⟨rfl, remembers.clear⟩

end Steps

/-! ## Sequences of requests -/

theorem remembers_empty (capacity : Nat) :
    (empty capacity).Remembers (if capacity = 0 then 512 else capacity) .empty :=
  ⟨RecentMap.holds_empty _, rfl, rfl⟩

/-- A cache answers any sequence of requests as its history does, and holds then what was used last. -/
theorem served_by_recency (capacity : Nat) (requests : List Request) :
    let room := if capacity = 0 then 512 else capacity
    let served := (requests.mapM serve).run (empty capacity)
    let expected := (requests.mapM (History.serve room)).run .empty
    served.1 = expected.1 ∧ served.2.Remembers room expected.2 := by
  intro room served expected
  obtain ⟨others, hasRoom⟩ : ∃ others, room = others + 1 := by
    apply Nat.exists_eq_add_one.2
    show 0 < if capacity = 0 then 512 else capacity
    split <;> omega
  have each (request request' : Request) (same : request = request') :
      Coupled (Remembers room) Eq (serve request) (History.serve room request') := by
    subst same
    rw [hasRoom]
    exact serve_coupled request
  have related : List.Forall₂ Eq requests requests := List.forall₂_eq_eq_eq ▸ rfl
  obtain ⟨replies, remembers⟩ := Coupled.mapM each related _ _ (remembers_empty capacity)
  exact ⟨List.forall₂_eq_eq_eq ▸ replies, remembers⟩

/-- What was looked up outlives what was not. -/
example (tree : Expr) :
    let requests : List Request := [.insert "a" tree, .insert "b" tree, .get "a", .insert "c" tree]
    ((requests.mapM serve).run (empty 2)).2.entries = [("c", tree), ("a", tree)] := rfl

end TreeCache

end LateBound
