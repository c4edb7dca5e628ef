import LateBound.Proofs.Diagnostics
import Mathlib.Data.List.Dedup

/-!
# A memory that keeps a diary

What an engine asks its memory for is nowhere written down: of a lookup that was answered from the caches a number is
left at most. A diary is a memory that writes it all down, page by page, and answers as the gate, the grammar and the
search do; a member that was found is not searched for again on the same page, and a reload turns the page. An engine
with caches and one with a diary are twins, and everything that the caches count can be read off the diary.
-/

namespace LateBound

/-- What a memory is asked for, and of a member what was found. -/
inductive DiaryEntry
  | text (source : String)
  | type (name : String)
  | member (sort : MemberSort) (shape : CallShape) (found? : Option sort.Handle)

/-- What a member is looked up by: its sort, the name of its owner, its own name and the tags of the arguments. -/
abbrev MemberKey := MemberSort × CallShape

namespace DiaryEntry

def source? : DiaryEntry → Option String
  | text source => some source
  | type _ | member .. => none

def name? : DiaryEntry → Option String
  | type name => some name
  | text _ | member .. => none

def key? : DiaryEntry → Option MemberKey
  | member sort shape _ => some (sort, shape)
  | text _ | type _ => none

/-- The member that was found, with the shape that it was looked up by, if it is of a sort. -/
def handle? (sort : MemberSort) : DiaryEntry → Option (CallShape × sort.Handle)
  | member other shape (some handle) => if same : other = sort then some (shape, same ▸ handle) else none
  | text _ | type _ | member _ _ none => none

def foundKey? : DiaryEntry → Option MemberKey
  | member sort shape (some _) => some (sort, shape)
  | text _ | type _ | member _ _ none => none

end DiaryEntry

namespace Diary

/-- What was written down in one generation, the latest entry in front. -/
abbrev Page := List DiaryEntry

namespace Page

def texts (page : Page) : List String :=
  page.filterMap DiaryEntry.source?

def names (page : Page) : List String :=
  page.filterMap DiaryEntry.name?

def keys (page : Page) : List MemberKey :=
  page.filterMap DiaryEntry.key?

def found (page : Page) : List MemberKey :=
  page.filterMap DiaryEntry.foundKey?

/-- The member that was found for a shape. -/
def handle? (page : Page) (sort : MemberSort) (shape : CallShape) : Option sort.Handle :=
  (page.filterMap (DiaryEntry.handle? sort)).lookup shape

/-- How many lookups of members had to search: all but those of a key that was found before. -/
def searches : Page → Nat
  | [] => 0
  | .member sort shape _ :: page => if (sort, shape) ∈ found page then searches page else searches page + 1
  | .text _ :: page | .type _ :: page => searches page

end Page

end Diary

/-- The page of this generation, and those of earlier ones, the latest in front. -/
structure Diary where
  page : Diary.Page
  earlier : List Diary.Page

namespace Diary

def blank : Diary := ⟨[], []⟩

def pages (diary : Diary) : List Page :=
  diary.page :: diary.earlier

def write (diary : Diary) (entry : DiaryEntry) : Diary :=
  { diary with page := entry :: diary.page }

def turn (diary : Diary) : Diary :=
  ⟨[], diary.pages⟩

/-- The diary goes on from an earlier state of it on the same page. -/
structure Continues (diary before : Diary) : Prop where
  earlier : diary.earlier = before.earlier
  page : before.page <:+ diary.page

theorem Continues.refl (diary : Diary) : diary.Continues diary :=
  ⟨rfl, List.suffix_rfl⟩

theorem Continues.trans {diary before first : Diary} (continues : diary.Continues before)
    (older : before.Continues first) : diary.Continues first :=
  ⟨continues.earlier.trans older.earlier, older.page.trans continues.page⟩

theorem Continues.write {diary before : Diary} (continues : diary.Continues before) (entry : DiaryEntry) :
    (diary.write entry).Continues before :=
  ⟨continues.earlier, continues.page.trans (List.suffix_cons _ _)⟩

instance : Memory Diary where
  lookup gate name := do
    modify (·.write (.type name))
    return gate.lookup name
  parse source := do
    modify (·.write (.text source))
    return Expr.parse source
  retrieve sort shape search := do
    let found? ←
      match (← get).page.handle? sort shape with
      | some handle => pure (some handle)
      | none => search
    modify (·.write (.member sort shape found?))
    return found?
  forget := turn

/-! ## Pages -/

namespace Page

variable (page : Page) {sort other : MemberSort} {shape otherShape : CallShape} (handle : sort.Handle)

theorem handle?_cons_self : handle? (.member sort shape (some handle) :: page) sort shape = some handle := by
  simp [handle?, DiaryEntry.handle?]

theorem handle?_cons_of_ne (isOther : (other, otherShape) ≠ (sort, shape)) :
    handle? (.member sort shape (some handle) :: page) other otherShape = page.handle? other otherShape := by
  unfold handle?
  by_cases same : sort = other
  · subst same
    have apart : (otherShape == shape) = false := by simpa using isOther
    simp [DiaryEntry.handle?, List.lookup_cons, apart]
  · simp [DiaryEntry.handle?, same]

theorem mem_found_iff (sort : MemberSort) (shape : CallShape) :
    (sort, shape) ∈ page.found ↔ (page.handle? sort shape).isSome := by
  induction page with
  | nil => simp [found, handle?]
  | cons entry page inductionHypothesis =>
    cases entry with
    | text source => exact inductionHypothesis
    | type name => exact inductionHypothesis
    | member other otherShape found? =>
      cases found? with
      | none => exact inductionHypothesis
      | some handle =>
        show (sort, shape) ∈ (other, otherShape) :: found page ↔ _
        by_cases same : (sort, shape) = (other, otherShape)
        · cases same
          simp [handle?_cons_self]
        · rw [handle?_cons_of_ne page handle same, List.mem_cons, inductionHypothesis, or_iff_right same]

theorem handle?_again {page : Page} {handle : sort.Handle} (isKnown : page.handle? sort shape = some handle)
    (other : MemberSort) (otherShape : CallShape) :
    handle? (.member sort shape (some handle) :: page) other otherShape = page.handle? other otherShape := by
  by_cases same : (other, otherShape) = (sort, shape)
  · cases same
    rw [handle?_cons_self, isKnown]
  · exact handle?_cons_of_ne page handle same

end Page

end Diary

/-! ## What the caches count -/

/-- A text is parsed or it is hit. -/
theorem TreeCache.count_getOrParse (cache : TreeCache) (source : String) :
    (cache.getOrParse source).2.parses + (cache.getOrParse source).2.hits = cache.parses + cache.hits + 1 := by
  unfold getOrParse
  cases known : cache.entries.lookup source with
  | some tree =>
    rw [get?_of_lookup known]
    dsimp only
    omega
  | none =>
    rw [get?_of_lookup_eq_none known]
    cases Expr.parse source <;> simp only [insert] <;> omega

/-- Only a name that is not known adds an entry, and the provider is asked about it. -/
theorem TypeCache.after_lookup (gate : Gate) (name : String) (cache : TypeCache) :
    ((lookup gate name).run cache).2 =
      if name ∈ cache.entries.map Prod.fst then cache
      else ⟨(name, gate.find? name) :: cache.entries, cache.calls + 1⟩ := by
  cases kept : cache.entries.lookup name with
  | some answer =>
    have isKnown : name ∈ cache.entries.map Prod.fst := List.mem_map_of_mem (mem_of_lookup_eq_some kept)
    simp only [lookup, fetch, kept, StateT.run_bind, StateT.run_get, pure_bind, StateT.run_pure, if_pos isKnown]
    rfl
  | none =>
    have isNew : name ∉ cache.entries.map Prod.fst := lookup_eq_none_iff_notMem_keys.1 kept
    simp only [lookup, fetch, kept, StateT.run_bind, StateT.run_get, pure_bind, StateT.run_set, StateT.run_pure,
      if_neg isNew]
    rfl

namespace HandleCache

theorem size_add (cache : HandleCache) (shape : CallShape) (sort : MemberSort) (handle : sort.Handle) :
    (cache.add shape sort handle).size = cache.size + 1 := by
  cases sort <;> simp only [add, size, List.length_cons] <;> omega

theorem searches_add (cache : HandleCache) (shape : CallShape) (sort : MemberSort) (handle : sort.Handle) :
    (cache.add shape sort handle).searches = cache.searches := by
  cases sort <;> rfl

theorem hits_add (cache : HandleCache) (shape : CallShape) (sort : MemberSort) (handle : sort.Handle) :
    (cache.add shape sort handle).hits = cache.hits := by
  cases sort <;> rfl

theorem known_add {cache : HandleCache} {page : Diary.Page}
    (same : ∀ sort shape, (cache.known sort).lookup shape = page.handle? sort shape) (sort : MemberSort)
    (shape : CallShape) (handle : sort.Handle) (other : MemberSort) (otherShape : CallShape) :
    ((cache.add shape sort handle).known other).lookup otherShape =
      Diary.Page.handle? (.member sort shape (some handle) :: page) other otherShape := by
  have added : (cache.add shape sort handle).known sort = (shape, handle) :: cache.known sort := by
    cases sort <;> rfl
  by_cases isKey : (other, otherShape) = (sort, shape)
  · cases isKey
    rw [added, Diary.Page.handle?_cons_self, List.lookup_cons_self]
  · rw [Diary.Page.handle?_cons_of_ne page handle isKey, ← same]
    by_cases isSort : sort = other
    · subst isSort
      have apart : (otherShape == shape) = false := by simpa using isKey
      rw [added, List.lookup_cons, apart]
    · cases sort <;> cases other <;> first | rfl | exact absurd rfl isSort

end HandleCache

/-! ## Caches beside a diary -/

namespace Diary

/-- The caches hold and count what the diary tells, which goes on from an earlier state of it in the same generation.
The sizes and the counts of texts are told by its page, the others by all its pages; of members it does not tell yet
those for which a search is under way. -/
structure Tells (gate : Gate) (before : Diary) (underway : Nat) (caches : Caches) (diary : Diary) : Prop where
  kept : caches.Kept gate
  continues : diary.Continues before
  texts : caches.trees.parses + caches.trees.hits = diary.page.texts.length
  names : caches.types.entries.map Prod.fst = diary.page.names.dedup
  typeLookups : caches.types.calls = (diary.pages.map fun page => page.names.dedup.length).sum
  known (sort : MemberSort) (shape : CallShape) :
    (caches.handles.known sort).lookup shape = diary.page.handle? sort shape
  size : caches.handles.size = diary.page.found.dedup.length
  searches : caches.handles.searches = (diary.pages.map Page.searches).sum + underway
  members : caches.handles.searches + caches.handles.hits =
    (diary.pages.map fun page => page.keys.length).sum + underway

namespace Tells

variable {gate : Gate} {before diary : Diary} {underway : Nat} {caches : Caches}

theorem empty (gate : Gate) (capacity : Nat) : Tells gate .blank 0 (.empty capacity) .blank where
  kept := Caches.kept_empty gate capacity
  continues := .refl _
  texts := rfl
  names := rfl
  typeLookups := rfl
  known sort shape := by rw [Caches.empty, HandleCache.known_empty]; rfl
  size := rfl
  searches := rfl
  members := rfl

theorem forget (tells : Tells gate before 0 caches diary) :
    Tells gate diary.turn 0 (Memory.forget caches) diary.turn where
  kept := caches.kept_forget gate
  continues := .refl _
  texts := rfl
  names := rfl
  typeLookups := tells.typeLookups.trans (Nat.zero_add _).symm
  known sort shape := by
    show (caches.handles.clear.known sort).lookup shape = _
    rw [HandleCache.known_clear]
    rfl
  size := rfl
  searches := tells.searches.trans (congrArg (· + 0) (Nat.zero_add _).symm)
  members := tells.members.trans (congrArg (· + 0) (Nat.zero_add _).symm)

theorem lookup (tells : Tells gate before underway caches diary) (name : String) :
    Tells gate before underway ((Memory.lookup gate name).run caches).2 (diary.write (.type name)) := by
  have types := (tells.kept.types.lookup name).2
  have after := TypeCache.after_lookup gate name caches.types
  have isKnown : name ∈ caches.types.entries.map Prod.fst ↔ name ∈ diary.page.names := by
    rw [tells.names, List.mem_dedup]
  have old := tells.names
  have calls := tells.typeLookups
  constructor
  case kept => exact { tells.kept with types }
  case continues => exact tells.continues.write _
  case texts => exact tells.texts
  case names =>
    show ((TypeCache.lookup gate name).run caches.types).2.entries.map Prod.fst = (name :: diary.page.names).dedup
    rw [after]
    by_cases isOld : name ∈ diary.page.names
    · rw [if_pos (isKnown.2 isOld), List.dedup_cons_of_mem isOld, old]
    · rw [if_neg (isOld ∘ isKnown.1), List.dedup_cons_of_notMem isOld, List.map_cons, old]
  case typeLookups =>
    show ((TypeCache.lookup gate name).run caches.types).2.calls =
      (name :: diary.page.names).dedup.length + (diary.earlier.map fun page => page.names.dedup.length).sum
    rw [after]
    simp only [pages, List.map_cons, List.sum_cons] at calls
    by_cases isOld : name ∈ diary.page.names
    · rw [if_pos (isKnown.2 isOld), List.dedup_cons_of_mem isOld, calls]
    · rw [if_neg (isOld ∘ isKnown.1), List.dedup_cons_of_notMem isOld, List.length_cons]
      show caches.types.calls + 1 = _
      omega
  case known => exact tells.known
  case size => exact tells.size
  case searches => exact tells.searches
  case members => exact tells.members

theorem parse (tells : Tells gate before underway caches diary) (source : String) :
    Tells gate before underway ((Memory.parse source).run caches).2 (diary.write (.text source)) := by
  obtain ⟨-, trees⟩ := tells.kept.trees.getOrParse source
  exact { tells with
    kept := { tells.kept with trees }
    continues := tells.continues.write _
    texts := (caches.trees.count_getOrParse source).trans (congrArg (· + 1) tells.texts) }

/-! ### Lookups of members -/

theorem hit (tells : Tells gate before underway caches diary) {sort : MemberSort} {shape : CallShape}
    {handle : sort.Handle} (isKnown : diary.page.handle? sort shape = some handle) :
    Tells gate before underway { caches with handles := { caches.handles with hits := caches.handles.hits + 1 } }
      (diary.write (.member sort shape (some handle))) := by
  have isFound : (sort, shape) ∈ diary.page.found := by simp [Page.mem_found_iff, isKnown]
  have searches := tells.searches
  have members := tells.members
  simp only [pages, List.map_cons, List.sum_cons] at searches members
  exact { tells with
    kept := tells.kept.count _ _
    continues := tells.continues.write _
    known := fun other otherShape => by
      rw [HandleCache.known_count, tells.known]
      exact (Page.handle?_again isKnown other otherShape).symm
    size := by
      refine tells.size.trans ?_
      exact congrArg List.length (List.dedup_cons_of_mem isFound).symm
    searches := by
      simpa [pages, write, Page.searches, isFound] using searches
    members := by
      simp only [pages, write, Page.keys, DiaryEntry.key?, List.filterMap_cons, List.length_cons, List.map_cons,
        List.sum_cons] at members ⊢
      omega }

theorem search (tells : Tells gate before underway caches diary) :
    Tells gate before (underway + 1)
      { caches with handles := { caches.handles with searches := caches.handles.searches + 1 } } diary :=
  { tells with
    kept := tells.kept.count _ _
    known := fun sort shape => by rw [HandleCache.known_count, tells.known]
    searches := congrArg (· + 1) tells.searches
    members := by
      have members := tells.members
      dsimp only
      omega }

section Ended

variable {sort : MemberSort} {shape : CallShape} (tells : Tells gate before (underway + 1) caches diary)
  (isNew : diary.page.handle? sort shape = none)

include tells isNew

theorem vain : Tells gate before underway caches (diary.write (.member sort shape none)) := by
  have notFound : (sort, shape) ∉ diary.page.found := by simp [Page.mem_found_iff, isNew]
  have searches := tells.searches
  have members := tells.members
  simp only [pages, List.map_cons, List.sum_cons] at searches members
  exact { tells with
    continues := tells.continues.write _
    searches := by
      simp only [pages, write, Page.searches, if_neg notFound, List.map_cons, List.sum_cons]
      omega
    members := by
      simp only [pages, write, Page.keys, DiaryEntry.key?, List.filterMap_cons, List.length_cons, List.map_cons,
        List.sum_cons] at members ⊢
      omega }

theorem add {handle : sort.Handle} (isOf : sort.Of gate.Has handle) :
    Tells gate before underway { caches with handles := caches.handles.add shape sort handle }
      (diary.write (.member sort shape (some handle))) := by
  have notFound : (sort, shape) ∉ diary.page.found := by simp [Page.mem_found_iff, isNew]
  have vain := tells.vain isNew
  exact { vain with
    kept := tells.kept.add isOf shape
    continues := tells.continues.write _
    known := HandleCache.known_add tells.known sort shape handle
    size := by
      show (caches.handles.add shape sort handle).size = ((sort, shape) :: diary.page.found).dedup.length
      rw [HandleCache.size_add, tells.size, List.dedup_cons_of_notMem notFound, List.length_cons]
    searches := by
      dsimp only
      rw [HandleCache.searches_add]
      exact vain.searches
    members := by
      dsimp only
      rw [HandleCache.searches_add, HandleCache.hits_add]
      exact vain.members }

end Ended

end Tells

/-! ## The twins -/

section Retrieving

variable {diary : Diary} {sort : MemberSort} {shape : CallShape} (search : StateM Diary (Option sort.Handle))

theorem run_retrieve_kept {handle : sort.Handle} (isKnown : diary.page.handle? sort shape = some handle) :
    (Memory.retrieve sort shape search).run diary =
      (some handle, diary.write (.member sort shape (some handle))) := by
  simp only [Memory.retrieve, StateT.run_bind, StateT.run_get, pure_bind, isKnown, StateT.run_pure, StateT.run_modify]
  rfl

theorem run_retrieve_new (isNew : diary.page.handle? sort shape = none) :
    (Memory.retrieve sort shape search).run diary =
      ((search.run diary).1, (search.run diary).2.write (.member sort shape (search.run diary).1)) := by
  simp only [Memory.retrieve, StateT.run_bind, StateT.run_get, pure_bind, isNew, StateT.run_modify]
  rfl

end Retrieving

variable {gate : Gate} {before : Diary} {underway : Nat}

/-- A name is answered as the gate answers it, by the caches and beside the diary. -/
theorem Tells.answered {caches : Caches} {diary : Diary} (tells : Tells gate before underway caches diary)
    (name : String) :
    Same (fun answer => ∀ type ∈ answer.type?, gate.Has type) ((Memory.lookup gate name).run caches).1
      ((Memory.lookup gate name).run diary).1 := by
  have answered := (tells.kept.types.lookup name).1
  refine ⟨answered, fun type shown => ⟨name, .inl ?_⟩⟩
  have shown : (gate.lookup name).type? = some type := answered ▸ shown
  exact (Gate.find?_of_lookup shown).1

theorem showSame : ShowSame (Tells gate before underway) gate.Has gate gate :=
  fun name _ _ tells => ⟨tells.answered name, tells.lookup name⟩

theorem showSame_of_unknown (sort : MemberSort) (shape : CallShape) :
    ShowSame (fun caches diary => Tells gate before underway caches diary ∧ diary.page.handle? sort shape = none)
      gate.Has gate gate :=
  fun name _ _ ⟨tells, isNew⟩ => ⟨tells.answered name, tells.lookup name, isNew⟩

theorem findSame {type : HostType} (isKnown : gate.Has type) (shape : CallShape) (sort : MemberSort) :
    Coupled (Tells gate before underway) (Same fun found => ∀ handle ∈ found, sort.Of gate.Has handle)
      (sort.find gate type shape) (sort.find gate type shape) := by
  intro caches diary tells
  cases isKept : (caches.handles.known sort).lookup shape with
  | some handle =>
    have isWritten := tells.known sort shape ▸ isKept
    rw [MemberSort.find, MemberSort.find, Caches.run_retrieve_kept _ isKept, run_retrieve_kept _ isWritten]
    refine ⟨⟨rfl, fun found isFound => ?_⟩, tells.hit isWritten⟩
    cases isFound
    exact tells.kept.handles sort _ (mem_of_lookup_eq_some isKept)
  | none =>
    have isNew := tells.known sort shape ▸ isKept
    rw [MemberSort.find, MemberSort.find, Caches.run_retrieve_new _ isKept, run_retrieve_new _ isNew]
    -- The caches count a search when it begins and the diary tells of it when it has ended. In between only types are
    -- looked up, so that the member is still unknown when it is added.
    have searched := (showSame_of_unknown sort shape).search isKnown shape sort _ _ ⟨tells.search, isNew⟩
    generalize (sort.search gate type shape : StateM Caches _).run _ = ended,
      (sort.search gate type shape : StateM Diary _).run _ = ended' at searched ⊢
    obtain ⟨found, caches⟩ := ended
    obtain ⟨found', diary⟩ := ended'
    obtain ⟨⟨same, isOf⟩, tells, isNew⟩ := searched
    dsimp only at same
    subst same
    cases found with
    | none => exact ⟨⟨rfl, isOf⟩, tells.vain isNew⟩
    | some handle => exact ⟨⟨rfl, isOf⟩, tells.add isNew (isOf handle rfl)⟩

theorem parseSame (source : String) :
    Coupled (Tells gate before underway) (Same (· = Expr.parse source)) (Memory.parse source)
      (Memory.parse source) := by
  intro caches diary tells
  have parsed := (tells.kept.trees.getOrParse source).1
  exact ⟨⟨parsed, parsed⟩, tells.parse source⟩

def twins (gate : Gate) (before : Diary) : Twins Caches Diary where
  first := gate
  second := gate
  ledger := .any
  hides _ := false
  known := gate.Has
  permits _ := True
  linked := Tells gate before 0
  admitSame := Caches.admitSame_self gate
  showSame := showSame
  describeSame := gate.describeSame_self
  findSame isKnown _ sort := findSame isKnown _ sort
  parseSame := parseSame
  permitKnown _ := trivial
  discreet {type} _ := type.discreet_none

end Diary

end LateBound
