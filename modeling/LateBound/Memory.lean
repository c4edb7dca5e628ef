import LateBound.Expr.Cache
import LateBound.Gate

/-!
# What an engine remembers

An engine looks up types, reads texts and searches members through its memory. `Caches` keeps every
answer: trees by text, types by name and members by the shape of the call. `Unit` is the memory that
keeps nothing and finds everything anew; an engine with it is what the one with caches is compared with.
-/

namespace LateBound

/-- A member together with the type that declares it. -/
structure MethodHandle where
  declaring : String
  member : Member

structure FieldHandle where
  declaring : String
  field : Field

/-- The three sorts of members that calls and accesses are resolved to. -/
inductive MemberSort
  | method
  | constructor
  | field
  deriving DecidableEq, Repr

/-- What each sort of member is resolved to. -/
abbrev MemberSort.Handle : MemberSort → Type
  | method | constructor => MethodHandle
  | field => FieldHandle

/-- A way to look up types, to read texts and to search members. -/
class Memory (μ : Type) where
  /-- The answer of the gate on a name. -/
  lookup : Gate → String → StateM μ Lookup
  /-- The tree of a text. -/
  parse : String → StateM μ (Except SyntaxError Expr)
  /-- The member that a search finds, unless it is known from an earlier search for the same shape. -/
  retrieve : (sort : MemberSort) → CallShape → StateM μ (Option sort.Handle) →
    StateM μ (Option sort.Handle)
  /-- Forgets what a reload makes stale. -/
  forget : μ → μ

/-- Nothing is remembered. -/
instance : Memory Unit where
  lookup gate name := pure (gate.lookup name)
  parse source := pure (Expr.parse source)
  retrieve _ _ search := search
  forget := id

/-! ## Caches -/

/-- The members found so far by the shape of the call, with counts of searches and of hits. -/
structure HandleCache where
  methods : List (CallShape × MethodHandle)
  constructors : List (CallShape × MethodHandle)
  fields : List (CallShape × FieldHandle)
  searches : Nat
  hits : Nat

namespace HandleCache

def empty : HandleCache := ⟨[], [], [], 0, 0⟩

def size (cache : HandleCache) : Nat :=
  cache.methods.length + cache.constructors.length + cache.fields.length

def clear (cache : HandleCache) : HandleCache :=
  { cache with methods := [], constructors := [], fields := [] }

def known (cache : HandleCache) : (sort : MemberSort) → List (CallShape × sort.Handle)
  | .method => cache.methods
  | .constructor => cache.constructors
  | .field => cache.fields

def add (cache : HandleCache) (shape : CallShape) :
    (sort : MemberSort) → sort.Handle → HandleCache
  | .method, handle => { cache with methods := (shape, handle) :: cache.methods }
  | .constructor, handle => { cache with constructors := (shape, handle) :: cache.constructors }
  | .field, handle => { cache with fields := (shape, handle) :: cache.fields }

end HandleCache

/-- Everything that is remembered: trees, types and members. -/
structure Caches where
  trees : TreeCache
  types : TypeCache
  handles : HandleCache

namespace Caches

def empty (capacity : Nat) : Caches :=
  ⟨.empty capacity, .empty, .empty⟩

/-- The answer of the gate on a name, by way of the known types. -/
def lookup (gate : Gate) (name : String) : StateM Caches Lookup :=
  modifyGet fun caches =>
    let (answer, types) := (TypeCache.lookup gate name).run caches.types
    (answer, { caches with types })

/-- The tree of a text, by way of the known trees. -/
def parse (source : String) : StateM Caches (Except SyntaxError Expr) :=
  modifyGet fun caches =>
    let (tree, trees) := caches.trees.getOrParse source
    (tree, { caches with trees })

/-- The member of a shape, searched for if it is not known; only success is remembered. -/
def retrieve (sort : MemberSort) (shape : CallShape) (search : StateM Caches (Option sort.Handle)) :
    StateM Caches (Option sort.Handle) := do
  match ((← get).handles.known sort).lookup shape with
  | some handle =>
    modify fun caches =>
      { caches with handles := { caches.handles with hits := caches.handles.hits + 1 } }
    return some handle
  | none =>
    modify fun caches =>
      { caches with handles := { caches.handles with searches := caches.handles.searches + 1 } }
    match ← search with
    | some handle =>
      modify fun caches => { caches with handles := caches.handles.add shape sort handle }
      return some handle
    | none => return none

/-- A new generation: the trees, with their counts, the types and the members are gone. -/
def forget (caches : Caches) : Caches :=
  ⟨.empty caches.trees.capacity, caches.types.clear, caches.handles.clear⟩

instance : Memory Caches := ⟨lookup, parse, retrieve, forget⟩

end Caches

end LateBound
