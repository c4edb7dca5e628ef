import LateBound.Memory
import LateBound.Resolution.Match

/-!
# Searching members

The members of a type are its own and those of its visible ancestors. A call goes to the first member
that fits: strictly before leniently, a public member of the whole chain before any other, a nearer type
before a farther one, and an earlier declaration before a later one.
-/

namespace LateBound

def maxChain : Nat := 32

variable {μ : Type} [Memory μ]

/-! ## Parent chains -/

/-- Follows the parents of the last type of a chain, which has `room` for that many more types. The
chain ends before a type that it holds already, and before one that the gate does not show. -/
def extendChain (gate : Gate) (seen : List String) (last : HostType) :
    Nat → StateM μ (List HostType)
  | 0 => pure []
  | room + 1 => do
    match last.parent? with
    | none => return []
    | some parent =>
      if seen.contains parent then return []
      match ← Memory.lookup gate parent with
      | .found next => return next :: (← extendChain gate (parent :: seen) next room)
      | .notFound | .denied => return []

def ancestors (gate : Gate) (type : HostType) : StateM μ (List HostType) := do
  return type :: (← extendChain gate [type.name] type (maxChain - 1))

def isSubtype (gate : Gate) (name ancestor : String) : StateM μ Bool := do
  if name = ancestor then return true
  match ← Memory.lookup gate name with
  | .found type => return (← ancestors gate type).any (·.name == ancestor)
  | .notFound | .denied => return false

/-! ## Members -/

/-- The first member along a chain that fits, among the public ones or among all. -/
def firstMember (chain : List (HostType × List Member)) (fits : Member → StateM μ Bool)
    (publicOnly : Bool) : StateM μ (Option MethodHandle) :=
  chain.findSomeM? fun (type, members) => do
    let found ← members.findM? fun member =>
      if publicOnly && !member.isPublic then pure false else fits member
    return found.map (⟨type.name, ·⟩)

/-- The first member along a chain that fits in a mode, a public one if there is one. -/
def searchMode (gate : Gate) (chain : List (HostType × List Member)) (signature : List Tag)
    (mode : MatchMode) : StateM μ (Option MethodHandle) := do
  let fits (member : Member) := member.accepts mode (isSubtype gate) signature
  match ← firstMember chain fits true with
  | some handle => return some handle
  | none => firstMember chain fits false

def searchMember (gate : Gate) (chain : List (HostType × List Member)) (signature : List Tag) :
    StateM μ (Option MethodHandle) := do
  match ← searchMode gate chain signature .strict with
  | some handle => return some handle
  | none => searchMode gate chain signature .lenient

/-- The name that stands for constructors in the shape of a call. -/
def constructorName : String := "<init>"

def CallShape.of (owner name : String) (args : List Value) : CallShape :=
  ⟨owner, name, args.map Value.tag⟩

/-- The field of a name along a chain: the nearest public one, else the nearest one. -/
def fieldIn? (chain : List HostType) (name : String) : Option FieldHandle :=
  let nearest (counts : Field → Bool) : Option FieldHandle :=
    chain.findSome? fun type => ((type.field? name).filter counts).map (⟨type.name, ·⟩)
  (nearest (·.isPublic)).or (nearest fun _ => true)

namespace MemberSort

/-- The member of a type that a shape reaches, searched for from scratch. Constructors of ancestors do
not count. -/
def search (gate : Gate) (type : HostType) (shape : CallShape) :
    (sort : MemberSort) → StateM μ (Option sort.Handle)
  | method => do
    let chain ← ancestors gate type
    let named (type : HostType) := type.methods.filter (·.name == shape.name)
    searchMember gate (chain.map fun type => (type, named type)) shape.signature
  | constructor => searchMember gate [(type, type.constructors)] shape.signature
  | field => do
    return fieldIn? (← ancestors gate type) shape.name

def find (sort : MemberSort) (gate : Gate) (type : HostType) (shape : CallShape) :
    StateM μ (Option sort.Handle) :=
  Memory.retrieve sort shape (sort.search gate type shape)

end MemberSort

end LateBound
