import LateBound.Host
import LateBound.Text.Blank

/-!
# Host types

What the evaluator knows of a type of the host: its qualified name, its parent, its constants if it is
an enum, and its members. A member carries the action that runs it; nothing else is known of how the
host does its work.

Every type but the root has a parent, the root when none is declared.
-/

namespace LateBound

/-- A constructor or a method. A static one is run without a receiver. A hidden one is found only by
the walk over all members of a type. -/
structure Member where
  name : String
  params : List ParamType
  isStatic : Bool
  isPublic : Bool
  run : Option Value → List Value → Host Value

def Member.signature (member : Member) : String :=
  member.name ++ "(" ++ ", ".intercalate (member.params.map ParamType.text) ++ ")"

/-- A field, with the actions that read and, where it can be written, write it. -/
structure Field where
  name : String
  type : ParamType
  isStatic : Bool
  isFinal : Bool
  isPublic : Bool
  read : Option Value → Host Value
  write? : Option (Option Value → Value → Host Unit)

structure HostType where
  name : String
  declaredParent? : Option String
  constants? : Option (List String)
  constructors : List Member
  methods : List Member
  fields : List Field

def rootType : String := "lang.Object"

namespace HostType

def shortName (type : HostType) : String :=
  LateBound.shortName type.name

/-- The declared parent, or the root for every type but the root itself. -/
def parent? (type : HostType) : Option String :=
  match type.declaredParent? with
  | some parent => some parent
  | none => if type.name = rootType then none else some rootType

def ref (type : HostType) : TypeRef :=
  ⟨type.name, type.constants?.isSome⟩

def field? (type : HostType) (name : String) : Option Field :=
  type.fields.find? (·.name == name)

/-! ## Enum constants -/

def equalsIgnoringCase (first second : String) : Bool :=
  first.toList.map Char.toLower == second.toList.map Char.toLower

/-- A text as the name of a constant may be written: without blanks around it, and with underscores
for the spaces inside. -/
def looseName (text : String) : String :=
  String.ofList ((Text.trimChars text.toList).map fun c => if c = ' ' then '_' else c)

def constantAt (type : HostType) (constants : List String) (ordinal : Nat) : Value :=
  .enum ⟨type.name, constants[ordinal]?.getD "", ordinal⟩

/-- The constant that a text names: the one of exactly this name, else the first whose name agrees
loosely. -/
def constant? (type : HostType) (text : String) : Option Value :=
  type.constants?.bind fun constants =>
    let loose := looseName text
    let ordinal :=
      (constants.findIdx? (· == text)).or (constants.findIdx? (equalsIgnoringCase · loose))
    ordinal.map (type.constantAt constants)

end HostType

end LateBound
