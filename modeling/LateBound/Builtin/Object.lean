import LateBound.Builtin.Args
import LateBound.Text.Hash

/-!
# The root type and the type of types

`lang.Object` is the root of every parent chain: every value has a text, can be compared and can be
hashed. `lang.Class` is the runtime type of types used as values.
-/

namespace LateBound.Builtin

open HostType

def objectType : HostType :=
  HostType.empty rootType
    |>.method "toString" [] (fun receiver _ => pure (.str receiver.display))
    |>.method "equals" [.any] (fun receiver args => do
      return .bool (receiver.equals (← given args 0)))
    |>.method "hashCode" [] (fun receiver _ => pure (.int (Text.hashCode receiver.display)))

def onType (read : TypeRef → Value) (receiver : Value) : Host Value :=
  match receiver.unwrapped with
  | .type ref => pure (read ref)
  | other => Host.fail ("expected a type, got " ++ other.display)

def classType : HostType :=
  HostType.empty "lang.Class"
    |>.method "getName" [] (fun receiver _ => onType (.str ·.name) receiver)
    |>.method "getSimpleName" [] (fun receiver _ =>
      onType (fun ref => .str (shortName ref.name)) receiver)
    |>.method "isEnum" [] (fun receiver _ => onType (.bool ·.isEnum) receiver)
    |>.method "isInstance" [.any] (fun receiver args => do
      let value ← given args 0
      onType (fun ref => .bool (value.runtimeTypeName? == some ref.name)) receiver)

end LateBound.Builtin
