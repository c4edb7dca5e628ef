import LateBound.Builtin.Args

/-!
# Lists

`lang.List`, the runtime type of lists. Lists never change.
-/

namespace LateBound.Builtin

def receiverItems (receiver : Value) : Host (List Value) :=
  match receiver.unwrapped with
  | .list items => pure items
  | other => Host.fail ("expected a List, got " ++ other.display)

def listMethod (type : HostType) (name : String) (params : List ParamType)
    (run : List Value → List Value → Host Value) : HostType :=
  type.method name params fun receiver args => do run (← receiverItems receiver) args

def listType : HostType :=
  let base := HostType.empty "lang.List"
  let base := listMethod base "size" [] fun items _ => pure (count items.length)
  let base := listMethod base "isEmpty" [] fun items _ => pure (.bool items.isEmpty)
  let base := listMethod base "get" [.primitive .int] fun items args => do
    let index ← arg Int32 args 0
    match (place? index).bind (items[·]?) with
    | some item => pure item
    | none =>
      Host.fail ("index " ++ toString index.toInt ++ " out of bounds for length "
        ++ toString items.length)
  let base := listMethod base "contains" [.any] fun items args => do
    let wanted ← given args 0
    return .bool (items.any (·.equals wanted))
  let base := listMethod base "indexOf" [.any] fun items args => do
    let wanted ← given args 0
    return match items.findIdx? (·.equals wanted) with
      | some place => count place
      | none => .int (-1)
  listMethod base "subList" [.primitive .int, .primitive .int] fun items args => do
    let first ← arg Int32 args 0
    let last ← arg Int32 args 1
    match place? first, place? last with
    | some m, some n =>
      if m ≤ n ∧ n ≤ items.length then pure (.list ((items.take n).drop m))
      else outOfRange first last items
    | _, _ => outOfRange first last items
where
  /-- The complaint about a range that is not inside the list. -/
  outOfRange (first last : Int32) (items : List Value) : Host Value :=
    Host.fail ("fromIndex " ++ toString first.toInt ++ ", toIndex " ++ toString last.toInt
      ++ ", size " ++ toString items.length)

end LateBound.Builtin
