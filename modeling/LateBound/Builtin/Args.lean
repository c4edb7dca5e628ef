import LateBound.HostType.Native

/-!
# Arguments of the built-in members

The built-in types read their arguments where they need them, with the conversions that all host
members share.
-/

namespace LateBound.Builtin

def arg (α : Type) [HostArg α] (args : List Value) (index : Nat) : Host α :=
  match args[index]? with
  | some value => HostArg.read value
  | none => Host.fail ("missing argument " ++ toString (index + 1))

def given (args : List Value) (index : Nat) : Host Value :=
  arg Value args index

def receiverText (receiver : Value) : Host String :=
  match receiver.text? with
  | some text => pure text
  | none => Host.fail ("expected a String, got " ++ receiver.display)

def count (n : Nat) : Value :=
  .int (Int32.ofNat n)

/-- A place in a list or text as a number, when it is not negative. -/
def place? (n : Int32) : Option Nat :=
  if 0 ≤ n.toInt then some n.toInt.toNat else none

end LateBound.Builtin
