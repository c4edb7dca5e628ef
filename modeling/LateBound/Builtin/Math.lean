import LateBound.Builtin.Args
import LateBound.Number.Root

/-!
# Arithmetic

`lang.Math`. The overloads of one name are declared from the widest to the narrowest type, because of
several that take the arguments after conversion the first declared is called: `max(1, 2.5)` is
`max(double, double)`.
-/

namespace LateBound.Builtin

open LateBound.Number

/-- The larger of two floating-point numbers, the other one if one is not a number. -/
def floatMax (x y : Float) : Float :=
  if x.isNaN then y else if x < y then y else x

/-- The smaller of two floating-point numbers, the other one if one is not a number. -/
def floatMin (x y : Float) : Float :=
  if x.isNaN then y else if y < x then y else x

/-- The sign of a number; zeros and what is not a number stay as they are. -/
def signum (x : Float) : Float :=
  if x == 0 || x.isNaN then x else if x < 0 then -1 else 1

def roundHalfUp (x : Float) : Int64 :=
  Int64.ofInt (ofFloat (x + 0.5).floor).toInt64

/-- The quotient of a division whose remainder is not negative, when it exists as a word. -/
def quotient? (a b : Int32) : Option Int32 :=
  if b = 0 then none else toInt32? (a.toInt / b.toInt)

/-- The remainder of such a division. It is a bug of the host to divide where there is no quotient. -/
def remainder (a b : Int32) : Except Fault Int32 :=
  if b = 0 then .error (.panic (some "attempt to calculate the remainder with a divisor of zero"))
  else
    match toInt32? (a.toInt / b.toInt) with
    | some _ => .ok (Int32.ofInt (a.toInt % b.toInt))
    | none => .error (.panic (some "attempt to calculate the remainder with overflow"))

/-- A difference, which is a bug of the host when it does not exist as a word. -/
def subChecked (a b : Int32) : Except Fault Int32 :=
  match toInt32? (a.toInt - b.toInt) with
  | some difference => .ok difference
  | none => .error (.panic (some "attempt to subtract with overflow"))

/-- The largest whole number below or at a quotient. Division with a remainder that is never negative
already goes to the floor for a divisor above zero; for one below zero it goes to the ceiling, and so one
is taken off unless the division is exact. -/
def floorDivide (a b : Int32) : Except Fault Int32 :=
  match quotient? a b with
  | none =>
    .error (.error ("floorDiv(" ++ toString a.toInt ++ ", " ++ toString b.toInt ++ ") is undefined"))
  | some quotient => do
    let rest ← remainder a b
    subChecked quotient (if rest ≠ 0 ∧ b < 0 then 1 else 0)

def pi : Float := Float.ofBits 0x400921FB54442D18

def eulerNumber : Float := Float.ofBits 0x4005BF0A8B145769

/-- Adds a static method of one floating-point number. -/
def unary (type : HostType) (name : String) (f : Float → Float) : HostType :=
  type.staticMethod name [.primitive .double] fun args => return .double (f (← arg Float args 0))

/-- Adds a static method of two floating-point numbers. -/
def binary (type : HostType) (name : String) (f : Float → Float → Float) : HostType :=
  type.staticMethod name [.primitive .double, .primitive .double] fun args => do
    let x ← arg Float args 0
    let y ← arg Float args 1
    return .double (f x y)

def choice (type : HostType) (name : String) (floats : Float → Float → Float)
    (words : {α : Type} → [Max α] → [Min α] → α → α → α) : HostType :=
  (binary type name floats)
    |>.staticMethod name [.primitive .long, .primitive .long] (fun args => do
      let a ← arg Int64 args 0
      let b ← arg Int64 args 1
      return .long (words a b))
    |>.staticMethod name [.primitive .int, .primitive .int] (fun args => do
      let a ← arg Int32 args 0
      let b ← arg Int32 args 1
      return .int (words a b))

def mathType : HostType :=
  let base := HostType.empty "lang.Math"
    |>.staticField "PI" (.primitive .double) (pure (.double pi))
    |>.staticField "E" (.primitive .double) (pure (.double eulerNumber))
  let base := choice base "max" floatMax max
  let base := choice base "min" floatMin min
  let base := unary base "abs" Float.abs
    |>.staticMethod "abs" [.primitive .long] (fun args => return .long (← arg Int64 args 0).abs)
    |>.staticMethod "abs" [.primitive .int] (fun args => return .int (← arg Int32 args 0).abs)
  let base := binary base "pow" Float.pow
  let base := binary base "hypot" hypotenuse
  let base := binary base "atan2" Float.atan2
  let base := base
    |>.staticMethod "round" [.primitive .double] (fun args =>
      return .long (roundHalfUp (← arg Float args 0)))
    |>.staticMethod "floorDiv" [.primitive .int, .primitive .int] (fun args => do
      let a ← arg Int32 args 0
      let b ← arg Int32 args 1
      return .int (← Host.ofOutcome (floorDivide a b)))
  let base := unary base "sqrt" Float.sqrt
  let base := unary base "cbrt" cubeRoot
  let base := unary base "floor" Float.floor
  let base := unary base "ceil" Float.ceil
  let base := unary base "signum" signum
  let base := unary base "exp" Float.exp
  let base := unary base "log" Float.log
  let base := unary base "log10" Float.log10
  let base := unary base "sin" Float.sin
  let base := unary base "cos" Float.cos
  let base := unary base "tan" Float.tan
  let base := unary base "toRadians" fun x => x * (pi / 180)
  unary base "toDegrees" fun x => x * (180 / pi)

end LateBound.Builtin
