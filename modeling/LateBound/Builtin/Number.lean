import LateBound.Builtin.Args
import LateBound.Text.Blank

/-!
# Numbers and booleans

`lang.Number`, whose members every number has, the six types of boxed numbers below it, and
`lang.Boolean`.
-/

namespace LateBound.Builtin

open LateBound.Number

/-- The qualified name of the common parent of the number types. -/
def numberTypeName : String := "lang.Number"

def numberView (type : HostType) (name : String) (view : Value → Option Value) : HostType :=
  type.method name [] fun receiver _ =>
    match view receiver with
    | some value => pure value
    | none => Host.fail (receiver.display ++ " is not a number")

/-- `lang.Number`: the conversions that all numbers share. -/
def numberType : HostType :=
  let base := HostType.empty numberTypeName
  let base := numberView base "byteValue" fun n => n.toInteger?.map (.byte <| Int8.ofInt ·)
  let base := numberView base "shortValue" fun n => n.toInteger?.map (.short <| Int16.ofInt ·)
  let base := numberView base "intValue" fun n => n.toInteger?.map (.int <| Int32.ofInt ·)
  let base := numberView base "longValue" fun n => n.toInteger?.map (.long <| Int64.ofInt ·)
  let base := numberView base "floatValue" fun n => n.toFloat32?.map .float
  numberView base "doubleValue" fun n => n.toFloat?.map .double

/-! ## Comparing -/

def orderingValue : Ordering → Value
  | .lt => .int (-1)
  | .eq => .int 0
  | .gt => .int 1

/-- How two floating-point numbers compare; what cannot be compared counts as equal. -/
def compareFloats (x y : Float) : Ordering :=
  if x < y then .lt else if y < x then .gt else .eq

/-- How two numbers compare, at floating-point width or as whole numbers. -/
def compareNumbers (floating : Bool) (a b : Value) : Value :=
  orderingValue <|
    if floating then
      match a.toFloat?, b.toFloat? with
      | some x, some y => compareFloats x y
      | _, _ => .eq
    else
      match a.toInteger?, b.toInteger? with
      | some m, some n => compare m n
      | _, _ => .eq

/-! ## Boxed numbers -/

def notANumberMessage (text : String) : String :=
  "for input string: \"" ++ text ++ "\""

def parsed (text : String) : Option Value → Host Value
  | some value => pure value
  | none => Host.fail (notANumberMessage text)

/-- A type of boxed numbers: its limits, and how its texts are read. -/
structure Boxed where
  name : String
  kind : Primitive
  parseName : String
  least : Value
  greatest : Value
  parse : String → Host Value

/-- Whether numbers of a primitive are compared as floating-point numbers. -/
def isFloating : Primitive → Bool
  | .float | .double => true
  | _ => false

/-- The members that all types of boxed numbers have. -/
def Boxed.hostType (boxed : Boxed) : HostType :=
  let param := ParamType.primitive boxed.kind
  let compared := compareNumbers (isFloating boxed.kind)
  (HostType.empty boxed.name).withParent numberTypeName
    |>.staticField "MAX_VALUE" param (pure boxed.greatest)
    |>.staticField "MIN_VALUE" param (pure boxed.least)
    |>.staticMethod boxed.parseName [.str] (fun args => do boxed.parse (← arg String args 0))
    |>.staticMethod "valueOf" [param] (fun args => given args 0)
    |>.staticMethod "valueOf" [.str] (fun args => do boxed.parse (← arg String args 0))
    |>.staticMethod "toString" [param] (fun args => return .str (← given args 0).display)
    |>.staticMethod "compare" [param, param] (fun args =>
      return compared (← given args 0) (← given args 1))
    |>.method "compareTo" [param] (fun receiver args => return compared receiver (← given args 0))

def parseWhole {α : Type} (fit? : Int → Option α) (box : α → Value) (text : String) : Host Value :=
  parsed text (((readInteger? text.toList).bind fit?).map box)

/-- Reads a number in a base from two to thirty-six, with an optional sign. -/
def readRadix? (base : Nat) : List Char → Option Int
  | '-' :: digits => (readDigits? base digits).map fun n => -(n : Int)
  | '+' :: digits => (readDigits? base digits).map Int.ofNat
  | digits => (readDigits? base digits).map Int.ofNat
where
  /-- The value of a digit of any base. -/
  digit? (c : Char) : Option Nat :=
    if c.isDigit then some (c.toNat - '0'.toNat)
    else if c.toLower.isLower then some (c.toLower.toNat - 'a'.toNat + 10)
    else none
  /-- The value of one or more digits below the base. -/
  readDigits? (base : Nat) (digits : List Char) : Option Nat :=
    if digits.isEmpty then none
    else
      digits.foldlM (fun value c =>
        (digit? c).bind fun digit => if digit < base then some (base * value + digit) else none) 0

/-- The digits of a word, taken as unsigned, in a base. -/
def unsignedDigits (base : Nat) (n : Int32) : String :=
  String.ofList (Nat.toDigits base n.toUInt32.toNat)

def integerType : HostType :=
  let boxed : Boxed :=
    ⟨"lang.Integer", .int, "parseInt", .int Int32.minValue, .int Int32.maxValue,
      parseWhole toInt32? .int⟩
  boxed.hostType
    |>.staticMethod "parseInt" [.str, .primitive .int] (fun args => do
      let text ← arg String args 0
      let radix ← arg Int32 args 1
      if 2 ≤ radix.toInt ∧ radix.toInt ≤ 36 then
        match (readRadix? radix.toInt.toNat text.toList).bind toInt32? with
        | some n => pure (.int n)
        | none =>
          Host.fail (notANumberMessage text ++ " under radix " ++ toString radix.toInt)
      else Host.fail ("radix " ++ toString radix.toInt ++ " out of range"))
    |>.staticMethod "toHexString" [.primitive .int] (fun args =>
      return .str (unsignedDigits 16 (← arg Int32 args 0)))
    |>.staticMethod "toBinaryString" [.primitive .int] (fun args =>
      return .str (unsignedDigits 2 (← arg Int32 args 0)))

def longType : HostType :=
  Boxed.hostType
    ⟨"lang.Long", .long, "parseLong", .long Int64.minValue, .long Int64.maxValue,
      parseWhole toInt64? .long⟩

def shortType : HostType :=
  Boxed.hostType
    ⟨"lang.Short", .short, "parseShort", .short Int16.minValue, .short Int16.maxValue,
      parseWhole toInt16? .short⟩

def byteType : HostType :=
  Boxed.hostType
    ⟨"lang.Byte", .byte, "parseByte", .byte Int8.minValue, .byte Int8.maxValue,
      parseWhole toInt8? .byte⟩

def doubleOfWord (word : Nat) : Value :=
  .double (Float.ofBits (UInt64.ofNat word))

def floatOfWord (word : Nat) : Value :=
  .float (Float32.ofBits (UInt32.ofNat word))

/-- The words of the smallest positive number with a full significand, and of the greatest one. -/
def extremes (format : Format) : Nat × Nat :=
  (pow2 format.fraction, format.infinity - 1)

def doubleType : HostType :=
  let (least, greatest) := extremes .double
  let boxed : Boxed :=
    ⟨"lang.Double", .double, "parseDouble", doubleOfWord least, doubleOfWord greatest,
      fun text =>
        let text := Text.trim text
        parsed text ((readDouble? text.toList).map .double)⟩
  boxed.hostType
    |>.staticField "NaN" (.primitive .double) (pure (doubleOfWord Format.double.notANumber))
    |>.staticField "POSITIVE_INFINITY" (.primitive .double)
      (pure (doubleOfWord Format.double.infinity))
    |>.staticField "NEGATIVE_INFINITY" (.primitive .double)
      (pure (doubleOfWord (Format.double.signBit + Format.double.infinity)))
    |>.staticMethod "isNaN" [.primitive .double] (fun args =>
      return .bool (← arg Float args 0).isNaN)
    |>.method "isNaN" [] (fun receiver _ =>
      return .bool (match receiver.toFloat? with
        | some x => x.isNaN
        | none => false))

def floatType : HostType :=
  let (least, greatest) := extremes .single
  Boxed.hostType
    ⟨"lang.Float", .float, "parseFloat", floatOfWord least, floatOfWord greatest,
      fun text =>
        let text := Text.trim text
        parsed text ((readSingle? text.toList).map .float)⟩

/-! ## Booleans -/

/-- Whether a text is `true` in any case; null is no such text. -/
def parseBoolean (args : List Value) : Host Value := do
  let text ← given args 0
  if text.isNull then return .bool false
  let text ← arg String args 0
  return .bool (HostType.equalsIgnoringCase text "true")

def booleanJoin (type : HostType) (name : String) (join : Bool → Bool → Bool) : HostType :=
  type.staticMethod name [.primitive .bool, .primitive .bool] fun args => do
    let first ← arg Bool args 0
    let second ← arg Bool args 1
    return .bool (join first second)

def booleanType : HostType :=
  let base := HostType.empty "lang.Boolean"
    |>.staticField "TRUE" (.primitive .bool) (pure (.bool true))
    |>.staticField "FALSE" (.primitive .bool) (pure (.bool false))
    |>.staticMethod "parseBoolean" [.str] parseBoolean
    |>.staticMethod "valueOf" [.primitive .bool] (fun args => given args 0)
    |>.staticMethod "valueOf" [.str] parseBoolean
    |>.staticMethod "toString" [.primitive .bool] (fun args =>
      return .str (← given args 0).display)
  let base := booleanJoin base "logicalAnd" (· && ·)
  let base := booleanJoin base "logicalOr" (· || ·)
  let base := booleanJoin base "logicalXor" (· ^^ ·)
  base.method "booleanValue" [] fun receiver _ => pure receiver

end LateBound.Builtin
