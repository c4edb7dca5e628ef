import LateBound.HostType.Native
import LateBound.Text.Blank

/-!
# A counter

A sample host type with members of every sort: hidden ones, static ones, fallible ones, and arithmetic
that is a bug when it leaves the range of its words.
-/

namespace LateBound.Sample

structure Counter where
  count : Int32

namespace Counter

def typeName : String := "host.Counter"

instance : Native Counter where
  typeName := typeName
  save counter := .struct typeName [.int counter.count]
  load?
    | .struct layout [.int count] => if layout = typeName then some ⟨count⟩ else none
    | _ => none
  load_save _ := by simp

def addChecked (a b : Int32) : Except Fault Int32 :=
  match Number.toInt32? (a.toInt + b.toInt) with
  | some sum => .ok sum
  | none => .error (.panic (some "attempt to add with overflow"))

def start (count : Int32) : Except Fault Counter :=
  if count < 0 then .error (.error ("negative start " ++ toString count.toInt)) else .ok ⟨count⟩

/-- A counter that starts at the count written in a text, or at one below zero. -/
def ofText (text : String) : Counter :=
  ⟨((Number.readInteger? (Text.trimChars text.toList)).bind Number.toInt32?).getD (-1)⟩

def add (n : Int32) (counter : Counter) : Except Fault Int32 × Counter :=
  match addChecked counter.count n with
  | .ok count => (.ok count, ⟨count⟩)
  | .error fault => (.error fault, counter)

def setCount (count : Int32) (counter : Counter) : Except Fault Unit × Counter :=
  if count > 1000 then
    (.error (.error ("count " ++ toString count.toInt ++ " too large")), counter)
  else (.ok (), ⟨count⟩)

def half (counter : Counter) : Float :=
  (Number.Exact.finite (counter.count < 0) counter.count.toInt.natAbs 0).toFloat / 2

def describeAll (flag : Bool) (mark : Char) (small : Int8) (mid : Int16) (ratio : Float32)
    (items : List Value) (any : Value) : String :=
  " ".intercalate
    [toString flag, mark.toString, toString small.toInt, toString mid.toInt,
      Number.Layout.precise.single ratio, toString items.length, any.display]

def below (counter : Counter) : List Int32 :=
  (List.range counter.count.toInt.toNat).map Int32.ofNat

def positive? (counter : Counter) : Option Int32 :=
  if counter.count > 0 then some counter.count else none

def hostType : HostType :=
  (HostType.native Counter).withParent "lang.Number"
    |>.nativeConstructor (fun count : Int32 => Static.of (start count))
    |>.nativeConstructor (fun (text : String) (_ : Int64) => Static.of (.ok (ofText text))) false
    |>.nativeMutableProperty "count" (Reading.of fun counter : Counter => .ok counter.count)
      (fun count => Changing.of (setCount count))
    |>.nativeProperty "limit" (Static.of (.ok (1000 : Int64)))
    |>.nativeProperty "half" (Reading.of fun counter : Counter => .ok counter.half) false
    |>.nativeMethod "add" (fun n : Int32 => Changing.of (add n))
    |>.nativeMethod "sum" (fun a b : Counter =>
      Static.of ((addChecked a.count b.count).map Counter.mk))
    |>.nativeMethod "describe_all"
      (fun (flag : Bool) (mark : Char) (small : Int8) (mid : Int16) (ratio : Float32)
          (items : List Value) (any : Value) =>
        Reading.of fun _ : Counter => .ok (describeAll flag mark small mid ratio items any)) false
    |>.nativeMethod "list" (Reading.of fun counter : Counter => .ok counter.below)
    |>.nativeMethod "maybe" (Reading.of fun counter : Counter => .ok counter.positive?)

end Counter

end LateBound.Sample
