import LateBound.HostType.Native
import LateBound.Number.Root

/-!
# A point of the plane

A sample host type with constructors, properties that can be written, a method that moves its receiver
and a static one that takes two points.
-/

namespace LateBound.Sample

structure Point where
  x : Float
  y : Float

namespace Point

def typeName : String := "demo.geom.Point"

instance : Native Point where
  typeName := typeName
  save point := .struct typeName [.double point.x, .double point.y]
  load?
    | .struct layout [.double x, .double y] => if layout = typeName then some ⟨x, y⟩ else none
    | _ => none
  load_save _ := by simp

def length (point : Point) : Float :=
  Number.hypotenuse point.x point.y

def translate (dx dy : Float) (point : Point) : Point :=
  ⟨point.x + dx, point.y + dy⟩

def distance (a b : Point) : Float :=
  Number.hypotenuse (a.x - b.x) (a.y - b.y)

def text (point : Point) : String :=
  "(" ++ Number.Layout.plain.double point.x ++ ", " ++ Number.Layout.plain.double point.y ++ ")"

def hostType : HostType :=
  HostType.native Point
    |>.nativeConstructor (fun x y : Float => Static.of (.ok (Point.mk x y)))
    |>.nativeConstructor (Static.of (.ok (Point.mk 0 0)))
    |>.nativeMutableProperty "x" (Reading.of fun point : Point => .ok point.x)
      (fun x => Changing.of fun point : Point => (.ok (), { point with x }))
    |>.nativeMutableProperty "y" (Reading.of fun point : Point => .ok point.y)
      (fun y => Changing.of fun point : Point => (.ok (), { point with y }))
    |>.nativeMethod "length" (Reading.of fun point : Point => .ok point.length)
    |>.nativeMethod "translate" (fun dx dy : Float =>
      Changing.of fun point : Point => (.ok (), point.translate dx dy))
    |>.nativeMethod "distance" (fun a b : Point => Static.of (.ok (distance a b)))
    |>.nativeMethod "toString" (Reading.of fun point : Point => .ok point.text)

end Point

end LateBound.Sample
