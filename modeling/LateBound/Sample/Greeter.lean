import LateBound.HostType.Native
import LateBound.Text.Case

/-!
# A greeter

A sample host type whose members fail on some arguments.
-/

namespace LateBound.Sample

/-- Somebody who greets others with a fixed greeting. -/
structure Greeter where
  greeting : String

namespace Greeter

def typeName : String := "demo.text.Greeter"

instance : Native Greeter where
  typeName := typeName
  save greeter := .struct typeName [.str greeter.greeting]
  load?
    | .struct layout [.str greeting] => if layout = typeName then some ⟨greeting⟩ else none
    | _ => none
  load_save _ := by simp

def greet (name : String) (greeter : Greeter) : Except Fault String :=
  if Text.allBlank name then .error (.error "nobody to greet")
  else .ok (greeter.greeting ++ ", " ++ name ++ "!")

def shout (name : String) (greeter : Greeter) : Except Fault String :=
  (greeter.greet name).map Text.upper

def hostType : HostType :=
  HostType.native Greeter
    |>.nativeConstructor (fun greeting : String => Static.of (.ok (Greeter.mk greeting)))
    |>.nativeProperty "greeting" (Reading.of fun greeter : Greeter => .ok greeter.greeting)
    |>.nativeMethod "greet" (fun name : String => Reading.of (greet name))
    |>.nativeMethod "shout" (fun name : String => Reading.of (shout name))

end Greeter

end LateBound.Sample
