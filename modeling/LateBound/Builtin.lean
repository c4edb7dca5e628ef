import LateBound.Builtin.List
import LateBound.Builtin.Math
import LateBound.Builtin.Number
import LateBound.Builtin.Object
import LateBound.Builtin.Text
import LateBound.HostType.Registry
import LateBound.Sample.Greeter
import LateBound.Sample.Point

/-!
# The types that are always there

The built-in types under `lang`, which are the runtime types of plain values, and the sample types
under `demo`.
-/

namespace LateBound

def builtinTypes : List HostType :=
  open Builtin in
  [objectType, classType, stringType, characterType, TextBuffer.hostType, numberType, booleanType,
    mathType, listType, integerType, longType, doubleType, floatType, shortType, byteType]

def sampleTypes : List HostType :=
  [Sample.Point.hostType, Sample.Greeter.hostType]

def standardRegistry : Registry :=
  (Registry.empty.insertAll builtinTypes).insertAll sampleTypes

end LateBound
