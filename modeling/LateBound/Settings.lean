import LateBound.AllowList
import LateBound.Expr.Cache

/-!
# Settings

What can be set on an engine: how many trees it keeps, which namespaces it admits, the words that name
the subject, the delimiter of templates, and whether failures of resolution are reported.
-/

namespace LateBound

structure Settings where
  treeCapacity : Nat
  namespaces : List String
  subjectWords : List String
  delimiter : Char
  reportsResolution : Bool
  deriving DecidableEq, Repr

namespace Settings

def standard : Settings where
  treeCapacity := defaultCapacity
  namespaces := ["lang"]
  subjectWords := ["this", "subject"]
  delimiter := '%'
  reportsResolution := true

instance : Inhabited Settings := ⟨standard⟩

def namesSubject (settings : Settings) (word : String) : Bool :=
  settings.subjectWords.contains word

def allowList (settings : Settings) : AllowList :=
  ⟨settings.namespaces⟩

end Settings

end LateBound
