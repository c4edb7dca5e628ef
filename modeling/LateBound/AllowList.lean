/-!
# Allow-lists of namespaces

A list of prefixes says which qualified names may be reached. A prefix admits itself and what lies
below it at a segment boundary: `lang` admits `lang.String` but not `language.Thing`. A prefix that ends
with a point admits every name that starts with it, and `*` admits all names.
-/

namespace LateBound

structure AllowList where
  prefixes : List String
  deriving DecidableEq, Repr, Inhabited

namespace AllowList

def empty : AllowList := ⟨[]⟩

def all : AllowList := ⟨["*"]⟩

def push (list : AllowList) (entry : String) : AllowList :=
  ⟨list.prefixes ++ [entry]⟩

def entryAdmits (entry name : List Char) : Bool :=
  if entry = ['*'] then true
  else if entry.getLast? = some '.' then entry.isPrefixOf name
  else
    entry.isPrefixOf name &&
      match name.drop entry.length with
      | [] => true
      | c :: _ => c == '.'

def admits (list : AllowList) (name : String) : Bool :=
  list.prefixes.any fun entry => entryAdmits entry.toList name.toList

end AllowList

end LateBound
