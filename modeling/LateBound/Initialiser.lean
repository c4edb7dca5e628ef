/-!
# The text of initialisers

What stands between the brackets of `Type[...]` is a list of segments, separated by commas or
semicolons. A segment may be an assignment, `name=value` or `name: value`. Separators count only at top
level: outside quotes and outside brackets of any kind. A doubled colon belongs to names of the host and
separates nothing.
-/

namespace LateBound.Initialiser

/-- Where a scan stands in a text. -/
structure Scan where
  depth : Nat
  quoted : Bool
  escaped : Bool
  deriving DecidableEq, Repr

def Scan.start : Scan := ⟨0, false, false⟩

def Scan.next (scan : Scan) (c : Char) : Scan :=
  if scan.quoted then
    if scan.escaped then { scan with escaped := false }
    else if c = '\\' then { scan with escaped := true }
    else if c = '"' then { scan with quoted := false }
    else scan
  else if c = '"' then { scan with quoted := true }
  else if ['(', '[', '\x7b'].contains c then { scan with depth := scan.depth + 1 }
  else if [')', ']', '\x7d'].contains c then { scan with depth := scan.depth - 1 }
  else scan

/-- Whether the next character, `c`, stands at top level; quotes and brackets never do. -/
def Scan.atTop (scan : Scan) (c : Char) : Bool :=
  !scan.quoted && scan.depth == 0
    && "\"([\x7b)]\x7d".toList.all (· != c)

/-- The characters of a text, each with whether it stands at top level. -/
def marked (scan : Scan) : List Char → List (Char × Bool)
  | [] => []
  | c :: cs => (c, scan.atTop c) :: marked (scan.next c) cs

@[simp] theorem map_fst_marked (scan : Scan) (cs : List Char) :
    (marked scan cs).map Prod.fst = cs := by
  induction cs generalizing scan with
  | nil => rfl
  | cons c cs ih => simp [marked, ih]

/-- Adds a character in front of the first segment. -/
def consSegment (c : Char) : List (List Char) → List (List Char)
  | [] => [[c]]
  | segment :: segments => (c :: segment) :: segments

/-- Cuts marked characters at the separators that stand at top level. -/
def splitMarked (separates : Char → Bool) : List (Char × Bool) → List (List Char)
  | [] => [[]]
  | (c, top) :: rest =>
    if top && separates c then [] :: splitMarked separates rest
    else consSegment c (splitMarked separates rest)

def segments (text : List Char) : List (List Char) :=
  splitMarked (fun c => c == ',' || c == ';') (marked .start text)

/-- Whether marked characters go on with a colon at top level. -/
def startsWithColon : List (Char × Bool) → Bool
  | (':', true) :: _ => true
  | _ => false

/-- Cuts marked characters at the first sign of assignment; `behindColon` tells whether a colon at top
level stands before them. -/
def cutAssignment (behindColon : Bool) : List (Char × Bool) → Option (List Char × List Char)
  | [] => none
  | (c, top) :: rest =>
    let single := c == ':' && !behindColon && !startsWithColon rest
    if top && (c == '=' || single) then some ([], rest.map Prod.fst)
    else (cutAssignment (top && c == ':') rest).map fun (name, value) => (c :: name, value)

/-- The two sides of a segment that is an assignment. -/
def assignment? (segment : List Char) : Option (List Char × List Char) :=
  cutAssignment false (marked .start segment)

end LateBound.Initialiser
