/-!
# Places in a text

A text is read left to right. A `Position` counts lines and columns (in characters, from one) and the
bytes passed (from zero); a `Span` is a stretch between two byte offsets together with the line and
column where it starts. `Span.merge` is the smallest stretch that covers two others.
-/

namespace LateBound

structure Position where
  line : Nat
  column : Nat
  offset : Nat
  deriving DecidableEq, Repr, Inhabited

namespace Position

def start : Position := ⟨1, 1, 0⟩

/-- The place behind one more character; a line feed begins the next line. -/
def next (position : Position) (c : Char) : Position :=
  if c = '\n' then ⟨position.line + 1, 1, position.offset + c.utf8Size⟩
  else ⟨position.line, position.column + 1, position.offset + c.utf8Size⟩

def after (position : Position) (cs : List Char) : Position :=
  cs.foldl next position

@[simp] theorem after_nil (position : Position) : position.after [] = position := rfl

@[simp] theorem after_cons (position : Position) (c : Char) (cs : List Char) :
    position.after (c :: cs) = (position.next c).after cs := rfl

theorem after_append (position : Position) (first second : List Char) :
    position.after (first ++ second) = (position.after first).after second :=
  List.foldl_append ..

end Position

/-- A stretch of a text: the line and column of its start, and its byte offsets. -/
structure Span where
  line : Nat
  column : Nat
  start : Nat
  stop : Nat
  deriving DecidableEq, Repr, Inhabited

namespace Span

def between (first last : Position) : Span :=
  ⟨first.line, first.column, first.offset, last.offset⟩

def single (line column offset : Nat) : Span :=
  ⟨line, column, offset, offset + 1⟩

/-- The smallest stretch that covers both. The column is the smaller one only on a shared line. -/
def merge (first second : Span) : Span where
  line := min first.line second.line
  column := if first.line = second.line then min first.column second.column else first.column
  start := min first.start second.start
  stop := max first.stop second.stop

end Span

/-! ## Cutting a text at byte offsets -/

namespace Source

def byteCount : List Char → Nat
  | [] => 0
  | c :: cs => c.utf8Size + byteCount cs

/-- What is left behind exactly `count` bytes, if a character ends there. -/
def dropBytes (count : Nat) : List Char → Option (List Char)
  | [] => if count = 0 then some [] else none
  | c :: cs =>
    if count = 0 then some (c :: cs)
    else if c.utf8Size ≤ count then dropBytes (count - c.utf8Size) cs
    else none

/-- The characters of exactly the first `count` bytes, if a character ends there. -/
def takeBytes (count : Nat) : List Char → Option (List Char)
  | [] => if count = 0 then some [] else none
  | c :: cs =>
    if count = 0 then some []
    else if c.utf8Size ≤ count then (takeBytes (count - c.utf8Size) cs).map (c :: ·)
    else none

/-- The characters from byte `start` to byte `stop`; none when an offset is out of range, out of
order or inside a character. -/
def slice? (cs : List Char) (start stop : Nat) : Option (List Char) :=
  if start ≤ stop then
    (dropBytes start cs).bind (takeBytes (stop - start))
  else
    none

/-- Appends a character to the first line of a list of lines. -/
def pushFirst (c : Char) : List (List Char) → List (List Char)
  | [] => [[c]]
  | line :: lines => (c :: line) :: lines

/-- A text cut at its line feeds; the last piece is kept even when it is empty. -/
def pieces : List Char → List (List Char)
  | [] => [[]]
  | '\n' :: cs => [] :: pieces cs
  | c :: cs => pushFirst c (pieces cs)

/-- A line without the carriage return at its end. -/
def dropReturn (line : List Char) : List Char :=
  match line.getLast? with
  | some '\r' => line.dropLast
  | _ => line

/-- The lines of a text: each without its line feed and the carriage return before it; a text that
ends with a line feed has no further empty line. -/
def lines (text : String) : List String :=
  let cut := pieces text.toList
  let finished := cut.dropLast.map fun line => String.ofList (dropReturn line)
  match cut.getLast? with
  | some [] | none => finished
  | some line => finished ++ [String.ofList line]

end Source

end LateBound
