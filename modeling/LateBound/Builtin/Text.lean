import LateBound.Builtin.Args
import LateBound.Text.Alphabetic
import LateBound.Text.Case
import LateBound.Text.LetterCase
import LateBound.Text.Search

/-!
# Texts and characters

`lang.String`, `lang.Character` and `lang.StringBuilder`. Scripts count places and lengths in
characters, the host cuts and searches texts at byte offsets. A range of a text must lie inside it and
must not end before it begins.
-/

namespace LateBound.Builtin

open LateBound.Text

/-! ## Indices and offsets -/

/-- The offset at which each character of a text begins. -/
def charOffsets (offset : Nat) : List Char → List Nat
  | [] => []
  | c :: cs => offset :: charOffsets (offset + c.utf8Size) cs

/-- The offset of the character at an index, or the end of the text if there is none. -/
def offsetAt (text : List Char) (index : Int32) : Nat :=
  (charOffsets 0 text)[index.toInt.toNat]?.getD (Source.byteCount text)

/-- The offsets of the two ends of a range of characters. -/
def byteRange (text : List Char) (first last : Int32) : Except String (Nat × Nat) :=
  let length := Int32.ofNat text.length
  if first < 0 ∨ length < last ∨ last < first then
    .error ("begin " ++ toString first.toInt ++ ", end " ++ toString last.toInt ++ ", length "
      ++ toString length.toInt)
  else .ok (offsetAt text first, offsetAt text last)

/-- What stands between two offsets. It is a bug of the host to cut a character in two. -/
def slice (text : List Char) (start stop : Nat) : Except Fault (List Char) :=
  match Source.slice? text start stop with
  | some piece => .ok piece
  | none => .error (.panic (some "byte index is not a char boundary"))

def substring (text : List Char) (first last : Int32) : Except Fault (List Char) :=
  match byteRange text first last with
  | .ok (start, stop) => slice text start stop
  | .error message => .error (.error message)

/-- Puts a text in at an offset, which must not be inside a character either. -/
def spliced (text : List Char) (offset : Nat) (added : List Char) : Except Fault (List Char) :=
  match Source.takeBytes offset text, Source.dropBytes offset text with
  | some before, some behind => .ok (before ++ added ++ behind)
  | _, _ => .error (.panic (some "assertion failed: self.is_char_boundary(idx)"))

def insertAt (text : List Char) (index : Int32) (added : List Char) : Except Fault (List Char) :=
  match byteRange text index index with
  | .ok (offset, _) => spliced text offset added
  | .error message => .error (.error message)

/-- The index of the character at an offset, or one below zero if there is no offset. -/
def indexValue (text : List Char) : Option Nat → Except Fault Value
  | some offset => (slice text 0 offset).map fun before => count before.length
  | none => .ok (.int (-1))

def repeated (text : String) (times : Nat) : String :=
  if text.isEmpty then "" else String.ofList (List.replicate times text.toList).flatten

/-! ## Texts -/

def textMethod (type : HostType) (name : String) (params : List ParamType)
    (run : String → List Value → Host Value) : HostType :=
  type.method name params fun receiver args => do run (← receiverText receiver) args

def stringType : HostType :=
  let base := HostType.empty "lang.String"
    |>.constructor [] (fun _ => pure (.str ""))
    |>.constructor [.str] (fun args => return .str (← arg String args 0))
    |>.staticMethod "valueOf" [.any] (fun args => return .str (← given args 0).display)
    |>.staticMethod "join" [.str, .list] (fun args => do
      let separator ← arg String args 0
      let parts ← arg (List Value) args 1
      return .str (separator.intercalate (parts.map Value.display)))
  let base := textMethod base "toString" [] fun text _ => pure (.str text)
  let base := textMethod base "length" [] fun text _ => pure (count text.length)
  let base := textMethod base "isEmpty" [] fun text _ => pure (.bool text.isEmpty)
  let base := textMethod base "isBlank" [] fun text _ => pure (.bool (allBlank text))
  let base := textMethod base "toUpperCase" [] fun text _ => pure (.str (upper text))
  let base := textMethod base "toLowerCase" [] fun text _ => pure (.str (lower text))
  let base := textMethod base "trim" [] fun text _ => pure (.str (trim text))
  let base := textMethod base "substring" [.primitive .int] fun text args => do
    let first ← arg Int32 args 0
    let last := Int32.ofNat text.length
    return .str (String.ofList (← Host.ofOutcome (substring text.toList first last)))
  let base := textMethod base "substring" [.primitive .int, .primitive .int] fun text args => do
    let first ← arg Int32 args 0
    let last ← arg Int32 args 1
    return .str (String.ofList (← Host.ofOutcome (substring text.toList first last)))
  let base := textMethod base "charAt" [.primitive .int] fun text args => do
    let index ← arg Int32 args 0
    match (place? index).bind (text.toList[·]?) with
    | some c => pure (.char c)
    | none =>
      Host.fail ("index " ++ toString index.toInt ++ " out of bounds for length "
        ++ toString text.length)
  let base := textMethod base "contains" [.str] fun text args => do
    let pattern ← arg String args 0
    return .bool (find? pattern.toList text.toList).isSome
  let base := textMethod base "startsWith" [.str] fun text args => do
    let pattern ← arg String args 0
    return .bool (pattern.toList.isPrefixOf text.toList)
  let base := textMethod base "endsWith" [.str] fun text args => do
    let pattern ← arg String args 0
    return .bool (pattern.toList.isSuffixOf text.toList)
  let base := textMethod base "indexOf" [.str] fun text args => do
    let pattern ← arg String args 0
    Host.ofOutcome (indexValue text.toList (find? pattern.toList text.toList))
  let base := textMethod base "lastIndexOf" [.str] fun text args => do
    let pattern ← arg String args 0
    Host.ofOutcome (indexValue text.toList (rfind? pattern.toList text.toList))
  let base := textMethod base "equalsIgnoreCase" [.str] fun text args => do
    let other ← arg String args 0
    return .bool (lower text == lower other)
  let base := textMethod base "replace" [.str, .str] fun text args => do
    let pattern ← arg String args 0
    let replacement ← arg String args 1
    return .str (String.ofList (replaceAll pattern.toList replacement.toList text.toList))
  let base := textMethod base "concat" [.str] fun text args => do
    return .str (text ++ (← arg String args 0))
  let base := textMethod base "repeat" [.primitive .int] fun text args => do
    let times ← arg Int32 args 0
    match place? times with
    | some times => pure (.str (repeated text times))
    | none => Host.fail ("count is negative: " ++ toString times.toInt)
  textMethod base "split" [.str] fun text args => do
    let pattern ← arg String args 0
    return .list ((split pattern.toList text.toList).map (.str <| String.ofList ·))

/-! ## Characters -/

/-- The value of a digit in base thirty-six, or one below zero. -/
def numericValue (c : Char) : Int32 :=
  if c.isDigit then Int32.ofNat (c.toNat - '0'.toNat)
  else if 'a' ≤ c ∧ c ≤ 'z' then Int32.ofNat (c.toNat - 'a'.toNat + 10)
  else if 'A' ≤ c ∧ c ≤ 'Z' then Int32.ofNat (c.toNat - 'A'.toNat + 10)
  else -1

def charTest (type : HostType) (name : String) (test : Char → Bool) : HostType :=
  type.staticMethod name [.primitive .char] fun args => return .bool (test (← arg Char args 0))

def characterType : HostType :=
  let base := HostType.empty "lang.Character"
    |>.staticMethod "toUpperCase" [.primitive .char] (fun args => do
      let c ← arg Char args 0
      return .char ((upperChar c).head?.getD c))
    |>.staticMethod "toLowerCase" [.primitive .char] (fun args => do
      let c ← arg Char args 0
      return .char ((lowerChar c).head?.getD c))
    |>.staticMethod "getNumericValue" [.primitive .char] (fun args =>
      return .int (numericValue (← arg Char args 0)))
    |>.method "charValue" [] (fun receiver _ => pure receiver)
  let base := charTest base "isDigit" Char.isDigit
  let base := charTest base "isLetter" isAlphabetic
  let base := charTest base "isLetterOrDigit" isAlphanumeric
  let base := charTest base "isWhitespace" isBlank
  let base := charTest base "isUpperCase" isUppercase
  charTest base "isLowerCase" isLowercase

/-! ## Text being built -/

/-- A text that members change in place. -/
structure TextBuffer where
  text : String

namespace TextBuffer

def typeName : String := "lang.StringBuilder"

instance : Native TextBuffer where
  typeName := typeName
  save buffer := .buffer buffer.text
  load?
    | .buffer text => some ⟨text⟩
    | _ => none
  load_save _ := rfl

def change (receiver : Value) (edit : String → Except Fault String) : Host Value := do
  let body : Changing TextBuffer Unit :=
    .of fun buffer =>
      match edit buffer.text with
      | .ok text => (.ok (), ⟨text⟩)
      | .error fault => (.error fault, buffer)
  body.on receiver
  return receiver

def read (receiver : Value) (view : String → Value) : Host Value :=
  (Reading.of fun buffer : TextBuffer => .ok (view buffer.text)).on receiver

def hostType : HostType :=
  HostType.native TextBuffer
    |>.constructor [] (fun _ => HostResult.give (TextBuffer.mk ""))
    |>.constructor [.str] (fun args => do HostResult.give (TextBuffer.mk (← arg String args 0)))
    |>.method "append" [.any] (fun receiver args => do
      let added ← given args 0
      change receiver fun text => .ok (text ++ added.display))
    |>.method "insert" [.primitive .int, .any] (fun receiver args => do
      let index ← arg Int32 args 0
      let added ← given args 1
      change receiver fun text =>
        (insertAt text.toList index added.display.toList).map String.ofList)
    |>.method "reverse" [] (fun receiver _ =>
      change receiver fun text => .ok (String.ofList text.toList.reverse))
    |>.method "length" [] (fun receiver _ => read receiver fun text => count text.length)
    |>.method "toString" [] (fun receiver _ => read receiver .str)

end TextBuffer

end LateBound.Builtin
