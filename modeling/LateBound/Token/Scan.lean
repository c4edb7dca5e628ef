import LateBound.SyntaxError
import LateBound.Text.Blank
import LateBound.Token

/-!
# Reading tokens

`Token.scan` reads the token at the head of a text and says what it took and what is left; that the
two make up the text again is part of its result. `tokenize` repeats it between blanks until the text
is used up, and closes the list with the end mark.

A name is every run of characters up to the next separator: the marks `.`, `(`, `)`, `[`, `]`, `,`,
the double quote and blanks. So `{list::*}` is one name, and so is `5s`: a number that a name
character follows is read on as a name.
-/

namespace LateBound

def isSeparator (c : Char) : Bool :=
  ['.', '(', ')', '[', ']', ',', '"'].contains c || Text.isBlank c

def atBoundary : List Char → Bool
  | [] => true
  | c :: _ => isSeparator c

/-! ## Pieces of a text -/

/-- Something read from the head of `text`: what it took, at least one character, and what follows. -/
structure Taken (α : Type) (text : List Char) where
  value : α
  taken : List Char
  rest : List Char
  tiles : taken ++ rest = text := by simp
  nonempty : taken ≠ [] := by simp

namespace Taken

variable {α β : Type} {text : List Char}

theorem rest_shorter (piece : Taken α text) : piece.rest.length < text.length := by
  have filled := List.length_pos_iff.mpr piece.nonempty
  have lengths := congrArg List.length piece.tiles
  rw [List.length_append] at lengths
  omega

end Taken

inductive Illegible
  | unexpectedChar (c : Char)
  | unterminatedString
  | unterminatedBracket
  | invalidNumber (text : String)

def Illegible.at (span : Span) : Illegible → LexicalError
  | unexpectedChar c => .unexpectedChar c span
  | unterminatedString => .unterminatedString span
  | unterminatedBracket => .unterminatedBracket span
  | invalidNumber text => .invalidNumber text span

/-- Either a token or what was read in vain, and why. -/
inductive Scanned (text : List Char)
  | token (piece : Taken Token text)
  | illegible (cause : Illegible) (taken : List Char)

/-! ## Strings and brackets -/

/-- Adds characters in front of a body that was found behind them. -/
def prependTo (taken : List Char) (found : Option (List Char × List Char)) :
    Option (List Char × List Char) :=
  found.map fun body => (taken ++ body.1, body.2)

theorem prependTo_eq_some {taken raw rest : List Char} {found : Option (List Char × List Char)}
    (result : prependTo taken found = some (raw, rest)) :
    ∃ inner, found = some (inner, rest) ∧ raw = taken ++ inner := by
  obtain ⟨⟨inner, behind⟩, same, equal⟩ := Option.map_eq_some_iff.1 result
  cases equal
  exact ⟨inner, same, rfl⟩

/-- The text up to the closing quote, and what follows the quote. A backslash protects the character
behind it. -/
def quotedBody : List Char → Option (List Char × List Char)
  | [] => none
  | '"' :: rest => some ([], rest)
  | '\\' :: c :: rest => prependTo ['\\', c] (quotedBody rest)
  | c :: rest => prependTo [c] (quotedBody rest)

/-- The meaning of the text between quotes: a protected quote or backslash stands for itself, and any
other backslash is an ordinary character. -/
def unescape : List Char → List Char
  | '\\' :: '"' :: rest => '"' :: unescape rest
  | '\\' :: '\\' :: rest => '\\' :: unescape rest
  | c :: rest => c :: unescape rest
  | [] => []

/-- The text up to the bracket that closes `depth + 1` open ones, and what follows it. Brackets
between quotes do not count, and there a backslash protects the character behind it. -/
def bracketBody (depth : Nat) (quoted : Bool) : List Char → Option (List Char × List Char)
  | [] => none
  | c :: rest =>
    if quoted then
      if c = '\\' then
        match rest with
        | [] => none
        | d :: rest => prependTo [c, d] (bracketBody depth true rest)
      else prependTo [c] (bracketBody depth (c != '"') rest)
    else if c = '"' then prependTo [c] (bracketBody depth true rest)
    else if c = '[' then prependTo [c] (bracketBody (depth + 1) false rest)
    else if c = ']' then
      match depth with
      | 0 => some ([], rest)
      | depth + 1 => prependTo [c] (bracketBody depth false rest)
    else prependTo [c] (bracketBody depth false rest)

theorem quotedBody_tiles {text raw rest : List Char} (found : quotedBody text = some (raw, rest)) :
    raw ++ '"' :: rest = text := by
  fun_induction quotedBody text generalizing raw rest with
  | case1 => simp at found
  | case2 => simp_all
  | case3 c tail ih | case4 c tail _ _ ih =>
    obtain ⟨inner, same, rfl⟩ := prependTo_eq_some found
    simp [← ih same]

theorem bracketBody_tiles {depth : Nat} {quoted : Bool} {text raw rest : List Char}
    (found : bracketBody depth quoted text = some (raw, rest)) : raw ++ ']' :: rest = text := by
  fun_induction bracketBody depth quoted text generalizing raw rest with
  | case1 | case2 => simp at found
  | case7 => simp_all
  | case3 _ _ _ ih | case4 _ _ _ _ ih | case5 _ _ _ _ ih | case6 _ _ _ _ _ ih
  | case8 _ _ _ _ _ _ ih | case9 _ _ _ _ _ _ _ _ ih =>
    obtain ⟨inner, same, rfl⟩ := prependTo_eq_some found
    simp [← ih same]

/-! ## Numbers -/

/-- The suffix letter that fixes the width of a number, if one stands alone here. -/
def numberSuffix? : List Char → Option (Char × List Char)
  | c :: rest => if ['L', 'l', 'F', 'f', 'D', 'd'].contains c && atBoundary rest then some (c, rest) else none
  | [] => none

/-- The parts of a numeral: sign, digits, and the point with the digits behind it. -/
structure Numeral where
  sign : List Char
  whole : List Char
  fraction : List Char

def Numeral.text (numeral : Numeral) : List Char :=
  numeral.sign ++ numeral.whole ++ numeral.fraction

def takeSign : List Char → List Char × List Char
  | '-' :: rest => (['-'], rest)
  | text => ([], text)

/-- The point and the digits at the head of a text; a point counts only with a digit behind it. -/
def takeFraction : List Char → List Char × List Char
  | '.' :: c :: rest =>
    if c.isDigit then
      ('.' :: (c :: rest).takeWhile Char.isDigit, (c :: rest).dropWhile Char.isDigit)
    else ([], '.' :: c :: rest)
  | text => ([], text)

/-- The longest numeral at the head of a text, and what follows it. -/
def takeNumeral (text : List Char) : Numeral × List Char :=
  let (sign, unsigned) := takeSign text
  let (fraction, rest) := takeFraction (unsigned.dropWhile Char.isDigit)
  (⟨sign, unsigned.takeWhile Char.isDigit, fraction⟩, rest)

theorem takeSign_tiles (text : List Char) : (takeSign text).1 ++ (takeSign text).2 = text := by
  unfold takeSign
  split <;> rfl

theorem takeFraction_tiles (text : List Char) :
    (takeFraction text).1 ++ (takeFraction text).2 = text := by
  unfold takeFraction
  split
  · split <;> simp [List.takeWhile_append_dropWhile]
  · rfl

theorem takeNumeral_tiles (text : List Char) :
    (takeNumeral text).1.text ++ (takeNumeral text).2 = text := by
  simp only [takeNumeral, Numeral.text, List.append_assoc, takeFraction_tiles,
    List.takeWhile_append_dropWhile, takeSign_tiles]

/-- The token of a numeral without a suffix: the narrowest width that holds a whole number, and the
wide floating-point format for a fraction. -/
def Numeral.plainToken? (numeral : Numeral) : Option Token :=
  if numeral.fraction.isEmpty then
    match Number.readInteger? numeral.text with
    | none => none
    | some n =>
      match Number.toInt32? n with
      | some word => some (.int word)
      | none => (Number.toInt64? n).map .long
  else (Number.readDouble? numeral.text).map .double

def Numeral.suffixedToken? (numeral : Numeral) (suffix : Char) : Option Token :=
  if suffix.toLower = 'f' then (Number.readSingle? numeral.text).map .float
  else if suffix.toLower = 'd' then (Number.readDouble? numeral.text).map .double
  else if numeral.fraction.isEmpty then
    ((Number.readInteger? numeral.text).bind Number.toInt64?).map .long
  else none

/-! ## Tokens -/

def wordToken (name : String) : Token :=
  if name = "new" then .newKeyword
  else if name = "true" then .trueKeyword
  else if name = "false" then .falseKeyword
  else if name = "null" then .nullKeyword
  else .identifier name

def startsNumeral : List Char → Bool
  | '-' :: c :: _ => c.isDigit
  | c :: _ => c.isDigit
  | [] => false

theorem takeNumeral_nonempty {text : List Char} (starts : startsNumeral text = true) :
    (takeNumeral text).1.text ≠ [] := by
  unfold startsNumeral at starts
  split at starts
  · simp [takeNumeral, takeSign, Numeral.text]
  · rename_i c tail other
    have kept : takeSign (c :: tail) = ([], c :: tail) := by
      unfold takeSign
      split
      · rename_i rest same
        cases same
        simp at starts
      · rfl
    simp [takeNumeral, kept, Numeral.text, starts]
  · simp at starts

/-- The numeral at the head of a text, or the name that begins with one. -/
def scanNumeral (text : List Char) (starts : startsNumeral text = true) : Scanned text :=
  match found : takeNumeral text with
  | (numeral, behind) =>
    have tiles : numeral.text ++ behind = text := by
      simpa [found] using takeNumeral_tiles text
    have filled : numeral.text ≠ [] := by
      simpa [found] using takeNumeral_nonempty starts
    match suffixed : numberSuffix? behind with
    | some (suffix, rest) =>
      have follows : suffix :: rest = behind := by
        unfold numberSuffix? at suffixed
        split at suffixed
        · split at suffixed
          · cases suffixed; rfl
          · simp at suffixed
        · simp at suffixed
      let taken := numeral.text ++ [suffix]
      match numeral.suffixedToken? suffix with
      | some token => .token ⟨token, taken, rest, by simp [taken, ← tiles, ← follows], by simp [taken]⟩
      | none => .illegible (.invalidNumber (String.ofList taken)) taken
    | none =>
      if atBoundary behind then
        match numeral.plainToken? with
        | some token => .token ⟨token, numeral.text, behind, tiles, filled⟩
        | none => .illegible (.invalidNumber (String.ofList numeral.text)) numeral.text
      else
        let taken := numeral.text ++ behind.takeWhile (!isSeparator ·)
        .token
          ⟨.identifier (String.ofList taken), taken, behind.dropWhile (!isSeparator ·),
            by simp only [taken, List.append_assoc, List.takeWhile_append_dropWhile, tiles],
            by simp [taken, filled]⟩

/-- The token at the head of a text that starts with `c`, which is no blank. -/
def Token.scan (c : Char) (tail : List Char) : Scanned (c :: tail) :=
  if c = '(' then .token ⟨.leftParen, [c], tail, rfl, by simp⟩
  else if c = ')' then .token ⟨.rightParen, [c], tail, rfl, by simp⟩
  else if c = ',' then .token ⟨.comma, [c], tail, rfl, by simp⟩
  else if c = '.' then .token ⟨.dot, [c], tail, rfl, by simp⟩
  else if c = ']' then .illegible (.unexpectedChar c) [c]
  else if c = '[' then
    match found : bracketBody 0 false tail with
    | some (raw, rest) =>
      .token ⟨.bracket (String.ofList raw), c :: (raw ++ [']']), rest,
        by simp [← bracketBody_tiles found], by simp⟩
    | none => .illegible .unterminatedBracket (c :: tail)
  else if c = '"' then
    match found : quotedBody tail with
    | some (raw, rest) =>
      .token ⟨.string (String.ofList (unescape raw)), c :: (raw ++ ['"']), rest,
        by simp [← quotedBody_tiles found], by simp⟩
    | none => .illegible .unterminatedString (c :: tail)
  else if starts : startsNumeral (c :: tail) then scanNumeral (c :: tail) starts
  else
    let name := c :: tail.takeWhile (!isSeparator ·)
    .token ⟨wordToken (String.ofList name), name, tail.dropWhile (!isSeparator ·),
      by simp [name, List.takeWhile_append_dropWhile], by simp [name]⟩

/-- The tokens of a text that starts at `position`. -/
def tokensFrom (position : Position) : List Char → Except LexicalError (List LocatedToken)
  | [] => .ok [⟨.endOfText, .between position position⟩]
  | c :: tail =>
    if Text.isBlank c then tokensFrom (position.next c) tail
    else
      match Token.scan c tail with
      | .illegible cause taken => .error (cause.at (.between position (position.after taken)))
      | .token piece =>
        have : piece.rest.length < tail.length + 1 := piece.rest_shorter
        let behind := position.after piece.taken
        (tokensFrom behind piece.rest).map (⟨piece.value, .between position behind⟩ :: ·)
termination_by text => text.length
decreasing_by
  · exact Nat.lt_succ_self tail.length
  · exact this

def tokenize (source : String) : Except LexicalError (List LocatedToken) :=
  tokensFrom .start source.toList

end LateBound
