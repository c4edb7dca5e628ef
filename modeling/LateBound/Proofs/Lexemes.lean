import LateBound.Proofs.Relocation
import Mathlib.Data.List.DropRight

/-!
# How tokens are written

A token is read from its own characters with a look at what follows: a name or a number ends at a separator, and a
number does not end at a point with a digit behind it. What is said here of how a token is written is exactly what
the scanner reads.
-/

namespace LateBound

/-! ## Strings and brackets -/

/-- The characters may stand up to a closing quote. -/
inductive InQuotes : List Char → Prop
  | nil : InQuotes []
  | escaped (c : Char) {raw : List Char} : InQuotes raw → InQuotes ('\\' :: c :: raw)
  | plain {c : Char} {raw : List Char} : c ≠ '"' → c ≠ '\\' → InQuotes raw → InQuotes (c :: raw)

/-- The characters may stand up to the bracket that closes `depth + 1` open ones, inside a string or not. -/
inductive InBrackets : Nat → Bool → List Char → Prop
  | nil : InBrackets 0 false []
  | escaped {depth : Nat} (c : Char) {raw : List Char} : InBrackets depth true raw →
      InBrackets depth true ('\\' :: c :: raw)
  | quoted {depth : Nat} {c : Char} {raw : List Char} : c ≠ '"' → c ≠ '\\' → InBrackets depth true raw →
      InBrackets depth true (c :: raw)
  | unquote {depth : Nat} {raw : List Char} : InBrackets depth false raw → InBrackets depth true ('"' :: raw)
  | quote {depth : Nat} {raw : List Char} : InBrackets depth true raw → InBrackets depth false ('"' :: raw)
  | opening {depth : Nat} {raw : List Char} : InBrackets (depth + 1) false raw →
      InBrackets depth false ('[' :: raw)
  | closing {depth : Nat} {raw : List Char} : InBrackets depth false raw →
      InBrackets (depth + 1) false (']' :: raw)
  | plain {depth : Nat} {c : Char} {raw : List Char} : c ≠ '"' → c ≠ '[' → c ≠ ']' → InBrackets depth false raw →
      InBrackets depth false (c :: raw)

theorem InQuotes.quotedBody_eq {raw : List Char} (inside : InQuotes raw) (rest : List Char) :
    quotedBody (raw ++ '"' :: rest) = some (raw, rest) := by
  induction inside with
  | nil => rfl
  | escaped c _ inductionHypothesis =>
    rw [List.cons_append, List.cons_append, quotedBody, inductionHypothesis]
    rfl
  | plain noQuote noEscape _ inductionHypothesis =>
    rw [List.cons_append, quotedBody.eq_4 _ _ noQuote (fun _ _ same _ => noEscape same), inductionHypothesis]
    rfl

theorem quotedBody_eq_some_iff {text raw rest : List Char} :
    quotedBody text = some (raw, rest) ↔ InQuotes raw ∧ text = raw ++ '"' :: rest := by
  refine ⟨fun found => ⟨?_, (quotedBody_tiles found).symm⟩, ?_⟩
  · fun_induction quotedBody text generalizing raw rest with
    | case1 => cases found
    | case2 =>
      cases found
      exact .nil
    | case3 c tail inductionHypothesis =>
      obtain ⟨inner, same, rfl⟩ := prependTo_eq_some found
      exact .escaped c (inductionHypothesis same)
    | case4 c tail noQuote noEscape inductionHypothesis =>
      obtain ⟨inner, same, rfl⟩ := prependTo_eq_some found
      refine .plain noQuote (fun isEscape => ?_) (inductionHypothesis same)
      cases tail with
      | nil => cases same
      | cons d rest => exact noEscape d rest isEscape rfl
  · rintro ⟨inside, rfl⟩
    exact inside.quotedBody_eq rest

theorem InBrackets.bracketBody_eq {depth : Nat} {quoted : Bool} {raw : List Char}
    (inside : InBrackets depth quoted raw) (rest : List Char) :
    bracketBody depth quoted (raw ++ ']' :: rest) = some (raw, rest) := by
  induction inside with
  | nil =>
    rw [List.nil_append, bracketBody.eq_def]
    rfl
  | escaped c _ inductionHypothesis | opening _ inductionHypothesis | closing _ inductionHypothesis
  | quote _ inductionHypothesis | unquote _ inductionHypothesis =>
    simp only [List.cons_append]
    rw [bracketBody.eq_def]
    simp [inductionHypothesis, prependTo]
  | quoted noQuote noEscape _ inductionHypothesis =>
    rw [List.cons_append, bracketBody.eq_def]
    simp [inductionHypothesis, bne_iff_ne.2 noQuote, noEscape, prependTo]
  | plain noQuote noOpening noClosing _ inductionHypothesis =>
    rw [List.cons_append, bracketBody.eq_def]
    simp [inductionHypothesis, noQuote, noOpening, noClosing, prependTo]

theorem bracketBody_eq_some_iff {depth : Nat} {quoted : Bool} {text raw rest : List Char} :
    bracketBody depth quoted text = some (raw, rest) ↔
      InBrackets depth quoted raw ∧ text = raw ++ ']' :: rest := by
  refine ⟨fun found => ⟨?_, (bracketBody_tiles found).symm⟩, ?_⟩
  -- Each step of the search that goes on is one rule of `InBrackets`.
  · fun_induction bracketBody depth quoted text generalizing raw rest with
    | case1 | case2 => cases found
    | case3 _ d _ inductionHypothesis =>
      obtain ⟨inner, same, rfl⟩ := prependTo_eq_some found
      exact .escaped d (inductionHypothesis same)
    | case4 _ c _ noEscape inductionHypothesis =>
      obtain ⟨inner, same, rfl⟩ := prependTo_eq_some found
      have inside := inductionHypothesis same
      by_cases isQuote : c = '"'
      · subst isQuote
        exact .unquote inside
      · rw [bne_iff_ne.2 isQuote] at inside
        exact .quoted isQuote noEscape inside
    | case5 _ _ _ noQuoted inductionHypothesis =>
      obtain ⟨inner, same, rfl⟩ := prependTo_eq_some found
      rw [Bool.eq_false_iff.2 noQuoted]
      exact .quote (inductionHypothesis same)
    | case6 _ _ _ noQuoted _ inductionHypothesis =>
      obtain ⟨inner, same, rfl⟩ := prependTo_eq_some found
      rw [Bool.eq_false_iff.2 noQuoted]
      exact .opening (inductionHypothesis same)
    | case7 _ _ noQuoted _ =>
      cases found
      rw [Bool.eq_false_iff.2 noQuoted]
      exact .nil
    | case8 _ _ noQuoted _ _ _ inductionHypothesis =>
      obtain ⟨inner, same, rfl⟩ := prependTo_eq_some found
      rw [Bool.eq_false_iff.2 noQuoted]
      exact .closing (inductionHypothesis same)
    | case9 _ _ _ _ noQuoted noQuote noOpening noClosing inductionHypothesis =>
      obtain ⟨inner, same, rfl⟩ := prependTo_eq_some found
      rw [Bool.eq_false_iff.2 noQuoted]
      exact .plain noQuote noOpening noClosing (inductionHypothesis same)
  · rintro ⟨inside, rfl⟩
    exact inside.bracketBody_eq rest

/-! ## Words -/

/-- A numeral goes on here, behind its whole part. -/
def startsFraction : List Char → Bool
  | '.' :: c :: _ => c.isDigit
  | _ => false

theorem isSeparator_of_isDigit {c : Char} (isDigit : c.isDigit = true) : isSeparator c = false := by
  have other (mark : Char) (noDigit : mark.isDigit = false) : c ≠ mark := by
    rintro rfl
    exact absurd isDigit (Bool.eq_false_iff.1 noDigit)
  have noMark : ['.', '(', ')', '[', ']', ',', '"'].contains c = false := by simp [other]
  have code : 48 ≤ c.toNat ∧ c.toNat ≤ 57 := by
    simp only [Char.isDigit, Bool.and_eq_true, decide_eq_true_eq] at isDigit
    exact isDigit
  have noBlank : Text.isBlank c = false := by
    simp only [Text.isBlank, Bool.or_eq_false_iff, Bool.and_eq_false_iff, decide_eq_false_iff_not, beq_eq_false_iff_ne]
    omega
  rw [isSeparator, noMark, noBlank]
  rfl

theorem isDigit_of_isSeparator {c : Char} (separates : isSeparator c = true) : c.isDigit = false := by
  cases isDigit : c.isDigit with
  | false => rfl
  | true => exact absurd separates (Bool.eq_false_iff.1 (isSeparator_of_isDigit isDigit))

def IsFraction (fraction : List Char) : Prop :=
  fraction = [] ∨ ∃ digits, fraction = '.' :: digits ∧ digits ≠ [] ∧ ∀ c ∈ digits, c.isDigit = true

/-- The parts of a numeral are what they are meant to be. -/
structure Numeral.Shaped (numeral : Numeral) : Prop where
  sign : numeral.sign = [] ∨ numeral.sign = ['-']
  whole : ∀ c ∈ numeral.whole, c.isDigit = true
  filled : numeral.whole ≠ []
  fraction : IsFraction numeral.fraction

def EndsRun (test : Char → Bool) (behind : List Char) : Prop :=
  ∀ c ∈ behind.head?, test c = false

theorem EndsRun.takeWhile {test : Char → Bool} {run behind : List Char} (all : ∀ c ∈ run, test c = true)
    (ends : EndsRun test behind) :
    (run ++ behind).takeWhile test = run ∧ (run ++ behind).dropWhile test = behind := by
  rw [List.takeWhile_append_of_pos all, List.dropWhile_append_of_pos all]
  cases behind with
  | nil => exact ⟨List.append_nil run, rfl⟩
  | cons c behind =>
    rw [List.takeWhile_cons_of_neg, List.dropWhile_cons_of_neg, List.append_nil]
    · exact ⟨rfl, rfl⟩
    · exact Bool.eq_false_iff.1 (ends c rfl)
    · exact Bool.eq_false_iff.1 (ends c rfl)

theorem endsRun_dropWhile (test : Char → Bool) (text : List Char) : EndsRun test (text.dropWhile test) := by
  intro c isHead
  rw [← List.find?_not_eq_head?_dropWhile] at isHead
  simpa using List.find?_some (Option.mem_def.1 isHead)

theorem endsRun_isDigit {behind : List Char} (ends : atBoundary behind = true) :
    EndsRun Char.isDigit behind := by
  cases behind with
  | nil => exact nofun
  | cons c behind =>
    rintro _ ⟨⟩
    exact isDigit_of_isSeparator ends

theorem takeFraction_of_stops {text : List Char} (stops : startsFraction text = false) :
    takeFraction text = ([], text) := by
  unfold takeFraction
  split
  · exact if_neg (Bool.eq_false_iff.1 stops)
  · rfl

theorem takeFraction_of_endsRun {fraction behind : List Char} (shaped : IsFraction fraction)
    (ends : EndsRun Char.isDigit behind) (stops : fraction = [] → startsFraction behind = false) :
    takeFraction (fraction ++ behind) = (fraction, behind) := by
  obtain rfl | ⟨digits, rfl, filled, all⟩ := shaped
  · exact takeFraction_of_stops (stops rfl)
  · obtain ⟨c, rest, rfl⟩ := List.exists_cons_of_ne_nil filled
    obtain ⟨taken, left⟩ := ends.takeWhile all
    rw [List.cons_append] at taken left
    rw [List.cons_append, List.cons_append, takeFraction, if_pos (all c List.mem_cons_self), taken, left]

theorem shaped_takeFraction {text fraction behind : List Char} (taken : takeFraction text = (fraction, behind))
    (noDigit : EndsRun Char.isDigit text) :
    IsFraction fraction ∧ EndsRun Char.isDigit behind ∧ (fraction = [] → startsFraction behind = false) := by
  unfold takeFraction at taken
  split at taken
  · next c rest =>
    split at taken
    · next isDigit =>
      cases taken
      refine ⟨.inr ⟨_, rfl, ?_, fun d inside => List.mem_takeWhile_imp inside⟩, endsRun_dropWhile _ _, nofun⟩
      rw [List.takeWhile_cons_of_pos isDigit]
      exact List.cons_ne_nil _ _
    · next noDigit' =>
      cases taken
      exact ⟨.inl rfl, noDigit, fun _ => Bool.eq_false_iff.2 noDigit'⟩
  · next noFraction =>
    cases taken
    refine ⟨.inl rfl, noDigit, fun _ => ?_⟩
    unfold startsFraction
    split
    · next c rest => exact absurd rfl (noFraction c rest)
    · rfl

theorem Numeral.Shaped.takeNumeral_eq {numeral : Numeral} (shaped : numeral.Shaped) {behind : List Char}
    (ends : EndsRun Char.isDigit behind) (stops : numeral.fraction = [] → startsFraction behind = false) :
    takeNumeral (numeral.text ++ behind) = (numeral, behind) := by
  obtain ⟨sign, whole, fraction⟩ := numeral
  obtain ⟨isSign, all, filled, isFraction⟩ := shaped
  dsimp only at isSign all filled isFraction stops
  have unsigned : takeSign (sign ++ (whole ++ (fraction ++ behind))) = (sign, whole ++ (fraction ++ behind)) := by
    obtain rfl | rfl := isSign
    · obtain ⟨c, rest, rfl⟩ := List.exists_cons_of_ne_nil filled
      have isDigit := all c List.mem_cons_self
      rw [List.nil_append, List.cons_append, takeSign.eq_2]
      rintro rest ⟨⟩
      cases isDigit
    · rfl
  have endsWhole : EndsRun Char.isDigit (fraction ++ behind) := by
    obtain rfl | ⟨digits, rfl, -⟩ := isFraction
    · exact ends
    · rintro _ ⟨⟩
      rfl
  obtain ⟨taken, left⟩ := endsWhole.takeWhile all
  rw [takeNumeral, Numeral.text, List.append_assoc, List.append_assoc, unsigned]
  dsimp only
  rw [taken, left, takeFraction_of_endsRun isFraction ends stops]

theorem Numeral.Shaped.startsNumeral {numeral : Numeral} (shaped : numeral.Shaped) (behind : List Char) :
    startsNumeral (numeral.text ++ behind) = true := by
  obtain ⟨sign, whole, fraction⟩ := numeral
  obtain ⟨isSign, all, filled, -⟩ := shaped
  dsimp only at isSign all filled
  obtain ⟨c, rest, rfl⟩ := List.exists_cons_of_ne_nil filled
  have isDigit := all c List.mem_cons_self
  rw [Numeral.text]
  obtain rfl | rfl := isSign
  · rw [List.nil_append, List.cons_append, List.cons_append, LateBound.startsNumeral.eq_2]
    · exact isDigit
    · rintro d rest rfl
      cases isDigit
  · exact isDigit

theorem startsNumeral_unsigned {text : List Char} (starts : startsNumeral text = true) :
    (takeSign text).2.takeWhile Char.isDigit ≠ [] := by
  unfold startsNumeral at starts
  split at starts
  · next c tail =>
    rw [takeSign, List.takeWhile_cons_of_pos starts]
    exact List.cons_ne_nil _ _
  · next c tail _ =>
    rw [takeSign.eq_2, List.takeWhile_cons_of_pos starts]
    · exact List.cons_ne_nil _ _
    · rintro rest ⟨⟩
      cases starts
  · cases starts

/-- What is taken as a numeral is one, and neither its digits nor a fraction goes on behind it. -/
theorem shaped_takeNumeral {text behind : List Char} {numeral : Numeral} (starts : startsNumeral text = true)
    (taken : takeNumeral text = (numeral, behind)) :
    numeral.Shaped ∧ EndsRun Char.isDigit behind ∧ (numeral.fraction = [] → startsFraction behind = false) := by
  have isSign : (takeSign text).1 = [] ∨ (takeSign text).1 = ['-'] := by
    unfold takeSign
    split
    · exact .inr rfl
    · exact .inl rfl
  cases taken
  obtain ⟨isFraction, ends, stops⟩ := shaped_takeFraction rfl (endsRun_dropWhile Char.isDigit (takeSign text).2)
  refine ⟨⟨isSign, fun c inside => List.mem_takeWhile_imp inside, ?_, isFraction⟩, ends, stops⟩
  exact startsNumeral_unsigned starts

/-! ## One token -/

/-- In front of `rest`, the token is written with these characters. -/
inductive Token.Written (rest : List Char) : Token → List Char → Prop
  | leftParen : Written rest .leftParen ['(']
  | rightParen : Written rest .rightParen [')']
  | comma : Written rest .comma [',']
  | dot : Written rest .dot ['.']
  | bracket {raw : List Char} : InBrackets 0 false raw →
      Written rest (.bracket (String.ofList raw)) ('[' :: (raw ++ [']']))
  | string {raw : List Char} : InQuotes raw →
      Written rest (.string (String.ofList (unescape raw))) ('"' :: (raw ++ ['"']))
  | suffixed {numeral : Numeral} {suffix : Char} {token : Token} : numeral.Shaped →
      suffix ∈ ['L', 'l', 'F', 'f', 'D', 'd'] → atBoundary rest = true →
      numeral.suffixedToken? suffix = some token → Written rest token (numeral.text ++ [suffix])
  | number {numeral : Numeral} {token : Token} : numeral.Shaped → atBoundary rest = true →
      (numeral.fraction = [] → startsFraction rest = false) → numeral.plainToken? = some token →
      Written rest token numeral.text
  | numbered {numeral : Numeral} {c : Char} {word : List Char} : numeral.Shaped → c.isDigit = false →
      (∀ d ∈ c :: word, isSeparator d = false) → (word = [] → c ∉ ['L', 'l', 'F', 'f', 'D', 'd']) →
      atBoundary rest = true →
      Written rest (.identifier (String.ofList (numeral.text ++ c :: word))) (numeral.text ++ c :: word)
  | name {c : Char} {word : List Char} : (∀ d ∈ c :: word, isSeparator d = false) →
      startsNumeral (c :: word) = false → atBoundary rest = true →
      Written rest (wordToken (String.ofList (c :: word))) (c :: word)

theorem atBoundary_dropWhile (text : List Char) : atBoundary (text.dropWhile (!isSeparator ·)) = true := by
  have ends := endsRun_dropWhile (!isSeparator ·) text
  cases left : text.dropWhile (!isSeparator ·) with
  | nil => rfl
  | cons c rest =>
    rw [left] at ends
    have holds : (!isSeparator c) = false := ends c rfl
    simpa [atBoundary] using holds

theorem noSeparator_of_takeWhile {text : List Char} {c : Char} (inside : c ∈ text.takeWhile (!isSeparator ·)) :
    isSeparator c = false := by
  simpa using List.mem_takeWhile_imp inside

theorem startsNumeral_append (c : Char) (word : List Char) {rest : List Char} (ends : atBoundary rest = true) :
    startsNumeral (c :: (word ++ rest)) = startsNumeral (c :: word) := by
  have ends := endsRun_isDigit ends
  by_cases isMinus : c = '-'
  · subst isMinus
    cases word with
    | cons d word => rfl
    | nil =>
      cases rest with
      | nil => rfl
      | cons d rest => exact ends d rfl
  · have first (tail : List Char) : startsNumeral (c :: tail) = c.isDigit :=
      startsNumeral.eq_2 _ _ fun _ _ same _ => isMinus same
    rw [first, first]

theorem numberSuffix?_eq_some_iff {behind rest : List Char} {suffix : Char} :
    numberSuffix? behind = some (suffix, rest) ↔
      behind = suffix :: rest ∧ suffix ∈ ['L', 'l', 'F', 'f', 'D', 'd'] ∧ atBoundary rest = true := by
  cases behind with
  | nil => exact ⟨nofun, nofun⟩
  | cons c tail =>
    unfold numberSuffix?
    rw [Option.ite_none_right_eq_some, Bool.and_eq_true, List.contains_iff_mem]
    constructor
    · rintro ⟨⟨inside, ends⟩, same⟩
      cases same
      exact ⟨rfl, inside, ends⟩
    · rintro ⟨same, inside, ends⟩
      cases same
      exact ⟨⟨inside, ends⟩, rfl⟩

theorem written_of_scanNumeral {text : List Char} {starts : startsNumeral text = true} {piece : Taken Token text}
    (scanned : scanNumeral text starts = .token piece) : piece.value.Written piece.rest piece.taken := by
  unfold scanNumeral at scanned
  split at scanned
  next numeral behind found =>
    obtain ⟨shaped, ends, stops⟩ := shaped_takeNumeral starts found
    split at scanned
    · next suffix rest isSuffix =>
      obtain ⟨-, inside, ends⟩ := numberSuffix?_eq_some_iff.1 isSuffix
      split at scanned
      · next token isToken =>
        cases scanned
        exact .suffixed shaped inside ends isToken
      · cases scanned
    · next noSuffix =>
      split at scanned
      · next atEnd =>
        split at scanned
        · next token isToken =>
          cases scanned
          exact .number shaped atEnd stops isToken
        · cases scanned
      · next goesOn =>
        cases scanned
        obtain _ | ⟨c, behind⟩ := behind
        · exact absurd rfl goesOn
        have noSeparator : isSeparator c = false := by simpa [atBoundary] using goesOn
        dsimp only
        rw [List.takeWhile_cons_of_pos (by rw [noSeparator]; rfl),
          List.dropWhile_cons_of_pos (by rw [noSeparator]; rfl)]
        refine .numbered shaped (ends c rfl) ?_ (fun alone isLetter => ?_) (atBoundary_dropWhile behind)
        · exact List.forall_mem_cons.2 ⟨noSeparator, fun d inside => noSeparator_of_takeWhile inside⟩
        · -- A suffix letter that stands alone would have been read as one.
          have left : behind.dropWhile (!isSeparator ·) = behind := by
            simpa [alone] using List.takeWhile_append_dropWhile (p := (!isSeparator ·)) (l := behind)
          have isSuffix := numberSuffix?_eq_some_iff.2 ⟨rfl, isLetter, left ▸ atBoundary_dropWhile behind⟩
          cases noSuffix.symm.trans isSuffix

theorem written_of_scan {c : Char} {tail : List Char} {piece : Taken Token (c :: tail)}
    (isMark : Text.isBlank c = false) (scanned : Token.scan c tail = .token piece) :
    piece.value.Written piece.rest piece.taken := by
  -- One case for each test of the scanner, in its order; what no test takes is a word.
  unfold Token.scan at scanned
  split at scanned
  · next isC => cases isC; cases scanned; exact .leftParen
  split at scanned
  · next isC => cases isC; cases scanned; exact .rightParen
  split at scanned
  · next isC => cases isC; cases scanned; exact .comma
  split at scanned
  · next isC => cases isC; cases scanned; exact .dot
  split at scanned
  · cases scanned
  split at scanned
  · next isC =>
    split at scanned
    · next found =>
      cases isC
      cases scanned
      exact .bracket (bracketBody_eq_some_iff.1 found).1
    · cases scanned
  split at scanned
  · next isC =>
    split at scanned
    · next found =>
      cases isC
      cases scanned
      exact .string (quotedBody_eq_some_iff.1 found).1
    · cases scanned
  split at scanned
  · exact written_of_scanNumeral scanned
  · next noParen noClosing noComma noDot noBracket noOpening noQuote noNumeral =>
    cases scanned
    have noSeparator : isSeparator c = false := by
      simp [isSeparator, noParen, noClosing, noComma, noDot, noBracket, noOpening, noQuote, isMark]
    refine .name ?_ ?_ (atBoundary_dropWhile tail)
    · exact List.forall_mem_cons.2 ⟨noSeparator, fun d inside => noSeparator_of_takeWhile inside⟩
    · rw [← startsNumeral_append c _ (atBoundary_dropWhile tail), List.takeWhile_append_dropWhile]
      exact Bool.eq_false_iff.2 noNumeral

theorem startsNumeral_head {c : Char} {tail : List Char} (starts : startsNumeral (c :: tail) = true) :
    isSeparator c = false := by
  unfold startsNumeral at starts
  split at starts
  · next same =>
    cases same
    rfl
  · next same =>
    cases same
    exact isSeparator_of_isDigit starts
  · next same => cases same

theorem scan_of_noSeparator {c : Char} (tail : List Char) (noSeparator : isSeparator c = false) :
    Token.scan c tail = if starts : startsNumeral (c :: tail) then scanNumeral (c :: tail) starts
      else
        .token ⟨wordToken (String.ofList (c :: tail.takeWhile (!isSeparator ·))), c :: tail.takeWhile (!isSeparator ·),
          tail.dropWhile (!isSeparator ·), by simp [List.takeWhile_append_dropWhile], by simp⟩ := by
  have other (mark : Char) (isMark : isSeparator mark = true) : c ≠ mark := by
    rintro rfl
    exact absurd isMark (Bool.eq_false_iff.1 noSeparator)
  unfold Token.scan
  rw [if_neg (other '(' rfl), if_neg (other ')' rfl), if_neg (other ',' rfl), if_neg (other '.' rfl),
    if_neg (other ']' rfl), if_neg (other '[' rfl), if_neg (other '"' rfl)]

theorem isBlank_of_noSeparator {c : Char} (noSeparator : isSeparator c = false) : Text.isBlank c = false :=
  (Bool.or_eq_false_iff.1 noSeparator).2

/-- From the text the token is read; it takes the lexeme and leaves the rest. -/
def Scanned.Is {text : List Char} (scanned : Scanned text) (token : Token) (lexeme rest : List Char) : Prop :=
  ∃ piece : Taken Token text, scanned = .token piece ∧ piece.value = token ∧ piece.taken = lexeme ∧ piece.rest = rest

section Numerals

variable {text behind rest : List Char} {starts : startsNumeral text = true} {numeral : Numeral} {token : Token}
  (found : takeNumeral text = (numeral, behind))

include found

theorem scanNumeral_suffixed {suffix : Char} (isSuffix : numberSuffix? behind = some (suffix, rest))
    (isToken : numeral.suffixedToken? suffix = some token) :
    (scanNumeral text starts).Is token (numeral.text ++ [suffix]) rest := by
  unfold scanNumeral
  split
  next found' =>
    cases found.symm.trans found'
    split
    · next isSuffix' =>
      cases isSuffix.symm.trans isSuffix'
      split
      · next isToken' =>
        cases isToken.symm.trans isToken'
        exact ⟨_, rfl, rfl, rfl, rfl⟩
      · next noToken => cases isToken.symm.trans noToken
    · next noSuffix => cases isSuffix.symm.trans noSuffix

theorem scanNumeral_number (noSuffix : numberSuffix? behind = none) (ends : atBoundary behind = true)
    (isToken : numeral.plainToken? = some token) : (scanNumeral text starts).Is token numeral.text behind := by
  unfold scanNumeral
  split
  next found' =>
    cases found.symm.trans found'
    split
    · next isSuffix => cases isSuffix.symm.trans noSuffix
    · rw [if_pos ends]
      split
      · next isToken' =>
        cases isToken.symm.trans isToken'
        exact ⟨_, rfl, rfl, rfl, rfl⟩
      · next noToken => cases isToken.symm.trans noToken

theorem scanNumeral_numbered (noSuffix : numberSuffix? behind = none) (goesOn : atBoundary behind = false) :
    (scanNumeral text starts).Is (.identifier (String.ofList (numeral.text ++ behind.takeWhile (!isSeparator ·))))
      (numeral.text ++ behind.takeWhile (!isSeparator ·)) (behind.dropWhile (!isSeparator ·)) := by
  unfold scanNumeral
  split
  next found' =>
    cases found.symm.trans found'
    split
    · next isSuffix => cases isSuffix.symm.trans noSuffix
    · rw [if_neg (Bool.eq_false_iff.1 goesOn)]
      exact ⟨_, rfl, rfl, rfl, rfl⟩

end Numerals

theorem exists_scan_of_scanNumeral {text lexeme rest : List Char} {token : Token} (starts : startsNumeral text = true)
    (scanned : (scanNumeral text starts).Is token lexeme rest) :
    ∃ c tail, text = c :: tail ∧ Text.isBlank c = false ∧ (Token.scan c tail).Is token lexeme rest := by
  cases text with
  | nil => cases starts
  | cons c tail =>
    have noSeparator := startsNumeral_head starts
    refine ⟨c, tail, rfl, isBlank_of_noSeparator noSeparator, ?_⟩
    rwa [scan_of_noSeparator tail noSeparator, dif_pos starts]

theorem endsRun_noSeparator {rest : List Char} (ends : atBoundary rest = true) : EndsRun (!isSeparator ·) rest := by
  cases rest with
  | nil => exact nofun
  | cons c rest =>
    rintro _ ⟨⟩
    have separates : isSeparator c = true := ends
    exact congrArg not separates

theorem letter_inWord : ∀ c ∈ ['L', 'l', 'F', 'f', 'D', 'd'], c.isDigit = false ∧ isSeparator c = false :=
  List.forall_iff_forall_mem.1 (by decide)

theorem startsFraction_cons {c : Char} (noSeparator : isSeparator c = false) (rest : List Char) :
    startsFraction (c :: rest) = false := by
  unfold startsFraction
  split
  · next same =>
    cases same
    cases noSeparator
  · rfl

theorem numberSuffix?_of_atBoundary {rest : List Char} (ends : atBoundary rest = true) : numberSuffix? rest = none := by
  cases isSuffix : numberSuffix? rest with
  | none => rfl
  | some found =>
    obtain ⟨rfl, inside, -⟩ := numberSuffix?_eq_some_iff.1 isSuffix
    exact absurd ends (Bool.eq_false_iff.1 (letter_inWord _ inside).2)

theorem numberSuffix?_of_word {c : Char} {word : List Char} (all : ∀ d ∈ c :: word, isSeparator d = false)
    (alone : word = [] → c ∉ ['L', 'l', 'F', 'f', 'D', 'd']) (rest : List Char) :
    numberSuffix? (c :: word ++ rest) = none := by
  cases isSuffix : numberSuffix? (c :: word ++ rest) with
  | none => rfl
  | some found =>
    obtain ⟨suffix, behind⟩ := found
    obtain ⟨same, isLetter, ends⟩ := numberSuffix?_eq_some_iff.1 isSuffix
    cases same
    cases word with
    | nil => exact absurd isLetter (alone rfl)
    | cons d word => exact absurd ends (Bool.eq_false_iff.1 (all d (by simp)))

/-- What is written in front of `rest` is read there. -/
theorem Token.Written.scan {rest lexeme : List Char} {token : Token} (written : token.Written rest lexeme) :
    ∃ c tail, lexeme ++ rest = c :: tail ∧ Text.isBlank c = false ∧ (Token.scan c tail).Is token lexeme rest := by
  cases written with
  | leftParen => exact ⟨'(', rest, rfl, rfl, _, rfl, rfl, rfl, rfl⟩
  | rightParen => exact ⟨')', rest, rfl, rfl, _, rfl, rfl, rfl, rfl⟩
  | comma => exact ⟨',', rest, rfl, rfl, _, rfl, rfl, rfl, rfl⟩
  | dot => exact ⟨'.', rest, rfl, rfl, _, rfl, rfl, rfl, rfl⟩
  | @bracket raw inside =>
    refine ⟨'[', raw ++ ']' :: rest, by simp, rfl, ?_⟩
    unfold Token.scan
    simp only [Char.reduceEq, ↓reduceIte]
    split
    · next found =>
      cases found.symm.trans (inside.bracketBody_eq rest)
      exact ⟨_, rfl, rfl, rfl, rfl⟩
    · next none => cases none.symm.trans (inside.bracketBody_eq rest)
  | @string raw inside =>
    refine ⟨'"', raw ++ '"' :: rest, by simp, rfl, ?_⟩
    unfold Token.scan
    simp only [Char.reduceEq, ↓reduceIte]
    split
    · next found =>
      cases found.symm.trans (inside.quotedBody_eq rest)
      exact ⟨_, rfl, rfl, rfl, rfl⟩
    · next none => cases none.symm.trans (inside.quotedBody_eq rest)
  | @suffixed numeral suffix token shaped inside ends isToken =>
    rw [List.append_assoc]
    obtain ⟨noDigit, noSeparator⟩ := letter_inWord suffix inside
    have ends' : EndsRun Char.isDigit (suffix :: rest) := by
      rintro _ ⟨⟩
      exact noDigit
    have found := shaped.takeNumeral_eq ends' fun _ => startsFraction_cons noSeparator rest
    exact exists_scan_of_scanNumeral (shaped.startsNumeral _)
      (scanNumeral_suffixed found (numberSuffix?_eq_some_iff.2 ⟨rfl, inside, ends⟩) isToken)
  | @number numeral token shaped ends stops isToken =>
    have found := shaped.takeNumeral_eq (endsRun_isDigit ends) stops
    exact exists_scan_of_scanNumeral (shaped.startsNumeral _)
      (scanNumeral_number found (numberSuffix?_of_atBoundary ends) ends isToken)
  | @numbered numeral c word shaped noDigit all alone ends =>
    rw [List.append_assoc]
    have noSeparator := all c List.mem_cons_self
    have ends' : EndsRun Char.isDigit (c :: word ++ rest) := by
      rintro _ ⟨⟩
      exact noDigit
    have found := shaped.takeNumeral_eq ends' fun _ => startsFraction_cons noSeparator (word ++ rest)
    have noSuffix := numberSuffix?_of_word all alone rest
    have noSeparators : ∀ d ∈ c :: word, (!isSeparator d) = true := fun d inside => by rw [all d inside]; rfl
    obtain ⟨taken, left⟩ := EndsRun.takeWhile noSeparators (endsRun_noSeparator ends)
    have scanned : (scanNumeral (numeral.text ++ (c :: word ++ rest)) (shaped.startsNumeral _)).Is _ _ _ :=
      scanNumeral_numbered found noSuffix noSeparator
    rw [taken, left] at scanned
    exact exists_scan_of_scanNumeral _ scanned
  | @name c word all noNumeral ends =>
    refine ⟨c, word ++ rest, rfl, isBlank_of_noSeparator (all c List.mem_cons_self), ?_⟩
    have noSeparators : ∀ d ∈ word, (!isSeparator d) = true := fun d inside => by
      rw [all d (List.mem_cons_of_mem c inside)]
      rfl
    obtain ⟨taken, left⟩ := EndsRun.takeWhile noSeparators (endsRun_noSeparator ends)
    have noNumeral : startsNumeral (c :: (word ++ rest)) = false := (startsNumeral_append c word ends).trans noNumeral
    rw [scan_of_noSeparator _ (all c List.mem_cons_self), dif_neg (Bool.eq_false_iff.1 noNumeral)]
    refine ⟨_, rfl, ?_, ?_, left⟩
    · dsimp only
      rw [taken]
    · dsimp only
      rw [taken]

/-! ## What a token looks like -/

/-- The token is a word: a keyword, a name or a number. -/
def Token.IsPlain : Token → Prop
  | newKeyword | trueKeyword | falseKeyword | nullKeyword | identifier _ | int _ | long _ | float _ | double _ => True
  | _ => False

theorem isPlain_wordToken (name : String) : (wordToken name).IsPlain := by
  unfold wordToken
  split_ifs <;> trivial

theorem Numeral.isPlain_of_plainToken? {numeral : Numeral} {token : Token}
    (isToken : numeral.plainToken? = some token) : token.IsPlain := by
  unfold Numeral.plainToken? at isToken
  split at isToken
  · split at isToken
    · cases isToken
    · split at isToken
      · cases isToken
        trivial
      · obtain ⟨_, _, rfl⟩ := Option.map_eq_some_iff.1 isToken
        trivial
  · obtain ⟨_, _, rfl⟩ := Option.map_eq_some_iff.1 isToken
    trivial

theorem Numeral.isPlain_of_suffixedToken? {numeral : Numeral} {suffix : Char} {token : Token}
    (isToken : numeral.suffixedToken? suffix = some token) : token.IsPlain := by
  unfold Numeral.suffixedToken? at isToken
  split_ifs at isToken
  all_goals
    obtain ⟨_, _, rfl⟩ := Option.map_eq_some_iff.1 isToken
    trivial

def InWord (c : Char) : Prop :=
  isSeparator c = false ∨ c = '.'

/-- What a token is written with, whatever follows it. -/
inductive Token.Lexeme : Token → List Char → Prop
  | leftParen : Lexeme .leftParen ['(']
  | rightParen : Lexeme .rightParen [')']
  | comma : Lexeme .comma [',']
  | dot : Lexeme .dot ['.']
  | bracket {raw : List Char} : InBrackets 0 false raw →
      Lexeme (.bracket (String.ofList raw)) ('[' :: (raw ++ [']']))
  | string {raw : List Char} : InQuotes raw →
      Lexeme (.string (String.ofList (unescape raw))) ('"' :: (raw ++ ['"']))
  | word {token : Token} {lexeme : List Char} : token.IsPlain → (∀ c ∈ lexeme, InWord c) → Lexeme token lexeme

theorem Numeral.Shaped.inWord {numeral : Numeral} (shaped : numeral.Shaped) : ∀ c ∈ numeral.text, InWord c := by
  obtain ⟨sign, whole, fraction⟩ := numeral
  obtain ⟨isSign, all, -, isFraction⟩ := shaped
  dsimp only at isSign all isFraction
  refine List.forall_mem_append.2 ⟨List.forall_mem_append.2 ⟨?_, ?_⟩, ?_⟩
  · obtain rfl | rfl := isSign
    · exact nofun
    · exact List.forall_mem_singleton.2 (.inl rfl)
  · exact fun c inside => .inl (isSeparator_of_isDigit (all c inside))
  · obtain rfl | ⟨digits, rfl, -, all⟩ := isFraction
    · exact nofun
    · exact List.forall_mem_cons.2 ⟨.inr rfl, fun c inside => .inl (isSeparator_of_isDigit (all c inside))⟩

theorem Token.Written.lexeme {rest lexeme : List Char} {token : Token} (written : token.Written rest lexeme) :
    token.Lexeme lexeme := by
  cases written with
  | leftParen => exact .leftParen
  | rightParen => exact .rightParen
  | comma => exact .comma
  | dot => exact .dot
  | bracket inside => exact .bracket inside
  | string inside => exact .string inside
  | @suffixed _ suffix _ shaped inside _ isToken =>
    refine .word (Numeral.isPlain_of_suffixedToken? isToken) (List.forall_mem_append.2 ⟨shaped.inWord, ?_⟩)
    exact List.forall_mem_singleton.2 (.inl (letter_inWord suffix inside).2)
  | number shaped _ _ isToken => exact .word (Numeral.isPlain_of_plainToken? isToken) shaped.inWord
  | numbered shaped _ all _ _ =>
    exact .word trivial (List.forall_mem_append.2 ⟨shaped.inWord, fun c inside => .inl (all c inside)⟩)
  | name all _ _ => exact .word (isPlain_wordToken _) fun c inside => .inl (all c inside)

theorem InWord.isBlank {c : Char} (inWord : InWord c) : Text.isBlank c = false := by
  obtain noSeparator | rfl := inWord
  · exact isBlank_of_noSeparator noSeparator
  · rfl

theorem Token.Lexeme.rdropWhile {token : Token} {lexeme : List Char} (isLexeme : token.Lexeme lexeme) :
    lexeme.rdropWhile Text.isBlank = lexeme := by
  refine List.rdropWhile_eq_self_iff.2 fun filled => Bool.eq_false_iff.1 ?_
  cases isLexeme with
  | leftParen | rightParen | comma | dot => rfl
  | bracket _ | string _ =>
    simp only [← List.cons_append, List.getLast_append_singleton]
    rfl
  | word _ all => exact (all _ (List.getLast_mem filled)).isBlank

end LateBound
