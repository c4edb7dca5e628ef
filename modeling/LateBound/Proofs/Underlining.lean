import LateBound.Notice
import LateBound.Proofs.Lines
import LateBound.Proofs.Tiling

/-!
# Carets under a span

A syntax error is drawn where texts are read, and once more in the notices that a user is shown: a line of the text
behind a margin, and carets below it. Both drawings begin their carets under the first character of the span, for the
column counts characters. But the one draws a caret for each character of the span and the other one for each byte, so
that they agree exactly where every character of the span takes one byte.
-/

namespace LateBound

/-! ## What a terminal shows -/

namespace Text

/-- What a terminal shows of a text: all but the signs that change the style, each of which goes up to an `m`. -/
def shown (hidden : Bool) : List Char → List Char
  | [] => []
  | c :: cs => if hidden then shown (c != 'm') cs else if c = '\x1b' then shown true cs else c :: shown false cs

/-- Where the first carets of a line begin, and how many there are. -/
def caretRun (line : List Char) : Nat × Nat :=
  ((line.takeWhile (· != '^')).length, ((line.dropWhile (· != '^')).takeWhile (· == '^')).length)

/-- The first text is written on one line, and the second is shown for it. -/
structure ShownAs (written visible : List Char) : Prop where
  oneLine : '\n' ∉ written
  shown_append : ∀ rest, shown false (written ++ rest) = visible ++ shown false rest

namespace ShownAs

variable {written written' visible visible' : List Char}

theorem shown_eq (shownAs : ShownAs written visible) : shown false written = visible := by
  have alone := shownAs.shown_append []
  rwa [List.append_nil, shown, List.append_nil] at alone

theorem append (shownAs : ShownAs written visible) (shownAs' : ShownAs written' visible') :
    ShownAs (written ++ written') (visible ++ visible') where
  oneLine := by simp [shownAs.oneLine, shownAs'.oneLine]
  shown_append rest := by
    rw [List.append_assoc, shownAs.shown_append, shownAs'.shown_append, List.append_assoc]

end ShownAs

theorem shownAs_plain {cs : List Char} (noFeed : '\n' ∉ cs) (noSign : '\x1b' ∉ cs) : ShownAs cs cs where
  oneLine := noFeed
  shown_append rest := by
    induction cs with
    | nil => rfl
    | cons c cs inductionHypothesis =>
      simp only [List.mem_cons, not_or] at noFeed noSign
      have step := inductionHypothesis noFeed.2 noSign.2
      simp [shown, Ne.symm noSign.1, step]

theorem shown_hidden {code : List Char} (noEnd : 'm' ∉ code) (rest : List Char) :
    shown true (code ++ 'm' :: rest) = shown false rest := by
  induction code with
  | nil => rfl
  | cons c code inductionHypothesis =>
    simp only [List.mem_cons, not_or] at noEnd
    have goesOn : (c != 'm') = true := bne_iff_ne.2 (Ne.symm noEnd.1)
    rw [List.cons_append, shown, if_pos rfl, goesOn, inductionHypothesis noEnd.2]

theorem splitFrom_of_notMem {c : Char} {pattern cs : List Char} (absent : c ∉ cs) :
    splitFrom (c :: pattern) 0 cs = [cs] := by
  induction cs with
  | nil => rfl
  | cons d cs inductionHypothesis =>
    simp only [List.mem_cons, not_or] at absent
    have notHere : (c :: pattern).isPrefixOf (d :: cs) = false := by simp [List.isPrefixOf, absent.1]
    rw [splitFrom, notHere, inductionHypothesis absent.2]
    rfl

theorem toList_styled {text : String} (noSign : '\x1b' ∉ text.toList) (code : String) :
    (styled code text).toList =
      '\x1b' :: '[' :: (code.toList ++ 'm' :: (text.toList ++ '\x1b' :: ['[', '0', 'm'])) := by
  have pattern : plainCode.toList = '\x1b' :: ['[', '0', 'm'] := rfl
  have replaced (replacement : List Char) :
      replaceAll ['\x1b', '[', '0', 'm'] replacement text.toList = text.toList := by
    rw [replaceAll, splitFrom_of_notMem noSign]
    exact List.intercalate_singleton
  simp [styled, styleCode, pattern, replaced]

theorem shownAs_styled {text : String} (noFeed : '\n' ∉ text.toList) (noSign : '\x1b' ∉ text.toList) {code : String}
    (noFeedCode : '\n' ∉ code.toList) (noEnd : 'm' ∉ code.toList) : ShownAs (styled code text).toList text.toList where
  oneLine := by
    rw [toList_styled noSign]
    simp [noFeed, noFeedCode]
  shown_append rest := by
    have opening (behind : List Char) :
        shown false ('\x1b' :: '[' :: (code.toList ++ 'm' :: behind)) = shown false behind := by
      rw [shown, if_neg Bool.false_ne_true, if_pos rfl]
      exact shown_hidden noEnd behind
    have closing : shown false ('\x1b' :: '[' :: '0' :: 'm' :: rest) = shown false rest := rfl
    rw [toList_styled noSign]
    simp only [List.cons_append, List.append_assoc, List.nil_append]
    rw [opening, (shownAs_plain noFeed noSign).shown_append, closing]

theorem shownAs_paint {text : String} (noFeed : '\n' ∉ text.toList) (noSign : '\x1b' ∉ text.toList) {code : String}
    (noFeedCode : '\n' ∉ code.toList) (noEnd : 'm' ∉ code.toList) (colours : Bool) :
    ShownAs (paint colours code text).toList text.toList := by
  cases colours with
  | true => exact shownAs_styled noFeed noSign noFeedCode noEnd
  | false => exact shownAs_plain noFeed noSign

@[simp] theorem toList_repeated (count : Nat) (c : Char) : (repeated count c).toList = List.replicate count c := by
  rw [repeated, String.toList_ofList]

theorem shownAs_blanks (count : Nat) : ShownAs (repeated count ' ').toList (List.replicate count ' ') := by
  rw [toList_repeated]
  exact shownAs_plain (by simp) (by simp)

theorem shownAs_carets (count : Nat) (colours : Bool) :
    ShownAs (paint colours "1;31" (repeated count '^')).toList (List.replicate count '^') := by
  rw [← toList_repeated count '^']
  exact shownAs_paint (by simp) (by simp) (by decide) (by decide) colours

theorem shownAs_bar (colours : Bool) : ShownAs (paint colours "1;34" "|").toList ['|'] :=
  shownAs_paint (by decide) (by decide) (by decide) (by decide) colours

theorem shownAs_blank : ShownAs " ".toList [' '] :=
  shownAs_plain (by decide) (by decide)

theorem toList_padLeft (width : Nat) (text : String) :
    (padLeft width text).toList = List.replicate (width - text.toList.length) ' ' ++ text.toList := by
  rw [padLeft, padWith, String.toList_ofList]

theorem notMem_toString {c : Char} (noDigit : c.isDigit = false) {n : Nat} : c ∉ (toString n).toList := by
  intro inside
  have isDecimal : (toString n).toList = Nat.toDigits 10 n := Nat.toList_repr
  rw [isDecimal] at inside
  rw [Nat.isDigit_of_mem_toDigits (by decide) (by decide) inside] at noDigit
  cases noDigit

theorem shownAs_number (n : Nat) : ShownAs (toString n).toList (toString n).toList :=
  shownAs_plain (notMem_toString rfl) (notMem_toString rfl)

theorem shownAs_padLeft (width : Nat) {text : String} (shownAs : ShownAs text.toList text.toList) :
    ShownAs (padLeft width text).toList (List.replicate (width - text.toList.length) ' ' ++ text.toList) := by
  rw [toList_padLeft]
  exact (shownAs_plain (by simp) (by simp)).append shownAs

theorem caretRun_eq {front behind : List Char} (noCaret : '^' ∉ front) (ends : '^' ∉ behind) {carets : Nat}
    (filled : 0 < carets) : caretRun (front ++ (List.replicate carets '^' ++ behind)) = (front.length, carets) := by
  obtain ⟨more, rfl⟩ : ∃ more, carets = more + 1 := ⟨carets - 1, by omega⟩
  have others : ∀ c ∈ front, (c != '^') = true := fun c inside => bne_iff_ne.2 fun same => noCaret (same ▸ inside)
  have carets : ∀ c ∈ List.replicate (more + 1) '^', (c == '^') = true := by simp
  have stops : behind.takeWhile (· == '^') = [] := by
    cases behind with
    | nil => rfl
    | cons c behind =>
      simp only [List.mem_cons, not_or] at ends
      simp [Ne.symm ends.1]
  unfold caretRun
  rw [List.takeWhile_append_of_pos others, List.dropWhile_append_of_pos others]
  have here : (List.replicate (more + 1) '^' ++ behind).takeWhile (· != '^') = [] := rfl
  have kept : (List.replicate (more + 1) '^' ++ behind).dropWhile (· != '^') =
      List.replicate (more + 1) '^' ++ behind := rfl
  rw [here, kept, List.takeWhile_append_of_pos carets, stops]
  simp

/-- The upper line is a line of a text behind a margin, and the run of carets in the lower line begins below the
character with this index in it. -/
def Underlined (upper lower line : List Char) (indent carets : Nat) : Prop :=
  ∃ margin, upper = margin ++ line ∧ caretRun (shown false lower) = ((shown false margin).length + indent, carets)

theorem underlined_iff {margin visible lower blank behind line : List Char} (shownAs : ShownAs margin visible)
    {indent carets : Nat}
    (shownAs' : ShownAs lower (blank ++ (List.replicate indent ' ' ++ (List.replicate carets '^' ++ behind))))
    (width : blank.length = visible.length) (noCaret : '^' ∉ blank) (ends : '^' ∉ behind) (filled : 0 < carets)
    {indent' carets' : Nat} :
    Underlined (margin ++ line) lower line indent' carets' ↔ indent' = indent ∧ carets' = carets := by
  have run : caretRun (shown false lower) = (visible.length + indent, carets) := by
    have noCaretHere : '^' ∉ blank ++ List.replicate indent ' ' := by simp [noCaret]
    rw [shownAs'.shown_eq, ← List.append_assoc, caretRun_eq noCaretHere ends filled]
    simp [width]
  constructor
  · rintro ⟨margin', isUpper, run'⟩
    rw [← List.append_cancel_right isUpper, shownAs.shown_eq, run] at run'
    simp only [Prod.mk.injEq, Nat.add_left_cancel_iff] at run'
    exact ⟨run'.1.symm, run'.2.symm⟩
  · rintro ⟨rfl, rfl⟩
    exact ⟨margin, rfl, by rw [shownAs.shown_eq, run]⟩

end Text

/-! ## The two drawings -/

theorem suffix_iff {pieces heading : List (List Char)} {upper lower upper' lower' : List Char}
    (cut : pieces = heading ++ [upper, lower, []]) :
    [upper', lower', []] <:+ pieces ↔ upper' = upper ∧ lower' = lower := by
  rw [cut]
  constructor
  · intro isEnd
    have same := (List.suffix_of_suffix_length_le isEnd (List.suffix_append heading _) (Nat.le_refl _)).eq_of_length rfl
    simp only [List.cons.injEq, and_true] at same
    exact same
  · rintro ⟨rfl, rfl⟩
    exact List.suffix_append heading _

namespace SyntaxError

open Text

/-- The last two lines of the drawn error show this line of the text with carets below it. -/
def Underlines (error : SyntaxError) (source : String) (line : String) (indent carets : Nat) : Prop :=
  ∃ upper lower, [upper, lower, []] <:+ Source.pieces (error.render source).toList ∧
    Underlined upper lower line.toList indent carets

def lineWidth (span : Span) : Nat :=
  max (toString span.line).length 2

def margin (span : Span) : String :=
  " " ++ padLeft (lineWidth span) (toString span.line) ++ " " ++ styled "1;34" "|" ++ " "

def caretLine (source : String) (span : Span) (label : String) : String :=
  " " ++ padLeft (lineWidth span) "" ++ " " ++ styled "1;34" "|" ++ " " ++ repeated (span.column - 1) ' '
    ++ styled "1;31" (repeated (caretCount source span) '^') ++ " " ++ label

variable {error : SyntaxError} {source line : String} {span : Span}

theorem toList_excerpt (starts : span.line ≠ 0) (isLine : (Source.lines source)[span.line - 1]? = some line)
    (label : String) :
    (excerpt source span label).toList =
      ("  " ++ styled "1;34" "-->" ++ " col " ++ toString span.column).toList ++
        '\n' :: ((margin span).toList ++ line.toList ++ '\n' :: ((caretLine source span label).toList ++ ['\n'])) := by
  simp [excerpt, starts, isLine, margin, caretLine, lineWidth]

theorem shownAs_margin (span : Span) : ∃ visible, ShownAs (margin span).toList visible ∧
    visible.length = lineWidth span + 4 := by
  have number := shownAs_padLeft (lineWidth span) (shownAs_number span.line)
  have bar : ShownAs (styled "1;34" "|").toList ['|'] := shownAs_bar true
  have shownAs := (((shownAs_blank.append number).append shownAs_blank).append bar).append shownAs_blank
  refine ⟨_, by simpa only [margin, String.toList_append] using shownAs, ?_⟩
  have fits : (toString span.line).toList.length ≤ lineWidth span := by
    rw [String.length_toList]
    exact Nat.le_max_left _ _
  simp only [List.length_append, List.length_replicate, List.length_cons, List.length_nil]
  omega

theorem caretCount_pos (source : String) (span : Span) : 0 < caretCount source span := by
  unfold caretCount
  split <;> omega

theorem label_eq_or (error : SyntaxError) : error.label = "lexical error" ∨ error.label = "parse error" := by
  cases error <;> simp [label]

theorem shownAs_label (error : SyntaxError) :
    ShownAs error.label.toList error.label.toList ∧ '^' ∉ error.label.toList := by
  obtain isLabel | isLabel := error.label_eq_or <;> rw [isLabel] <;>
    exact ⟨shownAs_plain (by decide) (by decide), by decide⟩

theorem shownAs_caretLine (source : String) (span : Span) (error : SyntaxError) :
    ∃ blank, ShownAs (caretLine source span error.label).toList (blank ++ (List.replicate (span.column - 1) ' ' ++
      (List.replicate (caretCount source span) '^' ++ (' ' :: error.label.toList)))) ∧
        blank.length = lineWidth span + 4 ∧ '^' ∉ blank := by
  have filled : ShownAs (padLeft (lineWidth span) "").toList (List.replicate (lineWidth span) ' ') := by
    have nothing : ShownAs "".toList "".toList := shownAs_plain (by decide) (by decide)
    simpa using shownAs_padLeft (lineWidth span) nothing
  have bar : ShownAs (styled "1;34" "|").toList ['|'] := shownAs_bar true
  have front := (((shownAs_blank.append filled).append shownAs_blank).append bar).append shownAs_blank
  have carets : ShownAs (styled "1;31" (repeated (caretCount source span) '^')).toList _ := shownAs_carets _ true
  have shownAs := (((front.append (shownAs_blanks (span.column - 1))).append carets).append shownAs_blank).append
    error.shownAs_label.1
  refine ⟨[' '] ++ List.replicate (lineWidth span) ' ' ++ [' '] ++ ['|'] ++ [' '], ?_, by simp, by simp⟩
  simpa only [caretLine, String.toList_append, List.append_assoc, List.cons_append, List.nil_append] using shownAs

/-- The drawn error ends with the line of the text behind its margin, and the line with the carets. -/
theorem exists_pieces_render (isAt : error.span? = some span) (starts : span.line ≠ 0)
    (isLine : (Source.lines source)[span.line - 1]? = some line) (noFeed : '\n' ∉ line.toList) :
    ∃ heading, Source.pieces (error.render source).toList =
      heading ++ [(margin span).toList ++ line.toList, (caretLine source span error.label).toList, []] := by
  obtain ⟨visible, shownAs, -⟩ := shownAs_margin span
  obtain ⟨blank, shownAs', -⟩ := shownAs_caretLine source span error
  have noFeedUpper : '\n' ∉ (margin span).toList ++ line.toList := by simp [shownAs.oneLine, noFeed]
  have last : Source.pieces [] = [[]] := rfl
  unfold render
  rw [isAt]
  dsimp only
  rw [String.toList_append, toList_excerpt starts isLine, ← List.append_assoc, Source.pieces_append_feed,
    Source.pieces_append_feed, Source.pieces_append_feed, Source.pieces_of_notMem noFeedUpper,
    Source.pieces_of_notMem shownAs'.oneLine, last]
  exact ⟨_, rfl⟩

/-- The carets begin below the column of the span, and there is one for each of its characters. -/
theorem underlines_iff (isAt : error.span? = some span) (starts : span.line ≠ 0)
    (isLine : (Source.lines source)[span.line - 1]? = some line) (noFeed : '\n' ∉ line.toList) {indent carets : Nat} :
    error.Underlines source line indent carets ↔ indent = span.column - 1 ∧ carets = caretCount source span := by
  obtain ⟨visible, shownAs, width⟩ := shownAs_margin span
  obtain ⟨blank, shownAs', width', noCaret⟩ := shownAs_caretLine source span error
  have noCaretBehind : '^' ∉ ' ' :: error.label.toList := by simp [error.shownAs_label.2]
  rw [← underlined_iff shownAs shownAs' (width'.trans width.symm) noCaret noCaretBehind (caretCount_pos source span)]
  obtain ⟨heading, cut⟩ := exists_pieces_render isAt starts isLine noFeed
  constructor
  · rintro ⟨upper, lower, isEnd, underlined⟩
    obtain ⟨isUpper, isLower⟩ := (suffix_iff cut).1 isEnd
    rwa [isUpper, isLower] at underlined
  · intro underlined
    exact ⟨_, _, (suffix_iff cut).2 ⟨rfl, rfl⟩, underlined⟩

theorem excerpt_eq_empty (noLine : (Source.lines source)[span.line - 1]? = none) (label : String) :
    excerpt source span label = "" := by
  unfold excerpt
  dsimp only
  split
  · rfl
  · next isLine =>
    split at isLine
    · cases isLine
    · rw [noLine] at isLine
      cases isLine

end SyntaxError

namespace Notice

open Text

/-- The drawn lines show this line of the text with carets below it. -/
def Underlines (colours : Bool) (source : String) (span : Span) (line : String) (indent carets : Nat) : Prop :=
  ∃ upper lower, (excerpt colours source (some span)).map String.toList = [upper, lower] ∧
    Underlined upper lower line.toList indent carets

def margin (colours : Bool) (span : Span) : String :=
  paint colours "1;34" (toString (span.line - 1 + 1)) ++ " " ++ paint colours "1;34" "|" ++ " "

def caretLine (colours : Bool) (span : Span) : String :=
  repeated (toString (span.line - 1 + 1)).length ' ' ++ " " ++ paint colours "1;34" "|" ++ " "
    ++ repeated (span.column - 1) ' ' ++ paint colours "1;31" (repeated (caretCount span) '^')

variable {colours : Bool} {source line : String} {span : Span}

theorem excerpt_eq (isLine : (Source.lines source)[span.line - 1]? = some line) :
    excerpt colours source (some span) = [margin colours span ++ line, caretLine colours span] := by
  simp [excerpt, isLine, margin, caretLine]

theorem shownAs_margin (colours : Bool) (span : Span) : ∃ visible, ShownAs (margin colours span).toList visible ∧
    visible.length = (toString (span.line - 1 + 1)).length + 3 := by
  have plain := shownAs_number (span.line - 1 + 1)
  have number : ShownAs (paint colours "1;34" (toString (span.line - 1 + 1))).toList _ :=
    shownAs_paint plain.oneLine (notMem_toString rfl) (by decide) (by decide) colours
  have shownAs := ((number.append shownAs_blank).append (shownAs_bar colours)).append shownAs_blank
  refine ⟨_, by simpa only [margin, String.toList_append] using shownAs, ?_⟩
  simp only [List.length_append, String.length_toList, List.length_cons, List.length_nil]

theorem caretCount_pos (span : Span) : 0 < caretCount span :=
  Nat.le_max_right _ _

theorem shownAs_caretLine (colours : Bool) (span : Span) :
    ∃ blank, ShownAs (caretLine colours span).toList
      (blank ++ (List.replicate (span.column - 1) ' ' ++ (List.replicate (caretCount span) '^' ++ []))) ∧
        blank.length = (toString (span.line - 1 + 1)).length + 3 ∧ '^' ∉ blank := by
  have filled := shownAs_blanks (toString (span.line - 1 + 1)).length
  have front := ((filled.append shownAs_blank).append (shownAs_bar colours)).append shownAs_blank
  have shownAs := (front.append (shownAs_blanks (span.column - 1))).append (shownAs_carets (caretCount span) colours)
  refine ⟨List.replicate (toString (span.line - 1 + 1)).length ' ' ++ [' '] ++ ['|'] ++ [' '], ?_, by simp, by simp⟩
  simpa only [caretLine, String.toList_append, List.append_assoc, List.append_nil] using shownAs

theorem underlines_iff (isLine : (Source.lines source)[span.line - 1]? = some line) {indent carets : Nat} :
    Underlines colours source span line indent carets ↔ indent = span.column - 1 ∧ carets = caretCount span := by
  obtain ⟨visible, shownAs, width⟩ := shownAs_margin colours span
  obtain ⟨blank, shownAs', width', noCaret⟩ := shownAs_caretLine colours span
  rw [← underlined_iff shownAs shownAs' (width'.trans width.symm) noCaret List.not_mem_nil (caretCount_pos span)]
  have drawn : (excerpt colours source (some span)).map String.toList =
      [(margin colours span).toList ++ line.toList, (caretLine colours span).toList] := by
    rw [excerpt_eq isLine, List.map_cons, List.map_cons, List.map_nil, String.toList_append]
  constructor
  · rintro ⟨upper, lower, isDrawn, underlined⟩
    rw [drawn] at isDrawn
    simp only [List.cons.injEq, and_true] at isDrawn
    rwa [← isDrawn.1, ← isDrawn.2] at underlined
  · intro underlined
    exact ⟨_, _, drawn, underlined⟩

theorem excerpt_eq_nil (noLine : (Source.lines source)[span.line - 1]? = none) :
    excerpt colours source (some span) = [] := by
  simp [excerpt, noLine]

end Notice

/-! ## Characters and bytes -/

namespace Source

theorem length_le_byteCount (cs : List Char) : cs.length ≤ byteCount cs := by
  induction cs with
  | nil => exact Nat.le_refl 0
  | cons c cs inductionHypothesis =>
    have filled := c.utf8Size_pos
    rw [byteCount_cons, List.length_cons]
    omega

theorem length_eq_byteCount_iff (cs : List Char) : cs.length = byteCount cs ↔ ∀ c ∈ cs, c.utf8Size = 1 := by
  induction cs with
  | nil => simp [byteCount]
  | cons c cs inductionHypothesis =>
    have filled := c.utf8Size_pos
    have bound := length_le_byteCount cs
    rw [byteCount_cons, List.length_cons, List.forall_mem_cons, ← inductionHypothesis]
    omega

theorem max_length_eq_iff (cs : List Char) : max cs.length 1 = max (byteCount cs) 1 ↔ ∀ c ∈ cs, c.utf8Size = 1 := by
  rw [← length_eq_byteCount_iff]
  cases cs with
  | nil => simp [byteCount]
  | cons c cs =>
    have bound := length_le_byteCount (c :: cs)
    rw [List.length_cons] at bound ⊢
    omega

end Source

/-- The piece stands in a shown line behind this many characters; a carriage return at the end of the line is not
shown. -/
def StandsIn (line : String) (before piece behind : List Char) (indent : Nat) : Prop :=
  ∃ front rest, front <:+ before ∧ rest <+: behind ∧ front.length = indent ∧
    (line.toList = front ++ (piece ++ rest) ∨ line.toList ++ ['\r'] = front ++ (piece ++ rest))

/-- The piece is underlined twice in its line. Both runs of carets begin below its first character; in the one drawing
there is one caret for each of its characters and in the other one for each of its bytes, so that these runs are the
same exactly if every character takes one byte. -/
structure UnderlinedTwice (error : SyntaxError) (colours : Bool) (source : String) (span : Span)
    (before piece behind : List Char) (line : String) (indent : Nat) : Prop where
  isLine : (Source.lines source)[span.line - 1]? = some line
  stands : StandsIn line before piece behind indent
  read : ∀ {indent' carets}, error.Underlines source line indent' carets ↔
    indent' = indent ∧ carets = max piece.length 1
  told : ∀ {indent' carets}, Notice.Underlines colours source span line indent' carets ↔
    indent' = indent ∧ carets = max (Source.byteCount piece) 1
  alike : (∃ indent' carets, error.Underlines source line indent' carets ∧
    Notice.Underlines colours source span line indent' carets) ↔ ∀ c ∈ piece, c.utf8Size = 1

namespace Span.Marks

variable {source : String} {span : Span} {before piece behind : List Char}

theorem line_eq (marks : span.Marks before piece) : span.line = before.count '\n' + 1 := by
  rw [marks, Nat.add_comm]
  exact Position.line_start_after before

theorem column_eq (marks : span.Marks before piece) : span.column = Source.lastLineLength before + 1 := by
  rw [marks, Nat.add_comm]
  exact Position.column_start_after before

theorem start_eq (marks : span.Marks before piece) : span.start = Source.byteCount before := by
  rw [marks]
  exact Position.offset_start_after before

theorem stop_eq (marks : span.Marks before piece) : span.stop = Source.byteCount before + Source.byteCount piece := by
  rw [marks, ← Source.byteCount_append]
  exact Position.offset_start_after (before ++ piece)

theorem caretCount_read (marks : span.Marks before piece) (stands : source.toList = before ++ (piece ++ behind)) :
    SyntaxError.caretCount source span = max piece.length 1 := by
  rw [SyntaxError.caretCount, stands, marks.start_eq, marks.stop_eq, Source.slice?_append]

theorem caretCount_told (marks : span.Marks before piece) :
    Notice.caretCount span = max (Source.byteCount piece) 1 := by
  rw [Notice.caretCount, marks.start_eq, marks.stop_eq, Nat.add_sub_cancel_left]

end Span.Marks

/-- A piece of one line is underlined twice, or it is an empty one at the end of a text of which no line is shown
there. -/
theorem underlined_twice {source : String} {before piece behind : List Char} {span : Span} {error : SyntaxError}
    (stands : source.toList = before ++ (piece ++ behind)) (oneLine : '\n' ∉ piece) (marks : span.Marks before piece)
    (isAt : error.span? = some span) (colours : Bool) :
    (∃ line indent, UnderlinedTwice error colours source span before piece behind line indent) ∨
      piece = [] ∧ SyntaxError.excerpt source span error.label = "" ∧
        Notice.excerpt colours source (some span) = [] := by
  have index : span.line - 1 = before.count '\n' := by rw [marks.line_eq, Nat.add_sub_cancel]
  have starts : span.line ≠ 0 := by
    rw [marks.line_eq]
    exact Nat.succ_ne_zero _
  obtain ⟨noLine, isEmpty⟩ | ⟨line, front, rest, isLine, noFeed, isSuffix, isPrefix, width, isShown⟩ :=
    Source.exists_line oneLine stands
  · rw [← index] at noLine
    exact .inr ⟨isEmpty, SyntaxError.excerpt_eq_empty noLine error.label, Notice.excerpt_eq_nil noLine⟩
  · rw [← index] at isLine
    have column : span.column - 1 = front.length := by rw [marks.column_eq, Nat.add_sub_cancel, width]
    have read {indent carets : Nat} : error.Underlines source line indent carets ↔
        indent = front.length ∧ carets = max piece.length 1 := by
      rw [SyntaxError.underlines_iff isAt starts isLine noFeed, column, marks.caretCount_read stands]
    have told {indent carets : Nat} : Notice.Underlines colours source span line indent carets ↔
        indent = front.length ∧ carets = max (Source.byteCount piece) 1 := by
      rw [Notice.underlines_iff isLine, column, marks.caretCount_told]
    refine .inl ⟨line, front.length, isLine, ⟨front, rest, isSuffix, isPrefix, rfl, isShown⟩, read, told, ?_⟩
    rw [← Source.max_length_eq_iff]
    constructor
    · rintro ⟨indent, carets, isRead, isTold⟩
      exact (read.1 isRead).2.symm.trans (told.1 isTold).2
    · intro same
      exact ⟨front.length, max piece.length 1, read.2 ⟨rfl, rfl⟩, told.2 ⟨rfl, same⟩⟩

/-- A text of two lines, with a character of two bytes in the piece. -/
theorem underlined_twice_second_line :
    "f(1)\n \"é\" ]".toList = "f(1)\n ".toList ++ ("\"é\"".toList ++ " ]".toList) ∧ '\n' ∉ "\"é\"".toList ∧
      Span.Marks ⟨2, 2, 6, 10⟩ "f(1)\n ".toList "\"é\"".toList ∧
      (SyntaxError.tooDeep ⟨2, 2, 6, 10⟩).span? = some ⟨2, 2, 6, 10⟩ ∧
      ∃ line indent, UnderlinedTwice (.tooDeep ⟨2, 2, 6, 10⟩) true "f(1)\n \"é\" ]" ⟨2, 2, 6, 10⟩ "f(1)\n ".toList
        "\"é\"".toList " ]".toList line indent := by
  have stands : "f(1)\n \"é\" ]".toList = "f(1)\n ".toList ++ ("\"é\"".toList ++ " ]".toList) := by decide
  have oneLine : '\n' ∉ "\"é\"".toList := by decide
  have marks : Span.Marks ⟨2, 2, 6, 10⟩ "f(1)\n ".toList "\"é\"".toList := by
    unfold Span.Marks
    decide
  refine ⟨stands, oneLine, marks, rfl, ?_⟩
  obtain twice | ⟨isEmpty, -⟩ := underlined_twice stands oneLine marks
    (show (SyntaxError.tooDeep ⟨2, 2, 6, 10⟩).span? = some ⟨2, 2, 6, 10⟩ from rfl) true
  · exact twice
  · exact absurd isEmpty (by decide)

/-- A string with a character of two bytes is refused, and of the two runs of carets below it the one is longer. -/
theorem exists_underlined_apart :
    ∃ (source line : String) (error : SyntaxError) (span : Span) (before piece behind : List Char),
      Expr.parse source = .error error ∧ error.span? = some span ∧ source.toList = before ++ (piece ++ behind) ∧
        '\n' ∉ piece ∧ span.Marks before piece ∧ error.Underlines source line 2 3 ∧
        Notice.Underlines false source span line 2 4 ∧
        ¬ ∃ indent carets, error.Underlines source line indent carets ∧
          Notice.Underlines false source span line indent carets := by
  obtain ⟨error, refused, isAt⟩ :
      ∃ error, Expr.parse "1 \"é\"" = .error error ∧ error.span? = some ⟨1, 3, 2, 6⟩ :=
    ⟨.unexpectedToken "end of expression" "string \"é\"" ⟨1, 3, 2, 6⟩, by cbv, rfl⟩
  have isLine : (Source.lines "1 \"é\"")[0]? = some "1 \"é\"" := by decide
  have noFeed : '\n' ∉ "1 \"é\"".toList := by decide
  have read {indent carets : Nat} : error.Underlines "1 \"é\"" "1 \"é\"" indent carets ↔ indent = 2 ∧ carets = 3 :=
    SyntaxError.underlines_iff isAt Nat.one_ne_zero isLine noFeed
  have told {indent carets : Nat} :
      Notice.Underlines false "1 \"é\"" ⟨1, 3, 2, 6⟩ "1 \"é\"" indent carets ↔ indent = 2 ∧ carets = 4 :=
    Notice.underlines_iff isLine
  have marks : Span.Marks ⟨1, 3, 2, 6⟩ "1 ".toList "\"é\"".toList := by
    unfold Span.Marks
    decide
  refine ⟨"1 \"é\"", "1 \"é\"", error, ⟨1, 3, 2, 6⟩, "1 ".toList, "\"é\"".toList, [], refused, isAt, by decide,
    by decide, marks, read.2 ⟨rfl, rfl⟩, told.2 ⟨rfl, rfl⟩, ?_⟩
  rintro ⟨indent, carets, isRead, isTold⟩
  have same := (read.1 isRead).2.symm.trans (told.1 isTold).2
  exact absurd same (by decide)

end LateBound
