import LateBound.Proofs.Precedence
import LateBound.Proofs.Segments

/-!
# Segments of balanced texts

Outside quotes and brackets is where the text up to there is balanced: its quotes are closed and its brackets match.
Said so, it takes no scanner to know which separators of a text count, and where the two sides of an assignment part.
In a balanced text the scanner of segments stands at top level in the same places. So it cuts a text that has been
joined of segments into these segments again, and a segment at the first sign of assignment outside quotes and brackets.
-/

namespace LateBound.Initialiser

def brackets : List (Char × Char) :=
  [('(', ')'), ('[', ']'), ('\x7b', '\x7d')]

/-- The quotes of the text are closed, and its brackets match. -/
inductive Balanced : List Char → Prop
  | nil : Balanced []
  | plain {c : Char} {text : List Char} : c ∉ marks → Balanced text → Balanced (c :: text)
  | quoted {inner text : List Char} : InQuotes inner → Balanced text → Balanced ('"' :: (inner ++ '"' :: text))
  | bracketed {opening closing : Char} {inner text : List Char} : (opening, closing) ∈ brackets → Balanced inner →
      Balanced text → Balanced (opening :: (inner ++ closing :: text))

theorem balanced_of_plain {text : List Char} (plain : ∀ c ∈ text, c ∉ marks) : Balanced text := by
  induction text with
  | nil => exact .nil
  | cons c text inductionHypothesis =>
    obtain ⟨here, behind⟩ := List.forall_mem_cons.1 plain
    exact .plain here (inductionHypothesis behind)

theorem Balanced.append {first second : List Char} (balanced : Balanced first) (behind : Balanced second) :
    Balanced (first ++ second) := by
  induction balanced with
  | nil => exact behind
  | plain noMark _ inductionHypothesis => exact .plain noMark inductionHypothesis
  | quoted inside _ inductionHypothesis => simpa using Balanced.quoted inside inductionHypothesis
  | bracketed isBracket inner _ _ inductionHypothesis => simpa using Balanced.bracketed isBracket inner inductionHypothesis

/-! ## Scanning -/

theorem foldl_quotes {inner : List Char} (inside : InQuotes inner) (depth : Nat) (text : List Char) :
    (inner ++ '"' :: text).foldl Scan.next (.at true depth) = text.foldl Scan.next (.at false depth) := by
  have closed : (inner ++ ['"']).foldl Scan.next (.at true depth) = .at false depth :=
    (passes_string inside (.nil (.at false depth))).foldl_eq
  rw [← List.singleton_append, ← List.append_assoc, List.foldl_append, closed]

theorem next_opening {opening closing : Char} (isBracket : (opening, closing) ∈ brackets) (depth : Nat) :
    (Scan.at false depth).next opening = .at false (depth + 1) := by
  simp only [brackets, List.mem_cons, List.not_mem_nil, or_false, Prod.mk.injEq] at isBracket
  obtain ⟨rfl, -⟩ | ⟨rfl, -⟩ | ⟨rfl, -⟩ := isBracket <;> rfl

theorem next_closing {opening closing : Char} (isBracket : (opening, closing) ∈ brackets) (depth : Nat) :
    (Scan.at false (depth + 1)).next closing = .at false depth := by
  simp only [brackets, List.mem_cons, List.not_mem_nil, or_false, Prod.mk.injEq] at isBracket
  obtain ⟨-, rfl⟩ | ⟨-, rfl⟩ | ⟨-, rfl⟩ := isBracket <;> rfl

/-- A scan goes over a balanced text and comes back to where it was. -/
theorem Balanced.foldl_eq {text : List Char} (balanced : Balanced text) (depth : Nat) :
    text.foldl Scan.next (.at false depth) = .at false depth := by
  induction balanced generalizing depth with
  | nil => rfl
  | plain noMark _ inductionHypothesis => rw [List.foldl_cons, Scan.next_plain noMark, inductionHypothesis]
  | quoted inside _ inductionHypothesis => exact (foldl_quotes inside depth _).trans (inductionHypothesis depth)
  | bracketed isBracket _ _ inner behind =>
    rw [List.foldl_cons, next_opening isBracket, List.foldl_append, inner, List.foldl_cons, next_closing isBracket, behind]

/-! ## The top level -/

theorem append_eq_append_cons {front behind inner text : List Char} {mark : Char}
    (same : front ++ behind = inner ++ mark :: text) :
    (∃ more, inner = front ++ more) ∨ ∃ rest, front = inner ++ mark :: rest ∧ text = rest ++ behind := by
  obtain ⟨more, isInner, -⟩ | ⟨rest, isFront, isBehind⟩ := List.append_eq_append_iff.1 same
  · exact .inl ⟨more, isInner⟩
  · cases rest with
    | nil => exact .inl ⟨[], by simpa using isFront.symm⟩
    | cons c rest =>
      obtain ⟨rfl, rfl⟩ := List.cons.inj isBehind
      exact .inr ⟨rest, isFront, rfl⟩

theorem quoted_of_scan {inner front more : List Char} (inside : InQuotes inner) (isInner : inner = front ++ more)
    (depth : Nat) : (front.foldl Scan.next (.at true depth)).quoted = true := by
  induction inside generalizing front with
  | nil =>
    obtain ⟨rfl, -⟩ := List.append_eq_nil_iff.1 isInner.symm
    rfl
  | escaped c _ inductionHypothesis =>
    match front, isInner with
    | [], _ => rfl
    | [d], isInner =>
      obtain ⟨rfl, -⟩ := List.cons.inj isInner
      rfl
    | d :: e :: front, isInner =>
      obtain ⟨rfl, isTail⟩ := List.cons.inj isInner
      obtain ⟨rfl, isRest⟩ := List.cons.inj isTail
      have crossed := inductionHypothesis isRest
      exact crossed
  | @plain c inner noQuote noEscape _ inductionHypothesis =>
    match front, isInner with
    | [], _ => rfl
    | d :: front, isInner =>
      obtain ⟨rfl, isRest⟩ := List.cons.inj isInner
      rw [List.foldl_cons, Scan.next_quoted noQuote noEscape]
      exact inductionHypothesis isRest

/-- Where a scan has come to in a balanced text, either the text up to there is balanced or a quote or a bracket is
open. -/
theorem Balanced.scan_front {text : List Char} (balanced : Balanced text) {front behind : List Char}
    (isText : text = front ++ behind) (depth : Nat) :
    Balanced front ∨ (front.foldl Scan.next (.at false depth)).quoted = true ∨
      depth < (front.foldl Scan.next (.at false depth)).depth := by
  induction balanced generalizing front behind depth with
  | nil =>
    obtain ⟨rfl, -⟩ := List.append_eq_nil_iff.1 isText.symm
    exact .inl .nil
  | @plain c text noMark _ inductionHypothesis =>
    match front, isText with
    | [], _ => exact .inl .nil
    | d :: front, isText =>
      obtain ⟨rfl, isRest⟩ := List.cons.inj isText
      rw [List.foldl_cons, Scan.next_plain noMark]
      exact (inductionHypothesis isRest depth).imp_left (.plain noMark)
  | quoted inside _ inductionHypothesis =>
    match front, isText with
    | [], _ => exact .inl .nil
    | d :: front, isText =>
      obtain ⟨rfl, isRest⟩ := List.cons.inj isText
      obtain ⟨more, isInner⟩ | ⟨rest, rfl, isBehind⟩ := append_eq_append_cons isRest.symm
      · exact .inr (.inl (quoted_of_scan inside isInner depth))
      · have crossed : ('"' :: (_ ++ '"' :: rest)).foldl Scan.next (.at false depth) = _ := foldl_quotes inside depth rest
        rw [crossed]
        exact (inductionHypothesis isBehind depth).imp_left (.quoted inside)
  | bracketed isBracket balanced _ inner rest =>
    match front, isText with
    | [], _ => exact .inl .nil
    | d :: front, isText =>
      obtain ⟨rfl, isRest⟩ := List.cons.inj isText
      rw [List.foldl_cons, next_opening isBracket]
      obtain ⟨more, isInner⟩ | ⟨others, rfl, isBehind⟩ := append_eq_append_cons isRest.symm
      · obtain closed | isQuoted | deeper := inner isInner (depth + 1)
        · rw [closed.foldl_eq]
          exact .inr (.inr (Nat.lt_succ_self depth))
        · exact .inr (.inl isQuoted)
        · exact .inr (.inr (Nat.lt_of_succ_lt deeper))
      · rw [List.foldl_append, balanced.foldl_eq, List.foldl_cons, next_closing isBracket]
        exact (rest isBehind depth).imp_left (.bracketed isBracket balanced)

theorem Scan.atTop_iff {scan : Scan} {c : Char} :
    scan.atTop c = true ↔ scan.quoted = false ∧ scan.depth = 0 ∧ c ∉ marks := by
  have sameMarks : "\"([\x7b)]\x7d".toList = marks := by decide
  simp only [atTop, sameMarks, Bool.and_eq_true, Bool.not_eq_true', beq_iff_eq, List.all_eq_true, bne_iff_ne, and_assoc]
  refine and_congr_right fun _ => and_congr_right fun _ => ⟨fun others inside => others c inside rfl, ?_⟩
  rintro noMark _ inside rfl
  exact noMark inside

theorem Balanced.of_scan {front behind : List Char} (balanced : Balanced (front ++ behind))
    (ended : front.foldl Scan.next .start = .start) : Balanced front := by
  have ended : front.foldl Scan.next (.at false 0) = .at false 0 := ended
  obtain closed | isQuoted | deeper := balanced.scan_front rfl 0
  · exact closed
  · rw [ended] at isQuoted
    cases isQuoted
  · rw [ended] at deeper
    cases deeper

theorem Balanced.atTop_iff {front behind : List Char} {c : Char} (balanced : Balanced (front ++ c :: behind)) :
    (front.foldl Scan.next .start).atTop c = true ↔ Balanced front ∧ c ∉ marks := by
  rw [Scan.atTop_iff]
  constructor
  · rintro ⟨noQuote, noDepth, noMark⟩
    obtain closed | isQuoted | deeper := balanced.scan_front rfl 0
    · exact ⟨closed, noMark⟩
    · exact absurd isQuoted (Bool.eq_false_iff.1 noQuote)
    · exact absurd deeper (Nat.not_lt.2 (Nat.le_of_eq noDepth))
  · rintro ⟨closed, noMark⟩
    have ended : front.foldl Scan.next .start = .start := closed.foldl_eq 0
    rw [ended]
    exact ⟨rfl, rfl, noMark⟩

/-! ## Segments -/

/-- The text may stand between two separators: it is not blank, its quotes are closed, its brackets match, and outside
of both there is no separator. -/
structure IsSegment (text : List Char) : Prop where
  filled : ∃ c ∈ text, Text.isBlank c = false
  balanced : Balanced text
  whole : ∀ before c behind, text = before ++ c :: behind → Balanced before → c ≠ ',' ∧ c ≠ ';'

theorem isSegment_of_unseparated {text : List Char} (filled : text.any (fun c => !Text.isBlank c) = true)
    (balanced : Balanced text) (whole : text.all (fun c => c != ',' && c != ';') = true) : IsSegment text where
  filled := by simpa using filled
  balanced := balanced
  whole before c behind isText _ := by
    have inside : c ∈ text := isText ▸ List.mem_append_right _ List.mem_cons_self
    simpa using List.all_eq_true.1 whole c inside

theorem exists_of_mem_marked {scan : Scan} {text : List Char} {entry : Char × Bool} (inside : entry ∈ marked scan text) :
    ∃ before behind, text = before ++ entry.1 :: behind ∧ entry.2 = (before.foldl Scan.next scan).atTop entry.1 := by
  induction text generalizing scan with
  | nil => cases inside
  | cons c text inductionHypothesis =>
    obtain rfl | inside := List.mem_cons.1 inside
    · exact ⟨[], text, rfl, rfl⟩
    · obtain ⟨before, behind, rfl, isTop⟩ := inductionHypothesis inside
      exact ⟨c :: before, behind, rfl, isTop⟩

/-- A segment is not cut, for at top level what stands before a character is balanced. -/
theorem IsSegment.uncut {text : List Char} (segment : IsSegment text) : Uncut text where
  ends := segment.balanced.foldl_eq 0
  unseparated := by
    intro entry inside
    obtain ⟨before, behind, isText, isMarked⟩ := exists_of_mem_marked inside
    have balanced := segment.balanced
    rw [isText] at balanced
    by_cases isTop : entry.2 = true
    · have atTop := isMarked.symm.trans isTop
      have noSeparator := segment.whole before entry.1 behind isText (balanced.atTop_iff.1 atTop).1
      simp [noSeparator]
    · rw [Bool.eq_false_iff.2 isTop, Bool.false_and]

/-- A balanced text may stand between the brackets of an initialiser. -/
theorem Balanced.inBrackets {text : List Char} (balanced : Balanced text) {depth : Nat} {behind : List Char}
    (rest : InBrackets depth false behind) : InBrackets depth false (text ++ behind) := by
  induction balanced generalizing depth behind with
  | nil => exact rest
  | plain noMark _ inductionHypothesis =>
    simp only [marks, List.mem_cons, List.not_mem_nil, or_false, not_or] at noMark
    exact .plain noMark.1 noMark.2.2.1 noMark.2.2.2.2.2.1 (inductionHypothesis rest)
  | quoted inside _ inductionHypothesis =>
    simpa using InBrackets.quote (inside.inBrackets (inductionHypothesis rest))
  | bracketed isBracket _ _ inner text =>
    rw [List.cons_append, List.append_assoc, List.cons_append]
    simp only [brackets, List.mem_cons, List.not_mem_nil, or_false, Prod.mk.injEq] at isBracket
    obtain ⟨rfl, rfl⟩ | ⟨rfl, rfl⟩ | ⟨rfl, rfl⟩ := isBracket
    · exact .plain (by decide) (by decide) (by decide) (inner (.plain (by decide) (by decide) (by decide) (text rest)))
    · exact .opening (inner (.closing (text rest)))
    · exact .plain (by decide) (by decide) (by decide) (inner (.plain (by decide) (by decide) (by decide) (text rest)))

/-! ## Assignments -/

/-- Between these texts the character is a sign of assignment: a mark of equality, or a colon beside no other. -/
def IsSign (before : List Char) (sign : Char) (behind : List Char) : Prop :=
  sign = '=' ∨ sign = ':' ∧ before.getLast? ≠ some ':' ∧ behind.head? ≠ some ':'

/-- Between the two sides of the text stands a sign of assignment, outside quotes and brackets. `front` is what stands
before the text. -/
def Parts (front text name value : List Char) : Prop :=
  ∃ sign, text = name ++ sign :: value ∧ Balanced (front ++ name) ∧ IsSign (front ++ name) sign value

/-- The segment is an assignment: its sides are those of the first sign of assignment outside quotes and brackets. -/
def Assigns (segment name value : List Char) : Prop :=
  Parts [] segment name value ∧ ∀ before behind, Parts [] segment before behind → name.length ≤ before.length

theorem parts_cons {front text : List Char} {c : Char} {name value : List Char} :
    Parts front (c :: text) name value ↔ (name = [] ∧ value = text ∧ Balanced front ∧ IsSign front c text) ∨
      ∃ rest, name = c :: rest ∧ Parts (front ++ [c]) text rest value := by
  constructor
  · rintro ⟨sign, isText, balanced, isSign⟩
    match name, isText with
    | [], isText =>
      obtain ⟨rfl, rfl⟩ := List.cons.inj isText
      rw [List.append_nil] at balanced isSign
      exact .inl ⟨rfl, rfl, balanced, isSign⟩
    | d :: rest, isText =>
      obtain ⟨rfl, isRest⟩ := List.cons.inj isText
      refine .inr ⟨rest, rfl, sign, isRest, ?_⟩
      simpa using And.intro balanced isSign
  · rintro (⟨rfl, rfl, balanced, isSign⟩ | ⟨rest, rfl, sign, rfl, balanced, isSign⟩)
    · refine ⟨c, rfl, ?_⟩
      simpa using And.intro balanced isSign
    · refine ⟨sign, rfl, ?_⟩
      simpa using And.intro balanced isSign

theorem startsWithColon_cons (c : Char) (top : Bool) (rest : List (Char × Bool)) :
    startsWithColon ((c, top) :: rest) = (c == ':' && top) := by
  by_cases isColon : c = ':'
  · subst isColon
    cases top <;> rfl
  · simp [startsWithColon, isColon]

theorem startsWithColon_iff (text : List Char) : startsWithColon (marked .start text) = true ↔ text.head? = some ':' := by
  cases text with
  | nil => exact iff_of_false nofun nofun
  | cons c text =>
    have top : c = ':' → Scan.start.atTop c = true := by
      rintro rfl
      rfl
    simpa [marked, startsWithColon_cons] using top

theorem Scan.next_colon_eq_start_iff (scan : Scan) : scan.next ':' = .start ↔ scan = .start := by
  obtain ⟨depth, quoted, escaped⟩ := scan
  cases quoted <;> cases escaped <;> simp [next, start]

theorem stops_iff {front text : List Char} {c : Char} (balanced : Balanced (front ++ c :: text)) {behindColon : Bool}
    (colon : behindColon = true ↔ Balanced front ∧ front.getLast? = some ':') :
    let scan := front.foldl Scan.next .start
    (scan.atTop c && (c == '=' || (c == ':' && !behindColon && !startsWithColon (marked (scan.next c) text)))) = true ↔
      Balanced front ∧ IsSign front c text := by
  intro scan
  have atTop : scan.atTop c = true ↔ _ := balanced.atTop_iff
  by_cases isTop : Balanced front ∧ c ∉ marks
  · obtain ⟨closed, noMark⟩ := isTop
    have ended : scan = .start := closed.foldl_eq 0
    have stays : scan.next c = .start := by
      rw [ended]
      exact Scan.next_plain noMark 0
    have noColon : behindColon = false ↔ front.getLast? ≠ some ':' := by
      rw [← Bool.not_eq_true, colon]
      simp [closed]
    have noColonBehind : startsWithColon (marked .start text) = false ↔ text.head? ≠ some ':' := by
      rw [← Bool.not_eq_true, startsWithColon_iff]
    simp [atTop.2 ⟨closed, noMark⟩, stays, IsSign, closed, noColon, noColonBehind, and_assoc]
  · rw [Bool.eq_false_iff.2 fun top => isTop (atTop.1 top), Bool.false_and]
    refine iff_of_false nofun fun ⟨closed, isSign⟩ => isTop ⟨closed, ?_⟩
    obtain rfl | ⟨rfl, -⟩ := isSign <;> decide

theorem behindColon_iff {front text : List Char} {c : Char} (balanced : Balanced (front ++ c :: text)) :
    ((front.foldl Scan.next .start).atTop c && c == ':') = true ↔
      Balanced (front ++ [c]) ∧ (front ++ [c]).getLast? = some ':' := by
  by_cases isColon : c = ':'
  · subst isColon
    have closed : Balanced (front ++ [':']) ↔ Balanced front := by
      refine ⟨fun closed => balanced.of_scan ?_, fun closed => closed.append (.plain (by decide) .nil)⟩
      have ended : (front ++ [':']).foldl Scan.next .start = .start := closed.foldl_eq 0
      rw [List.foldl_append] at ended
      exact (Scan.next_colon_eq_start_iff _).1 ended
    simp [balanced.atTop_iff, closed, marks]
  · simp [isColon]

theorem first_cutAssignment {front text : List Char} (balanced : Balanced (front ++ text)) {behindColon : Bool}
    (colon : behindColon = true ↔ Balanced front ∧ front.getLast? = some ':') :
    FirstOf (fun (place : ℕ) sides => sides.1.length = place ∧ Parts front text sides.1 sides.2)
      (cutAssignment behindColon (marked (front.foldl Scan.next .start) text)) := by
  induction text generalizing front behindColon with
  | nil =>
    intro place sides ⟨_, sign, isText, _⟩
    exact absurd isText.symm (by simp)
  | cons c text inductionHypothesis =>
    have stops := stops_iff balanced colon
    have further : Balanced ((front ++ [c]) ++ text) := by simpa using balanced
    have behind := inductionHypothesis further (behindColon_iff balanced)
    rw [List.foldl_append] at behind
    rw [marked, cutAssignment]
    dsimp only at stops ⊢
    split
    · next isStop =>
      rw [map_fst_marked]
      obtain ⟨closed, isSign⟩ := stops.1 isStop
      exact ⟨0, ⟨rfl, parts_cons.2 (.inl ⟨rfl, rfl, closed, isSign⟩)⟩, fun other _ _ => Nat.zero_le other⟩
    · next goesOn =>
      refine (behind.map fun sides => (c :: sides.1, sides.2)).rename (· + 1) (fun _ _ => Nat.succ_le_succ) ?_ ?_
      · rintro place sides ⟨⟨name, value⟩, ⟨isPlace, parts⟩, rfl⟩
        exact ⟨congrArg (· + 1) isPlace, parts_cons.2 (.inr ⟨name, rfl, parts⟩)⟩
      · rintro place ⟨name, value⟩ ⟨isPlace, parts⟩
        obtain ⟨-, -, closed, isSign⟩ | ⟨rest, rfl, parts⟩ := parts_cons.1 parts
        · exact absurd (stops.2 ⟨closed, isSign⟩) goesOn
        · exact ⟨rest.length, _, ⟨(rest, value), ⟨rfl, parts⟩, rfl⟩, Nat.le_of_eq isPlace⟩

variable {text name value : List Char}

/-- A balanced text is cut where it is an assignment. -/
theorem assignment?_eq_some_iff (balanced : Balanced text) :
    assignment? text = some (name, value) ↔ Assigns text name value := by
  have noColon : false = true ↔ Balanced [] ∧ ([] : List Char).getLast? = some ':' := iff_of_false nofun nofun
  have first : FirstOf _ (assignment? text) := first_cutAssignment (List.nil_append text ▸ balanced) noColon
  constructor
  · intro cut
    rw [cut] at first
    obtain ⟨place, ⟨isPlace, parts⟩, least⟩ := first
    refine ⟨parts, fun before behind earlier => ?_⟩
    rw [isPlace]
    exact least _ (before, behind) ⟨rfl, earlier⟩
  · rintro ⟨parts, least⟩
    cases cut : assignment? text with
    | none =>
      rw [cut] at first
      exact absurd ⟨rfl, parts⟩ (first name.length (name, value))
    | some sides =>
      obtain ⟨before, behind⟩ := sides
      rw [cut] at first
      obtain ⟨place, ⟨isPlace, earlier⟩, isLeast⟩ := first
      have same : before.length = name.length :=
        Nat.le_antisymm (isPlace ▸ isLeast _ (name, value) ⟨rfl, parts⟩) (least before behind earlier)
      obtain ⟨sign, isText, -⟩ := parts
      obtain ⟨other, isTextToo, -⟩ := earlier
      obtain ⟨isName, isRest⟩ := List.append_inj (isTextToo.symm.trans isText) same
      exact congrArg some (Prod.ext isName (List.cons.inj isRest).2)

theorem assignment?_eq_none_iff (balanced : Balanced text) :
    assignment? text = none ↔ ∀ name value, ¬ Assigns text name value := by
  simp only [← assignment?_eq_some_iff balanced, Option.eq_none_iff_forall_not_mem, Option.mem_def, Prod.forall]

theorem assigns_of_plain {sign : Char} (plain : ∀ c ∈ name, c ∉ marks ∧ c ≠ '=' ∧ c ≠ ':')
    (isSign : sign = '=' ∨ sign = ':' ∧ value.head? ≠ some ':') : Assigns (name ++ sign :: value) name value := by
  have noColon : name.getLast? ≠ some ':' := fun isLast => (plain _ (List.mem_of_getLast? isLast)).2.2 rfl
  refine ⟨⟨sign, rfl, balanced_of_plain fun c inside => (plain c inside).1, ?_⟩, ?_⟩
  · exact isSign.imp_right fun ⟨isColon, noOther⟩ => ⟨isColon, noColon, noOther⟩
  · rintro before behind ⟨other, isText, -, isSignToo⟩
    obtain ⟨more, rfl⟩ | ⟨rest, isName, -⟩ := append_eq_append_cons isText
    · rw [List.length_append]
      exact Nat.le_add_right ..
    · obtain ⟨-, noEquals, noColon⟩ := plain other (isName ▸ by simp)
      obtain isEquals | ⟨isColon, -⟩ := isSignToo
      · exact absurd isEquals noEquals
      · exact absurd isColon noColon

/-! ### Blanks -/

theorem ne_sign_of_isBlank {c : Char} (isBlank : Text.isBlank c = true) : c ≠ '=' ∧ c ≠ ':' :=
  ⟨ne_of_isBlank isBlank rfl, ne_of_isBlank isBlank rfl⟩

theorem noMark_of_isBlank {c : Char} (isBlank : Text.isBlank c = true) : c ∉ marks := by
  have noBlank : ∀ mark ∈ marks, Text.isBlank mark = false := List.forall_iff_forall_mem.1 (by decide)
  exact fun isMark => Bool.eq_false_iff.1 (noBlank c isMark) isBlank

theorem cutAssignment_of_blanks {blanks : List Char} (all : ∀ c ∈ blanks, Text.isBlank c = true) (scan : Scan)
    (behindColon : Bool) : cutAssignment behindColon (marked scan blanks) = none := by
  refine cutAssignment_eq_none (fun entry inside _ => ne_sign_of_isBlank (all entry.1 ?_)) behindColon
  rw [← map_fst_marked scan blanks]
  exact List.mem_map_of_mem inside

theorem assignment?_blanks_append {blanks : List Char} (all : ∀ c ∈ blanks, Text.isBlank c = true) (text : List Char) :
    assignment? (blanks ++ text) = (assignment? text).map fun sides => (blanks ++ sides.1, sides.2) := by
  induction blanks with
  | nil => simp
  | cons c blanks inductionHypothesis =>
    obtain ⟨isBlank, all⟩ := List.forall_mem_cons.1 all
    have stays : Scan.start.next c = .start := Scan.next_plain (noMark_of_isBlank isBlank) 0
    have inductionHypothesis := inductionHypothesis all
    unfold assignment? at inductionHypothesis ⊢
    rw [List.cons_append, marked, cutAssignment, stays]
    have noEquals : (c == '=') = false := beq_eq_false_iff_ne.2 (ne_sign_of_isBlank isBlank).1
    have noColon : (c == ':') = false := beq_eq_false_iff_ne.2 (ne_sign_of_isBlank isBlank).2
    simp [noEquals, noColon, inductionHypothesis, Option.map_map, Function.comp_def]

theorem cutAssignment_append_blanks {blanks : List Char} (all : ∀ c ∈ blanks, Text.isBlank c = true) (text : List Char)
    (scan : Scan) (behindColon : Bool) :
    cutAssignment behindColon (marked scan (text ++ blanks)) =
      (cutAssignment behindColon (marked scan text)).map fun sides => (sides.1, sides.2 ++ blanks) := by
  induction text generalizing scan behindColon with
  | nil => exact cutAssignment_of_blanks all scan behindColon
  | cons c text inductionHypothesis =>
    have colons (scan : Scan) : startsWithColon (marked scan (text ++ blanks)) = startsWithColon (marked scan text) := by
      match text, blanks, all with
      | [], [], _ => rfl
      | [], d :: blanks, all =>
        have noColon := (ne_sign_of_isBlank (List.forall_mem_cons.1 all).1).2
        simp [marked, startsWithColon, noColon]
      | d :: text, blanks, _ => simp [marked, startsWithColon_cons]
    rw [List.cons_append, marked, marked, cutAssignment, cutAssignment]
    dsimp only
    rw [colons, inductionHypothesis]
    split
    · simp
    · simp [Option.map_map, Function.comp_def]

theorem trimChars_blanks_append {blanks : List Char} (all : ∀ c ∈ blanks, Text.isBlank c = true) (text : List Char) :
    Text.trimChars (blanks ++ text) = Text.trimChars text := by
  unfold Text.trimChars
  rw [List.dropWhile_append_of_pos all]

theorem trimChars_append_blanks {blanks : List Char} (all : ∀ c ∈ blanks, Text.isBlank c = true) (text : List Char) :
    Text.trimChars (text ++ blanks) = Text.trimChars text := by
  unfold Text.trimChars
  rw [List.dropWhile_append]
  split
  · next none =>
    have gone : blanks.dropWhile Text.isBlank = [] := List.dropWhile_eq_nil_iff.2 all
    rw [gone, List.isEmpty_iff.1 none]
  · rw [List.reverse_append, List.dropWhile_append_of_pos fun c inside => all c (List.mem_reverse.1 inside)]

theorem exists_trimChars (text : List Char) : ∃ front behind, text = front ++ (Text.trimChars text ++ behind) ∧
    (∀ c ∈ front, Text.isBlank c = true) ∧ ∀ c ∈ behind, Text.isBlank c = true := by
  let core := (text.dropWhile Text.isBlank).reverse
  have isCore : core.takeWhile Text.isBlank ++ core.dropWhile Text.isBlank = core := List.takeWhile_append_dropWhile
  refine ⟨text.takeWhile Text.isBlank, (core.takeWhile Text.isBlank).reverse, ?_, ?_, ?_⟩
  · have trimmed : Text.trimChars text = (core.dropWhile Text.isBlank).reverse := rfl
    rw [trimmed, ← List.reverse_append, isCore, List.reverse_reverse, List.takeWhile_append_dropWhile]
  · exact fun c inside => List.mem_takeWhile_imp inside
  · exact fun c inside => List.mem_takeWhile_imp (List.mem_reverse.1 inside)

theorem IsSegment.trimChars_ne_nil {text : List Char} (segment : IsSegment text) : Text.trimChars text ≠ [] := by
  obtain ⟨front, behind, isText, inFront, isBehind⟩ := exists_trimChars text
  intro isEmpty
  obtain ⟨c, inside, noBlank⟩ := segment.filled
  rw [isText, isEmpty, List.nil_append] at inside
  refine Bool.eq_false_iff.1 noBlank ?_
  exact (List.mem_append.1 inside).elim (inFront c) (isBehind c)

def trimmedSides (sides : List Char × List Char) : List Char × List Char :=
  (Text.trimChars sides.1, Text.trimChars sides.2)

theorem assignment?_trimChars (text : List Char) :
    (assignment? (Text.trimChars text)).map trimmedSides = (assignment? text).map trimmedSides := by
  obtain ⟨front, behind, isText, inFront, isBehind⟩ := exists_trimChars text
  have cut := assignment?_blanks_append inFront (Text.trimChars text ++ behind)
  have further : assignment? (Text.trimChars text ++ behind) = _ := cutAssignment_append_blanks isBehind _ .start false
  rw [← isText, further] at cut
  rw [cut, Option.map_map, Option.map_map]
  congr 1
  funext sides
  simp [trimmedSides, trimChars_blanks_append inFront, trimChars_append_blanks isBehind]

end LateBound.Initialiser
