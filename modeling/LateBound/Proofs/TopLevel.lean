import LateBound.Proofs.BalancedSegments
import LateBound.Proofs.Places

/-!
# Splitting at top level

A scan of a text marks the characters that stand outside quotes and brackets, and the text is cut at those of them that
separate. Wherever it is cut, the scan is as at its start: nothing is quoted, nothing is open, and a closing bracket that
has no opening one has left no trace. So a scan of a piece alone marks in it what the scan of the whole text has marked
there, and two texts with a separator between them are cut into the pieces of the one and those of the other. The cuts
may be made at byte offsets: no character is divided.
-/

namespace LateBound.Initialiser

/-! ## Cutting -/

def cut (separates : Char → Bool) (text : List Char) : List (List Char) :=
  splitMarked separates (marked .start text)

example : segments = cut fun c => c == ',' || c == ';' := rfl

def separatorsIn (separates : Char → Bool) (entries : List (Char × Bool)) : List Char :=
  (entries.filter fun entry => entry.2 && separates entry.1).map Prod.fst

def separators (separates : Char → Bool) (text : List Char) : List Char :=
  separatorsIn separates (marked .start text)

/-- The pieces with one sign between any two of them make up the whole. -/
inductive Interleaved {α : Type} : (pieces : List (List α)) → (signs whole : List α) → Prop
  | one (piece : List α) : Interleaved [piece] [] piece
  | more {pieces : List (List α)} {signs rest : List α} (piece : List α) (sign : α) : Interleaved pieces signs rest →
      Interleaved (piece :: pieces) (sign :: signs) (piece ++ sign :: rest)

namespace Interleaved

variable {α β : Type} {first : List α} {others pieces : List (List α)} {signs whole : List α}

theorem cons (element : α) (interleaved : Interleaved (first :: others) signs whole) :
    Interleaved ((element :: first) :: others) signs (element :: whole) := by
  cases interleaved with
  | one => exact .one (element :: first)
  | more _ sign behind => exact .more (element :: first) sign behind

theorem map (f : α → β) (interleaved : Interleaved pieces signs whole) :
    Interleaved (pieces.map (List.map f)) (signs.map f) (whole.map f) := by
  induction interleaved with
  | one piece => exact .one (piece.map f)
  | more piece sign _ inductionHypothesis =>
    rw [List.map_append]
    exact .more (piece.map f) (f sign) inductionHypothesis

end Interleaved

/-! ## The scan at a cut -/

/-- Outside strings nothing is escaped. -/
def Scan.Unescaped (scan : Scan) : Prop :=
  scan.quoted = false → scan.escaped = false

theorem Scan.unescaped_start : Scan.start.Unescaped :=
  fun _ => rfl

theorem Scan.Unescaped.next {scan : Scan} (unescaped : scan.Unescaped) (c : Char) : (scan.next c).Unescaped := by
  obtain ⟨depth, quoted, escaped⟩ := scan
  cases quoted with
  | true =>
    cases escaped with
    | true => simp [Unescaped, Scan.next]
    | false =>
      unfold Unescaped Scan.next
      simp only [if_true, Bool.false_eq_true, if_false]
      split_ifs <;> simp
  | false =>
    have noEscape : escaped = false := unescaped rfl
    unfold Unescaped Scan.next
    simp only [Bool.false_eq_true, if_false]
    split_ifs <;> simp [noEscape]

theorem Scan.Unescaped.foldl {scan : Scan} (unescaped : scan.Unescaped) (text : List Char) :
    (text.foldl Scan.next scan).Unescaped := by
  induction text generalizing scan with
  | nil => exact unescaped
  | cons c text inductionHypothesis => exact inductionHypothesis (unescaped.next c)

theorem Scan.Unescaped.eq_start {scan : Scan} (unescaped : scan.Unescaped) (noQuote : scan.quoted = false)
    (noDepth : scan.depth = 0) : scan = .start := by
  have noEscape := unescaped noQuote
  obtain ⟨depth, quoted, escaped⟩ := scan
  simp only at noQuote noDepth noEscape
  rw [noQuote, noDepth, noEscape]
  rfl

theorem Scan.Unescaped.start_of_atTop {scan : Scan} (unescaped : scan.Unescaped) {c : Char}
    (isTop : scan.atTop c = true) : scan = .start ∧ scan.next c = .start := by
  obtain ⟨noQuote, noDepth, noMark⟩ := Scan.atTop_iff.1 isTop
  have isStart := unescaped.eq_start noQuote noDepth
  refine ⟨isStart, ?_⟩
  rw [isStart]
  exact Scan.next_plain noMark 0

/-! ## The pieces -/

section Pieces

variable {separates : Char → Bool} {scan : Scan}

theorem splitMarked_ne_nil (separates : Char → Bool) (entries : List (Char × Bool)) :
    splitMarked separates entries ≠ [] := by
  cases entries with
  | nil => exact List.cons_ne_nil [] []
  | cons entry entries =>
    obtain ⟨c, top⟩ := entry
    rw [splitMarked]
    split
    · exact List.cons_ne_nil [] _
    · cases splitMarked separates entries <;> exact List.cons_ne_nil _ _

theorem consSegment_append {c : Char} {pieces : List (List Char)} (notEmpty : pieces ≠ [])
    (others : List (List Char)) : consSegment c (pieces ++ others) = consSegment c pieces ++ others := by
  cases pieces with
  | nil => exact absurd rfl notEmpty
  | cons piece pieces => rfl

theorem splitMarked_separator {sign : Char} (isSeparator : separates sign = true) (front behind : List (Char × Bool)) :
    splitMarked separates (front ++ (sign, true) :: behind) =
      splitMarked separates front ++ splitMarked separates behind := by
  induction front with
  | nil => simp [splitMarked, isSeparator]
  | cons entry front inductionHypothesis =>
    obtain ⟨c, top⟩ := entry
    rw [List.cons_append, splitMarked, splitMarked, inductionHypothesis]
    split
    · rfl
    · exact consSegment_append (splitMarked_ne_nil separates front) _

theorem separatorsIn_cons (separates : Char → Bool) (c : Char) (top : Bool) (entries : List (Char × Bool)) :
    separatorsIn separates ((c, top) :: entries) =
      if (top && separates c) = true then c :: separatorsIn separates entries else separatorsIn separates entries := by
  unfold separatorsIn
  rw [List.filter_cons]
  split <;> rfl

/-- The marks of a text are those of its pieces: the first piece goes on with the scan of the text, and each of the
others is scanned by itself. No piece has a separator at top level. -/
theorem exists_splitMarked_eq (separates : Char → Bool) (unescaped : scan.Unescaped) (text : List Char) :
    ∃ first others, splitMarked separates (marked scan text) = first :: others ∧
      Interleaved (marked scan first :: others.map (marked .start))
        ((separatorsIn separates (marked scan text)).map (·, true)) (marked scan text) ∧
      separatorsIn separates (marked scan first) = [] ∧ ∀ piece ∈ others, separators separates piece = [] := by
  induction text generalizing scan with
  | nil => exact ⟨[], [], rfl, .one [], rfl, List.forall_mem_nil _⟩
  | cons c text inductionHypothesis =>
    obtain ⟨first, others, isCut, interleaved, clean, cleanOthers⟩ := inductionHypothesis (unescaped.next c)
    rw [marked, splitMarked, isCut, separatorsIn_cons]
    by_cases separator : (scan.atTop c && separates c) = true
    · -- The scan starts anew behind a separator, so that what follows is the first piece of a text of its own.
      have isTop := (Bool.and_eq_true _ _ ▸ separator).1
      have starts := (unescaped.start_of_atTop isTop).2
      rw [starts] at interleaved clean
      rw [if_pos separator, if_pos separator, starts, isTop]
      exact ⟨[], first :: others, rfl, .more [] (c, true) interleaved, rfl, List.forall_mem_cons.2 ⟨clean, cleanOthers⟩⟩
    · rw [if_neg separator, if_neg separator]
      refine ⟨c :: first, others, rfl, interleaved.cons (c, scan.atTop c), ?_, cleanOthers⟩
      rw [marked, separatorsIn_cons, if_neg separator]
      exact clean

theorem interleaved_marked (separates : Char → Bool) (text : List Char) :
    Interleaved ((cut separates text).map (marked .start)) ((separators separates text).map (·, true))
      (marked .start text) := by
  obtain ⟨first, others, isCut, interleaved, -⟩ := exists_splitMarked_eq separates Scan.unescaped_start text
  rw [cut, isCut]
  exact interleaved

theorem interleaved_cut (separates : Char → Bool) (text : List Char) :
    Interleaved (cut separates text) (separators separates text) text := by
  have interleaved := (interleaved_marked separates text).map Prod.fst
  have unmarked : ∀ piece ∈ cut separates text, (List.map Prod.fst ∘ marked .start) piece = piece :=
    fun piece _ => map_fst_marked .start piece
  have unsigned : (separators separates text).map (Prod.fst ∘ (·, true)) = separators separates text := List.map_id _
  rwa [List.map_map, List.map_map, map_fst_marked, List.map_congr_left unmarked, List.map_id', unsigned] at interleaved

theorem separators_eq_nil {text piece : List Char} (isPiece : piece ∈ cut separates text) :
    separators separates piece = [] := by
  obtain ⟨first, others, isCut, -, clean, cleanOthers⟩ := exists_splitMarked_eq separates Scan.unescaped_start text
  rw [cut, isCut] at isPiece
  obtain rfl | isOther := List.mem_cons.1 isPiece
  · exact clean
  · exact cleanOthers piece isOther

/-- Two texts with a separator between them are cut into the pieces of the one and those of the other. -/
theorem cut_append {sign : Char} (isSeparator : separates sign = true) (noMark : sign ∉ marks) {front : List Char}
    (noQuote : (front.foldl Scan.next .start).quoted = false) (noDepth : (front.foldl Scan.next .start).depth = 0)
    (behind : List Char) :
    cut separates (front ++ sign :: behind) = cut separates front ++ cut separates behind := by
  have ends : front.foldl Scan.next .start = .start := (Scan.unescaped_start.foldl front).eq_start noQuote noDepth
  have isTop : Scan.start.atTop sign = true := Scan.atTop_iff.2 ⟨rfl, rfl, noMark⟩
  have stays : Scan.start.next sign = .start := Scan.next_plain noMark 0
  unfold cut
  rw [marked_append, ends, marked, isTop, stays]
  exact splitMarked_separator isSeparator (marked .start front) (marked .start behind)

end Pieces

/-! ## Byte offsets -/

open Source

/-- The characters at top level among marked ones that begin at `offset`, each with its own offset. -/
def placed (offset : Nat) : List (Char × Bool) → List (Nat × Char)
  | [] => []
  | (c, top) :: entries =>
    if top then (offset, c) :: placed (offset + c.utf8Size) entries else placed (offset + c.utf8Size) entries

def topLevel (text : List Char) : List (Nat × Char) :=
  placed 0 (marked .start text)

/-- Cuts a text at the offsets of separators, from `start` on; none when an offset is not between two characters. -/
def slices (separates : Char → Bool) (text : List Char) (start : Nat) : List (Nat × Char) → Option (List (List Char))
  | [] => do return [← slice? text start (byteCount text)]
  | (offset, c) :: places =>
    if separates c then do
      let piece ← slice? text start offset
      let pieces ← slices separates text (offset + c.utf8Size) places
      return piece :: pieces
    else slices separates text start places

def colonAt (places : List (Nat × Char)) (offset : Nat) : Bool :=
  places.any fun place => place.1 == offset && place.2 == ':'

/-- Whether one of the places holds a sign of assignment: a mark of equality, or a colon beside no other. -/
def isSignAmong (places : List (Nat × Char)) (place : Nat × Char) : Bool :=
  place.2 == '=' || (place.2 == ':' && !colonAt places (place.1 + 1) &&
    !(decide (0 < place.1) && colonAt places (place.1 - 1)))

/-- The two sides of a segment, cut at the offset of its first sign of assignment; `some none` when it has none. -/
def sides (segment : List Char) : Option (Option (List Char × List Char)) :=
  let places := topLevel segment
  match places.find? (isSignAmong places) with
  | none => some none
  | some (offset, _) => do
    let name ← slice? segment 0 offset
    let value ← slice? segment (offset + 1) (byteCount segment)
    return some (name, value)

section Offsets

variable {separates : Char → Bool}

theorem slice?_to_end (before rest : List Char) :
    slice? (before ++ rest) (byteCount before) (byteCount (before ++ rest)) = some rest := by
  have cut := slice?_append before rest []
  rwa [List.append_nil, ← byteCount_append] at cut

/-- From where a piece has begun, `current` being what has been read of it, the offsets cut what the marks do. -/
theorem slices_placed (before current text : List Char) (scan : Scan) {first : List Char} {others : List (List Char)}
    (isCut : splitMarked separates (marked scan text) = first :: others) :
    slices separates (before ++ (current ++ text)) (byteCount before)
      (placed (byteCount (before ++ current)) (marked scan text)) = some ((current ++ first) :: others) := by
  induction text generalizing before current scan first others with
  | nil =>
    obtain ⟨rfl, rfl⟩ : first = [] ∧ others = [] := by simpa [marked, splitMarked, eq_comm] using isCut
    rw [marked, placed, slices, slice?_to_end]
    rfl
  | cons c text inductionHypothesis =>
    obtain ⟨next, further, rest⟩ :=
      List.exists_cons_of_ne_nil (splitMarked_ne_nil separates (marked (scan.next c) text))
    have offset : byteCount (before ++ current) + c.utf8Size = byteCount (before ++ (current ++ [c])) := by
      simp [byteCount_append, byteCount, Nat.add_assoc]
    have goesOn := inductionHypothesis before (current ++ [c]) (scan.next c) rest
    have begins := inductionHypothesis (before ++ (current ++ [c])) [] (scan.next c) rest
    simp only [List.append_assoc, List.singleton_append, List.append_nil, List.nil_append] at goesOn begins offset
    rw [marked, splitMarked, rest] at isCut
    rw [marked, placed, offset]
    -- A separator ends the piece that has been read, and any other character makes it longer.
    by_cases isTop : scan.atTop c = true
    · by_cases separator : separates c = true
      · obtain ⟨rfl, rfl⟩ : [] = first ∧ next :: further = others := by simpa [isTop, separator] using isCut
        have piece := slice?_append before current (c :: text)
        rw [← byteCount_append] at piece
        simp [isTop, slices, separator, piece, offset, begins]
      · obtain ⟨rfl, rfl⟩ : c :: next = first ∧ further = others := by simpa [isTop, separator, consSegment] using isCut
        simpa [isTop, slices, separator] using goesOn
    · obtain ⟨rfl, rfl⟩ : c :: next = first ∧ further = others := by simpa [isTop, consSegment] using isCut
      simpa [isTop] using goesOn

/-- The text may be cut at the byte offsets of its separators, and no character is divided. -/
theorem slices_topLevel (separates : Char → Bool) (text : List Char) :
    slices separates text 0 (topLevel text) = some (cut separates text) := by
  obtain ⟨first, others, isCut⟩ := List.exists_cons_of_ne_nil (splitMarked_ne_nil separates (marked .start text))
  rw [cut, isCut]
  exact slices_placed [] [] text .start isCut

theorem utf8Size_colon : ':'.utf8Size = 1 := by
  decide

theorem front_unique {front behind front' behind' : List (Char × Bool)} (same : front ++ behind = front' ++ behind')
    (offset : byteCount (front.map Prod.fst) = byteCount (front'.map Prod.fst)) : front = front' := by
  have nothing {more : List (Char × Bool)} (none : byteCount (more.map Prod.fst) = 0) : more = [] :=
    List.map_eq_nil_iff.1 (eq_nil_of_byteCount none)
  obtain ⟨more, rfl, -⟩ | ⟨more, rfl, -⟩ := List.append_eq_append_iff.1 same
  · rw [List.map_append, byteCount_append] at offset
    have isEmpty : more = [] := nothing (by omega)
    rw [isEmpty, List.append_nil]
  · rw [List.map_append, byteCount_append] at offset
    have isEmpty : more = [] := nothing (by omega)
    rw [isEmpty, List.append_nil]

theorem colonAt_placed_iff {start offset : Nat} {entries : List (Char × Bool)} :
    colonAt (placed start entries) offset = true ↔
      ∃ front behind, entries = front ++ (':', true) :: behind ∧ offset = start + byteCount (front.map Prod.fst) := by
  induction entries generalizing start with
  | nil => simp [placed, colonAt]
  | cons entry entries inductionHypothesis =>
    obtain ⟨c, top⟩ := entry
    have shown : colonAt (placed start ((c, top) :: entries)) offset = true ↔
        (top = true ∧ start = offset ∧ c = ':') ∨ colonAt (placed (start + c.utf8Size) entries) offset = true := by
      cases top <;> simp [placed, colonAt]
    rw [shown, inductionHypothesis]
    constructor
    · rintro (⟨rfl, rfl, rfl⟩ | ⟨front, behind, rfl, rfl⟩)
      · exact ⟨[], entries, rfl, rfl⟩
      · exact ⟨(c, top) :: front, behind, rfl, by simp [byteCount, Nat.add_assoc]⟩
    · rintro ⟨front, behind, isEntries, rfl⟩
      cases front with
      | nil =>
        obtain ⟨same, rfl⟩ := List.cons.inj isEntries
        obtain ⟨rfl, rfl⟩ := Prod.mk.inj same
        exact .inl ⟨rfl, rfl, rfl⟩
      | cons first front =>
        obtain ⟨rfl, rfl⟩ := List.cons.inj isEntries
        exact .inr ⟨front, behind, rfl, by simp [byteCount, Nat.add_assoc]⟩

theorem colonAt_next (front behind : List (Char × Bool)) (top : Bool) :
    colonAt (placed 0 (front ++ (':', top) :: behind)) (byteCount (front.map Prod.fst) + 1) =
      startsWithColon behind := by
  rw [Bool.eq_iff_iff, colonAt_placed_iff]
  constructor
  · rintro ⟨before, rest, isWhole, offset⟩
    have same : before ++ (':', true) :: rest = (front ++ [(':', top)]) ++ behind := by
      rw [← isWhole, List.append_assoc, List.singleton_append]
    have isFront : before = front ++ [(':', top)] := by
      apply front_unique same
      simp only [List.map_append, List.map_cons, List.map_nil, byteCount_append, byteCount, utf8Size_colon]
      omega
    rw [isFront, List.append_assoc, List.append_cancel_left_eq] at isWhole
    rw [(List.cons.inj isWhole).2]
    rfl
  · intro starts
    cases behind with
    | nil => cases starts
    | cons entry behind =>
      obtain ⟨c, isTop⟩ := entry
      rw [startsWithColon_cons, Bool.and_eq_true, beq_iff_eq] at starts
      obtain ⟨rfl, rfl⟩ := starts
      exact ⟨front ++ [(':', top)], behind, by simp, by simp [byteCount_append, byteCount, utf8Size_colon]⟩

theorem colonAt_before (front behind : List (Char × Bool)) :
    (decide (0 < byteCount (front.map Prod.fst)) &&
      colonAt (placed 0 (front ++ behind)) (byteCount (front.map Prod.fst) - 1)) =
        (front.getLast? == some (':', true)) := by
  rw [Bool.eq_iff_iff, Bool.and_eq_true, decide_eq_true_eq, colonAt_placed_iff, beq_iff_eq]
  constructor
  · rintro ⟨filled, before, rest, isWhole, offset⟩
    have same : (before ++ [(':', true)]) ++ rest = front ++ behind := by
      rw [isWhole, List.append_assoc, List.singleton_append]
    have isFront : before ++ [(':', true)] = front := by
      apply front_unique same
      simp only [List.map_append, List.map_cons, List.map_nil, byteCount_append, byteCount, utf8Size_colon]
      omega
    rw [← isFront, List.getLast?_concat]
  · intro last
    obtain ⟨before, rfl⟩ := List.getLast?_eq_some_iff.1 last
    simp only [List.map_append, List.map_cons, List.map_nil, byteCount_append, byteCount, utf8Size_colon]
    exact ⟨by omega, before, behind, by simp, by omega⟩

theorem isSignAmong_placed (front behind : List (Char × Bool)) (c : Char) (top : Bool) :
    isSignAmong (placed 0 (front ++ (c, top) :: behind)) (byteCount (front.map Prod.fst), c) =
      (c == '=' || (c == ':' && !(front.getLast? == some (':', true)) && !startsWithColon behind)) := by
  by_cases isColon : c = ':'
  · subst isColon
    unfold isSignAmong
    rw [colonAt_next, colonAt_before]
    simp [Bool.and_comm]
  · have noColon : (c == ':') = false := beq_eq_false_iff_ne.2 isColon
    simp [isSignAmong, noColon]

/-- A sign of assignment is found at the offset where the marks of the text are cut, or neither is there. -/
inductive FoundAt (offset : Nat) (text : List Char) : Option (List Char × List Char) → Option (Nat × Char) → Prop
  | none : FoundAt offset text none none
  | some {name value : List Char} {sign : Char} : sign.utf8Size = 1 → text = name ++ sign :: value →
      FoundAt offset text (some (name, value)) (some (offset + byteCount name, sign))

theorem FoundAt.cons {offset : Nat} {text : List Char} {parts : Option (List Char × List Char)}
    {found : Option (Nat × Char)} {c : Char} (foundAt : FoundAt (offset + c.utf8Size) text parts found) :
    FoundAt offset (c :: text) (parts.map fun (name, value) => (c :: name, value)) found := by
  cases foundAt with
  | none => exact .none
  | @some name value sign size isText =>
    have isBehind : c :: text = (c :: name) ++ sign :: value := by rw [isText, List.cons_append]
    have foundAt : FoundAt offset _ _ _ := .some size isBehind
    rwa [byteCount_cons, ← Nat.add_assoc] at foundAt

theorem utf8Size_of_isSign {c : Char} {alone unopened : Bool}
    (isSign : (c == '=' || (c == ':' && alone && unopened)) = true) : c.utf8Size = 1 := by
  simp only [Bool.or_eq_true, Bool.and_eq_true, beq_iff_eq] at isSign
  obtain rfl | ⟨⟨rfl, -⟩, -⟩ := isSign <;> decide

theorem foundAt_placed (front entries : List (Char × Bool)) :
    FoundAt (byteCount (front.map Prod.fst)) (entries.map Prod.fst)
      (cutAssignment (front.getLast? == some (':', true)) entries)
      ((placed (byteCount (front.map Prod.fst)) entries).find? (isSignAmong (placed 0 (front ++ entries)))) := by
  induction entries generalizing front with
  | nil => exact .none
  | cons entry entries inductionHypothesis =>
    obtain ⟨c, top⟩ := entry
    have further := inductionHypothesis (front ++ [(c, top)])
    have colon : ((front ++ [(c, top)]).getLast? == some (':', true)) = (top && c == ':') := by
      rw [List.getLast?_concat]
      cases top <;> simp
    have offset : byteCount ((front ++ [(c, top)]).map Prod.fst) = byteCount (front.map Prod.fst) + c.utf8Size := by
      simp [byteCount_append, byteCount]
    rw [colon, offset, List.append_assoc, List.singleton_append] at further
    have atSign := isSignAmong_placed front entries c top
    rw [cutAssignment, placed]
    dsimp only
    by_cases isTop : top = true
    · subst isTop
      by_cases isSign :
          (c == '=' || (c == ':' && !(front.getLast? == some (':', true)) && !startsWithColon entries)) = true
      · rw [if_pos (by simpa using isSign), if_pos rfl, List.find?_cons_of_pos (atSign.trans isSign)]
        have foundAt : FoundAt (byteCount (front.map Prod.fst)) (c :: entries.map Prod.fst) _ _ :=
          .some (utf8Size_of_isSign isSign) (List.nil_append _).symm
        exact foundAt
      · rw [if_neg (by simpa using isSign), if_pos rfl, List.find?_cons_of_neg (by rwa [atSign])]
        exact further.cons
    · have noTop : top = false := Bool.eq_false_iff.2 isTop
      subst noTop
      exact further.cons

/-- The segment may be cut at the byte offset of its sign of assignment, and no character is divided. -/
theorem sides_eq (segment : List Char) : sides segment = some (assignment? segment) := by
  have foundAt := foundAt_placed [] (marked .start segment)
  rw [List.nil_append, map_fst_marked] at foundAt
  unfold sides assignment?
  dsimp only
  change FoundAt 0 segment (cutAssignment false (marked .start segment))
    ((topLevel segment).find? (isSignAmong (topLevel segment))) at foundAt
  generalize cutAssignment false (marked .start segment) = parts at foundAt
  generalize (topLevel segment).find? (isSignAmong (topLevel segment)) = found at foundAt
  cases foundAt with
  | none => rfl
  | @some name value sign size isSegment =>
    have front : slice? (name ++ sign :: value) 0 (0 + byteCount name) = some name :=
      slice?_append [] name (sign :: value)
    have back := slice?_to_end (name ++ [sign]) value
    have offset : byteCount (name ++ [sign]) = 0 + byteCount name + 1 := by
      simp [byteCount_append, byteCount, size]
    rw [offset, List.append_assoc, List.singleton_append] at back
    simp only [isSegment, front, back]
    rfl

end Offsets

/-! ## Splitting -/

/-- What splitting a text at top level gives: pieces that make up the text with the separators found between them, none
of them with a separator of its own; for two texts around a separator the pieces of both; in each piece the marks that the
scan of the whole text has made there; and the cuts, of the text and of each piece, at byte offsets. -/
structure SplitsAtTopLevel (separates : Char → Bool) (text : List Char) : Prop where
  rejoined : Interleaved (cut separates text) (separators separates text) text
  clean : ∀ piece ∈ cut separates text, separators separates piece = []
  append : ∀ front sign behind, text = front ++ sign :: behind → separates sign = true →
    (front.foldl Scan.next .start).quoted = false → (front.foldl Scan.next .start).depth = 0 →
      cut separates text = cut separates front ++ cut separates behind
  scanned : Interleaved ((cut separates text).map (marked .start)) ((separators separates text).map (·, true))
    (marked .start text)
  sliced : slices separates text 0 (topLevel text) = some (cut separates text)
  parted : ∀ piece ∈ cut separates text, sides piece = some (assignment? piece)

/-- Splitting at top level respects what texts are joined of, for all separators that are no quotes and no brackets. -/
theorem splits_at_top_level {separates : Char → Bool} (plain : ∀ c, separates c = true → c ∉ marks)
    (text : List Char) : SplitsAtTopLevel separates text where
  rejoined := interleaved_cut separates text
  clean _ isPiece := separators_eq_nil isPiece
  append front sign behind isText isSeparator noQuote noDepth := by
    rw [isText]
    exact cut_append isSeparator (plain sign isSeparator) noQuote noDepth behind
  scanned := interleaved_marked separates text
  sliced := slices_topLevel separates text
  parted piece _ := sides_eq piece

/-- A bracket that closes nothing, a character of two bytes, a quoted comma and a bracket that is never closed. -/
theorem splits_at_top_level_unbalanced :
    (∀ c, (c == ',' || c == ';') = true → c ∉ marks) ∧
      SplitsAtTopLevel (fun c => c == ',' || c == ';') "é), \"a,b\"; k=[x, y".toList := by
  have plain (c : Char) (isSeparator : (c == ',' || c == ';') = true) : c ∉ marks := by
    obtain isComma | isSemicolon := Bool.or_eq_true_iff.1 isSeparator
    · rw [beq_iff_eq.1 isComma]
      decide
    · rw [beq_iff_eq.1 isSemicolon]
      decide
  exact ⟨plain, splits_at_top_level plain _⟩

end LateBound.Initialiser
