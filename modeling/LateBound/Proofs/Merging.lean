import LateBound.Proofs.Places
import LateBound.Proofs.TokenPlaces

/-!
# Merging spans in any order

The spans of one text are merged along some grouping, and the result should be the stretch from the first start to the
last end. Its line and its offsets are, in whatever order and grouping the spans are taken. Its column is only as long
as no merge has a later line on its left, since the column on the left is kept whenever the lines differ. So all orders
and groupings agree exactly when every span that starts on a later line starts in the column of the first one.
-/

namespace LateBound

namespace Span

/-- The span starts at a place of the text and does not end before it starts. -/
structure Addresses (span : Span) (text : List Char) : Prop where
  place : ∃ before, before <+: text ∧ span.place = Position.start.after before
  ordered : span.start ≤ span.stop

/-- The span is one of these, and none of them starts before it. -/
structure Leads (first : Span) (spans : List Span) : Prop where
  mem : first ∈ spans
  least : ∀ span ∈ spans, first.start ≤ span.start

def ReachesEnd (whole : Span) (spans : List Span) : Prop :=
  ∃ last ∈ spans, whole.stop = last.stop ∧ ∀ span ∈ spans, span.stop ≤ last.stop

/-- The span reaches from the first start to the last end, and its line is that of the first start. -/
structure Stretches (whole : Span) (spans : List Span) : Prop where
  starts : ∃ first, Leads first spans ∧ whole.line = first.line ∧ whole.start = first.start
  stops : whole.ReachesEnd spans

/-- The span reaches from the first start to the last end, and its line and its column are those of the first start. -/
structure Covers (whole : Span) (spans : List Span) : Prop where
  starts : ∃ first, Leads first spans ∧ whole.place = first.place
  stops : whole.ReachesEnd spans

/-- Every span that starts on a later line than the first one starts in the same column. -/
def Flush (spans : List Span) : Prop :=
  ∀ first, Leads first spans → ∀ later ∈ spans, later.line ≠ first.line → later.column = first.column

/-- A way to merge spans two by two. -/
inductive Grouping
  | one (span : Span)
  | both (left right : Grouping)

namespace Grouping

def spans : Grouping → List Span
  | one span => [span]
  | both left right => left.spans ++ right.spans

def merged : Grouping → Span
  | one span => span
  | both left right => left.merged.merge right.merged

def inTurn (grouping : Grouping) (others : List Span) : Grouping :=
  others.foldl (fun left span => left.both (one span)) grouping

theorem spans_inTurn (grouping : Grouping) (others : List Span) :
    (grouping.inTurn others).spans = grouping.spans ++ others := by
  induction others generalizing grouping with
  | nil => simp [inTurn]
  | cons span others inductionHypothesis =>
    have step := inductionHypothesis (grouping.both (one span))
    simpa [inTurn, spans] using step

end Grouping

variable {text : List Char} {spans : List Span} {first second whole : Span}

/-! ## Places of one text -/

theorem start_of_place {before : List Char} (place : first.place = Position.start.after before) :
    first.start = Source.byteCount before := by
  rw [← Position.offset_start_after, ← place]
  rfl

theorem Addresses.before (addresses : first.Addresses text) (addresses' : second.Addresses text)
    (starts : first.start ≤ second.start) : first.place.Before second.place := by
  obtain ⟨front, isFront, place⟩ := addresses.place
  obtain ⟨front', isFront', place'⟩ := addresses'.place
  have offset := start_of_place place
  have offset' := start_of_place place'
  rw [place, place']
  obtain ⟨more, rfl⟩ | ⟨more, rfl⟩ := List.prefix_or_prefix_of_prefix isFront isFront'
  · rw [Position.after_append]
    exact Position.before_after _ more
  · -- The second place is not behind the first one either, so that nothing stands between them.
    rw [Source.byteCount_append] at offset
    have nothing : more = [] := Source.eq_nil_of_byteCount (by omega)
    rw [nothing, List.append_nil]
    exact .refl _

theorem Addresses.place_eq (addresses : first.Addresses text) (addresses' : second.Addresses text)
    (same : first.start = second.start) : first.place = second.place := by
  have forward := addresses.before addresses' (Nat.le_of_eq same)
  have back := addresses'.before addresses (Nat.le_of_eq same.symm)
  have line : first.line = second.line := Nat.le_antisymm forward.line back.line
  have column : first.column = second.column := Nat.le_antisymm (forward.column line) (back.column line.symm)
  simp [Span.place, line, column, same]

theorem Leads.before (leads : Leads first spans) (each : ∀ span ∈ spans, span.Addresses text)
    (inside : second ∈ spans) : first.place.Before second.place :=
  (each first leads.mem).before (each second inside) (leads.least second inside)

/-! ## The line and the offsets -/

theorem stretches_one (span : Span) : span.Stretches [span] where
  starts := ⟨span, ⟨List.mem_cons_self, by simp⟩, rfl, rfl⟩
  stops := ⟨span, List.mem_cons_self, rfl, by simp⟩

theorem Leads.append {front behind : List Span} (leads : Leads first front) (leads' : Leads second behind)
    (earlier : first.start ≤ second.start) : Leads first (front ++ behind) where
  mem := List.mem_append_left behind leads.mem
  least span inside := by
    obtain isFront | isBehind := List.mem_append.1 inside
    · exact leads.least span isFront
    · exact Nat.le_trans earlier (leads'.least span isBehind)

theorem Leads.perm {spans' : List Span} (leads : Leads first spans) (perm : spans.Perm spans') :
    Leads first spans' where
  mem := perm.subset leads.mem
  least span inside := leads.least span (perm.symm.subset inside)

theorem ReachesEnd.perm {spans' : List Span} (stops : whole.ReachesEnd spans) (perm : spans.Perm spans') :
    whole.ReachesEnd spans' := by
  obtain ⟨last, isLast, stop, latest⟩ := stops
  exact ⟨last, perm.subset isLast, stop, fun span inside => latest span (perm.symm.subset inside)⟩

theorem Stretches.perm {spans' : List Span} (stretches : whole.Stretches spans) (perm : spans.Perm spans') :
    whole.Stretches spans' := by
  obtain ⟨⟨leader, leads, line, start⟩, stops⟩ := stretches
  exact ⟨⟨leader, leads.perm perm, line, start⟩, stops.perm perm⟩

theorem ReachesEnd.merge {front behind : List Span} (stops : first.ReachesEnd front)
    (stops' : second.ReachesEnd behind) : (first.merge second).ReachesEnd (front ++ behind) := by
  obtain ⟨last, isLast, stop, latest⟩ := stops
  obtain ⟨last', isLast', stop', latest'⟩ := stops'
  have bounded (bound : Nat) (left : last.stop ≤ bound) (right : last'.stop ≤ bound) :
      ∀ span ∈ front ++ behind, span.stop ≤ bound := by
    intro span inside
    obtain isFront | isBehind := List.mem_append.1 inside
    · exact Nat.le_trans (latest span isFront) left
    · exact Nat.le_trans (latest' span isBehind) right
  by_cases later : last.stop ≤ last'.stop
  · refine ⟨last', List.mem_append_right front isLast', ?_, bounded _ later (Nat.le_refl _)⟩
    simp [Span.merge, stop, stop', later]
  · have earlier : last'.stop ≤ last.stop := by omega
    refine ⟨last, List.mem_append_left behind isLast, ?_, bounded _ (Nat.le_refl _) earlier⟩
    simp [Span.merge, stop, stop', earlier]

theorem Stretches.merge {front behind : List Span} (each : ∀ span ∈ front ++ behind, span.Addresses text)
    (stretches : first.Stretches front) (stretches' : second.Stretches behind) :
    (first.merge second).Stretches (front ++ behind) := by
  obtain ⟨⟨leader, leads, line, start⟩, stops⟩ := stretches
  obtain ⟨⟨leader', leads', line', start'⟩, stops'⟩ := stretches'
  have addresses := each leader (List.mem_append_left behind leads.mem)
  have addresses' := each leader' (List.mem_append_right front leads'.mem)
  refine ⟨?_, stops.merge stops'⟩
  by_cases earlier : leader.start ≤ leader'.start
  · have before := addresses.before addresses' earlier
    refine ⟨leader, leads.append leads' earlier, ?_, ?_⟩
    · rw [Span.merge, line, line']
      exact Nat.min_eq_left before.line
    · simp [Span.merge, start, start', earlier]
  · have later : leader'.start ≤ leader.start := by omega
    have before := addresses'.before addresses later
    have ahead := (leads'.append leads later).perm List.perm_append_comm
    refine ⟨leader', ahead, ?_, ?_⟩
    · rw [Span.merge, line, line']
      exact Nat.min_eq_right before.line
    · simp [Span.merge, start, start', later]

theorem stretches_merged (grouping : Grouping) (each : ∀ span ∈ grouping.spans, span.Addresses text) :
    grouping.merged.Stretches grouping.spans := by
  induction grouping with
  | one span => exact stretches_one span
  | both left right leftHypothesis rightHypothesis =>
    obtain ⟨eachLeft, eachRight⟩ := List.forall_mem_append.1 each
    exact (leftHypothesis eachLeft).merge each (rightHypothesis eachRight)

theorem stretches_of_perm {grouping : Grouping} (each : ∀ span ∈ spans, span.Addresses text)
    (perm : grouping.spans.Perm spans) : grouping.merged.Stretches spans :=
  (stretches_merged grouping fun span inside => each span (perm.subset inside)).perm perm

/-! ## The column -/

theorem Stretches.covers_iff (each : ∀ span ∈ spans, span.Addresses text) (stretches : whole.Stretches spans)
    (leads : Leads first spans) : whole.Covers spans ↔ whole.column = first.column := by
  obtain ⟨⟨leader, leads', line, start⟩, stops⟩ := stretches
  have samePlace {other : Span} (otherLeads : Leads other spans) : other.place = first.place := by
    have starts := Nat.le_antisymm (otherLeads.least first leads.mem) (leads.least other otherLeads.mem)
    exact (each other otherLeads.mem).place_eq (each first leads.mem) starts
  constructor
  · rintro ⟨⟨other, otherLeads, place⟩, -⟩
    exact congrArg Position.column (place.trans (samePlace otherLeads))
  · intro column
    have place : leader.place = first.place := samePlace leads'
    refine ⟨⟨first, leads, ?_⟩, stops⟩
    simp only [Span.place, Position.mk.injEq] at place ⊢
    exact ⟨line.trans place.1, column, start.trans place.2.2⟩

theorem Covers.addresses (each : ∀ span ∈ spans, span.Addresses text) (covers : whole.Covers spans) :
    whole.Addresses text := by
  obtain ⟨⟨first, leads, place⟩, last, isLast, stop, latest⟩ := covers
  obtain ⟨before, isFront, placeFirst⟩ := (each first leads.mem).place
  have ordered := (each first leads.mem).ordered
  have reached := latest first leads.mem
  have start : whole.start = first.start := congrArg Position.offset place
  exact ⟨⟨before, isFront, place.trans placeFirst⟩, by omega⟩

theorem Covers.unique (each : ∀ span ∈ spans, span.Addresses text) (covers : first.Covers spans)
    (covers' : second.Covers spans) : first = second := by
  obtain ⟨⟨leader, leads, place⟩, last, isLast, stop, latest⟩ := covers
  obtain ⟨⟨leader', leads', place'⟩, last', isLast', stop', latest'⟩ := covers'
  have starts := Nat.le_antisymm (leads.least leader' leads'.mem) (leads'.least leader leads.mem)
  have stops := Nat.le_antisymm (latest' last isLast) (latest last' isLast')
  have samePlace := (each leader leads.mem).place_eq (each leader' leads'.mem) starts
  rw [← place, ← place'] at samePlace
  simp only [Span.place, Position.mk.injEq] at samePlace
  obtain ⟨line, column, start⟩ := samePlace
  cases first
  cases second
  simp_all

/-- The merge of two spans covers both unless the left one starts on a later line, in another column. -/
theorem covers_merge_iff (addresses : first.Addresses text) (addresses' : second.Addresses text) :
    (first.merge second).Covers [first, second] ↔ first.line ≤ second.line ∨ first.column = second.column := by
  have each : ∀ span ∈ [first, second], span.Addresses text := by simp [addresses, addresses']
  have stretches : (first.merge second).Stretches [first, second] :=
    (stretches_one first).merge each (stretches_one second)
  by_cases earlier : first.start ≤ second.start
  · have leads : Leads first [first, second] := ⟨List.mem_cons_self, by simp [earlier]⟩
    have before := addresses.before addresses' earlier
    rw [stretches.covers_iff each leads]
    refine iff_of_true ?_ (.inl before.line)
    by_cases same : first.line = second.line
    · have column : first.column ≤ second.column := before.column same
      simp [merge, same, column]
    · simp [merge, same]
  · have later : second.start ≤ first.start := by omega
    have leads : Leads second [first, second] := ⟨by simp, by simp [later]⟩
    have before := addresses'.before addresses later
    have line : second.line ≤ first.line := before.line
    rw [stretches.covers_iff each leads]
    by_cases same : first.line = second.line
    · have column : second.column ≤ first.column := before.column same.symm
      simp [merge, same, column]
    · simp only [merge, same, if_false]
      omega

theorem merge_comm_iff : first.merge second = second.merge first ↔
    first.line = second.line ∨ first.column = second.column := by
  by_cases same : first.line = second.line
  · simp [merge, same, Nat.min_comm, Nat.max_comm]
  · have other : second.line ≠ first.line := fun line => same line.symm
    simp [merge, same, other, Nat.min_comm, Nat.max_comm]

/-- What has been merged of spans that start with `first` or behind it: it is never ahead of `first`, and where it
starts on a later line, it starts in the column of `first`. -/
structure Settled (first whole : Span) : Prop where
  line : first.line ≤ whole.line
  column : first.column ≤ whole.column
  flush : whole.line ≠ first.line → whole.column = first.column

theorem Settled.merge (settled : first.Settled whole) (settled' : first.Settled second) :
    first.Settled (whole.merge second) := by
  obtain ⟨line, column, flush⟩ := settled
  obtain ⟨line', column', flush'⟩ := settled'
  by_cases same : whole.line = second.line
  · constructor <;> simp only [Span.merge, same, if_true] <;> omega
  · -- One of the two is on a later line, and the column that is kept is that of `first` even if it is this one's.
    constructor <;> simp only [Span.merge, same, if_false] <;> omega

theorem Settled.begins (settled : first.Settled whole) (settled' : first.Settled second)
    (begun : whole.line = first.line ∧ whole.column = first.column ∨
      second.line = first.line ∧ second.column = first.column) :
    (whole.merge second).line = first.line ∧ (whole.merge second).column = first.column := by
  obtain ⟨line, column, flush⟩ := settled
  obtain ⟨line', column', flush'⟩ := settled'
  by_cases same : whole.line = second.line
  · simp only [Span.merge, same, if_true]
    omega
  · simp only [Span.merge, same, if_false]
    omega

section Flush

variable (each : ∀ span ∈ spans, span.Addresses text) (leads : Leads first spans) (flush : Flush spans)

include each leads flush

theorem settled_of_mem (inside : whole ∈ spans) : first.Settled whole := by
  have before := leads.before each inside
  refine ⟨before.line, ?_, flush first leads whole inside⟩
  by_cases same : first.line = whole.line
  · exact before.column same
  · exact Nat.le_of_eq (flush first leads whole inside (Ne.symm same)).symm

theorem settled_merged {grouping : Grouping} (within : grouping.spans ⊆ spans) :
    first.Settled grouping.merged ∧ (first ∈ grouping.spans →
      grouping.merged.line = first.line ∧ grouping.merged.column = first.column) := by
  induction grouping with
  | one span =>
    refine ⟨settled_of_mem each leads flush (within List.mem_cons_self), fun inside => ?_⟩
    rw [List.mem_singleton.1 inside]
    exact ⟨rfl, rfl⟩
  | both left right leftHypothesis rightHypothesis =>
    obtain ⟨withinLeft, withinRight⟩ := List.append_subset.1 within
    obtain ⟨settled, begins⟩ := leftHypothesis withinLeft
    obtain ⟨settled', begins'⟩ := rightHypothesis withinRight
    exact ⟨settled.merge settled', fun inside =>
      settled.begins settled' ((List.mem_append.1 inside).imp begins begins')⟩

/-- Where all later lines start in one column, every grouping covers its spans. -/
theorem covers_merged {grouping : Grouping} (perm : grouping.spans.Perm spans) : grouping.merged.Covers spans := by
  have stretches := stretches_of_perm each perm
  have begins := (settled_merged each leads flush perm.subset).2 (perm.symm.subset leads.mem)
  exact (stretches.covers_iff each leads).2 begins.2

end Flush

/-! ## Orders that show the column of a later line -/

/-- Merged in turn behind the first span, the others do not move where it starts. -/
theorem merged_inTurn (grouping : Grouping) {others : List Span} (begins : grouping.merged.place = first.place)
    (behind : ∀ span ∈ others, first.place.Before span.place) :
    (grouping.inTurn others).merged.place = first.place := by
  induction others generalizing grouping with
  | nil => exact begins
  | cons span others inductionHypothesis =>
    obtain ⟨here, further⟩ := List.forall_mem_cons.1 behind
    refine inductionHypothesis (grouping.both (.one span)) ?_ further
    rw [← begins] at here
    obtain ⟨offset, line, column⟩ := here
    rw [← begins]
    simp only [Span.place] at offset line column ⊢
    by_cases same : grouping.merged.line = span.line
    · simp [Grouping.merged, merge, same, column same, offset]
    · simp [Grouping.merged, merge, same, line, offset]

/-- A later span may be merged last but on the left, and its column is kept. -/
theorem exists_groupings (each : ∀ span ∈ spans, span.Addresses text) (leads : Leads first spans) {later : Span}
    (inside : later ∈ spans) (other : later.line ≠ first.line) :
    ∃ grouping grouping' : Grouping, grouping.spans.Perm spans ∧ grouping'.spans.Perm spans ∧
      grouping.merged.column = first.column ∧ grouping'.merged.column = later.column := by
  have differs : later ≠ first := fun same => other (congrArg Span.line same)
  obtain ⟨others, perm⟩ : ∃ others, (first :: later :: others).Perm spans := by
    have behind : later ∈ spans.erase first := (List.mem_erase_of_ne differs).2 inside
    exact ⟨(spans.erase first).erase later,
      ((List.perm_cons_erase behind).symm.cons first).trans (List.perm_cons_erase leads.mem).symm⟩
  -- Once the later span is merged behind the first one, and once on the left of all that begins with the first one.
  have before : ∀ span ∈ later :: others, first.place.Before span.place := fun span isOther =>
    leads.before each (perm.subset (List.mem_cons_of_mem first isOther))
  have inFront := merged_inTurn (.one first) rfl before
  have rest := merged_inTurn (.one first) rfl (List.forall_mem_cons.1 before).2
  refine ⟨(Grouping.one first).inTurn (later :: others), (Grouping.one later).both ((Grouping.one first).inTurn others),
    ?_, ?_, congrArg Position.column inFront, ?_⟩
  · rw [Grouping.spans_inTurn]
    exact perm
  · rw [Grouping.spans, Grouping.spans_inTurn]
    exact (List.Perm.swap first later others).trans perm
  · have line : ((Grouping.one first).inTurn others).merged.line = first.line := congrArg Position.line rest
    simp [Grouping.merged, merge, line, other]

/-! ## All orders and groupings -/

/-- What merging makes of spans of one text, two by two and all together. -/
structure MergedAlike (text : List Char) (spans : List Span) : Prop where
  covers : ∀ first ∈ spans, ∀ second ∈ spans, ((first.merge second).Covers [first, second] ↔
    first.line ≤ second.line ∨ first.column = second.column)
  commutes : ∀ first ∈ spans, ∀ second ∈ spans, (first.merge second = second.merge first ↔
    first.line = second.line ∨ first.column = second.column)
  stretches : ∀ grouping : Grouping, grouping.spans.Perm spans → grouping.merged.Stretches spans
  addresses : (∀ grouping : Grouping, grouping.spans.Perm spans →
    grouping.merged.Addresses text ∧ grouping.merged.Covers spans) ↔ Flush spans
  independent : (∀ grouping grouping' : Grouping, grouping.spans.Perm spans → grouping'.spans.Perm spans →
    grouping.merged = grouping'.merged) ↔ Flush spans

/-- The line and the offsets of what is merged are right in every order and grouping; all orders and groupings agree,
and cover their spans, exactly when the later lines start in the column of the first span. -/
theorem merged_alike (each : ∀ span ∈ spans, span.Addresses text) : MergedAlike text spans where
  covers first inFirst second inSecond := covers_merge_iff (each first inFirst) (each second inSecond)
  commutes _ _ _ _ := merge_comm_iff
  stretches _ perm := stretches_of_perm each perm
  addresses := by
    constructor
    · intro all first leads later inside other
      obtain ⟨-, grouping, -, perm, -, column⟩ := exists_groupings each leads inside other
      have covers := (all grouping perm).2
      rw [← column]
      exact ((stretches_of_perm each perm).covers_iff each leads).1 covers
    · intro flush grouping perm
      obtain ⟨first, leads, -, -⟩ := (stretches_of_perm each perm).starts
      have covers := covers_merged each leads flush perm
      exact ⟨covers.addresses each, covers⟩
  independent := by
    constructor
    · intro all first leads later inside other
      obtain ⟨grouping, grouping', perm, perm', column, column'⟩ := exists_groupings each leads inside other
      rw [← column, ← column', all grouping grouping' perm perm']
    · intro flush grouping grouping' perm perm'
      obtain ⟨first, leads, -, -⟩ := (stretches_of_perm each perm).starts
      exact (covers_merged each leads flush perm).unique each (covers_merged each leads flush perm')

/-- Three spans on two lines, the later one in the column of the first. -/
theorem merged_alike_lines :
    (∀ span ∈ ([⟨2, 1, 3, 5⟩, ⟨1, 2, 1, 2⟩, ⟨1, 1, 0, 1⟩] : List Span), span.Addresses "ab\ncd".toList) ∧
      MergedAlike "ab\ncd".toList [⟨2, 1, 3, 5⟩, ⟨1, 2, 1, 2⟩, ⟨1, 1, 0, 1⟩] := by
  have later : Addresses ⟨2, 1, 3, 5⟩ "ab\ncd".toList := ⟨⟨['a', 'b', '\n'], by decide, by decide⟩, by decide⟩
  have second : Addresses ⟨1, 2, 1, 2⟩ "ab\ncd".toList := ⟨⟨['a'], by decide, by decide⟩, by decide⟩
  have first : Addresses ⟨1, 1, 0, 1⟩ "ab\ncd".toList := ⟨⟨[], by decide, by decide⟩, by decide⟩
  have each : ∀ span ∈ ([⟨2, 1, 3, 5⟩, ⟨1, 2, 1, 2⟩, ⟨1, 1, 0, 1⟩] : List Span), span.Addresses "ab\ncd".toList := by
    simp only [List.forall_mem_cons]
    exact ⟨later, second, first, List.forall_mem_nil _⟩
  exact ⟨each, merged_alike each⟩

/-- With the later line on the left, two spans are merged into one that starts nowhere in the text. -/
theorem exists_merge_astray :
    ∃ (text : List Char) (first second : Span), first.Addresses text ∧ second.Addresses text ∧
      first.merge second ≠ second.merge first ∧ ¬ (first.merge second).Addresses text := by
  have first : Addresses ⟨2, 3, 4, 5⟩ "a\n  b".toList := ⟨⟨['a', '\n', ' ', ' '], by decide, by decide⟩, by decide⟩
  have second : Addresses ⟨1, 1, 0, 1⟩ "a\n  b".toList := ⟨⟨[], by decide, by decide⟩, by decide⟩
  refine ⟨"a\n  b".toList, ⟨2, 3, 4, 5⟩, ⟨1, 1, 0, 1⟩, first, second, by decide, fun merged => ?_⟩
  have samePlace := merged.place_eq second rfl
  exact absurd samePlace (by decide)

end Span

end LateBound
