import LateBound.Proofs.Nesting
import LateBound.Proofs.Transparency

/-!
# Diagnostics and the nodes they are about

An engine with caches and itself are twins too, under any gate, and what is told of their reports holds of
each of them: it is about a text that stands in its source, and about a node that stands in this text, and
its span is that of the node. So whether a diagnostic points at what failed is a question on two places
only: that of the text in the source, and that of the node in the text.
-/

namespace LateBound

/-- From states that are kept an action comes to a good answer and to a state that is kept. So two runs of
it do. -/
theorem Coupled.of_keeps {σ α : Type} {kept : σ → Prop} {good : α → Prop} {action : StateM σ α}
    (keeps : ∀ s, kept s → good (action.run s).1 ∧ kept (action.run s).2) :
    Coupled (fun s t => s = t ∧ kept s) (Same good) action action := by
  rintro s _ ⟨rfl, isKept⟩
  obtain ⟨isGood, isKept⟩ := keeps s isKept
  exact ⟨⟨rfl, isGood⟩, rfl, isKept⟩

/-! ## Caches that hold what the gate has -/

/-- The gate has the type under some name, from its provider or from the values that carry it. -/
def Gate.Has (gate : Gate) (type : HostType) : Prop :=
  ∃ name, gate.find? name = some type ∨ gate.describe name = type

/-- The trees and the types are what would be found afresh, and the members belong to types of the gate. -/
structure Caches.Kept (gate : Gate) (caches : Caches) : Prop where
  trees : caches.trees.Sound
  types : caches.types.Sound gate
  handles : ∀ sort : MemberSort, ∀ entry ∈ caches.handles.known sort, sort.Of gate.Has entry.2

/-- The caches are the same, and hold what the gate has. -/
abbrev Caches.KeptBoth (gate : Gate) (first second : Caches) : Prop :=
  first = second ∧ first.Kept gate

namespace Caches

variable {gate : Gate}

theorem kept_empty (gate : Gate) (capacity : Nat) : (empty capacity).Kept gate where
  trees := TreeCache.sound_empty capacity
  types := fun _ inside => nomatch inside
  handles := fun sort _ inside => nomatch HandleCache.known_empty sort ▸ inside

theorem kept_forget (caches : Caches) (gate : Gate) : (Memory.forget caches).Kept gate where
  trees := TreeCache.sound_empty caches.trees.capacity
  types := fun _ inside => nomatch inside
  handles := fun sort _ inside => nomatch caches.handles.known_clear sort ▸ inside

theorem admitSame_self (gate : Gate) : gate.admits = gate.admits :=
  rfl

theorem showSame_self (gate : Gate) : ShowSame (KeptBoth gate) gate.Has gate gate := by
  refine fun name => Coupled.of_keeps fun caches kept => ?_
  obtain ⟨answered, types⟩ := kept.types.lookup name
  refine ⟨fun type shown => ?_, { kept with types }⟩
  have shown : (gate.lookup name).type? = some type := answered ▸ shown
  exact ⟨name, .inl (Gate.find?_of_lookup shown).1⟩

theorem Kept.count {caches : Caches} (kept : caches.Kept gate) (searches hits : Nat) :
    Kept gate { caches with handles := { caches.handles with searches, hits } } where
  trees := kept.trees
  types := kept.types
  handles sort := by
    rw [HandleCache.known_count]
    exact kept.handles sort

theorem Kept.add {caches : Caches} (kept : caches.Kept gate) {sort : MemberSort} {handle : sort.Handle}
    (isOf : sort.Of gate.Has handle) (shape : CallShape) :
    Kept gate { caches with handles := caches.handles.add shape sort handle } where
  trees := kept.trees
  types := kept.types
  handles := HandleCache.forall_known_add kept.handles isOf

theorem findSame_self {type : HostType} (isKnown : gate.Has type) (shape : CallShape) (sort : MemberSort) :
    Coupled (KeptBoth gate) (Same fun found => ∀ handle ∈ found, sort.Of gate.Has handle)
      (sort.find gate type shape) (sort.find gate type shape) := by
  have search := (showSame_self gate).search isKnown shape sort
  refine Coupled.of_keeps fun caches kept => ?_
  cases isKept : (caches.handles.known sort).lookup shape with
  | some handle =>
    rw [MemberSort.find, run_retrieve_kept _ isKept]
    refine ⟨fun found isFound => ?_, kept.count _ _⟩
    cases isFound
    exact kept.handles sort _ (mem_of_lookup_eq_some isKept)
  | none =>
    rw [MemberSort.find, run_retrieve_new _ isKept]
    have searched := search _ _ ⟨rfl, kept.count (caches.handles.searches + 1) caches.handles.hits⟩
    generalize (sort.search gate type shape : StateM Caches _).run _ = ended at searched ⊢
    obtain ⟨found, after⟩ := ended
    obtain ⟨⟨-, isOf⟩, -, kept⟩ := searched
    cases found with
    | none => exact ⟨isOf, kept⟩
    | some handle => exact ⟨isOf, kept.add (isOf handle rfl) shape⟩

theorem parseSame_self (gate : Gate) (source : String) :
    Coupled (KeptBoth gate) (Same (· = Expr.parse source)) (Memory.parse source) (Memory.parse source) := by
  refine Coupled.of_keeps fun caches kept => ?_
  obtain ⟨parsed, trees⟩ := kept.trees.getOrParse source
  exact ⟨parsed, { kept with trees }⟩

end Caches

theorem Gate.has_describe (gate : Gate) (name : String) : gate.Has (gate.describe name) :=
  ⟨name, .inr rfl⟩

theorem Gate.describeSame_self (gate : Gate) (name : String) :
    Peers gate.admits gate.Has (gate.describe name) (gate.describe name) ∧
      (gate.admits name = true → gate.describe name = gate.describe name ∧ gate.Has (gate.describe name)) :=
  ⟨.refl (gate.has_describe name), fun _ => ⟨rfl, gate.has_describe name⟩⟩

/-- An engine with caches and itself, whatever is told of their reports. -/
def Twins.itself (gate : Gate) (ledger : Ledger)
    (discreet : ∀ type, gate.Has type → type.Discreet (fun _ => false) ledger.places) : Twins Caches Caches where
  first := gate
  second := gate
  ledger := ledger
  hides _ := false
  known := gate.Has
  permits _ := True
  linked := Caches.KeptBoth gate
  admitSame := Caches.admitSame_self gate
  showSame := Caches.showSame_self gate
  describeSame := gate.describeSame_self
  findSame isKnown _ sort := Caches.findSame_self isKnown _ sort
  parseSame := Caches.parseSame_self gate
  permitKnown _ := trivial
  discreet isKnown := discreet _ isKnown

instance Twins.forgetful_itself (gate : Gate) (ledger : Ledger)
    (discreet : ∀ type, gate.Has type → type.Discreet (fun _ => false) ledger.places) :
    (Twins.itself gate ledger discreet).Forgetful where
  forgetSame := by
    rintro caches _ ⟨rfl, _⟩
    exact ⟨rfl, caches.kept_forget gate⟩

/-! ## Reports -/

/-- The node is met when `source` is evaluated: it stands in the text, and the text in the source. -/
def Expr.MetIn (node : Expr) (source text : String) : Prop :=
  (∃ lead, Embeds source lead text) ∧ ∃ before piece, node.StandsIn text before piece

/-- The report is about the source itself, which is no expression, and its span is that of a piece of it; or
it is about a node that is met when the source is evaluated, and its span is that of the node. -/
def Report.Located (report : Report) : Prop :=
  match report.node? with
  | none => report.text = report.diagnostic.source ∧ ∀ span ∈ report.diagnostic.span,
      ∃ before piece, span.PointsAt report.diagnostic.source.toList before piece
  | some node => report.diagnostic.span = some node.span ∧ node.MetIn report.diagnostic.source report.text

def Ledger.placed : Ledger where
  places := (· = none)
  readable source text node := node.MetIn source text
  told := Report.Located
  placeless := rfl
  read parsed _ inside := ⟨⟨[], .whole⟩, Expr.exists_standsIn parsed inside⟩
  readSegment met isGiven parsed node inside := by
    obtain ⟨⟨lead, embeds⟩, before, piece, stands⟩ := met
    exact ⟨embeds.exists_segment stands isGiven, Expr.exists_standsIn parsed inside⟩
  tellFailure unit met placeless := by
    refine ⟨?_, met⟩
    rw [Diagnostic.ofFailure, Failure.orAt, placeless]
    rfl
  tellSyntax unit failed := by
    refine ⟨rfl, fun span isSpan => ?_⟩
    obtain ⟨before, piece, behind, isSource, marks⟩ := Expr.marks_of_parse_eq_error failed isSpan
    exact ⟨before, piece, (Span.pointsAt_iff_marks isSource).2 marks⟩

def Twins.alone {gate : Gate} (spanless : ∀ type, gate.Has type → type.FailsAt (· = none)) :
    Twins Caches Caches :=
  .itself gate .placed fun type isKnown => (spanless type isKnown).discreet

instance {gate : Gate} (spanless : ∀ type, gate.Has type → type.FailsAt (· = none)) :
    (Twins.alone spanless).Forgetful :=
  Twins.forgetful_itself gate .placed fun type isKnown => (spanless type isKnown).discreet

/-- Every report is about a node or a text at which its span is. -/
theorem reports_located {gate : Gate} (spanless : ∀ type, gate.Has type → type.FailsAt (· = none))
    (settings : Settings) (store : Store) (operations : List Operation) :
    ∀ observation ∈ (Engine.cached gate settings store).observeAll operations,
      ∀ report ∈ observation.reports, report.Located := by
  have alike : List.Forall₂ (Operation.Alike fun _ => false) operations operations :=
    List.forall₂_same.2 fun operation _ => operation.alike_self
  have empty : Caches.KeptBoth gate (.empty settings.treeCapacity) (.empty settings.treeCapacity) :=
    ⟨rfl, Caches.kept_empty gate _⟩
  have related : (Twins.alone spanless).Engines (.cached gate settings store) (.cached gate settings store) :=
    Twins.start empty settings rfl
  have seen := Twins.observeAll related alike
  exact fun observation inside => (Twins.promised seen observation inside).1

/-! ## Where diagnostics point -/

/-- The span of a diagnostic about a whole source that is no expression is that of a piece of the source. The
span of a diagnostic about a node is that of the node, which was read from a piece of the source; and it is at
this piece exactly when the node was read from the source itself, not from a segment of an initialiser in it,
and no parenthesis is in front of the piece. -/
theorem diagnostics_pointAt_iff {gate : Gate} (spanless : ∀ type, gate.Has type → type.FailsAt (· = none))
    (settings : Settings) (store : Store) (operations : List Operation) :
    ∀ observation ∈ (Engine.cached gate settings store).observeAll operations,
      ∀ report ∈ observation.reports,
        (report.node? = none → ∀ span ∈ report.diagnostic.span,
          ∃ before piece, span.PointsAt report.diagnostic.source.toList before piece) ∧
        ∀ node ∈ report.node?,
          report.diagnostic.span = some node.span ∧
          (∃ lead before piece, Embeds report.diagnostic.source lead report.text ∧
            node.StandsIn report.text before piece) ∧
          ∀ lead before piece, Embeds report.diagnostic.source lead report.text →
            node.StandsIn report.text before piece →
            (node.span.PointsAt report.diagnostic.source.toList (lead ++ before) piece ↔
              lead = [] ∧ piece.head? ≠ some '(') := by
  intro observation isSeen report isReport
  have located := reports_located spanless settings store operations observation isSeen report isReport
  obtain ⟨diagnostic, text, node?⟩ := report
  cases node? with
  | none => exact ⟨fun _ => located.2, fun _ isNode => nomatch isNode⟩
  | some node =>
    refine ⟨nofun, fun node isNode => ?_⟩
    cases isNode
    have located : diagnostic.span = some node.span ∧ node.MetIn diagnostic.source text := located
    obtain ⟨place, ⟨lead, embeds⟩, before, piece, stands⟩ := located
    exact ⟨place, ⟨lead, before, piece, embeds, stands⟩, fun _ _ _ embeds stands => embeds.span_pointsAt_iff stands⟩

/-! ### A box with a node that fails -/

def boxType : HostType :=
  (HostType.empty "Box").addConstructor ⟨"Box", [.any], true, true, fun _ args => return args.headD .null⟩

def boxGate : Gate :=
  Engine.gateOf (Registry.empty.insert boxType) ⟨["*"]⟩

theorem boxGate_spanless (type : HostType) (isKnown : boxGate.Has type) : type.FailsAt (· = none) := by
  have boxType_spanless : boxType.FailsAt (· = none) := by
    refine ⟨fun member inside => ?_, nofun, nofun, nofun⟩
    cases List.mem_singleton.1 inside
    exact fun _ _ _ _ failed => nomatch failed
  obtain ⟨name, found | described⟩ := isKnown
  · have found : [boxType].find? (·.name == name) = some type := found
    cases List.mem_singleton.1 (List.mem_of_find?_eq_some found)
    exact boxType_spanless
  · subst described
    show (([boxType].find? (·.name == name)).or none |>.getD (.empty name)).FailsAt (· = none)
    cases found : [boxType].find? (·.name == name) with
    | none => exact ⟨nofun, nofun, nofun, nofun⟩
    | some type =>
      cases List.mem_singleton.1 (List.mem_of_find?_eq_some found)
      exact boxType_spanless

theorem diagnostics_pointAt_iff_box :
    (∀ type, boxGate.Has type → type.FailsAt (· = none)) ∧
    ∀ observation ∈ (Engine.cached boxGate .standard).observeAll [.evaluate .empty "Box[5.y]"],
      ∀ report ∈ observation.reports, ∀ node ∈ report.node?,
        ∀ lead before piece, Embeds report.diagnostic.source lead report.text →
          node.StandsIn report.text before piece →
          (node.span.PointsAt report.diagnostic.source.toList (lead ++ before) piece ↔
            lead = [] ∧ piece.head? ≠ some '(') :=
  ⟨boxGate_spanless, fun observation isSeen report isReport node isNode =>
    ((diagnostics_pointAt_iff boxGate_spanless .standard .empty [.evaluate .empty "Box[5.y]"] observation isSeen
      report isReport).2 node isNode).2.2⟩

def boxSegment : Expr :=
  .field (.literal (.int 5) ⟨1, 1, 0, 1⟩) "y" ⟨1, 1, 0, 3⟩

def boxTree : Expr :=
  .initialise (.ident "Box" ⟨1, 1, 0, 3⟩) "5.y" ⟨1, 1, 0, 8⟩

theorem parse_boxSegment : Expr.parse "5.y" = .ok boxSegment := by cbv

theorem parse_boxTree : Expr.parse "Box[5.y]" = .ok boxTree := by cbv

def boxEvaluation : Evaluation :=
  ⟨boxGate, .standard, .empty, "Box[5.y]"⟩

theorem run_boxEvaluation : (boxEvaluation.run : Run Unit Value) = boxEvaluation.value boxTree := by
  have read : Expr.parse boxEvaluation.source = .ok boxTree := parse_boxTree
  unfold Evaluation.run
  dsimp only [Run.remember, Memory.parse]
  rw [read]
  rfl

theorem segment_eq (evaluation : Evaluation) (initialise : Value → String → Attempt Unit Value)
    {text : List Char} {tree : Expr} (read : Expr.parse (String.ofList (Text.trimChars text)) = .ok tree) :
    (evaluation.segment initialise text : Run Unit Value) = do
      return (← evaluation.expression initialise (String.ofList (Text.trimChars text)) tree).unwrapped := by
  unfold Evaluation.segment
  dsimp only [Run.remember, Memory.parse]
  rw [read]
  rfl

theorem fill_boxEvaluation (initialise : Value → String → Attempt Unit Value) :
    boxEvaluation.fill initialise boxType "5.y" = (do
      let value ← Attempt.lift (boxEvaluation.expression initialise "5.y" boxSegment)
      construct boxEvaluation.gate boxType [value.unwrapped]) := by
  have read : Expr.parse (String.ofList (Text.trimChars ['5', '.', 'y'])) = .ok boxSegment := parse_boxSegment
  change (do
    let args ← Attempt.lift ([['5', '.', 'y']].mapM (boxEvaluation.segment initialise))
    construct boxEvaluation.gate boxType args) = _
  rw [List.mapM_cons, List.mapM_nil, segment_eq _ _ read]
  rfl

/-- The one report is on the segment, and its span is that of the segment as if this were the source. -/
theorem reported_boxEvaluation : ∃ cause,
    ((boxEvaluation.run : Run Unit Value).run (.start () .empty)).2.reported =
      [⟨⟨cause, "Box[5.y]", some ⟨1, 1, 0, 3⟩, none⟩, "5.y", some boxSegment⟩] := by
  have filled : (boxEvaluation.value boxTree : Run Unit Value).run (.start () .empty) =
      (boxEvaluation.recover "Box[5.y]" boxTree
        (boxEvaluation.fill (boxEvaluation.initialise 63) boxType "5.y")).run (.start () .empty) := rfl
  rw [run_boxEvaluation, filled, fill_boxEvaluation]
  exact ⟨_, rfl⟩

/-- The node that fails is read from the whole of `5.y`, and the diagnostic on it points at `Box`. -/
theorem exists_diagnostic_elsewhere :
    (∀ type, boxGate.Has type → type.FailsAt (· = none)) ∧
    ∃ observation ∈ (Engine.cached boxGate .standard).observeAll [.evaluate .empty "Box[5.y]"],
      ∃ report ∈ observation.reports, ∃ node ∈ report.node?, ∃ span ∈ report.diagnostic.span,
        Expr.parse "5.y" = .ok node ∧ report.diagnostic.source = "Box[5.y]" ∧
        Source.slice? "Box[5.y]".toList span.start span.stop = some "Box".toList := by
  refine ⟨boxGate_spanless, ?_⟩
  have seen : (Engine.cached boxGate .standard).observeAll [.evaluate .empty "Box[5.y]"] =
      (Engine.start boxGate .standard ()).observeAll [.evaluate .empty "Box[5.y]"] :=
    Registry.observeAll_cached_eq _ _ _ _ _
  have reports : ((Engine.start boxGate .standard ()).observeAll [.evaluate .empty "Box[5.y]"]).map (·.reports) =
      [((boxEvaluation.run : Run Unit Value).run (.start () .empty)).2.reported.reverse] := rfl
  obtain ⟨cause, reported⟩ := reported_boxEvaluation
  rw [reported] at reports
  obtain ⟨observation, isSeen, reports⟩ := List.mem_map.1 (reports ▸ List.mem_singleton_self _)
  have isReport : ⟨⟨cause, "Box[5.y]", some ⟨1, 1, 0, 3⟩, none⟩, "5.y", some boxSegment⟩ ∈ observation.reports := by
    rw [reports]
    exact List.mem_singleton_self _
  have cut : Source.slice? "Box[5.y]".toList 0 3 = some "Box".toList := by decide
  rw [seen]
  exact ⟨observation, isSeen, _, isReport, boxSegment, rfl, ⟨1, 1, 0, 3⟩, rfl, parse_boxSegment, rfl, cut⟩

end LateBound
