import LateBound.Proofs.AccountSoundness

/-!
# Initialisers are bounded

What is read between brackets is shorter than the text in which the brackets stand, so that reading texts out of texts
comes to an end. The counter of open initialisers says at each node between how many pairs of brackets it stands, and is
behind an initialiser what it was in front of it; so that only an initialiser inside as many as are allowed is refused,
whatever has been evaluated beside it.
-/

namespace LateBound

open Initialiser

/-! ## Texts between brackets are shorter -/

theorem Initialiser.exists_given {raw text : String} (inside : text ∈ readTexts raw) :
    ∃ given, Given raw given ∧ text = trimmed given := by
  unfold readTexts at inside
  dsimp only at inside
  split at inside
  · obtain ⟨_, isKept, assigned⟩ := List.mem_filterMap.1 inside
    obtain ⟨sides, cut, rfl⟩ := Option.map_eq_some_iff.1 assigned
    obtain ⟨segment, isSegment, rfl⟩ := List.mem_map.1 (List.mem_filter.1 isKept).1
    exact ⟨sides.2, .value isSegment cut, rfl⟩
  · obtain ⟨segment, isSegment, rfl⟩ := List.mem_map.1 inside
    exact ⟨segment, .segment (List.mem_filter.1 isSegment).1, rfl⟩

namespace Expr

/-- The first text is read between brackets of the second. -/
def ReadFrom (inner outer : String) : Prop :=
  ∃ tree, parse outer = .ok tree ∧ ∃ node ∈ tree.nodes, inner ∈ node.readTexts

theorem ReadFrom.length_le {inner outer : String} (readFrom : ReadFrom inner outer) :
    inner.length + 2 ≤ outer.length := by
  obtain ⟨tree, read, node, inTree, inside⟩ := readFrom
  cases node with
  | literal | ident | field | call | construct => cases inside
  | initialise target raw span =>
    obtain ⟨given, isGiven, rfl⟩ := Initialiser.exists_given inside
    obtain ⟨before, piece, prior, own, later, behind, _, builds, isText, covers⟩ := exists_standsIn read inTree
    obtain ⟨front, rfl⟩ := builds.bracket covers
    have shorter : (trimmed given).length ≤ raw.length := by
      rw [trimmed, ← String.length_toList, String.toList_ofList, ← String.length_toList]
      exact isGiven.infix_trimmed.length_le
    have whole := congrArg List.length isText
    simp only [List.length_append, List.length_cons, List.length_nil, String.length_toList] at whole
    omega

/-- To read texts between brackets, and texts between brackets of these, comes to an end. -/
theorem wellFounded_readFrom : WellFounded ReadFrom :=
  Subrelation.wf (fun readFrom => Nat.lt_of_lt_of_le (by omega) readFrom.length_le)
    (InvImage.wf String.length Nat.lt_wfRel.wf)

/-! ## Nodes below nodes -/

mutual
theorem nodes_subset : ∀ {tree node : Expr}, node ∈ tree.nodes → node.nodes ⊆ tree.nodes
  | .literal .., node, inside | .ident .., node, inside => by
    obtain rfl := List.mem_singleton.1 inside
    exact List.Subset.refl _
  | .field target name span, node, inside | .initialise target raw span, node, inside => by
    obtain rfl | below := List.mem_cons.1 inside
    · exact List.Subset.refl _
    · exact List.subset_cons_of_subset _ (nodes_subset below)
  | .call target name args span, node, inside => by
    obtain rfl | below := List.mem_cons.1 inside
    · exact List.Subset.refl _
    · refine List.subset_cons_of_subset _ ?_
      obtain inTarget | inArgs := List.mem_append.1 below
      · exact List.subset_append_of_subset_left _ (nodes_subset inTarget)
      · exact List.subset_append_of_subset_right _ (nodes_subset_argNodes inArgs)
  | .construct typeName args span, node, inside => by
    obtain rfl | below := List.mem_cons.1 inside
    · exact List.Subset.refl _
    · exact List.subset_cons_of_subset _ (nodes_subset_argNodes below)

theorem nodes_subset_argNodes : ∀ {args : List Expr} {node : Expr}, node ∈ argNodes args → node.nodes ⊆ argNodes args
  | arg :: args, node, inside => by
    obtain inFirst | inRest := List.mem_append.1 inside
    · exact List.subset_append_of_subset_left _ (nodes_subset inFirst)
    · exact List.subset_append_of_subset_right _ (nodes_subset_argNodes inRest)
end

theorem mem_nodes_self (tree : Expr) : tree ∈ tree.nodes := by
  cases tree <;> exact List.mem_cons_self

theorem mem_argNodes {arg : Expr} {args : List Expr} (inside : arg ∈ args) : arg ∈ argNodes args := by
  induction args with
  | nil => cases inside
  | cons first args inductionHypothesis =>
    obtain rfl | inRest := List.mem_cons.1 inside
    · exact List.mem_append_left _ arg.mem_nodes_self
    · exact List.mem_append_right _ (inductionHypothesis inRest)

theorem mem_nodes_of_children {child node : Expr} (isChild : child ∈ node.children) : child ∈ node.nodes := by
  cases node with
  | literal | ident => cases isChild
  | field | initialise =>
    obtain rfl := List.mem_singleton.1 isChild
    exact List.mem_cons_of_mem _ child.mem_nodes_self
  | call target name args span =>
    obtain rfl | isArg := List.mem_cons.1 isChild
    · exact List.mem_cons_of_mem _ (List.mem_append_left _ child.mem_nodes_self)
    · exact List.mem_cons_of_mem _ (List.mem_append_right _ (mem_argNodes isArg))
  | construct typeName args span => exact List.mem_cons_of_mem _ (mem_argNodes isChild)

end Expr

/-! ## Nodes of texts that are read -/

namespace Account

variable {evaluation : Evaluation} {account : Account}

/-- The node belongs to the tree that is read from its text. -/
def IsRead (account : Account) : Prop :=
  ∀ node, account.node? = some node → ∃ tree, Expr.parse account.text = .ok tree ∧ node ∈ tree.nodes

theorem isRead_of_readIn {text : String} (isSubject : account.subject = Expr.readIn text) : account.IsRead := by
  intro node isNode
  obtain rfl : account.text = text := congrArg Prod.fst isSubject
  have read : (Expr.parse account.text).toOption = some node := (congrArg Prod.snd isSubject).symm.trans isNode
  cases parsed : Expr.parse account.text with
  | ok tree =>
    rw [parsed] at read
    cases read
    exact ⟨node, rfl, node.mem_nodes_self⟩
  | error error =>
    rw [parsed] at read
    cases read

theorem Regular.isRead_of_part {depth : Nat} (regular : account.Regular depth) (isRead : account.IsRead)
    {part : Account} (inside : part ∈ account.parts) : part.IsRead := by
  cases isNode : account.node? with
  | none =>
    rw [(regular.ofText isNode).1] at inside
    cases inside
  | some node =>
    obtain ⟨tree, parsed, inTree⟩ := isRead node isNode
    have isSubject : part.subject ∈ node.children.map fun child => (account.text, some child) :=
      (regular.ofNode node isNode).parts ▸ List.mem_map_of_mem inside
    obtain ⟨child, isChild, same⟩ := List.mem_map.1 isSubject
    obtain ⟨isText, isPart⟩ := Prod.mk.inj same
    rintro _ isHere
    cases isPart.trans isHere
    exact ⟨tree, isText ▸ parsed, Expr.nodes_subset inTree (Expr.mem_nodes_of_children isChild)⟩

/-- What is read between the brackets of a node is read from its text. -/
theorem Regular.exists_of_segment {depth : Nat} (regular : account.Regular depth) {segment : Account}
    (inside : segment ∈ account.segments) : ∃ node, account.node? = some node ∧
      ∃ text ∈ node.readTexts, segment.subject = Expr.readIn text := by
  cases isNode : account.node? with
  | none =>
    rw [(regular.ofText isNode).2.1] at inside
    cases inside
  | some node =>
    have isSubject : segment.subject ∈ node.readTexts.map Expr.readIn :=
      (regular.ofNode node isNode).segments.subset (List.mem_map_of_mem inside)
    obtain ⟨text, isText, same⟩ := List.mem_map.1 isSubject
    exact ⟨node, rfl, text, isText, same.symm⟩

theorem Regular.readFrom {depth : Nat} (regular : account.Regular depth) (isRead : account.IsRead) {segment : Account}
    (inside : segment ∈ account.segments) : Expr.ReadFrom segment.text account.text := by
  obtain ⟨node, isNode, text, isText, isSubject⟩ := regular.exists_of_segment inside
  obtain ⟨tree, parsed, inTree⟩ := isRead node isNode
  obtain rfl : segment.text = text := congrArg Prod.fst isSubject
  exact ⟨tree, parsed, node, inTree, isText⟩

theorem Sound.isRead_of_contains {depth level : Nat} {inner : Account} (sound : account.Sound depth)
    (isRead : account.IsRead) (contains : account.Contains level inner) : inner.IsRead := by
  induction contains generalizing depth with
  | self => exact isRead
  | part inside _ inductionHypothesis =>
    obtain ⟨regular, soundParts, _⟩ := sound
    exact inductionHypothesis (soundParts _ inside) (regular.isRead_of_part isRead inside)
  | segment inside _ inductionHypothesis =>
    obtain ⟨regular, _, soundSegments⟩ := sound
    obtain ⟨_, _, text, _, isSubject⟩ := regular.exists_of_segment inside
    exact inductionHypothesis (soundSegments _ inside) (isRead_of_readIn isSubject)

/-! ## Who reports what -/

theorem Sound.exists_of_told {depth : Nat} (sound : account.Sound depth) {report : Report}
    (told : report ∈ account.told evaluation) :
    ∃ level inner, account.Contains level inner ∧ report ∈ inner.own evaluation := by
  induction sound with
  | @intro depth account _ _ _ ofParts ofSegments =>
    rw [told_eq] at told
    obtain below | isOwn := List.mem_append.1 told
    · obtain inParts | inSegments := List.mem_append.1 below
      · obtain ⟨part, inside, told⟩ := List.mem_flatMap.1 inParts
        obtain ⟨level, inner, contains, isOwn⟩ := ofParts part inside told
        exact ⟨level, inner, .part inside contains, isOwn⟩
      · obtain ⟨segment, inside, told⟩ := List.mem_flatMap.1 inSegments
        obtain ⟨level, inner, contains, isOwn⟩ := ofSegments segment inside told
        exact ⟨level + 1, inner, .segment inside contains, isOwn⟩
    · exact ⟨0, account, .self account, isOwn⟩

theorem exists_of_own {report : Report} (isOwn : report ∈ account.own evaluation) : ∃ node failure,
    account.node? = some node ∧ account.outcome = .error failure ∧ report.diagnostic.cause = failure.cause := by
  unfold own at isOwn
  split at isOwn
  · rename_i node failure isNode failed
    unfold Settings.record at isOwn
    split at isOwn
    · cases List.mem_singleton.1 isOwn
      exact ⟨node, failure, isNode, failed, rfl⟩
    · cases isOwn
  · cases isOwn

/-- An initialiser is refused only inside as many as are allowed. -/
theorem Sound.exists_of_tooDeep {depth limit : Nat} (sound : account.Sound depth) {report : Report}
    (told : report ∈ account.told evaluation) (deep : report.diagnostic.cause = .initialisersTooDeep limit) :
    ∃ level inner target raw span, account.Contains level inner ∧ report ∈ inner.own evaluation ∧
      inner.node? = some (.initialise target raw span) ∧ maxInitialisers ≤ depth + level := by
  obtain ⟨level, inner, contains, isOwn⟩ := sound.exists_of_told told
  obtain ⟨node, failure, isNode, failed, same⟩ := exists_of_own isOwn
  have regular := (sound.of_contains contains).regular
  obtain ⟨isDeep, target, raw, span, rfl⟩ :=
    (regular.ofNode node isNode).tooDeep failure limit failed (same.symm.trans deep)
  exact ⟨level, inner, target, raw, span, contains, isOwn, isNode, isDeep⟩

end Account

/-- What is read between brackets is shorter than the text around them. Behind any operations, and wherever an evaluation
has come to, the counter says at each node between how many pairs of brackets it stands; it is behind an initialiser
what it was in front of it; and only an initialiser that stands between as many as are allowed is refused. -/
theorem initialisers_bounded (registry : Registry) (policy : AllowList) (settings : Settings) (store : Store)
    (operations : List Operation) (context : Context) (source : String) :
    let gate := Engine.gateOf registry policy
    let engine := (Engine.cached gate settings store).after operations
    let evaluation : Evaluation := ⟨gate, engine.settings, context, source⟩
    (∀ inner outer, Expr.ReadFrom inner outer → inner.length + 2 ≤ outer.length) ∧ WellFounded Expr.ReadFrom ∧
      engine.machine.Faithful gate ∧ ∀ machine : Machine Caches, machine.Faithful gate →
        ∀ depth room fuel, depth + room = maxInitialisers → room ≤ fuel →
          (∀ target raw,
            let ended := (evaluation.initialise room target raw).outcome.run machine
            let counted := (evaluation.countedInitialise fuel target raw).run ⟨depth, machine⟩
            counted.1.outcome = ended.1 ∧ counted.2 = ⟨depth, ended.2⟩) ∧
          ∀ text tree, Expr.parse text = .ok tree →
            let ended := (evaluation.expression (evaluation.initialise room) text tree).run machine
            let told := (evaluation.accountOf (evaluation.countedInitialise fuel) text tree).run ⟨depth, machine⟩
            evaluation.Writes depth machine.reported (text, some tree) told.1 ended.1 told.2 ended.2 ∧
              (∀ level inner, told.1.Contains level inner → inner.entered = depth + level ∧ inner.left = depth + level ∧
                ∀ segment ∈ inner.segments, Expr.ReadFrom segment.text inner.text) ∧
              ∀ report ∈ told.1.told evaluation, ∀ limit, report.diagnostic.cause = .initialisersTooDeep limit →
                ∃ level inner target raw span, told.1.Contains level inner ∧ report ∈ inner.own evaluation ∧
                  inner.node? = some (.initialise target raw span) ∧ maxInitialisers ≤ depth + level := by
  intro gate engine evaluation
  obtain ⟨-, faithful⟩ := Engine.faithful_after registry policy settings store operations
  refine ⟨fun inner outer readFrom => readFrom.length_le, Expr.wellFounded_readFrom, faithful, ?_⟩
  intro machine faithful depth room fuel isRoom enough
  have opens : evaluation.Opens depth (evaluation.countedInitialise fuel) (evaluation.initialise room) :=
    Evaluation.opens_countedInitialise isRoom enough
  have start : evaluation.At depth machine.reported ⟨depth, machine⟩ machine := ⟨rfl, rfl, rfl, faithful⟩
  refine ⟨?_, ?_⟩
  · intro target raw ended counted
    obtain ⟨gathers, -⟩ := opens machine.reported target raw ⟨depth, machine⟩ machine start
    refine ⟨gathers.ended, ?_⟩
    rw [← gathers.behind.counter, ← gathers.behind.same]
  · intro text tree read ended told
    have writes : evaluation.Writes depth machine.reported (text, some tree) told.1 ended.1 told.2 ended.2 :=
      Evaluation.tracks_accountOf opens machine.reported text tree ⟨depth, machine⟩ machine start
    have isText : (text, some tree) = Expr.readIn text := by
      rw [Expr.readIn, read]
      rfl
    have isRead : told.1.IsRead := Account.isRead_of_readIn (writes.subject.trans isText)
    refine ⟨writes, fun level inner contains => ?_, fun report isTold limit deep => ?_⟩
    · have regular := (writes.sound.of_contains contains).regular
      have innerRead := writes.sound.isRead_of_contains isRead contains
      exact ⟨regular.entered, regular.left, fun segment inside => regular.readFrom innerRead inside⟩
    · exact writes.sound.exists_of_tooDeep isTold deep

/-- Inside as many as are allowed one more is refused, and it is said of that one. -/
theorem initialisers_bounded_dial :
    let gate := Engine.gateOf ⟨[freshDial]⟩ .all
    let engine := Engine.cached gate .standard
    let source := "Dial[]"
    let evaluation : Evaluation := ⟨gate, engine.settings, .empty, source⟩
    let tree : Expr := .initialise (.ident "Dial" ⟨1, 1, 0, 4⟩) "" ⟨1, 1, 0, 6⟩
    let ended := (evaluation.expression (evaluation.initialise 0) source tree).run engine.machine
    let told := (evaluation.accountOf (evaluation.countedInitialise 0) source tree).run ⟨64, engine.machine⟩
    Expr.parse source = .ok tree ∧ Expr.ReadFrom source "Dial[Dial[]]" ∧ source.length + 2 ≤ "Dial[Dial[]]".length ∧
      ∃ report, ended.2.reported = [report] ∧ report.diagnostic.cause = .initialisersTooDeep 64 ∧
        ∃ level inner target raw span, told.1.Contains level inner ∧ report ∈ inner.own evaluation ∧
          inner.node? = some (.initialise target raw span) ∧ maxInitialisers ≤ 64 + level := by
  intro gate engine source evaluation tree ended told
  have read : Expr.parse source = .ok tree := by cbv
  have nested : Expr.ReadFrom source "Dial[Dial[]]" := by
    have parsed : Expr.parse "Dial[Dial[]]" =
        .ok (.initialise (.ident "Dial" ⟨1, 1, 0, 4⟩) "Dial[]" ⟨1, 1, 0, 12⟩) := by cbv
    exact ⟨_, parsed, _, List.mem_cons_self, List.mem_singleton.2 rfl⟩
  obtain ⟨report, isReported, deep⟩ : ∃ report, ended.2.reported = [report] ∧
      report.diagnostic.cause = .initialisersTooDeep 64 := by
    refine ⟨_, rfl, ?_⟩
    rfl
  obtain ⟨shorter, -, faithful, follows⟩ :=
    initialisers_bounded ⟨[freshDial]⟩ .all .standard .empty [] .empty source
  obtain ⟨-, reports⟩ := follows _ faithful 64 0 0 rfl (Nat.le_refl 0)
  obtain ⟨writes, -, isDeep⟩ := reports source tree read
  have inside : report ∈ told.1.told evaluation := by
    have isTold : [report] = (told.1.told evaluation).reverse ++ [] := isReported.symm.trans writes.behind.reported
    rw [List.append_nil] at isTold
    exact List.mem_reverse.1 (isTold ▸ List.mem_singleton_self report)
  exact ⟨read, nested, shorter _ _ nested, report, isReported, deep, isDeep report inside 64 deep⟩

end LateBound
