import LateBound.Proofs.BalancedSegments
import LateBound.Proofs.Construction
import LateBound.Proofs.Faithful
import LateBound.Proofs.FieldWrites
import LateBound.Proofs.Positional

/-!
# Initialisers that assign fields

An initialiser with an assignment among its segments makes an instance without arguments and then takes the segments in
order: the value of an assignment is evaluated and written. The first segment that is no assignment, or whose value is
not accepted, ends this, and with it the initialiser.
-/

namespace LateBound

open Initialiser

def trimmed (text : List Char) : String :=
  String.ofList (Text.trimChars text)

namespace Evaluation

variable {evaluation : Evaluation} {machine : Machine Caches}

/-! ## Segments in order -/

/-- On a machine the value of a text is that of the expression in it, without a box; if it is none, the text itself.
Either way the text has been read. -/
inductive Comes (evaluation : Evaluation) (room : Nat) (text : List Char) (machine : Machine Caches) :
    Value → Machine Caches → Prop
  | expression {tree : Expr} {value : Value} {between after : Machine Caches} :
      Expr.parse (trimmed text) = .ok tree →
      (Run.remember (Memory.parse (trimmed text))).run machine = (.ok tree, between) →
      (evaluation.expression (evaluation.initialise room) (trimmed text) tree).run between = (value, after) →
      Comes evaluation room text machine value.unwrapped after
  | text {error : SyntaxError} {after : Machine Caches} :
      Expr.parse (trimmed text) = .error error →
      (Run.remember (Memory.parse (trimmed text))).run machine = (.error error, after) →
      Comes evaluation room text machine (.str (trimmed text)) after

/-- On a machine segments are taken in order for an object: each that is an assignment is evaluated and written, up to
the first that is none or that is refused. -/
inductive Takes (evaluation : Evaluation) (room : Nat) (object : Value) (raw : String) :
    List (List Char) → Machine Caches → Except Failure Unit → Machine Caches → Prop
  | done (machine : Machine Caches) : Takes evaluation room object raw [] machine (.ok ()) machine
  | written {segment name text : List Char} {rest : List (List Char)} {value : Value}
      {machine between behind after : Machine Caches} {ended : Except Failure Unit} : Assigns segment name text →
      evaluation.Comes room text machine value between →
      (writeField evaluation.gate object (trimmed name) value).outcome.run between = (.ok (), behind) →
      Takes evaluation room object raw rest behind ended after →
      Takes evaluation room object raw (segment :: rest) machine ended after
  | refused {segment name text : List Char} {rest : List (List Char)} {value : Value} {failure : Failure}
      {machine between after : Machine Caches} : Assigns segment name text →
      evaluation.Comes room text machine value between →
      (writeField evaluation.gate object (trimmed name) value).outcome.run between = (.error failure, after) →
      Takes evaluation room object raw (segment :: rest) machine (.error failure) after
  | stray {segment : List Char} {rest : List (List Char)} {machine : Machine Caches} :
      (∀ name text, ¬ Assigns segment name text) →
      Takes evaluation room object raw (segment :: rest) machine
        (.error (.of (.notAssignment raw (trimmed segment)))) machine

theorem segment_congr (opening : Value → String → Attempt Caches Value) {text text' : List Char}
    (same : Text.trimChars text = Text.trimChars text') :
    evaluation.segment opening text = evaluation.segment opening text' := by
  unfold segment
  rw [same]

/-- The value of a text is the one that a segment with it has. -/
theorem comes_segment (faithful : machine.Faithful evaluation.gate) (room : Nat) (text : List Char) :
    let ended := (evaluation.segment (evaluation.initialise room) text).run machine
    evaluation.Comes room text machine ended.1 ended.2 ∧ ended.2.Faithful evaluation.gate := by
  obtain ⟨memory, behind, read⟩ := faithful.parse (trimmed text)
  intro ended
  cases parsed : Expr.parse (trimmed text) with
  | ok tree =>
    rw [parsed] at read
    let evaluated :=
      (evaluation.expression (evaluation.initialise room) (trimmed text) tree).run { machine with memory }
    have ran : ended = (evaluated.1.unwrapped, evaluated.2) := by
      unfold ended segment
      rw [StateT.run_bind]
      unfold trimmed at read
      rw [read]
      rfl
    rw [ran]
    exact ⟨.expression parsed read rfl, (evaluation.expression_keepsFaith room (trimmed text) tree _ behind).1⟩
  | error error =>
    rw [parsed] at read
    have ran : ended = (.str (trimmed text), { machine with memory }) := by
      unfold ended segment
      rw [StateT.run_bind]
      unfold trimmed at read
      rw [read]
      rfl
    rw [ran]
    exact ⟨.text parsed read, behind⟩

theorem assignment?_segment {segment : List Char} (balanced : Balanced segment) :
    (∃ name text name' text', Assigns segment name text ∧ assignment? (Text.trimChars segment) = some (name', text') ∧
      Text.trimChars name' = Text.trimChars name ∧ Text.trimChars text' = Text.trimChars text) ∨
    (∀ name text, ¬ Assigns segment name text) ∧ assignment? (Text.trimChars segment) = none := by
  have blanks := assignment?_trimChars segment
  cases cut : assignment? segment with
  | none =>
    rw [cut] at blanks
    exact .inr ⟨(assignment?_eq_none_iff balanced).1 cut, Option.map_eq_none_iff.1 blanks⟩
  | some sides =>
    rw [cut] at blanks
    obtain ⟨sides', cut', same⟩ := Option.map_eq_some_iff.1 blanks
    obtain ⟨sameName, sameText⟩ := Prod.mk.inj same
    exact .inl ⟨sides.1, sides.2, sides'.1, sides'.2, (assignment?_eq_some_iff balanced).1 cut, cut', sameName, sameText⟩

/-- The segments of an initialiser are taken in order. -/
theorem takes_assignAll (room : Nat) (object : Value) (raw : String) {texts : List (List Char)}
    (each : ∀ text ∈ texts, Balanced text) (faithful : machine.Faithful evaluation.gate) :
    let ended := (evaluation.assignAll (evaluation.initialise room) object raw (texts.map Text.trimChars)).outcome.run machine
    evaluation.Takes room object raw texts machine ended.1 ended.2 := by
  induction texts generalizing machine with
  | nil => exact .done machine
  | cons segment rest inductionHypothesis =>
    obtain ⟨balanced, others⟩ := List.forall_mem_cons.1 each
    intro ended
    unfold ended
    rw [List.map_cons, assignAll]
    obtain ⟨name, text, name', text', assigns, cut, sameName, sameText⟩ | ⟨none, cut⟩ := assignment?_segment balanced
    · rw [cut]
      dsimp only
      have field : String.ofList (Text.trimChars name') = trimmed name := congrArg String.ofList sameName
      rw [segment_congr (evaluation.initialise room) sameText, field]
      obtain ⟨comes, between⟩ := evaluation.comes_segment faithful room text
      generalize isEvaluated : (evaluation.segment (evaluation.initialise room) text).run machine = evaluated at comes between
      obtain ⟨value, evaluated⟩ := evaluated
      have lifted : (Attempt.lift (evaluation.segment (evaluation.initialise room) text)).outcome.run machine =
          (.ok value, evaluated) :=
        Attempt.run_lift isEvaluated
      rw [Attempt.run_bind_of_ok lifted]
      have behind := (writeField_keepsFaith evaluation.gate object (trimmed name) value evaluated between).1
      generalize isWritten : (writeField evaluation.gate object (trimmed name) value).outcome.run evaluated = written at behind
      obtain ⟨outcome, written⟩ := written
      cases outcome with
      | ok _ =>
        rw [Attempt.run_bind_of_ok isWritten]
        exact .written assigns comes isWritten (inductionHypothesis others behind)
      | error failure =>
        rw [Attempt.run_bind_of_error isWritten]
        exact .refused assigns comes isWritten
    · rw [cut]
      exact .stray none

/-! ## The whole initialiser -/

/-- In front of a bracket the target stands for a type, and `found` is the machine when it has been found. -/
def Finds (evaluation : Evaluation) (room : Nat) (text : String) (target : Expr) (machine : Machine Caches)
    (type : HostType) (found : Machine Caches) : Prop :=
  ∃ value between, (evaluation.expression (evaluation.initialise room) text target).run machine = (value, between) ∧
    (evaluation.initialised value "").outcome.run between = (.ok (.inl type), found)

/-- A node that fails has the value null. Nothing else is changed by that, but for at most one report of it. -/
structure Fails (evaluation : Evaluation) (text : String) (node : Expr) (failure : Failure)
    (before : Machine Caches) (ended : Value × Machine Caches) : Prop where
  value : ended.1 = .null
  rest : ended.2 = { before with reported := ended.2.reported }
  reported : ended.2.reported = before.reported ∨ ended.2.reported =
    ⟨.ofFailure (failure.orAt node.span) evaluation.source evaluation.context.unit, text, some node⟩ :: before.reported

/-- What a node with an initialiser comes to, on the machine where its type has been found: an instance made without
arguments when all the segments have been taken, and else a failure, of the constructor or of a segment. -/
inductive Fills (evaluation : Evaluation) (room : Nat) (text : String) (node : Expr) (type : HostType) (raw : String)
    (texts : List (List Char)) (machine : Machine Caches) : Value × Machine Caches → Prop
  | unmade {failure : Failure} {between : Machine Caches} {ended : Value × Machine Caches} :
      (construct evaluation.gate type []).outcome.run machine = (.error failure, between) →
      evaluation.Fails text node failure between ended → Fills evaluation room text node type raw texts machine ended
  | stopped {object : Value} {failure : Failure} {between behind : Machine Caches} {ended : Value × Machine Caches} :
      (construct evaluation.gate type []).outcome.run machine = (.ok object, between) →
      evaluation.Takes room object raw texts between (.error failure) behind →
      evaluation.Fails text node failure behind ended → Fills evaluation room text node type raw texts machine ended
  | filled {object : Value} {between after : Machine Caches} :
      (construct evaluation.gate type []).outcome.run machine = (.ok object, between) →
      evaluation.Takes room object raw texts between (.ok ()) after →
      Fills evaluation room text node type raw texts machine (object, after)

theorem fails_of_error {text : String} {node : Expr} {action : Attempt Caches Value} {failure : Failure}
    {after : Machine Caches} (ended : action.outcome.run machine = (.error failure, after)) :
    evaluation.Fails text node failure after ((evaluation.recover text node action).run machine) := by
  have ran : (evaluation.recover text node action).run machine = (.null, { after with
      reported := evaluation.settings.record evaluation.source evaluation.context.unit text (some node)
        (failure.orAt node.span) after.reported }) := by
    unfold recover
    rw [StateT.run_bind, ended]
    rfl
  rw [ran]
  refine ⟨rfl, rfl, ?_⟩
  unfold Settings.record
  split
  · exact .inr rfl
  · exact .inl rfl

theorem Finds.faithful {room : Nat} {text : String} {target : Expr} {type : HostType} {found : Machine Caches}
    (finds : evaluation.Finds room text target machine type found) (faithful : machine.Faithful evaluation.gate) :
    found.Faithful evaluation.gate ∧ Peers evaluation.gate.admits evaluation.gate.Has type type := by
  obtain ⟨value, between, targeted, isType⟩ := finds
  have reached : between.Faithful evaluation.gate := by
    have kept := (evaluation.expression_keepsFaith room text target machine faithful).1
    rwa [targeted] at kept
  have kept := (evaluation.initialised_keepsFaith value "" between reached).1
  rw [isType] at kept
  exact ⟨kept, evaluation.peers_of_initialised reached isType⟩

/-- An initialiser with an assignment in it makes an instance without arguments and takes the segments in order. -/
theorem fill_eq {texts : List (List Char)} {raw : String} (joined : Joined texts raw.toList)
    (each : ∀ text ∈ texts, IsSegment text) (assigns : ∃ segment ∈ texts, ∃ name text, Assigns segment name text)
    (opening : Value → String → Attempt Caches Value) (type : HostType) :
    evaluation.fill opening type raw = (do
      let object ← construct evaluation.gate type []
      evaluation.assignAll opening object raw (texts.map Text.trimChars)
      return object) := by
  have cut : segments raw.toList = texts := joined.segments_eq fun text inside => (each text inside).uncut
  have someAssigns : texts.any (fun segment => (assignment? segment).isSome) = true := by
    obtain ⟨segment, inside, name, text, isAssignment⟩ := assigns
    refine List.any_eq_true.2 ⟨segment, inside, ?_⟩
    rw [(assignment?_eq_some_iff (each segment inside).balanced).2 isAssignment]
    rfl
  have noneEmpty : (texts.map Text.trimChars).filter (!·.isEmpty) = texts.map Text.trimChars := by
    refine List.filter_eq_self.2 (List.forall_mem_map.2 fun text inside => ?_)
    simpa using (each text inside).trimChars_ne_nil
  unfold fill
  dsimp only
  rw [cut, someAssigns, noneEmpty]
  rfl

/-- The node ends as its segments say. -/
theorem fills_of_finds {room : Nat} {text : String} {target : Expr} {type : HostType} {found : Machine Caches}
    (faithful : machine.Faithful evaluation.gate)
    (finds : evaluation.Finds (room + 1) text target machine type found) {texts : List (List Char)} {raw : String}
    (joined : Joined texts raw.toList) (each : ∀ text ∈ texts, IsSegment text)
    (assigns : ∃ segment ∈ texts, ∃ name text, Assigns segment name text) (span : Span) :
    let node := Expr.initialise target raw span
    evaluation.Fills room text node type raw texts found
      ((evaluation.expression (evaluation.initialise (room + 1)) text node).run machine) := by
  intro node
  obtain ⟨behind, peers⟩ := finds.faithful faithful
  obtain ⟨value, between, targeted, isType⟩ := finds
  have opened := run_initialised_of_inl isType raw
  rw [run_initialise_of_inl targeted opened span, fill_eq joined each assigns]
  have reached := (construct_keepsFaith peers [] found behind).1
  generalize isMade : (construct evaluation.gate type []).outcome.run found = made at reached
  obtain ⟨outcome, between⟩ := made
  cases outcome with
  | error failure => exact .unmade isMade (fails_of_error (Attempt.run_bind_of_error isMade))
  | ok object =>
    have taken := evaluation.takes_assignAll room object raw (fun text inside => (each text inside).balanced) reached
    generalize isTaken : (evaluation.assignAll (evaluation.initialise room) object raw
      (texts.map Text.trimChars)).outcome.run between = ending at taken
    obtain ⟨outcome, after⟩ := ending
    rw [evaluation.run_recover_bind_of_ok text node isMade]
    cases outcome with
    | error failure => exact .stopped isMade taken (fails_of_error (Attempt.run_bind_of_error isTaken))
    | ok _ =>
      rw [evaluation.run_recover_bind_of_ok text node isTaken]
      exact .filled isMade taken

end Evaluation

/-- Behind any operations, and wherever an evaluation has come to, an initialiser with an assignment among its segments
makes an instance without arguments and takes the segments in order, up to the first failure. -/
theorem assignments_taken_in_order (registry : Registry) (policy : AllowList) (settings : Settings) (store : Store)
    (operations : List Operation) (context : Context) (source : String) {texts : List (List Char)} {raw : String}
    (joined : Joined texts raw.toList) (each : ∀ text ∈ texts, IsSegment text)
    (assigns : ∃ segment ∈ texts, ∃ name text, Assigns segment name text) :
    let gate := Engine.gateOf registry policy
    let engine := (Engine.cached gate settings store).after operations
    let evaluation : Evaluation := ⟨gate, engine.settings, context, source⟩
    (∀ name word target span, IsName name word → Expr.parse (name ++ "[]") = .ok (.initialise target "" span) →
      ∃ target' span', Expr.parse (Text.trim (name ++ "[" ++ raw ++ "]")) = .ok (.initialise target' raw span') ∧
        target.Alike (fun _ => False) target') ∧
      engine.machine.Faithful gate ∧
      (∀ room text tree, KeepsFaith gate (evaluation.expression (evaluation.initialise room) text tree)) ∧
      ∀ machine : Machine Caches, machine.Faithful gate → ∀ room text target type found,
        evaluation.Finds (room + 1) text target machine type found → ∀ span,
          let node := Expr.initialise target raw span
          evaluation.Fills room text node type raw texts found
            ((evaluation.expression (evaluation.initialise (room + 1)) text node).run machine) := by
  intro gate engine evaluation
  obtain ⟨-, faithful⟩ := Engine.faithful_after registry policy settings store operations
  refine ⟨fun name word target span isName read => ?_, faithful, evaluation.expression_keepsFaith, ?_⟩
  · have whole : (name ++ "[" ++ raw ++ "]").toList = name.toList ++ '[' :: (raw.toList ++ [']']) := by simp
    have inside : InBrackets 0 false raw.toList :=
      joined.inBrackets fun text isText _ rest => (each text isText).balanced.inBrackets rest
    obtain ⟨target', span', readWhole, alike⟩ := exists_initialise (fun _ => False) isName read inside whole
    rw [String.ofList_toList] at readWhole
    exact ⟨target', span', readWhole, alike⟩
  · intro machine faithful room text target type found finds span
    exact Evaluation.fills_of_finds faithful finds joined each assigns span

def freshDial : HostType :=
  { dial with constructors := [⟨"Dial", [], true, true, fun _ _ => return .object ⟨"Dial", 0⟩⟩] }

/-- The second segment would write a field that is final, and the third is no assignment. -/
theorem assignments_taken_in_order_dial :
    let gate := Engine.gateOf ⟨[freshDial]⟩ .all
    let engine := Engine.cached gate .standard
    let raw := "level=7; limit: (1),level"
    let texts := ["level=7".toList, " limit: (1)".toList, "level".toList]
    let source := "Dial" ++ "[" ++ raw ++ "]"
    let evaluation : Evaluation := ⟨gate, engine.settings, .empty, source⟩
    let target := Expr.ident "Dial" ⟨1, 1, 0, 4⟩
    let node := Expr.initialise target raw ⟨1, 1, 0, 31⟩
    let ended := (evaluation.expression (evaluation.initialise 64) source node).run engine.machine
    Joined texts raw.toList ∧ (∀ text ∈ texts, IsSegment text) ∧
      (∃ segment ∈ texts, ∃ name text, Assigns segment name text) ∧
      (IsName "Dial" "Dial" ∧ Expr.parse "Dial[]" = .ok (.initialise target "" ⟨1, 1, 0, 6⟩)) ∧
      (∃ target' span', Expr.parse (Text.trim source) = .ok (.initialise target' raw span') ∧
        target.Alike (fun _ => False) target') ∧
      engine.machine.Faithful gate ∧ ∃ found, evaluation.Finds 64 source target engine.machine freshDial found ∧
        evaluation.Fills 63 source node freshDial raw texts found ended := by
  intro gate engine raw texts source evaluation target node ended
  have joined : Joined texts raw.toList := by
    have cut : raw.toList = "level=7".toList ++ ';' :: (" limit: (1)".toList ++ ',' :: "level".toList) := by decide
    rw [cut]
    exact .more (.inr rfl) (.more (.inl rfl) (.one _))
  have each : ∀ text ∈ texts, IsSegment text := by
    have front : Balanced " limit: ".toList := balanced_of_plain (List.forall_iff_forall_mem.1 (by decide))
    have inner : Balanced "1".toList := balanced_of_plain (List.forall_iff_forall_mem.1 (by decide))
    have bracketed : Balanced " limit: (1)".toList := front.append (.bracketed (by decide) inner .nil)
    refine List.forall_mem_cons.2 ⟨?_, List.forall_mem_cons.2 ⟨?_, List.forall_mem_singleton.2 ?_⟩⟩
    · exact isSegment_of_unseparated (by decide) (balanced_of_plain (List.forall_iff_forall_mem.1 (by decide))) (by decide)
    · exact isSegment_of_unseparated (by decide) bracketed (by decide)
    · exact isSegment_of_unseparated (by decide) (balanced_of_plain (List.forall_iff_forall_mem.1 (by decide))) (by decide)
  have plain : ∀ c ∈ "level".toList, c ∉ marks ∧ c ≠ '=' ∧ c ≠ ':' := List.forall_iff_forall_mem.1 (by decide)
  have assigns : ∃ segment ∈ texts, ∃ name text, Assigns segment name text :=
    ⟨_, List.mem_cons_self, "level".toList, "7".toList, assigns_of_plain plain (.inl rfl)⟩
  have isName : IsName "Dial" "Dial" := by
    have read : tokenize "Dial" = .ok [⟨.identifier "Dial", ⟨1, 1, 0, 4⟩⟩, ⟨.endOfText, ⟨1, 5, 4, 4⟩⟩] := by cbv
    exact ⟨_, _, read, .name _ _⟩
  have opened : Expr.parse "Dial[]" = .ok (.initialise target "" ⟨1, 1, 0, 6⟩) := by cbv
  obtain ⟨reads, faithful, -, fills⟩ :=
    assignments_taken_in_order ⟨[freshDial]⟩ .all .standard .empty [] .empty source joined each assigns
  have finds : ∃ found, evaluation.Finds 64 source target engine.machine freshDial found := ⟨_, _, _, rfl, rfl⟩
  obtain ⟨found, finds⟩ := finds
  have filled : evaluation.Fills 63 source node freshDial raw texts found ended :=
    fills _ faithful 63 source target freshDial found finds _
  exact ⟨joined, each, assigns, ⟨isName, opened⟩, reads _ _ _ _ isName opened, faithful, found, finds, filled⟩

end LateBound
