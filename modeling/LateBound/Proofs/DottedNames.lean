import LateBound.Proofs.ImportedNames

/-!
# Dotted names

A dotted name is read as field accesses on its first word. Each of them has a text for a target, to which it adds a
word, as long as no type has the name put together so far; the whole name then stands for the type of this name, for
null if that one is denied, and for its own text if there is none.
-/

namespace LateBound

open Grammar

/-! ## Reading -/

theorem Numeral.plainToken?_ne_identifier (numeral : Numeral) (name : String) :
    numeral.plainToken? ≠ some (.identifier name) := by
  unfold plainToken?
  split
  · split
    · exact nofun
    · split
      · exact nofun
      · simp
  · simp

theorem Numeral.suffixedToken?_ne_identifier (numeral : Numeral) (suffix : Char) (name : String) :
    numeral.suffixedToken? suffix ≠ some (.identifier name) := by
  unfold suffixedToken?
  intro isToken
  split_ifs at isToken
  all_goals
    obtain ⟨_, _, isName⟩ := Option.map_eq_some_iff.1 isToken
    cases isName

theorem Token.Written.identifier {rest lexeme : List Char} {name : String}
    (written : (Token.identifier name).Written rest lexeme) :
    lexeme = name.toList ∧ ∀ other, atBoundary other = true → (Token.identifier name).Written other lexeme := by
  generalize isName : Token.identifier name = token at written ⊢
  cases written with
  | leftParen | rightParen | comma | dot | bracket _ | string _ => cases isName
  | suffixed _ _ _ isToken =>
    subst isName
    exact absurd isToken (Numeral.suffixedToken?_ne_identifier _ _ _)
  | number _ _ _ isToken =>
    subst isName
    exact absurd isToken (Numeral.plainToken?_ne_identifier _ _)
  | numbered shaped noDigit all alone _ =>
    cases isName
    exact ⟨String.toList_ofList.symm, fun _ ends => .numbered shaped noDigit all alone ends⟩
  | name all noNumeral _ =>
    refine ⟨?_, fun _ ends => .name all noNumeral ends⟩
    unfold wordToken at isName
    split_ifs at isName
    cases isName
    exact String.toList_ofList.symm

theorem Lexed.exists_lexeme {text : List Char} {token : Token} (lexed : Lexed text [token]) :
    ∃ before lexeme behind, text = before ++ lexeme ++ behind ∧ token.Written behind lexeme := by
  generalize isOne : [token] = tokens at lexed
  induction lexed with
  | nil => cases isOne
  | @blank c _ _ _ _ inductionHypothesis =>
    obtain ⟨before, lexeme, behind, rfl, written⟩ := inductionHypothesis isOne
    exact ⟨c :: before, lexeme, behind, rfl, written⟩
  | token written _ _ =>
    cases isOne
    exact ⟨[], _, _, rfl, written⟩

theorem IsWord.written {word : String} (isWord : IsWord word word) {rest : List Char} (ends : atBoundary rest = true) :
    (Token.identifier word).Written rest word.toList := by
  obtain ⟨before, lexeme, behind, isText, written⟩ := isWord.lexed.exists_lexeme
  obtain ⟨rfl, anywhere⟩ := written.identifier
  exact anywhere rest ends

/-- A word that is written as such and some more behind it, separated by points. -/
def dotted (first : String) (rest : List String) : String :=
  ".".intercalate (first :: rest)

@[simp] theorem dotted_nil (first : String) : dotted first [] = first :=
  String.intercalate_singleton

theorem dotted_concat (first : String) (rest : List String) (last : String) :
    dotted first (rest ++ [last]) = dotted first rest ++ "." ++ last := by
  unfold dotted
  rw [← List.cons_append, String.intercalate_append_of_ne_nil (List.cons_ne_nil _ _) (List.cons_ne_nil _ _),
    String.intercalate_singleton]

theorem toList_dotted (first : String) (rest : List String) :
    (dotted first rest).toList = first.toList ++ rest.flatMap fun word => '.' :: word.toList := by
  induction rest generalizing first with
  | nil => simp
  | cons word rest inductionHypothesis =>
    have cut : dotted first (word :: rest) = first ++ "." ++ dotted word rest := String.intercalate_cons_cons
    simp [cut, inductionHypothesis]

theorem lexed_dotted {first : String} {rest : List String} (all : ∀ word ∈ first :: rest, IsWord word word) :
    Lexed (dotted first rest).toList (.identifier first :: rest.flatMap fun word => [.dot, .identifier word]) := by
  rw [toList_dotted]
  induction rest generalizing first with
  | nil =>
    rw [List.flatMap_nil, List.flatMap_nil]
    exact .token ((all first List.mem_cons_self).written rfl) .nil
  | cons word rest inductionHypothesis =>
    obtain ⟨isWord, others⟩ := List.forall_mem_cons.1 all
    have behind := Lexed.token .dot (inductionHypothesis others)
    exact .token (isWord.written rfl) behind

/-- The tree of a dotted name: a word, and field accesses on it. -/
inductive Expr.Dotted (first : String) : List String → Expr → Prop
  | ident (span : Span) : Dotted first [] (.ident first span)
  | field {rest : List String} {target : Expr} (name : String) (span : Span) : Dotted first rest target →
      Dotted first (rest ++ [name]) (.field target name span)

theorem exists_chain_fields {first : String} {tokens located : List LocatedToken} {before : List String} {tree : Expr}
    {links : Nat} (chain : Chain tokens tree links links) (isDotted : Expr.Dotted first before tree)
    {rest : List String} (isRest : kinds located = rest.flatMap fun word => [.dot, .identifier word]) :
    ∃ tree', Chain (tokens ++ located) tree' (links + rest.length) (links + rest.length) ∧
      Expr.Dotted first (before ++ rest) tree' := by
  induction rest generalizing tokens located before tree links with
  | nil =>
    obtain rfl : located = [] := List.map_eq_nil_iff.1 isRest
    rw [List.append_nil, List.append_nil]
    exact ⟨tree, chain, isDotted⟩
  | cons word rest inductionHypothesis =>
    obtain ⟨⟨_, dot⟩, _, rfl, rfl, isName⟩ := List.map_eq_cons_iff.1 isRest
    obtain ⟨⟨_, span⟩, others, rfl, rfl, areOthers⟩ := List.map_eq_cons_iff.1 isName
    have longer := Chain.field word dot span chain
    rw [max_eq_right (Nat.le_succ links)] at longer
    obtain ⟨tree', chain, isDotted⟩ := inductionHypothesis longer (isDotted.field word _) areOthers
    rw [List.append_assoc, Nat.add_right_comm] at chain
    rw [List.append_assoc] at isDotted
    exact ⟨tree', chain, isDotted⟩

/-- A dotted name of no more words than fit into a chain is read as its tree. -/
theorem parse_dotted {first : String} {rest : List String} (all : ∀ word ∈ first :: rest, IsWord word word)
    (room : rest.length ≤ maxDepth) :
    ∃ tree, Expr.parse (dotted first rest) = .ok tree ∧ Expr.Dotted first rest tree := by
  obtain ⟨located, last, tokenized, isRead⟩ := (lexed_dotted all).tokenize
  rw [String.ofList_toList] at tokenized
  obtain ⟨⟨_, span⟩, others, rfl, rfl, isRest⟩ := List.map_eq_cons_iff.1 isRead
  obtain ⟨tree, chain, isDotted⟩ := exists_chain_fields (.primary (.ident first span)) (.ident span) isRest
  rw [Nat.zero_add] at chain
  exact ⟨tree, parse_of_chain tokenized chain room, isDotted⟩

/-! ## What a dotted name comes to -/

/-- What a name stands for: the type that it names, or itself if there is none. -/
def Gate.named (gate : Gate) (name : String) : Except Failure Value :=
  match gate.lookup name with
  | .found type => .ok (.type type.ref)
  | .notFound => .ok (.str name)
  | .denied => .error (.of (.denied name))

theorem Gate.named_of_known {gate : Gate} {name : String} {type : HostType} (known : gate.find? name = some type) :
    gate.named name = if gate.admits name then .ok (.type type.ref) else .error (.of (.denied name)) := by
  unfold named lookup judge
  rw [known]
  cases gate.admits name <;> rfl

theorem Gate.named_of_unknown {gate : Gate} {name : String} (unknown : gate.find? name = none) :
    gate.named name = .ok (.str name) := by
  unfold named lookup
  rw [unknown]
  rfl

theorem run_lookupType_orElse (gate : Gate) (name : String) (machine : Machine Unit) :
    (do match ← lookupType gate name with
        | some type => return .type type.ref
        | none => return .str name : Attempt Unit Value).outcome.run machine = (gate.named name, machine) := by
  have looked := Evaluation.run_lookupType gate name machine
  unfold Gate.named
  cases shown : gate.lookup name with
  | found type | notFound =>
    rw [shown] at looked
    rw [Attempt.run_bind_of_ok looked]
    rfl
  | denied =>
    rw [shown] at looked
    rw [Attempt.run_bind_of_error looked]

namespace Evaluation

variable {evaluation : Evaluation} {machine : Machine Unit} {first : String}

theorem run_word_of_unclaimed (unclaimed : evaluation.Unclaimed first)
    (noImport : machine.imports.resolve? evaluation.context.unit first = none)
    (reached : isPlainWord first = true ∨ evaluation.gate.find? first = none) :
    (evaluation.word first).outcome.run machine = (evaluation.gate.named first, machine) := by
  unfold word
  rw [unclaimed.wordValue]
  split
  · have found : (Attempt.lift (evaluation.imported? first)).outcome.run machine = (.ok none, machine) := by
      rw [← noImport]
      rfl
    unfold wordType?
    rw [bind_assoc, Attempt.run_bind_of_ok found]
    exact run_lookupType_orElse evaluation.gate first machine
  · next isOther =>
    rw [Gate.named_of_unknown (reached.resolve_left isOther)]
    rfl

theorem run_member_of_text (evaluation : Evaluation) (qualifier name : String) (machine : Machine Unit) :
    (evaluation.member (.str qualifier) name).outcome.run machine =
      (evaluation.gate.named (qualifier ++ "." ++ name), machine) :=
  run_lookupType_orElse evaluation.gate (qualifier ++ "." ++ name) machine

variable {rest : List String} {tree : Expr}

/-- Up to its last point a name stands for its own text, and as a whole for what the gate has under it. -/
theorem run_dotted (isDotted : Expr.Dotted first rest tree) (unclaimed : evaluation.Unclaimed first)
    (noImport : machine.imports.resolve? evaluation.context.unit first = none)
    (reached : isPlainWord first = true ∨ evaluation.gate.find? first = none)
    (fronts : ∀ place < rest.length, evaluation.gate.find? (dotted first (rest.take place)) = none)
    (opening : Value → String → Attempt Unit Value) (text : String) :
    (evaluation.expression opening text tree).run machine =
      match evaluation.gate.named (dotted first rest) with
      | .ok value => (value, machine)
      | .error failure =>
        (.null, { machine with
          reported := evaluation.settings.record evaluation.source evaluation.context.unit text (some tree)
            (failure.orAt tree.span) machine.reported }) := by
  induction isDotted with
  | ident span =>
    unfold expression recover
    rw [StateT.run_bind, run_word_of_unclaimed unclaimed noImport reached, dotted_nil]
    cases evaluation.gate.named first <;> rfl
  | @field rest target name span _ inductionHypothesis =>
    have front : evaluation.gate.find? (dotted first rest) = none := by
      have unknown := fronts rest.length (by rw [List.length_append]; exact Nat.lt_succ_self _)
      rwa [List.take_left] at unknown
    have targeted : (evaluation.expression opening text target).run machine =
        (.str (dotted first rest), machine) := by
      rw [inductionHypothesis, Gate.named_of_unknown front]
      intro place inside
      have unknown := fronts place (by rw [List.length_append]; exact Nat.lt_succ_of_lt inside)
      rwa [List.take_append_of_le_length inside.le] at unknown
    have onText : (evaluation.expression opening text (.field target name span)).run machine =
        (evaluation.recover text (.field target name span)
          (evaluation.member (.str (dotted first rest)) name)).run machine := by
      unfold expression
      rw [StateT.run_bind, targeted]
      rfl
    rw [onText]
    unfold recover
    rw [StateT.run_bind, run_member_of_text, dotted_concat]
    cases evaluation.gate.named (dotted first rest ++ "." ++ name) <;> rfl

/-- Nobody claims the name: neither its first word, nor is what lies in front of one of its points a type. -/
structure UnclaimedName (evaluation : Evaluation) (imports : Imports) (first : String) (rest : List String) : Prop where
  word : evaluation.Unclaimed first
  noImport : imports.resolve? evaluation.context.unit first = none
  fronts : ∀ place < rest.length, evaluation.gate.find? (dotted first (rest.take place)) = none
  alone : rest = [] → isPlainWord first = true

theorem UnclaimedName.reached {imports : Imports} (unclaimed : evaluation.UnclaimedName imports first rest) :
    isPlainWord first = true ∨ evaluation.gate.find? first = none := by
  obtain rfl | filled := eq_or_ne rest []
  · exact .inl (unclaimed.alone rfl)
  · exact .inr (by simpa using unclaimed.fronts 0 (List.length_pos_iff.2 filled))

theorem UnclaimedName.run (unclaimed : evaluation.UnclaimedName machine.imports first rest)
    (all : ∀ word ∈ first :: rest, IsWord word word) (room : rest.length ≤ maxDepth)
    (isSource : evaluation.source = dotted first rest) :
    ∃ tree, Expr.parse evaluation.source = .ok tree ∧ evaluation.run.run machine =
      match evaluation.gate.named evaluation.source with
      | .ok value => (value, machine)
      | .error failure =>
        (.null, { machine with
          reported := evaluation.settings.record evaluation.source evaluation.context.unit evaluation.source
            (some tree) (failure.orAt tree.span) machine.reported }) := by
  obtain ⟨tree, read, isDotted⟩ := parse_dotted all room
  rw [← isSource] at read
  refine ⟨tree, read, ?_⟩
  rw [run_eq_value read, value,
    run_dotted isDotted unclaimed.word unclaimed.noImport unclaimed.reached unclaimed.fronts, isSource]

end Evaluation

/-! ## On an engine -/

theorem trim_dotted {first : String} {rest : List String} (all : ∀ word ∈ first :: rest, IsWord word word) :
    Text.trim (dotted first rest) = dotted first rest := by
  have noBlank : ∀ c ∈ (dotted first rest).toList, Text.isBlank c = false := by
    have inWord : ∀ word ∈ first :: rest, ∀ c ∈ word.toList, Text.isBlank c = false := by
      intro word inside c isLetter
      have written : (Token.identifier word).Written [] word.toList := (all word inside).written rfl
      cases written.lexeme with
      | word _ letters => exact (letters c isLetter).isBlank
    rw [toList_dotted]
    refine List.forall_mem_append.2 ⟨inWord first List.mem_cons_self, fun c inside => ?_⟩
    obtain ⟨word, isWord, inside⟩ := List.mem_flatMap.1 inside
    obtain rfl | inside := List.mem_cons.1 inside
    · rfl
    · exact inWord word (List.mem_cons_of_mem first isWord) c inside
  rw [Text.trim, Text.trimChars_of_filled noBlank, String.ofList_toList]

namespace Engine

variable {μ : Type} [Memory μ]

theorem reported_after {engine : Engine μ} (none : engine.machine.reported = []) (operations : List Operation) :
    (engine.after operations).machine.reported = [] := by
  induction operations generalizing engine with
  | nil => exact none
  | cons operation operations inductionHypothesis =>
    rw [after_cons]
    exact inductionHypothesis rfl

theorem observe_dotted (engine : Engine Unit) (noReports : engine.machine.reported = []) (context : Context)
    {first : String} {rest : List String} (all : ∀ word ∈ first :: rest, IsWord word word)
    (room : rest.length ≤ maxDepth) (noDelimiter : engine.settings.delimiter ∉ (dotted first rest).toList)
    (unclaimed : (Evaluation.mk engine.gate engine.settings context (dotted first rest)).UnclaimedName
      engine.machine.imports first rest) :
    let text := dotted first rest
    ∃ tree, Expr.parse text = .ok tree ∧ ((observe (.evaluate context text)).run engine).1 =
      match engine.gate.named text with
      | .ok value => ⟨.value (context.host.wrap value), [], engine.machine.store, engine.machine.runs⟩
      | .error failure => ⟨.value (context.host.wrap .null), (engine.settings.record text context.unit text (some tree)
          (failure.orAt tree.span) []).reverse, engine.machine.store, engine.machine.runs⟩ := by
  intro text
  obtain ⟨tree, read, ran⟩ := unclaimed.run all room rfl
  refine ⟨tree, read, ?_⟩
  rw [engine.observe_evaluate context noDelimiter, trim_dotted all, ran]
  dsimp only
  rw [noReports]
  cases engine.gate.named text with
  | ok value => exact congrArg (Observation.mk _ · _ _) (congrArg List.reverse noReports)
  | error failure => rfl

end Engine

theorem Settings.record_denied (settings : Settings) (source : String) (unit : Option String) (text : String)
    (node : Expr) (name : String) (reported : List Report) :
    settings.record source unit text (some node) ((Failure.of (.denied name)).orAt node.span) reported =
      ⟨⟨.denied name, source, some node.span, unit⟩, text, some node⟩ :: reported := by
  have isTold : (Cause.denied name).message ≠ "" := by
    unfold Cause.message
    dsimp only
    rw [Ne, String.append_eq_empty_iff]
    exact fun isEmpty => absurd isEmpty.2 (by decide)
  refine if_pos ?_
  simp [Settings.reports, Failure.isReportable, Failure.kind, Failure.message, Failure.orAt, Failure.of, Cause.kind,
    isTold]

/-- Behind any operations, a dotted name that nobody claims comes to the type of this name, to null with a report if
that is denied, and to its own text if there is none. -/
theorem dotted_name_evaluates (registry : Registry) (policy : AllowList) (settings : Settings) (store : Store)
    (operations : List Operation) (context : Context) {first : String} {rest : List String}
    (all : ∀ word ∈ first :: rest, IsWord word word) (few : (first :: rest).length ≤ 257) :
    let gate := Engine.gateOf registry policy
    let engine := (Engine.cached gate settings store).after operations
    let text := dotted first rest
    let evaluation : Evaluation := ⟨gate, engine.settings, context, text⟩
    engine.settings.delimiter ∉ text.toList → evaluation.UnclaimedName engine.machine.imports first rest →
      let seen := ((Engine.observe (.evaluate context text)).run engine).1
      let sees := fun value reports => seen =
        ⟨.value (context.host.wrap value), reports, engine.machine.store, engine.machine.runs⟩
      (∀ type, registry.find? text = some type → policy.admits text = true → sees (.type type.ref) []) ∧
        (∀ type, registry.find? text = some type → policy.admits text = false → ∃ tree, Expr.parse text = .ok tree ∧
          sees .null [⟨⟨.denied text, text, some tree.span, context.unit⟩, text, some tree⟩]) ∧
        (registry.find? text = none → sees (.str text) []) := by
  intro gate engine text evaluation noDelimiter unclaimed seen sees
  have coherent : gate.Coherent := Engine.coherent_gateOf registry policy
  let fresh := (Engine.start gate settings () store).after operations
  have engines : coherent.twins.Engines engine fresh := coherent.engines_after settings store operations
  obtain ⟨sameStore, sameRuns⟩ := coherent.seen_of_engines engines
  have isGate : fresh.gate = gate := engines.second
  have isUnclaimed : (Evaluation.mk fresh.gate fresh.settings context text).UnclaimedName fresh.machine.imports
      first rest := by
    rwa [isGate, ← engines.settings, ← engines.machine.imports]
  obtain ⟨tree, read, isSeen⟩ := fresh.observe_dotted (Engine.reported_after rfl operations) context all
    (Nat.le_of_succ_le_succ few) (engines.settings ▸ noDelimiter) isUnclaimed
  rw [← coherent.observe_eq engines, isGate, ← sameStore, ← sameRuns] at isSeen
  refine ⟨fun type found admitted => ?_, fun type found denied => ⟨tree, read, ?_⟩, fun unknown => ?_⟩
  · have shown : gate.named text = .ok (.type type.ref) := (Gate.named_of_known found).trans (if_pos admitted)
    rwa [shown] at isSeen
  · have shown : gate.named text = .error (.of (.denied text)) :=
      (Gate.named_of_known found).trans (if_neg (Bool.eq_false_iff.1 denied))
    rw [shown] at isSeen
    dsimp only at isSeen
    rwa [Settings.record_denied] at isSeen
  · rwa [Gate.named_of_unknown unknown] at isSeen

/-- A dotted name is that of a type that is denied, and what lies in front of its points stands for itself. -/
theorem dotted_name_denied :
    let gate := Engine.gateOf ⟨[bareType "a.b.C"]⟩ .empty
    let engine := (Engine.cached gate .standard).after [.evaluate .empty "a.b"]
    let evaluation : Evaluation := ⟨gate, engine.settings, .empty, "a.b.C"⟩
    (∀ word ∈ ["a", "b", "C"], IsWord word word) ∧ engine.settings.delimiter ∉ "a.b.C".toList ∧
      evaluation.UnclaimedName engine.machine.imports "a" ["b", "C"] ∧
      let seen := ((Engine.observe (.evaluate .empty "a.b.C")).run engine).1
      seen.answer = .value .null ∧ seen.reports.map (·.diagnostic.cause) = [.denied "a.b.C"] := by
  intro gate engine evaluation
  have all : ∀ word ∈ ["a", "b", "C"], IsWord word word := by
    have a : tokenize "a" = .ok [⟨.identifier "a", ⟨1, 1, 0, 1⟩⟩, ⟨.endOfText, ⟨1, 2, 1, 1⟩⟩] := by cbv
    have b : tokenize "b" = .ok [⟨.identifier "b", ⟨1, 1, 0, 1⟩⟩, ⟨.endOfText, ⟨1, 2, 1, 1⟩⟩] := by cbv
    have c : tokenize "C" = .ok [⟨.identifier "C", ⟨1, 1, 0, 1⟩⟩, ⟨.endOfText, ⟨1, 2, 1, 1⟩⟩] := by cbv
    simp only [List.forall_mem_cons]
    exact ⟨⟨_, _, a⟩, ⟨_, _, b⟩, ⟨_, _, c⟩, List.forall_mem_nil _⟩
  have noDelimiter : engine.settings.delimiter ∉ "a.b.C".toList := by decide +kernel
  have unclaimed : evaluation.UnclaimedName engine.machine.imports "a" ["b", "C"] := by
    have noImports : engine.machine.imports = .empty :=
      Engine.imports_observe (.evaluate .empty "a.b") (Engine.kept_cached gate .standard .empty).truthful
    have isLonger : ["b", "C"] ≠ [] := List.cons_ne_nil _ _
    refine ⟨unclaimed_empty gate engine.settings "a.b.C" "a", ?_, ?_, fun isEmpty => absurd isEmpty isLonger⟩
    · rw [noImports]
      rfl
    · intro place inside
      obtain rfl | rfl : place = 0 ∨ place = 1 := Nat.le_one_iff_eq_zero_or_eq_one.1 (Nat.le_of_lt_succ inside)
      · rfl
      · rfl
  obtain ⟨-, denied, -⟩ := dotted_name_evaluates ⟨[bareType "a.b.C"]⟩ .empty .standard .empty
    [.evaluate .empty "a.b"] .empty all (by decide) noDelimiter unclaimed
  obtain ⟨tree, -, isSeen⟩ := denied (bareType "a.b.C") rfl rfl
  exact ⟨all, noDelimiter, unclaimed, congrArg Observation.answer isSeen,
    congrArg (fun seen => seen.reports.map (·.diagnostic.cause)) isSeen⟩

end LateBound
