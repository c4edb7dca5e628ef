import LateBound.Proofs.ConstructorCalls
import LateBound.Proofs.Faithful

/-!
# The uses of an imported name

An imported word is used in three ways: in a construction, by itself, and in front of a bracket. The first two come to
the type that is imported under it. So does the third for a plain word, of which the bracket is given the type. Any
other word stands for itself, and the bracket, which is given a text, looks it up among the imports and then looks up
the qualified name of what it has found, once more among the imports: so it comes to another type when that one is
imported under this name.
-/

namespace LateBound

open Grammar

/-! ## Reading the uses -/

def IsWord (text word : String) : Prop :=
  ∃ span last, tokenize text = .ok [⟨.identifier word, span⟩, ⟨.endOfText, last⟩]

def IsArguments (body : String) (args : List Expr) : Prop :=
  ∃ tokens last nest, tokenize body = .ok (tokens ++ [⟨.endOfText, last⟩]) ∧ Args tokens args nest

/-- By itself and in front of a bracket the text is read as the word, and in a construction as the name of the type. -/
structure ReadAs (text word : String) : Prop where
  alone : ∃ span, Expr.parse text = .ok (.ident word span)
  opened : ∀ raw : String, InBrackets 0 false raw.toList →
    ∃ place span, Expr.parse (text ++ "[" ++ raw ++ "]") = .ok (.initialise (.ident word place) raw span)
  constructed : ∀ body args, IsArguments body args → ∀ tree, Expr.parse ("new " ++ text ++ "(" ++ body ++ ")") = .ok tree →
    ∃ args' span, tree = .construct word args' span ∧ Expr.ArgsAlike (fun _ => True) args args'

theorem IsWord.isName {text word : String} (isWord : IsWord text word) : IsName text word := by
  obtain ⟨span, last, tokenized⟩ := isWord
  exact ⟨_, last, tokenized, .name word span⟩

theorem IsWord.lexed {text word : String} (isWord : IsWord text word) : Lexed text.toList [.identifier word] := by
  obtain ⟨span, last, tokenized⟩ := isWord
  have tokenized : tokenize text = .ok ([⟨.identifier word, span⟩] ++ [⟨.endOfText, last⟩]) := tokenized
  exact lexed_of_tokensFrom tokenized

theorem IsWord.readAs {text word : String} (isWord : IsWord text word) : ReadAs text word := by
  constructor
  case alone =>
    obtain ⟨span, last, tokenized⟩ := isWord
    have tokenized : tokenize text = .ok ([⟨.identifier word, span⟩] ++ [⟨.endOfText, last⟩]) := tokenized
    exact ⟨span, parse_of_chain tokenized (.primary (.ident word span)) (by decide)⟩
  case opened =>
    intro raw inside
    have bracket : Lexed ('[' :: (raw.toList ++ [']'])) [.bracket raw] := by
      simpa using Lexed.token (.bracket inside) .nil
    let tokens : List LocatedToken := [⟨.identifier word, default⟩, ⟨.bracket raw, default⟩]
    have lexed : Lexed (text ++ "[" ++ raw ++ "]").toList (kinds tokens) := by
      simpa [tokens] using isWord.lexed.append bracket (setsOff_of_separator rfl (by decide) _)
    have chain := Chain.initialise raw default (.primary (.ident word default))
    have holds : Holds (fun _ => True) tokens := fun _ _ => trivial
    obtain ⟨-, tree, -, -, read, alike⟩ := lexed.parse chain (by decide) holds
    rw [String.ofList_toList] at read
    cases alike with
    | initialise _ _ span target _ =>
      cases target with
      | ident _ _ place => exact ⟨place, span, read⟩
  case constructed =>
    intro body args isArguments tree read
    obtain ⟨inner, last, nest, tokenizedBody, filled⟩ := isArguments
    have holds : Holds (fun _ => True) inner := fun _ _ => trivial
    obtain ⟨tokens, span, lexed, chain, holds⟩ :=
      exists_chain_construct isWord.isName filled holds (lexed_of_tokensFrom tokenizedBody)
    have isWhole : String.ofList ("new ".toList ++ (text.toList ++ '(' :: (body.toList ++ [')']))) =
        "new " ++ text ++ "(" ++ body ++ ")" := by
      rw [← String.toList_inj]
      simp
    have room := lexed.room chain (isWhole ▸ read)
    obtain ⟨-, tree', -, -, read', alike⟩ := lexed.parse chain room holds
    rw [isWhole, read] at read'
    cases read'
    cases alike with
    | construct _ _ span' alikeArgs => exact ⟨_, span', rfl, alikeArgs⟩

/-! ## What the word stands for -/

/-- Nobody claims the word: it does not name the subject, and neither a local nor an ambient value nor the host has it. -/
structure Evaluation.Unclaimed (evaluation : Evaluation) (word : String) : Prop where
  subject : evaluation.settings.namesSubject word = true → evaluation.context.subject = none
  locals : evaluation.context.locals word = none
  ambient : evaluation.context.ambient word = none
  read : evaluation.context.host.readWord word = none

namespace Evaluation

/-- The type that is filled by a bracket behind a word under which `type` is imported. -/
def bracketed (evaluation : Evaluation) (imports : Imports) (word : String) (type : HostType) : HostType :=
  if isPlainWord word then type else (imports.resolve? evaluation.context.unit type.name).getD type

theorem bracketed_eq_iff (evaluation : Evaluation) (imports : Imports) (word : String) (type : HostType) :
    evaluation.bracketed imports word type = type ↔ isPlainWord word = true ∨
      ∀ other, imports.resolve? evaluation.context.unit type.name = some other → other = type := by
  unfold bracketed
  by_cases isPlain : isPlainWord word = true
  · simp [isPlain]
  · cases again : imports.resolve? evaluation.context.unit type.name <;> simp [isPlain]

variable {evaluation : Evaluation} {machine : Machine Caches} {word : String} {type : HostType}

theorem Unclaimed.wordValue (unclaimed : evaluation.Unclaimed word) : evaluation.wordValue word = .str word := by
  obtain ⟨subject, locals, ambient, read⟩ := unclaimed
  have noSubject : (if evaluation.settings.namesSubject word then evaluation.context.subject else none) = none := by
    split
    · next names => exact subject names
    · rfl
  simp [Evaluation.wordValue, noSubject, locals, ambient, read]

theorem run_imported? (evaluation : Evaluation) (word : String) (machine : Machine Caches) :
    (Attempt.lift (evaluation.imported? word)).outcome.run machine =
      (.ok (machine.imports.resolve? evaluation.context.unit word), machine) :=
  rfl

theorem checkAdmitted_of_found {gate : Gate} {name : String} (found : gate.lookup name = .found type) :
    (checkAdmitted gate name : Attempt Caches Unit) = pure () :=
  if_pos (Gate.find?_of_lookup (congrArg Lookup.type? found)).2

variable (faithful : machine.Faithful evaluation.gate)
  (imported : machine.imports.resolve? evaluation.context.unit word = some type)

include faithful imported

theorem run_namedType_of_imported : (evaluation.namedType word).outcome.run machine = (.ok type, machine) := by
  unfold namedType
  rw [Attempt.run_bind_of_ok (evaluation.run_imported? word machine), imported]
  dsimp only
  rw [checkAdmitted_of_found (faithful.resolved imported), pure_bind]
  rfl

/-- Under its qualified name a type is looked up once more among the imports, and only then asked of the gate. -/
theorem run_bracketType?_of_imported : ∃ memory, Machine.Faithful evaluation.gate { machine with memory } ∧
    (evaluation.bracketType? word).outcome.run machine =
      (.ok (some ((machine.imports.resolve? evaluation.context.unit type.name).getD type)), { machine with memory }) := by
  have found := faithful.resolved imported
  unfold bracketType?
  rw [Attempt.run_bind_of_ok (evaluation.run_imported? word machine), imported]
  dsimp only
  cases again : machine.imports.resolve? evaluation.context.unit type.name with
  | some other =>
    refine ⟨machine.memory, faithful, ?_⟩
    rw [Attempt.run_bind_of_ok (run_namedType_of_imported faithful again)]
    rfl
  | none =>
    obtain ⟨memory, behind, required⟩ := faithful.requireType type.name
    refine ⟨memory, behind, ?_⟩
    have named : (evaluation.namedType type.name).outcome.run machine = (.ok type, { machine with memory }) := by
      unfold namedType
      rw [Attempt.run_bind_of_ok (evaluation.run_imported? type.name machine), again]
      dsimp only
      rw [required, found]
      rfl
    rw [Attempt.run_bind_of_ok named]
    rfl

theorem run_word_of_imported (isPlain : isPlainWord word = true) :
    (evaluation.word word).outcome.run machine = (.ok (.type type.ref), machine) := by
  unfold Evaluation.word wordType?
  rw [if_pos isPlain, bind_assoc, Attempt.run_bind_of_ok (evaluation.run_imported? word machine), imported]
  dsimp only
  rw [checkAdmitted_of_found (faithful.resolved imported), pure_bind]
  rfl

theorem run_ident_of_imported (isPlain : isPlainWord word = true) (opening : Value → String → Attempt Caches Value)
    (text : String) (span : Span) :
    (evaluation.expression opening text (.ident word span)).run machine = (.type type.ref, machine) := by
  have found := run_word_of_imported faithful imported isPlain
  unfold Evaluation.expression recover
  rw [StateT.run_bind, found]
  rfl

/-- A construction evaluates its arguments, which leave the imports alone, and then makes an instance of the type. -/
theorem run_construct_of_imported (room : Nat) (text : String) (args : List Expr) (span : Span) :
    let node := Expr.construct word args span
    (evaluation.expression (evaluation.initialise room) text node).run machine = (do
      let values ← evaluation.arguments (evaluation.initialise room) text args
      evaluation.recover text node (construct evaluation.gate type values)).run machine := by
  intro node
  obtain ⟨behind, unchanged⟩ := evaluation.arguments_keepsFaith room text args machine faithful
  unfold node Evaluation.expression
  rw [StateT.run_bind, StateT.run_bind]
  refine evaluation.run_recover_bind_of_ok text _ (run_namedType_of_imported behind ?_)
  rw [unchanged]
  exact imported

theorem run_initialised_of_imported (coherent : evaluation.gate.Coherent) (unclaimed : evaluation.Unclaimed word) (raw : String)
    (opening : Value → String → Attempt Caches Value) (text : String) (span : Span) :
    ∃ target memory, (evaluation.expression opening text (.ident word span)).run machine = (target, machine) ∧
      Machine.Faithful evaluation.gate { machine with memory } ∧
      (evaluation.initialised target raw).outcome.run machine =
        (.ok (.inl (evaluation.bracketed machine.imports word type)), { machine with memory }) := by
  by_cases isPlain : isPlainWord word = true
  · refine ⟨.type type.ref, machine.memory, run_ident_of_imported faithful imported isPlain opening text span, faithful, ?_⟩
    have found : evaluation.gate.find? type.name = some type :=
      (Gate.find?_of_lookup (congrArg Lookup.type? (faithful.resolved imported))).1
    have described : evaluation.gate.describe type.ref.name = type := coherent.found _ _ found
    simp only [initialised, Value.unwrapped, described, bracketed, isPlain]
    rfl
  · obtain ⟨memory, behind, found⟩ := run_bracketType?_of_imported faithful imported
    refine ⟨.str word, memory, ?_, behind, ?_⟩
    · have noType : evaluation.word word = (pure (.str word) : Attempt Caches Value) := by
        rw [Evaluation.word, if_neg isPlain, unclaimed.wordValue]
      unfold Evaluation.expression
      rw [noType]
      rfl
    · simp only [initialised, Value.unwrapped, bracketed, if_neg isPlain]
      rw [Attempt.run_bind_of_ok found]
      rfl

/-- An initialiser makes and fills an instance of that type. -/
theorem run_initialise_of_imported (coherent : evaluation.gate.Coherent) (unclaimed : evaluation.Unclaimed word)
    (room : Nat) (text raw : String) (place span : Span) : ∃ memory, Machine.Faithful evaluation.gate { machine with memory } ∧
      let node := Expr.initialise (.ident word place) raw span
      (evaluation.expression (evaluation.initialise (room + 1)) text node).run machine =
        (evaluation.recover text node (evaluation.fill (evaluation.initialise room)
          (evaluation.bracketed machine.imports word type) raw)).run { machine with memory } := by
  obtain ⟨target, memory, named, behind, opened⟩ :=
    run_initialised_of_imported faithful imported coherent unclaimed raw (evaluation.initialise (room + 1)) text place
  exact ⟨memory, behind, run_initialise_of_inl named opened span⟩

/-- What a word under which a type is imported comes to in each of its uses. -/
structure UsedAs (evaluation : Evaluation) (machine : Machine Caches) (word : String) (type : HostType) : Prop where
  constructed (room : Nat) (text : String) (args : List Expr) (span : Span) :
    let node := Expr.construct word args span
    (evaluation.expression (evaluation.initialise room) text node).run machine = (do
      let values ← evaluation.arguments (evaluation.initialise room) text args
      evaluation.recover text node (construct evaluation.gate type values)).run machine
  alone : isPlainWord word = true → ∀ (opening : Value → String → Attempt Caches Value) (text : String) (span : Span),
    (evaluation.expression opening text (.ident word span)).run machine = (.type type.ref, machine)
  opened (room : Nat) (text raw : String) (place span : Span) :
    ∃ memory, Machine.Faithful evaluation.gate { machine with memory } ∧
      let node := Expr.initialise (.ident word place) raw span
      (evaluation.expression (evaluation.initialise (room + 1)) text node).run machine =
        (evaluation.recover text node (evaluation.fill (evaluation.initialise room)
          (evaluation.bracketed machine.imports word type) raw)).run { machine with memory }
  settled : evaluation.bracketed machine.imports word type = type ↔ isPlainWord word = true ∨
    ∀ other, machine.imports.resolve? evaluation.context.unit type.name = some other → other = type

end Evaluation

/-- Behind any operations, and wherever an evaluation has come to, a word that is imported and that nobody else claims is
used as its type; in front of a bracket only if it is a plain word, or no other type is imported under the qualified
name of its type. -/
theorem imported_name_in_every_use (registry : Registry) (policy : AllowList) (settings : Settings) (store : Store)
    (operations : List Operation) (context : Context) (source : String) {text word : String}
    (isWord : IsWord text word) :
    let gate := Engine.gateOf registry policy
    let engine := (Engine.cached gate settings store).after operations
    let evaluation : Evaluation := ⟨gate, engine.settings, context, source⟩
    ReadAs text word ∧ engine.machine.Faithful gate ∧
      (∀ room text tree, KeepsFaith gate (evaluation.expression (evaluation.initialise room) text tree)) ∧
      ∀ machine : Machine Caches, machine.Faithful gate → ∀ type,
        machine.imports.resolve? context.unit word = some type → evaluation.Unclaimed word →
          evaluation.UsedAs machine word type := by
  intro gate engine evaluation
  obtain ⟨-, faithful⟩ := Engine.faithful_after registry policy settings store operations
  refine ⟨isWord.readAs, faithful, evaluation.expression_keepsFaith, fun machine faithful type imported unclaimed => ?_⟩
  constructor
  case constructed => exact Evaluation.run_construct_of_imported faithful imported
  case alone => exact Evaluation.run_ident_of_imported faithful imported
  case opened =>
    exact Evaluation.run_initialise_of_imported faithful imported (Engine.coherent_gateOf registry policy) unclaimed
  case settled => exact evaluation.bracketed_eq_iff machine.imports word type

/-! ## An alias that looks like a qualified name -/

def maker (name text : String) : HostType :=
  { bareType name with constructors := [⟨shortName name, [], true, true, fun _ _ => return .str text⟩] }

def makers : Registry :=
  ⟨[maker "a.T" "T", maker "a.U" "U"]⟩

def aliases (word : String) : List Operation :=
  [.addImport none "a.T" (some word), .addImport none "a.U" (some "a.T")]

theorem unclaimed_empty (gate : Gate) (settings : Settings) (source word : String) :
    (Evaluation.mk gate settings .empty source).Unclaimed word :=
  ⟨fun _ => rfl, rfl, rfl, rfl⟩

/-- A plain word is used as its type also in front of a bracket. -/
theorem imported_name_in_every_use_plain :
    let gate := Engine.gateOf makers .all
    let engine := (Engine.cached gate .standard).after (aliases "Made")
    let evaluation : Evaluation := ⟨gate, engine.settings, .empty, ""⟩
    IsWord "Made" "Made" ∧ engine.machine.imports.resolve? none "Made" = some (maker "a.T" "T") ∧
      evaluation.Unclaimed "Made" ∧ ReadAs "Made" "Made" ∧ engine.machine.Faithful gate ∧
      evaluation.UsedAs engine.machine "Made" (maker "a.T" "T") ∧
      evaluation.bracketed engine.machine.imports "Made" (maker "a.T" "T") = maker "a.T" "T" := by
  intro gate engine evaluation
  have isWord : IsWord "Made" "Made" := by
    have read : tokenize "Made" = .ok [⟨.identifier "Made", ⟨1, 1, 0, 4⟩⟩, ⟨.endOfText, ⟨1, 5, 4, 4⟩⟩] := by cbv
    exact ⟨_, _, read⟩
  have imported : engine.machine.imports.resolve? none "Made" = some (maker "a.T" "T") := rfl
  have unclaimed : evaluation.Unclaimed "Made" := unclaimed_empty gate engine.settings "" "Made"
  obtain ⟨readAs, faithful, -, used⟩ :=
    imported_name_in_every_use makers .all .standard .empty (aliases "Made") .empty "" isWord
  have used : evaluation.UsedAs engine.machine "Made" (maker "a.T" "T") := used _ faithful _ imported unclaimed
  exact ⟨isWord, imported, unclaimed, readAs, faithful, used, used.settled.2 (.inl (by decide))⟩

/-- In front of a bracket another word is used as the second type. -/
theorem exists_imported_name_used_otherwise :
    let gate := Engine.gateOf makers .all
    let engine := (Engine.cached gate .standard).after (aliases "@t")
    let evaluation : Evaluation := ⟨gate, engine.settings, .empty, ""⟩
    IsWord "@t" "@t" ∧ engine.machine.imports.resolve? none "@t" = some (maker "a.T" "T") ∧
      evaluation.Unclaimed "@t" ∧
      ((Engine.observe (.evaluate .empty "new @t()")).run engine).1.answer = .value (.str "T") ∧
      ((Engine.observe (.evaluate .empty "@t[]")).run engine).1.answer = .value (.str "U") := by
  intro gate engine evaluation
  have isWord : IsWord "@t" "@t" := by
    have read : tokenize "@t" = .ok [⟨.identifier "@t", ⟨1, 1, 0, 2⟩⟩, ⟨.endOfText, ⟨1, 3, 2, 2⟩⟩] := by cbv
    exact ⟨_, _, read⟩
  have readNew : Expr.parse "new @t()" = .ok (.construct "@t" [] ⟨1, 1, 0, 8⟩) := by cbv
  have readBracket : Expr.parse "@t[]" = .ok (.initialise (.ident "@t" ⟨1, 1, 0, 2⟩) "" ⟨1, 1, 0, 4⟩) := by cbv
  have coherent : gate.Coherent := Engine.coherent_gateOf makers .all
  have engines := coherent.engines_after .standard .empty (aliases "@t")
  refine ⟨isWord, rfl, unclaimed_empty gate engine.settings "" "@t", ?_, ?_⟩
  · rw [coherent.answer_eq_value engines .empty (by decide +kernel) (by decide +kernel) readNew]
    rfl
  · rw [coherent.answer_eq_value engines .empty (by decide +kernel) (by decide +kernel) readBracket]
    rfl

end LateBound
