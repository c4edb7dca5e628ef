import LateBound.Builtin
import LateBound.Proofs.ConstructorCalls
import LateBound.Proofs.DottedNames
import LateBound.Proofs.TokenPlaces

/-!
# String literals survive every scanner

A text becomes a literal when a backslash is put in front of each of its quotes and backslashes. The reader of
strings, the reader of brackets and the scanner of segments each follow quotes and backslashes in a way of their own,
and all of them find the end of the literal where it is. So a text that is passed to a constructor as a literal arrives
as it is, in parentheses and in brackets.
-/

namespace LateBound

open Grammar Initialiser

/-! ## Literals -/

def guarded (c : Char) : List Char :=
  if c = '"' ∨ c = '\\' then ['\\', c] else [c]

def stringLiteral (text : String) : String :=
  String.ofList ('"' :: (text.toList.flatMap guarded ++ ['"']))

theorem toList_stringLiteral (text : String) :
    (stringLiteral text).toList = '"' :: (text.toList.flatMap guarded ++ ['"']) :=
  String.toList_ofList

theorem inQuotes_guarded (cs : List Char) : InQuotes (cs.flatMap guarded) := by
  induction cs with
  | nil => exact .nil
  | cons c cs inductionHypothesis =>
    rw [List.flatMap_cons, guarded]
    split
    · exact .escaped c inductionHypothesis
    · next isPlain =>
      obtain ⟨noQuote, noEscape⟩ := not_or.1 isPlain
      exact .plain noQuote noEscape inductionHypothesis

theorem unescape_guarded (cs : List Char) : unescape (cs.flatMap guarded) = cs := by
  induction cs with
  | nil => rfl
  | cons c cs inductionHypothesis =>
    rw [List.flatMap_cons, guarded]
    split
    · next isMark =>
      obtain rfl | rfl := isMark
      · exact congrArg (List.cons '"') inductionHypothesis
      · exact congrArg (List.cons '\\') inductionHypothesis
    · next isPlain =>
      obtain ⟨-, noEscape⟩ := not_or.1 isPlain
      rw [List.singleton_append, unescape.eq_3, inductionHypothesis]
      · exact fun _ same _ => noEscape same
      · exact fun _ same _ => noEscape same

/-! ## Three scanners -/

/-- The reader of strings reads the text itself. -/
theorem written_stringLiteral (text : String) (rest : List Char) :
    (Token.string text).Written rest (stringLiteral text).toList := by
  have written : (Token.string (String.ofList (unescape (text.toList.flatMap guarded)))).Written rest
      ('"' :: (text.toList.flatMap guarded ++ ['"'])) :=
    .string (inQuotes_guarded text.toList)
  rwa [unescape_guarded, String.ofList_toList, ← toList_stringLiteral] at written

/-- The reader of brackets goes over the literal, whatever brackets are in it. -/
theorem inBrackets_stringLiteral (text : String) : InBrackets 0 false (stringLiteral text).toList := by
  rw [toList_stringLiteral]
  exact .quote ((inQuotes_guarded text.toList).inBrackets .nil)

/-- The scanner of segments goes over the literal, whatever separators are in it. -/
theorem passes_stringLiteral (text : String) : Scan.Passes .start (stringLiteral text).toList .start := by
  have behind : Scan.Passes (.at false 0) [] .start := .nil .start
  rw [toList_stringLiteral]
  exact (passes_string (inQuotes_guarded text.toList) behind).quote

theorem segments_stringLiteral (text : String) :
    segments (stringLiteral text).toList = [(stringLiteral text).toList] :=
  (Joined.one _).segments_eq (List.forall_mem_singleton.2 (passes_stringLiteral text).uncut)

theorem lexed_stringLiteral (text : String) :
    Lexed (stringLiteral text).toList (kinds [⟨.string text, default⟩]) := by
  have lexed := Lexed.token (written_stringLiteral text []) .nil
  rwa [List.append_nil] at lexed

theorem holds_string (held : String → Prop) (text : String) : Holds held [⟨.string text, default⟩] :=
  fun _ inside => nomatch List.mem_singleton.1 inside

theorem chain_string (text : String) :
    Chain [⟨.string text, default⟩] (.literal (.string text) default) 0 0 :=
  .primary (.literal default rfl)

theorem exists_argument_stringLiteral (text : String) :
    ∃ span, Argument (stringLiteral text).toList (.literal (.string text) span) := by
  have lexed := lexed_stringLiteral text
  have holds := holds_string (fun raw => bracketNest raw.toList < 63) text
  obtain ⟨located, tree, same, derived, read, alike⟩ :=
    lexed.trimChars.parse (chain_string text) (Nat.zero_le _) holds
  cases alike with
  | literal _ _ span =>
    rw [← same] at lexed
    refine ⟨span, read, passes_stringLiteral text, located, 0, 0, lexed, derived, fun raw inside => ?_⟩
    exact holds raw (same ▸ inside)

/-! ## The type of texts -/

theorem dotted_string : dotted "lang" ["String"] = "lang.String" := by decide

theorem isName_string : IsName "lang.String" "lang.String" := by
  have read : tokenize "lang.String" = .ok ([⟨.identifier "lang", ⟨1, 1, 0, 4⟩⟩, ⟨.dot, ⟨1, 5, 4, 5⟩⟩,
      ⟨.identifier "String", ⟨1, 6, 5, 11⟩⟩] ++ [⟨.endOfText, ⟨1, 12, 11, 11⟩⟩]) := by cbv
  have isDotted : Dotted ([⟨.identifier "lang", ⟨1, 1, 0, 4⟩⟩] ++ [⟨.dot, ⟨1, 5, 4, 5⟩⟩,
      ⟨.identifier "String", ⟨1, 6, 5, 11⟩⟩]) ("lang" ++ "." ++ "String") := .part _ _ _ (.name _ _)
  have same : "lang" ++ "." ++ "String" = "lang.String" := by decide
  exact ⟨_, _, read, same ▸ isDotted⟩

theorem Evaluation.UnclaimedName.on {evaluation : Evaluation} {imports : Imports} {first : String} {rest : List String}
    (unclaimed : evaluation.UnclaimedName imports first rest) (source : String) :
    (evaluation.on source).UnclaimedName imports first rest where
  word := ⟨unclaimed.word.subject, unclaimed.word.locals, unclaimed.word.ambient, unclaimed.word.read⟩
  noImport := unclaimed.noImport
  fronts := unclaimed.fronts
  alone := unclaimed.alone

theorem run_construct_string {gate : Gate} (admitted : gate.admits "lang.String" = true) (text : String)
    (machine : Machine Unit) :
    (construct gate Builtin.stringType [.str text]).outcome.run machine =
      (.ok (.str text), { machine with
        runs := ⟨"lang.String", .method "String(String)", none, [.str text]⟩ :: machine.runs }) := by
  have isName : Builtin.stringType.name = "lang.String" := rfl
  unfold construct checkAdmitted
  rw [isName, if_pos admitted]
  rfl

/-- The evaluation knows the type of texts under its name, and nobody else claims this name or its first word. -/
structure Evaluation.KnowsStrings (evaluation : Evaluation) (imports : Imports) : Prop where
  known : evaluation.gate.find? "lang.String" = some Builtin.stringType
  admitted : evaluation.gate.admits "lang.String" = true
  unclaimed : evaluation.UnclaimedName imports "lang" ["String"]
  noImport : imports.resolve? evaluation.context.unit "lang.String" = none

namespace Evaluation.KnowsStrings

variable {evaluation : Evaluation} {machine : Machine Unit}

theorem on {imports : Imports} (knows : evaluation.KnowsStrings imports) (source : String) :
    (evaluation.on source).KnowsStrings imports :=
  ⟨knows.known, knows.admitted, knows.unclaimed.on source, knows.noImport⟩

theorem run_namedType (knows : evaluation.KnowsStrings machine.imports) :
    (evaluation.namedType "lang.String").outcome.run machine = (.ok Builtin.stringType, machine) := by
  have shown : evaluation.gate.lookup "lang.String" = .found Builtin.stringType := by
    unfold Gate.lookup Gate.judge
    rw [knows.known]
    exact if_pos knows.admitted
  rw [evaluation.run_namedType, typeNamed, knows.noImport]
  dsimp only
  rw [shown]

theorem run_initialised (knows : evaluation.KnowsStrings machine.imports) (coherent : evaluation.gate.Coherent) :
    (evaluation.initialised (.type Builtin.stringType.ref) "").outcome.run machine =
      (.ok (.inl Builtin.stringType), machine) := by
  have described : evaluation.gate.describe Builtin.stringType.ref.name = Builtin.stringType :=
    coherent.found _ _ knows.known
  unfold initialised
  dsimp only [Value.unwrapped]
  rw [described]
  rfl

theorem names (knows : evaluation.KnowsStrings machine.imports) (coherent : evaluation.gate.Coherent) :
    evaluation.Names machine "lang.String" Builtin.stringType := by
  have read : Expr.parse "lang.String[]" = .ok (.initialise (.field (.ident "lang" ⟨1, 1, 0, 4⟩) "String"
      ⟨1, 1, 0, 11⟩) "" ⟨1, 1, 0, 13⟩) := by cbv
  have isDotted : Expr.Dotted "lang" ["String"] (.field (.ident "lang" ⟨1, 1, 0, 4⟩) "String" ⟨1, 1, 0, 11⟩) :=
    .field "String" _ (.ident _)
  have shown : evaluation.gate.named (dotted "lang" ["String"]) = .ok (.type Builtin.stringType.ref) := by
    rw [dotted_string, Gate.named_of_known knows.known, if_pos knows.admitted]
  have targeted := run_dotted isDotted knows.unclaimed.word knows.unclaimed.noImport knows.unclaimed.reached
    knows.unclaimed.fronts (evaluation.initialise maxInitialisers) "lang.String[]"
  rw [shown] at targeted
  have ended : (evaluation.target "lang.String[]"
      (.field (.ident "lang" ⟨1, 1, 0, 4⟩) "String" ⟨1, 1, 0, 11⟩)).outcome.run machine =
        (.ok (.inl Builtin.stringType), machine) :=
    (Attempt.run_bind_of_ok (Attempt.run_lift targeted)).trans (knows.run_initialised coherent)
  have constructed := congrArg Prod.fst knows.run_namedType
  exact ⟨⟨"lang.String", isName_string, constructed⟩, _, _, read, machine, ended, rfl, rfl, rfl⟩

theorem run_value (knows : evaluation.KnowsStrings machine.imports) (text : String) (span place : Span) :
    (evaluation.value (.construct "lang.String" [.literal (.string text) place] span)).run machine =
      (.str text, { machine with
        runs := ⟨"lang.String", .method "String(String)", none, [.str text]⟩ :: machine.runs }) := by
  let node := Expr.construct "lang.String" [.literal (.string text) place] span
  have constructed : (evaluation.value node).run machine = (evaluation.recover evaluation.source node (do
      construct evaluation.gate (← evaluation.namedType "lang.String") [.str text])).run machine := rfl
  have ended := run_construct_string knows.admitted text machine
  rw [constructed, evaluation.run_recover_bind_of_ok _ _ knows.run_namedType, recover, StateT.run_bind, ended]
  rfl

end Evaluation.KnowsStrings

/-! ## On an engine -/

/-- The engine knows the type of texts under its name, and in the context nobody claims this name. -/
def Engine.KnowsStrings {μ : Type} (engine : Engine μ) (context : Context) : Prop :=
  (Evaluation.mk engine.gate engine.settings context "").KnowsStrings engine.machine.imports

def stringTexts (text : String) : List String :=
  ["lang.String[" ++ stringLiteral text ++ "]", "new lang.String(" ++ stringLiteral text ++ ")"]

theorem stringTexts_eq (text : String) : stringTexts text =
    [initialiserText "lang.String" "," [stringLiteral text], constructionText "lang.String" [stringLiteral text]] := by
  unfold stringTexts initialiserText constructionText
  simp only [String.intercalate_singleton]
  rfl

def stringFrame : String :=
  "new lang.String()[]\"\\"

theorem mem_stringLiteral {text : String} {c : Char} (inside : c ∈ (stringLiteral text).toList) :
    c ∈ text.toList ∨ c ∈ stringFrame.toList := by
  have isMark : '"' ∈ stringFrame.toList ∧ '\\' ∈ stringFrame.toList := by decide
  rw [toList_stringLiteral, List.mem_cons, List.mem_append, List.mem_singleton] at inside
  obtain rfl | inside | rfl := inside
  · exact .inr isMark.1
  · obtain ⟨d, inText, inside⟩ := List.mem_flatMap.1 inside
    unfold guarded at inside
    split at inside
    · obtain rfl | inside := List.mem_cons.1 inside
      · exact .inr isMark.2
      · exact .inl (List.mem_singleton.1 inside ▸ inText)
    · exact .inl (List.mem_singleton.1 inside ▸ inText)
  · exact .inr isMark.1

theorem mem_stringTexts {text source : String} (isSource : source ∈ stringTexts text) {c : Char}
    (inside : c ∈ source.toList) : c ∈ text.toList ∨ c ∈ stringFrame.toList := by
  have cut : ∃ front back, source = front ++ stringLiteral text ++ back ∧
      ∀ c ∈ front.toList ++ back.toList, c ∈ stringFrame.toList := by
    obtain rfl | isSource := List.mem_cons.1 isSource
    · exact ⟨"lang.String[", "]", rfl, List.forall_iff_forall_mem.1 (by decide)⟩
    · obtain rfl := List.mem_singleton.1 isSource
      exact ⟨"new lang.String(", ")", rfl, List.forall_iff_forall_mem.1 (by decide)⟩
  obtain ⟨front, back, rfl, inFrame⟩ := cut
  rw [String.toList_append, String.toList_append, List.mem_append, List.mem_append] at inside
  obtain (inFront | inLiteral) | inBack := inside
  · exact .inr (inFrame c (List.mem_append_left _ inFront))
  · exact mem_stringLiteral inLiteral
  · exact .inr (inFrame c (List.mem_append_right _ inBack))

theorem parse_construction (text : String) :
    let source := constructionText "lang.String" [stringLiteral text]
    (∃ tree, Expr.parse source = .ok tree) ∧
      ∃ place span, Expr.parse (Text.trim source) =
        .ok (.construct "lang.String" [.literal (.string text) place] span) := by
  intro source
  -- The tokens are put together without places, so that both texts are read as this tree with places of their own.
  obtain ⟨tokens, span, lexed, chain, holds⟩ := exists_chain_construct isName_string (.some (.one (chain_string text)))
    (holds_string (fun _ => True) text) (lexed_stringLiteral text)
  have isSource : source.toList =
      "new ".toList ++ ("lang.String".toList ++ '(' :: ((stringLiteral text).toList ++ [')'])) := by
    unfold source
    rw [toList_constructionText, List.map_singleton, List.intercalate_singleton]
  rw [← isSource] at lexed
  obtain ⟨-, tree, -, -, read, -⟩ := lexed.parse chain (by decide) holds
  obtain ⟨-, trimmed, -, -, readTrimmed, alike⟩ := lexed.trimChars.parse chain (by decide) holds
  rw [String.ofList_toList] at read
  refine ⟨⟨tree, read⟩, ?_⟩
  cases alike with
  | construct _ _ span alikeArgs =>
    cases alikeArgs with
    | cons alikeArg alikeNone =>
      cases alikeNone
      cases alikeArg with
      | literal _ _ place => exact ⟨place, span, readTrimmed⟩

namespace Engine.KnowsStrings

variable {engine : Engine Unit} {context : Context} {text : String}

theorem observe_construction (knows : engine.KnowsStrings context) (noReports : engine.machine.reported = [])
    (noDelimiter : engine.settings.delimiter ∉ (constructionText "lang.String" [stringLiteral text]).toList) :
    ((Engine.observe (.evaluate context (constructionText "lang.String" [stringLiteral text]))).run engine).1 =
      ⟨.value (context.host.wrap (.str text)), [], engine.machine.store,
        ⟨"lang.String", .method "String(String)", none, [.str text]⟩ :: engine.machine.runs⟩ := by
  obtain ⟨-, place, span, read⟩ := parse_construction text
  let evaluation : Evaluation :=
    ⟨engine.gate, engine.settings, context, Text.trim (constructionText "lang.String" [stringLiteral text])⟩
  have ran : evaluation.run = (evaluation.value _ : Run Unit Value) := evaluation.run_eq_value read
  have ended := (knows.on evaluation.source).run_value text span place
  have isSeen := engine.observe_evaluate context noDelimiter
  rw [ran] at isSeen
  refine isSeen.trans ((congrArg (Observation.ofRun context) ended).trans ?_)
  exact congrArg (Observation.mk _ · _ _) (congrArg List.reverse noReports)

theorem observe_initialiser (knows : engine.KnowsStrings context) (coherent : engine.gate.Coherent)
    (noDelimiter : ∀ source ∈ stringTexts text, engine.settings.delimiter ∉ source.toList) :
    ((Engine.observe
        (.evaluate context (initialiserText "lang.String" "," [stringLiteral text]))).run engine).1.SameButPlaces
      ((Engine.observe (.evaluate context (constructionText "lang.String" [stringLiteral text]))).run engine).1 := by
  obtain ⟨place, argument⟩ := exists_argument_stringLiteral text
  obtain ⟨⟨tree, read⟩, -⟩ := parse_construction text
  have names : engine.Names context "lang.String" Builtin.stringType := (knows.on "lang.String[]").names coherent
  have separates : Separates "," := ⟨',', [], rfl, .inl rfl, List.forall_mem_nil _⟩
  rw [stringTexts_eq, List.forall_mem_cons, List.forall_mem_singleton] at noDelimiter
  exact names.observe_arguments separates (.cons argument .nil) read noDelimiter.1 noDelimiter.2

theorem observe_stringTexts (knows : engine.KnowsStrings context) (coherent : engine.gate.Coherent)
    (noReports : engine.machine.reported = [])
    (noDelimiter : ∀ source ∈ stringTexts text, engine.settings.delimiter ∉ source.toList) :
    ∀ source ∈ stringTexts text,
      let seen := ((Engine.observe (.evaluate context source)).run engine).1
      seen.answer = .value (context.host.wrap (.str text)) ∧ seen.reports = [] ∧ seen.store = engine.machine.store := by
  have initialised := knows.observe_initialiser coherent noDelimiter
  rw [stringTexts_eq, List.forall_mem_cons, List.forall_mem_singleton] at noDelimiter ⊢
  have constructed := knows.observe_construction noReports noDelimiter.2
  rw [constructed] at initialised ⊢
  exact ⟨⟨initialised.answer, List.forall₂_nil_right_iff.1 initialised.reports, initialised.store⟩, rfl, rfl, rfl⟩

end Engine.KnowsStrings

/-- What an engine knows does not depend on what it remembers. -/
theorem Gate.Coherent.knowsStrings_of_engines {gate : Gate} (coherent : gate.Coherent) {engine : Engine Caches}
    {engine' : Engine Unit} (engines : coherent.twins.Engines engine engine') {context : Context}
    (knows : engine.KnowsStrings context) : engine'.KnowsStrings context := by
  have sameGate : engine'.gate = engine.gate := engines.second.trans engines.first.symm
  unfold Engine.KnowsStrings at knows ⊢
  rwa [sameGate, ← engines.settings, ← engines.machine.imports]

theorem Engine.knowsStrings_standard {policy : AllowList} (admitted : policy.admits "lang.String" = true)
    (settings : Settings) (store : Store) :
    (Engine.cached (Engine.gateOf standardRegistry policy) settings store).KnowsStrings .empty := by
  refine ⟨rfl, admitted, ?_, rfl⟩
  refine ⟨unclaimed_empty _ _ _ _, rfl, fun place inside => ?_, fun isEmpty => absurd isEmpty (List.cons_ne_nil _ _)⟩
  obtain rfl : place = 0 := Nat.lt_one_iff.1 inside
  rfl

/-- Every scanner takes the literal of a text for one piece, and an engine that knows the type of texts, and whose
templates have another sign, gives back the text, whichever way its literal is passed to the constructor. -/
theorem string_literal_survives_scanners (text : String) :
    let literal := stringLiteral text
    IsOneToken literal.toList (.string text) ∧ IsOneToken ("[" ++ literal ++ "]").toList (.bracket literal) ∧
      segments literal.toList = [literal.toList] ∧ assignment? literal.toList = none ∧
      ∀ (registry : Registry) (policy : AllowList) (settings : Settings) (store : Store) (operations : List Operation)
        (context : Context),
        let engine := (Engine.cached (Engine.gateOf registry policy) settings store).after operations
        engine.KnowsStrings context → engine.settings.delimiter ∉ text.toList →
          engine.settings.delimiter ∉ stringFrame.toList →
            ∀ source ∈ ["lang.String[" ++ literal ++ "]", "new lang.String(" ++ literal ++ ")"],
              let seen := ((Engine.observe (.evaluate context source)).run engine).1
              seen.answer = .value (context.host.wrap (.str text)) ∧ seen.reports = [] ∧
                seen.store = engine.machine.store := by
  intro literal
  refine ⟨(written_stringLiteral text []).tokenize_eq, isOneToken_bracket (inBrackets_stringLiteral text),
    segments_stringLiteral text, assignment?_of_passes (passes_stringLiteral text), ?_⟩
  intro registry policy settings store operations context engine knows notInText notInFrame source isSource seen
  have coherent : (Engine.gateOf registry policy).Coherent := Engine.coherent_gateOf registry policy
  have engines := coherent.engines_after settings store operations
  obtain ⟨sameStore, -⟩ := coherent.seen_of_engines engines
  have noDelimiter : ∀ source ∈ stringTexts text, engine.settings.delimiter ∉ source.toList :=
    fun source isSource inside => (mem_stringTexts isSource inside).elim notInText notInFrame
  have noReports : ((Engine.start (Engine.gateOf registry policy) settings () store).after
      operations).machine.reported = [] :=
    Engine.reported_after rfl operations
  have isSeen := (coherent.knowsStrings_of_engines engines knows).observe_stringTexts (engines.second ▸ coherent)
    noReports (engines.settings ▸ noDelimiter) source isSource
  rw [← coherent.observe_eq engines, ← sameStore] at isSeen
  exact isSeen

/-- Quotes, backslashes and brackets go through an engine that knows the standard types only. -/
theorem string_literal_survives_scanners_standard :
    let engine := (Engine.cached (Engine.gateOf standardRegistry ⟨["lang"]⟩) .standard).after []
    let text := "é\"]\\),;="
    engine.KnowsStrings .empty ∧ engine.settings.delimiter ∉ text.toList ∧
      engine.settings.delimiter ∉ stringFrame.toList ∧ stringLiteral text = "\"é\\\"]\\\\),;=\"" ∧
      ((Engine.observe (.evaluate .empty "lang.String[\"é\\\"]\\\\),;=\"]")).run engine).1.answer =
        .value (.str text) ∧
      ((Engine.observe (.evaluate .empty "new lang.String(\"é\\\"]\\\\),;=\")")).run engine).1.answer =
        .value (.str text) := by
  intro engine text
  have knows : engine.KnowsStrings .empty := Engine.knowsStrings_standard (by decide) .standard .empty
  have notInText : engine.settings.delimiter ∉ text.toList := by decide
  have notInFrame : engine.settings.delimiter ∉ stringFrame.toList := by decide
  have isLiteral : stringLiteral text = "\"é\\\"]\\\\),;=\"" := by decide
  obtain ⟨-, -, -, -, comesBack⟩ := string_literal_survives_scanners text
  have comesBack := comesBack standardRegistry ⟨["lang"]⟩ .standard .empty [] .empty knows notInText notInFrame
  rw [isLiteral] at comesBack
  exact ⟨knows, notInText, notInFrame, isLiteral, (comesBack _ List.mem_cons_self).1,
    (comesBack _ (List.mem_cons_of_mem _ List.mem_cons_self)).1⟩

end LateBound
