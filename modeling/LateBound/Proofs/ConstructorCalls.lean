import LateBound.Proofs.Construction
import LateBound.Proofs.Passing
import LateBound.Proofs.PlainTexts

/-!
# Positional brackets are constructor calls

What is seen of an engine that evaluates `Type[a, b]` is what is seen of it when it evaluates `new Type(a, b)`, but
for where its diagnostics point.
-/

namespace LateBound

open Grammar Initialiser

/-- The same is seen, wherever the diagnostics point. -/
structure Observation.SameButPlaces (first second : Observation) : Prop where
  answer : first.answer = second.answer
  reports : List.Forall₂ Report.SameCause first.reports second.reports
  store : first.store = second.store
  runs : first.runs = second.runs

/-! ## Names on an engine -/

def Engine.Names {μ : Type} [Memory μ] (engine : Engine μ) (context : Context) (text : String) (type : HostType) :
    Prop :=
  (Evaluation.mk engine.gate engine.settings context (text ++ "[]")).Names engine.machine text type

/-- Whatever an engine has come to remember, its names are those of one that remembers nothing. -/
theorem Gate.Coherent.names_of_engines {gate : Gate} (coherent : gate.Coherent) (isNamed : gate.Named)
    {engine : Engine Caches} {engine' : Engine Unit} (engines : coherent.twins.Engines engine engine')
    {context : Context} {text : String} {type : HostType} (names : engine.Names context text type) :
    engine'.Names context text type := by
  have contexts : Context.Alike coherent.twins.hides context context := context.alike_self
  have isGate : engine.gate = gate := engines.first
  have isGate' : engine'.gate = gate := engines.second
  obtain ⟨⟨name, isName, named⟩, tree, span, opened, after, ended, store, runs, reported⟩ := names
  rw [engines.settings, isGate] at named ended
  unfold Engine.Names
  rw [isGate']
  let here := Evaluation.mk gate engine'.settings context (text ++ "[]")
  have namedTypes : coherent.twins.Attempts (Same coherent.twins.known) (here.namedType name) (here.namedType name) :=
    Twins.namedType contexts name
  have constructed : ((here.namedType name).outcome.run engine'.machine).1 = .ok type := by
    obtain ⟨_, behind, found, ⟨rfl, -⟩, -⟩ := Coupled.exists_of_ok namedTypes engines.machine (Prod.ext named rfl)
    exact congrArg Prod.fst found
  have admitted : gate.admits type.name = true := by
    rw [here.run_namedType] at constructed
    exact here.admits_of_typeNamed isNamed constructed
  have targets : coherent.twins.Attempts
      (Sum.LiftRel (Peers gate.admits coherent.twins.known) (Value.Alike fun _ => false))
      (here.target (text ++ "[]") tree) (here.target (text ++ "[]") tree) := by
    have opens : coherent.twins.OpenAlike (text ++ "[]") (here.initialise maxInitialisers)
        (here.initialise maxInitialisers) :=
      Twins.initialise contexts maxInitialisers
    refine .bind (.lift (Twins.expression contexts opens tree fun _ _ => trivial)) fun value value' alike => ?_
    exact Twins.initialised contexts alike ""
  obtain ⟨_, behind, found, related, linked⟩ := Coupled.exists_of_ok targets engines.machine ended
  cases related with
  | inl peers =>
    obtain ⟨rfl, -⟩ := peers.same admitted
    have behindEngines : coherent.twins.Engines { engine with machine := after } { engine' with machine := behind } :=
      { engines with machine := linked }
    obtain ⟨storeBehind, runsBehind⟩ := coherent.seen_of_engines behindEngines
    obtain ⟨storeBefore, runsBefore⟩ := coherent.seen_of_engines engines
    exact ⟨⟨name, isName, constructed⟩, tree, span, opened, behind, found,
      storeBehind.symm.trans (store.trans storeBefore), runsBehind.symm.trans (runs.trans runsBefore),
      linked.reported.symm.trans (reported.trans engines.machine.reported)⟩

/-! ## What is seen of an evaluation -/

def Observation.ofRun (context : Context) (ran : Value × Machine Unit) : Observation :=
  ⟨.value (context.host.wrap ran.1), ran.2.reported.reverse, ran.2.store, ran.2.runs⟩

theorem Observation.sameButPlaces_of_beside (context : Context) {tables : Imports} {first second : Value × Machine Unit}
    (ended : first.1 = second.1 ∧ first.2.Beside SameCauses tables second.2) :
    (Observation.ofRun context first).SameButPlaces (Observation.ofRun context second) where
  answer := congrArg (fun value => Answer.value (context.host.wrap value)) ended.1
  reports := List.forall₂_reverse_iff.2 ended.2.reported
  store := ended.2.store
  runs := ended.2.runs

theorem Engine.observe_evaluate (engine : Engine Unit) (context : Context) {text : String}
    (noDelimiter : engine.settings.delimiter ∉ text.toList) :
    ((Engine.observe (.evaluate context text)).run engine).1 = .ofRun context
      ((Evaluation.mk engine.gate engine.settings context (Text.trim text)).run.run engine.machine) := by
  have seen : ((Engine.observe (.evaluate context text)).run engine).1 =
      let ran := (Engine.evaluateText context text).run engine
      ⟨.value (context.host.wrap ran.1), ran.2.machine.reported.reverse, ran.2.machine.store, ran.2.machine.runs⟩ := rfl
  rw [seen, engine.run_evaluateText context noDelimiter]
  rfl

/-! ## Positional brackets -/

variable {text separator : String} {args : List String} {type : HostType} {context : Context}

theorem toList_initialiserText : (initialiserText text separator args).toList =
    text.toList ++ '[' :: (separator.toList.intercalate (args.map String.toList) ++ [']']) := by
  unfold initialiserText
  simp [String.toList_intercalate]

theorem toList_constructionText : (constructionText text args).toList =
    "new ".toList ++ (text.toList ++ '(' :: ([',', ' '].intercalate (args.map String.toList) ++ [')'])) := by
  unfold constructionText
  simp [String.toList_intercalate]

theorem exists_arguments (positional : ∀ arg ∈ args, IsPositional arg) (matched : ∀ arg ∈ args, ParensMatchInside arg) :
    ∃ trees, List.Forall₂ Argument (args.map String.toList) trees := by
  induction args with
  | nil => exact ⟨[], .nil⟩
  | cons arg args inductionHypothesis =>
    obtain ⟨here, behind⟩ := List.forall_mem_cons.1 positional
    obtain ⟨matchedHere, matchedBehind⟩ := List.forall_mem_cons.1 matched
    obtain ⟨tree, argument⟩ := here.exists_argument matchedHere
    obtain ⟨trees, arguments⟩ := inductionHypothesis behind matchedBehind
    exact ⟨tree :: trees, .cons argument arguments⟩

theorem Engine.Names.observe_arguments {engine : Engine Unit} (names : engine.Names context text type)
    (separates : Separates separator) {trees : List Expr}
    (arguments : List.Forall₂ Argument (args.map String.toList) trees) {tree : Expr}
    (read : Expr.parse (constructionText text args) = .ok tree)
    (noDelimiter : engine.settings.delimiter ∉ (initialiserText text separator args).toList)
    (noDelimiter' : engine.settings.delimiter ∉ (constructionText text args).toList) :
    ((Engine.observe (.evaluate context (initialiserText text separator args))).run engine).1.SameButPlaces
      ((Engine.observe (.evaluate context (constructionText text args))).run engine).1 := by
  rw [engine.observe_evaluate context noDelimiter, engine.observe_evaluate context noDelimiter']
  rw [← String.ofList_toList (s := constructionText text args)] at read
  exact Observation.sameButPlaces_of_beside context
    (Evaluation.Names.run_beside names separates arguments toList_initialiserText toList_constructionText read)

theorem Engine.Names.observe_sameButPlaces {engine : Engine Unit} (names : engine.Names context text type)
    (separates : Separates separator) (positional : ∀ arg ∈ args, IsPositional arg)
    (matched : ∀ arg ∈ args, ParensMatchInside arg) {tree : Expr}
    (read : Expr.parse (constructionText text args) = .ok tree)
    (noDelimiter : engine.settings.delimiter ∉ (initialiserText text separator args).toList)
    (noDelimiter' : engine.settings.delimiter ∉ (constructionText text args).toList) :
    ((Engine.observe (.evaluate context (initialiserText text separator args))).run engine).1.SameButPlaces
      ((Engine.observe (.evaluate context (constructionText text args))).run engine).1 := by
  obtain ⟨trees, arguments⟩ := exists_arguments positional matched
  exact names.observe_arguments separates arguments read noDelimiter noDelimiter'

/-- What is seen of an operation is what is seen of it on an engine that remembers nothing. -/
theorem Gate.Coherent.observe_eq {gate : Gate} (coherent : gate.Coherent) {engine : Engine Caches}
    {engine' : Engine Unit} (engines : coherent.twins.Engines engine engine') (operation : Operation) :
    ((Engine.observe operation).run engine).1 = ((Engine.observe operation).run engine').1 :=
  (Twins.observe operation.alike_self engine engine' engines).1.alike.eq

/-- The answer to a text that is an expression is the value of its tree on an engine that remembers nothing. -/
theorem Gate.Coherent.answer_eq_value {gate : Gate} (coherent : gate.Coherent) {engine : Engine Caches}
    {engine' : Engine Unit} (engines : coherent.twins.Engines engine engine') (context : Context) {text : String}
    (noDelimiter : engine'.settings.delimiter ∉ text.toList) (trimmed : Text.trim text = text) {tree : Expr}
    (read : Expr.parse text = .ok tree) :
    ((Engine.observe (.evaluate context text)).run engine).1.answer = .value (context.host.wrap
      (((Evaluation.mk engine'.gate engine'.settings context text).value tree).run engine'.machine).1) := by
  let evaluation : Evaluation := ⟨engine'.gate, engine'.settings, context, text⟩
  have ran : evaluation.run = (evaluation.value tree : Run Unit Value) := Evaluation.run_eq_value read
  rw [coherent.observe_eq engines, engine'.observe_evaluate context noDelimiter, trimmed]
  exact congrArg (fun action : Run Unit Value => Answer.value (context.host.wrap (action.run engine'.machine).1)) ran

/-- Behind any operations, an initialiser with positional arguments is a constructor call. -/
theorem positional_observed_as_construction {registry : Registry} {policy : AllowList} {settings : Settings}
    {store : Store} {operations : List Operation} {engine : Engine Caches}
    (reached : (Engine.cached (Engine.gateOf registry policy) settings store).after operations = engine)
    (names : engine.Names context text type) (separates : Separates separator)
    (positional : ∀ arg ∈ args, IsPositional arg) (matched : ∀ arg ∈ args, ParensMatchInside arg)
    (constructs : ∃ tree, Expr.parse (constructionText text args) = .ok tree)
    (noDelimiter : engine.settings.delimiter ∉
      (initialiserText text separator args).toList ++ (constructionText text args).toList) :
    ((Engine.observe (.evaluate context (initialiserText text separator args))).run engine).1.SameButPlaces
      ((Engine.observe (.evaluate context (constructionText text args))).run engine).1 := by
  subst reached
  have coherent := Engine.coherent_gateOf registry policy
  have engines := coherent.engines_after settings store operations
  have namesFresh := coherent.names_of_engines (fun _ _ => Registry.name_of_find?) engines names
  obtain ⟨tree, read⟩ := constructs
  rw [engines.settings] at noDelimiter
  obtain ⟨noDelimiter, noDelimiter'⟩ := not_or.1 (List.mem_append.not.1 noDelimiter)
  rw [coherent.observe_eq engines, coherent.observe_eq engines]
  exact namesFresh.observe_sameButPlaces separates positional matched read noDelimiter noDelimiter'

/-! ### A tuple in a tuple -/

/-- A type that makes a list of what it is given: nothing, one value or two. -/
def tuple : HostType where
  name := "Tuple"
  declaredParent? := none
  constants? := none
  constructors := [[], [.any], [.any, .any]].map fun params =>
    ⟨"Tuple", params, true, true, fun _ args => return .list args⟩
  methods := []
  fields := []

def tupleGate : Gate :=
  Engine.gateOf ⟨[tuple]⟩ .all

theorem isName_tuple : IsName "Tuple" "Tuple" := by
  have read : tokenize "Tuple" = .ok [⟨.identifier "Tuple", ⟨1, 1, 0, 5⟩⟩, ⟨.endOfText, ⟨1, 6, 5, 5⟩⟩] := by cbv
  exact ⟨[⟨.identifier "Tuple", ⟨1, 1, 0, 5⟩⟩], ⟨1, 6, 5, 5⟩, read, .name "Tuple" ⟨1, 1, 0, 5⟩⟩

theorem names_tuple : (Engine.cached tupleGate .standard).Names .empty "Tuple" tuple := by
  have read : Expr.parse "Tuple[]" = .ok (.initialise (.ident "Tuple" ⟨1, 1, 0, 5⟩) "" ⟨1, 1, 0, 7⟩) := by cbv
  exact ⟨⟨"Tuple", isName_tuple, rfl⟩, _, _, read, _, rfl, rfl, rfl, rfl⟩

theorem isPositional_five : IsPositional "5" where
  parses := by
    have read : Expr.parse "5" = .ok (.literal (.int 5) ⟨1, 1, 0, 1⟩) := by cbv
    exact ⟨_, read⟩
  shallow := by decide
  plain := List.forall_iff_forall_mem.1 (by decide)

/-- A parenthesis in a string between brackets does no harm. -/
theorem positional_observed_as_construction_tuple :
    let engine := (Engine.cached tupleGate .standard).after []
    let args := ["Tuple[\"(\"]", "5"]
    engine.Names .empty "Tuple" tuple ∧ Separates "; " ∧ (∀ arg ∈ args, IsPositional arg) ∧
      (∀ arg ∈ args, ParensMatchInside arg) ∧ (∃ tree, Expr.parse (constructionText "Tuple" args) = .ok tree) ∧
      engine.settings.delimiter ∉ (initialiserText "Tuple" "; " args).toList ++ (constructionText "Tuple" args).toList ∧
      ((Engine.observe (.evaluate .empty (initialiserText "Tuple" "; " args))).run engine).1.SameButPlaces
        ((Engine.observe (.evaluate .empty (constructionText "Tuple" args))).run engine).1 := by
  intro engine args
  have names : engine.Names .empty "Tuple" tuple := names_tuple
  have separates : Separates "; " := ⟨';', [' '], rfl, .inr rfl, List.forall_mem_singleton.2 rfl⟩
  have positional : ∀ arg ∈ args, IsPositional arg := by
    have read : Expr.parse "Tuple[\"(\"]" =
        .ok (.initialise (.ident "Tuple" ⟨1, 1, 0, 5⟩) "\"(\"" ⟨1, 1, 0, 10⟩) := by cbv
    have nested : IsPositional "Tuple[\"(\"]" := ⟨⟨_, read⟩, by decide, List.forall_iff_forall_mem.1 (by decide)⟩
    exact List.forall_mem_cons.2 ⟨nested, List.forall_mem_singleton.2 isPositional_five⟩
  have matched : ∀ arg ∈ args, ParensMatchInside arg := by
    have read : tokenize "Tuple[\"(\"]" = .ok [⟨.identifier "Tuple", ⟨1, 1, 0, 5⟩⟩, ⟨.bracket "\"(\"", ⟨1, 6, 5, 10⟩⟩,
        ⟨.endOfText, ⟨1, 11, 10, 10⟩⟩] := by cbv
    have readFive : tokenize "5" = .ok [⟨.int 5, ⟨1, 1, 0, 1⟩⟩, ⟨.endOfText, ⟨1, 2, 1, 1⟩⟩] := by cbv
    refine List.forall_mem_cons.2 ⟨fun tokens found raw inside => ?_, List.forall_mem_singleton.2 ?_⟩
    · cases read.symm.trans found
      have same : raw = "\"(\"" := by simpa using inside
      subst same
      decide
    · intro tokens found raw inside
      cases readFive.symm.trans found
      simp at inside
  have constructs : ∃ tree, Expr.parse (constructionText "Tuple" args) = .ok tree := by
    have read : Expr.parse "new Tuple(Tuple[\"(\"], 5)" = .ok (.construct "Tuple"
        [.initialise (.ident "Tuple" ⟨1, 11, 10, 15⟩) "\"(\"" ⟨1, 11, 10, 20⟩, .literal (.int 5) ⟨1, 23, 22, 23⟩]
        ⟨1, 1, 0, 24⟩) := by cbv
    exact ⟨_, read⟩
  have noDelimiter : engine.settings.delimiter ∉
      (initialiserText "Tuple" "; " args).toList ++ (constructionText "Tuple" args).toList := by decide +kernel
  exact ⟨names, separates, positional, matched, constructs, noDelimiter,
    positional_observed_as_construction rfl names separates positional matched constructs noDelimiter⟩

/-! ### A parenthesis that is text -/

theorem segment_of_error (evaluation : Evaluation) (initialise : Value → String → Attempt Unit Value)
    {text : List Char} {error : SyntaxError} (read : Expr.parse (String.ofList (Text.trimChars text)) = .error error) :
    evaluation.segment initialise text = pure (.str (String.ofList (Text.trimChars text))) := by
  unfold Evaluation.segment
  dsimp only
  rw [Evaluation.remember_parse, read]
  rfl

def tupleEvaluation (source : String) : Evaluation :=
  ⟨tupleGate, .standard, .empty, source⟩

def singleMachine (value : Value) : Machine Unit :=
  { Machine.start () .empty with runs := [⟨"Tuple", .method "Tuple(Object)", none, [value]⟩] }

theorem value_tuple (source : String) {raw : String} {error : SyntaxError} (single : segments raw.toList = [raw.toList])
    (noAssignment : assignment? raw.toList = none) (noBlank : raw.toList.all Text.isBlank = false)
    (read : Expr.parse (Text.trim raw) = .error error) (place span : Span) :
    ((tupleEvaluation source).value (.initialise (.ident "Tuple" place) raw span)).run (.start () .empty) =
      (.list [.str (Text.trim raw)], singleMachine (.str (Text.trim raw))) := by
  have found : ((tupleEvaluation source).target source (.ident "Tuple" place)).outcome.run (.start () .empty) =
      (.ok (.inl tuple), .start () .empty) := rfl
  have noAssignments : ∀ segment ∈ segments raw.toList, assignment? segment = none := by
    rw [single]
    exact List.forall_mem_singleton.2 noAssignment
  have ran := Evaluation.run_value_initialise found noAssignments span
  rw [String.ofList_toList] at ran
  rw [ran, single, List.filter_cons_of_pos (by rw [noBlank]; rfl), List.filter_nil, List.mapM_cons, List.mapM_nil,
    segment_of_error _ _ read]
  rfl

/-- The answer to a text about tuples is the value of its tree. -/
theorem answer_tuple {text : String} (noDelimiter : Settings.standard.delimiter ∉ text.toList)
    (trimmed : Text.trim text = text) {tree : Expr} (read : Expr.parse text = .ok tree) {value : Value}
    {after : Machine Unit}
    (ended : ((tupleEvaluation text).value tree).run (.start () .empty) = (value, after)) :
    ((Engine.observe (.evaluate .empty text)).run (Engine.cached tupleGate .standard)).1.answer = .value value := by
  have coherent : tupleGate.Coherent := Engine.coherent_gateOf ⟨[tuple]⟩ .all
  rw [coherent.answer_eq_value (coherent.start .standard .empty) .empty noDelimiter trimmed read]
  exact congrArg (fun ran => Answer.value ran.1) ended

/-- The parenthesis between the inner brackets keeps the scanner of segments from seeing the comma. -/
theorem exists_positional_observed_elsewhere :
    let engine := (Engine.cached tupleGate .standard).after []
    let args := ["Tuple[(]", "5"]
    engine.Names .empty "Tuple" tuple ∧ Separates ", " ∧ (∀ arg ∈ args, IsPositional arg) ∧
      (∃ tree, Expr.parse (constructionText "Tuple" args) = .ok tree) ∧
      engine.settings.delimiter ∉ (initialiserText "Tuple" ", " args).toList ++ (constructionText "Tuple" args).toList ∧
      ((Engine.observe (.evaluate .empty (initialiserText "Tuple" ", " args))).run engine).1.answer =
        .value (.list [.str "Tuple[(], 5"]) ∧
      ((Engine.observe (.evaluate .empty (constructionText "Tuple" args))).run engine).1.answer =
        .value (.list [.list [.str "("], .int 5]) ∧
      ¬ ((Engine.observe (.evaluate .empty (initialiserText "Tuple" ", " args))).run engine).1.SameButPlaces
        ((Engine.observe (.evaluate .empty (constructionText "Tuple" args))).run engine).1 := by
  intro engine args
  have positional : ∀ arg ∈ args, IsPositional arg := by
    have read : Expr.parse "Tuple[(]" = .ok (.initialise (.ident "Tuple" ⟨1, 1, 0, 5⟩) "(" ⟨1, 1, 0, 8⟩) := by cbv
    have nested : IsPositional "Tuple[(]" := ⟨⟨_, read⟩, by decide, List.forall_iff_forall_mem.1 (by decide)⟩
    exact List.forall_mem_cons.2 ⟨nested, List.forall_mem_singleton.2 isPositional_five⟩
  have readFirst : Expr.parse "Tuple[Tuple[(], 5]" =
      .ok (.initialise (.ident "Tuple" ⟨1, 1, 0, 5⟩) "Tuple[(], 5" ⟨1, 1, 0, 18⟩) := by cbv
  have readSecond : Expr.parse "new Tuple(Tuple[(], 5)" = .ok (.construct "Tuple"
      [.initialise (.ident "Tuple" ⟨1, 11, 10, 15⟩) "(" ⟨1, 11, 10, 18⟩, .literal (.int 5) ⟨1, 21, 20, 21⟩]
      ⟨1, 1, 0, 22⟩) := by cbv
  have valueFirst : ((tupleEvaluation "Tuple[Tuple[(], 5]").value
      (.initialise (.ident "Tuple" ⟨1, 1, 0, 5⟩) "Tuple[(], 5" ⟨1, 1, 0, 18⟩)).run (.start () .empty) =
        (.list [.str "Tuple[(], 5"], singleMachine (.str "Tuple[(], 5")) := by
    have read : Expr.parse (Text.trim "Tuple[(], 5") =
        .error (.unexpectedToken "end of expression" "','" ⟨1, 9, 8, 9⟩) := by cbv
    exact value_tuple _ (by decide) (by decide) (by decide) read _ _
  have valueSecond : ∃ after, ((tupleEvaluation "new Tuple(Tuple[(], 5)").value (.construct "Tuple"
      [.initialise (.ident "Tuple" ⟨1, 11, 10, 15⟩) "(" ⟨1, 11, 10, 18⟩, .literal (.int 5) ⟨1, 21, 20, 21⟩]
      ⟨1, 1, 0, 22⟩)).run (.start () .empty) = (.list [.list [.str "("], .int 5], after) := by
    have read : Expr.parse (Text.trim "(") = .error (.unexpectedEnd "expression" none) := by cbv
    have inner := value_tuple "new Tuple(Tuple[(], 5)" (by decide) (by decide) (by decide) read
      ⟨1, 11, 10, 15⟩ ⟨1, 11, 10, 18⟩
    have outer (tree : Expr) (span place : Span) : ((tupleEvaluation "new Tuple(Tuple[(], 5)").value
        (.construct "Tuple" [tree, .literal (.int 5) place] span)).run (.start () .empty) = (do
          let value ← (tupleEvaluation "new Tuple(Tuple[(], 5)").value tree
          (tupleEvaluation "new Tuple(Tuple[(], 5)").recover "new Tuple(Tuple[(], 5)"
            (.construct "Tuple" [tree, .literal (.int 5) place] span)
            (do construct tupleGate (← (tupleEvaluation "").namedType "Tuple") [value.unwrapped, .int 5])).run
              (.start () .empty) := rfl
    rw [outer, StateT.run_bind, inner]
    exact ⟨_, rfl⟩
  obtain ⟨after, valueSecond⟩ := valueSecond
  have first : initialiserText "Tuple" ", " args = "Tuple[Tuple[(], 5]" := by decide +kernel
  have second : constructionText "Tuple" args = "new Tuple(Tuple[(], 5)" := by decide +kernel
  have answerFirst := answer_tuple (by decide) (by decide +kernel) readFirst valueFirst
  have answerSecond := answer_tuple (by decide) (by decide +kernel) readSecond valueSecond
  rw [first, second]
  have separates : Separates ", " := ⟨',', [' '], rfl, .inl rfl, List.forall_mem_singleton.2 rfl⟩
  refine ⟨names_tuple, separates, positional, ⟨_, readSecond⟩, by decide +kernel, answerFirst, answerSecond, ?_⟩
  intro same
  have answers := (answerFirst.symm.trans same.answer).trans answerSecond
  cases answers

end LateBound
