import LateBound.Proofs.Diagnostics
import LateBound.Proofs.Positional

/-!
# Initialisers that construct

On an engine that remembers nothing, an initialiser with positional arguments comes to what the construction with
these arguments comes to: it finds the type first and the construction finds it last, but finding a type changes
nothing, and in between both evaluate the same trees.
-/

namespace LateBound

open Initialiser

section Steps

variable {μ α β : Type} {machine after : Machine μ} {action : Attempt μ α} {a : α}

theorem Attempt.run_lift {action : Run μ α} (ended : action.run machine = (a, after)) :
    (Attempt.lift action).outcome.run machine = (.ok a, after) := by
  have ran : (Attempt.lift action).outcome.run machine = (.ok (action.run machine).1, (action.run machine).2) := rfl
  rw [ran, ended]

namespace Evaluation

variable (evaluation : Evaluation) (text : String) (node : Expr)

theorem run_recover_bind_of_ok {next : α → Attempt μ Value} (ended : action.outcome.run machine = (.ok a, after)) :
    (evaluation.recover text node (action >>= next)).run machine =
      (evaluation.recover text node (next a)).run after := by
  unfold recover
  rw [StateT.run_bind, StateT.run_bind, Attempt.run_bind_of_ok ended]

theorem recover_lift_bind (action : Run μ α) (next : α → Attempt μ Value) :
    evaluation.recover text node (Attempt.lift action >>= next) =
      action >>= fun a => evaluation.recover text node (next a) := by
  funext machine
  exact evaluation.run_recover_bind_of_ok text node rfl

end Evaluation

end Steps

namespace Evaluation

/-! ## Finding the type -/

variable {evaluation : Evaluation} {name : String} {type : HostType}

theorem run_lookupType (gate : Gate) (name : String) (machine : Machine Unit) :
    (lookupType gate name).outcome.run machine =
      (match gate.lookup name with
        | .found type => .ok (some type)
        | .notFound => .ok none
        | .denied => .error (.of (.denied name)), machine) := by
  have looked : (Attempt.lift (Run.remember (Memory.lookup gate name))).outcome.run machine =
      (.ok (gate.lookup name), machine) := rfl
  unfold lookupType
  rw [Attempt.run_bind_of_ok looked]
  cases gate.lookup name <;> rfl

/-- The type that a name stands for in a construction, which depends on the imports only. -/
def typeNamed (evaluation : Evaluation) (name : String) (tables : Imports) : Except Failure HostType :=
  match tables.resolve? evaluation.context.unit name with
  | some type => if evaluation.gate.admits type.name then .ok type else .error (.of (.denied type.name))
  | none =>
    match evaluation.gate.lookup name with
    | .found type => .ok type
    | .notFound => .error (.of (.unknownType name))
    | .denied => .error (.of (.denied name))

theorem run_namedType (evaluation : Evaluation) (name : String) (machine : Machine Unit) :
    (evaluation.namedType name).outcome.run machine = (evaluation.typeNamed name machine.imports, machine) := by
  unfold namedType typeNamed
  cases imported : machine.imports.resolve? evaluation.context.unit name with
  | some type =>
    have found : (Attempt.lift (evaluation.imported? name)).outcome.run machine = (.ok (some type), machine) := by
      rw [← imported]
      rfl
    rw [Attempt.run_bind_of_ok found]
    dsimp only
    unfold checkAdmitted
    split <;> rfl
  | none =>
    have found : (Attempt.lift (evaluation.imported? name)).outcome.run machine = (.ok none, machine) := by
      rw [← imported]
      rfl
    have looked := run_lookupType evaluation.gate name machine
    rw [Attempt.run_bind_of_ok found]
    dsimp only
    unfold requireType
    cases answer : evaluation.gate.lookup name with
    | found type | notFound =>
      rw [answer] at looked
      rw [Attempt.run_bind_of_ok looked]
      rfl
    | denied =>
      rw [answer] at looked
      rw [Attempt.run_bind_of_error looked]

theorem admits_of_typeNamed (named : evaluation.gate.Named) {tables : Imports}
    (found : evaluation.typeNamed name tables = .ok type) : evaluation.gate.admits type.name = true := by
  unfold typeNamed at found
  split at found
  · split at found
    · next admitted =>
      cases found
      exact admitted
    · cases found
  · split at found
    · next shown =>
      cases found
      obtain ⟨isFound, admitted⟩ := Gate.find?_of_lookup (congrArg Lookup.type? shown)
      rwa [named _ _ isFound]
    · cases found
    · cases found

section Targets

variable {μ : Type} [Memory μ]

/-- What a text in front of brackets stands for when there is nothing between them. -/
def target (evaluation : Evaluation) (text : String) (tree : Expr) : Attempt μ (HostType ⊕ Value) := do
  let value ← Attempt.lift (evaluation.expression (evaluation.initialise maxInitialisers) text tree)
  evaluation.initialised value ""

/-- The text names the type, in a construction as in front of brackets, and to find it there leaves the host alone
and reports nothing. -/
structure Names (evaluation : Evaluation) (machine : Machine μ) (text : String) (type : HostType) : Prop where
  constructed : ∃ name, IsName text name ∧ ((evaluation.namedType name).outcome.run machine).1 = .ok type
  opened : ∃ tree span, Expr.parse (text ++ "[]") = .ok (.initialise tree "" span) ∧
    ∃ after, (evaluation.target (text ++ "[]") tree).outcome.run machine = (.ok (.inl type), after) ∧
      after.store = machine.store ∧ after.runs = machine.runs ∧ after.reported = machine.reported

theorem run_initialised_of_inl {value : Value} {raw : String} {machine after : Machine μ}
    (ended : (evaluation.initialised value raw).outcome.run machine = (.ok (.inl type), after)) (other : String) :
    (evaluation.initialised value other).outcome.run machine = (.ok (.inl type), after) := by
  unfold initialised at ended ⊢
  split at ended
  · exact ended
  · next name _ =>
    cases looked : (evaluation.bracketType? name).outcome.run machine with
    | mk found between =>
      cases found with
      | error failure =>
        rw [Attempt.run_bind_of_error looked] at ended
        cases ended
      | ok found =>
        rw [Attempt.run_bind_of_ok looked] at ended ⊢
        cases found with
        | some type => exact ended
        | none =>
          dsimp only at ended
          unfold interpreted at ended
          split at ended <;> cases ended
  · cases ended
  · cases ended

theorem run_initialise_of_inl {room : Nat} {text raw : String} {target : Expr} {value : Value}
    {machine between after : Machine μ}
    (targeted : (evaluation.expression (evaluation.initialise (room + 1)) text target).run machine = (value, between))
    (opened : (evaluation.initialised value raw).outcome.run between = (.ok (.inl type), after)) (span : Span) :
    let node := Expr.initialise target raw span
    (evaluation.expression (evaluation.initialise (room + 1)) text node).run machine =
      (evaluation.recover text node (evaluation.fill (evaluation.initialise room) type raw)).run after := by
  intro node
  unfold node
  rw [Evaluation.expression, StateT.run_bind, targeted]
  exact evaluation.run_recover_bind_of_ok text _ opened

end Targets

/-! ## The arguments -/

variable {tables : Imports} (evaluation : Evaluation) (source : String)

theorem segments_beside {opening opening' : Value → String → Attempt Unit Value}
    (opens : ∀ target raw, bracketNest raw.toList < 63 →
      AttemptsBeside SameCauses tables (opening target raw) (opening' target raw))
    (text : String) {texts : List (List Char)} {trees args : List Expr} (arguments : List.Forall₂ Argument texts trees)
    (alike : Expr.ArgsAlike (fun raw => bracketNest raw.toList < 63) trees args) :
    RunsBeside SameCauses tables (texts.mapM (evaluation.segment opening))
      ((evaluation.on source).arguments opening' text args) := by
  induction arguments generalizing args with
  | nil =>
    cases alike
    exact Coupled.pure rfl
  | cons argument _ inductionHypothesis =>
    cases alike with
    | cons alikeArg alikeArgs =>
      rw [List.mapM_cons, Evaluation.arguments, segment_eq evaluation opening argument.read, bind_assoc]
      refine Coupled.bindEq (evaluation.expression_beside source opens _ text alikeArg) fun value => ?_
      rw [pure_bind]
      exact Coupled.bindEq (inductionHypothesis alikeArgs) fun values => Coupled.pure rfl

theorem fill_of_arguments (initialise : Value → String → Attempt Unit Value) (type : HostType) {body : List Char}
    (noAssignment : ∀ segment ∈ segments body, assignment? segment = none) :
    evaluation.fill initialise type (String.ofList body) = (do
      let args ← Attempt.lift
        (((segments body).filter fun segment => !segment.all Text.isBlank).mapM (evaluation.segment initialise))
      construct evaluation.gate type args) := by
  have noneAssigns : ((segments body).any fun segment => (assignment? segment).isSome) = false := by
    refine List.any_eq_false.2 fun segment inside => ?_
    rw [noAssignment segment inside]
    exact nofun
  unfold fill
  dsimp only
  rw [String.toList_ofList, noneAssigns]
  rfl

/-- A text that is an expression comes to the value of its tree. -/
theorem run_eq_value {evaluation : Evaluation} {tree : Expr} (read : Expr.parse evaluation.source = .ok tree) :
    evaluation.run = (evaluation.value tree : Run Unit Value) := by
  have filled : evaluation.source ≠ "" := by
    intro isEmpty
    obtain ⟨tokens, last, links, nest, tokenized, chain, -⟩ := Expr.exists_derivation read
    have lexed : Lexed evaluation.source.toList (kinds tokens) := lexed_of_tokensFrom tokenized
    rw [isEmpty] at lexed
    exact chain.ne_nil (List.map_eq_nil_iff.1 (lexed.unique .nil))
  unfold Evaluation.run
  rw [if_neg filled, remember_parse, pure_bind, read]

variable {evaluation} {machine : Machine Unit} {text : String} {type : HostType}

/-! ## Both ways -/

/-- An initialiser with a type in front evaluates its segments behind that and constructs an instance. -/
theorem run_value_initialise {node : Expr} {after : Machine Unit}
    (found : (evaluation.target evaluation.source node).outcome.run machine = (.ok (.inl type), after))
    {body : List Char} (noAssignment : ∀ segment ∈ segments body, assignment? segment = none) (span : Span) :
    let whole := Expr.initialise node (String.ofList body) span
    let given := (segments body).filter fun segment => !segment.all Text.isBlank
    (evaluation.value whole).run machine = (do
      let args ← given.mapM (evaluation.segment (evaluation.initialise 63))
      evaluation.recover evaluation.source whole (construct evaluation.gate type args)).run after := by
  intro whole given
  let between := (evaluation.expression (evaluation.initialise maxInitialisers) evaluation.source node).run machine
  have target : (evaluation.target evaluation.source node).outcome.run machine =
      (evaluation.initialised between.1 "").outcome.run between.2 := Attempt.run_bind_of_ok rfl
  have opened := run_initialised_of_inl (target.symm.trans found) (String.ofList body)
  have filled : (evaluation.value whole).run machine = (evaluation.recover evaluation.source whole
      (evaluation.fill (evaluation.initialise 63) type (String.ofList body))).run after :=
    run_initialise_of_inl rfl opened span
  rwa [evaluation.fill_of_arguments _ _ noAssignment, recover_lift_bind] at filled

theorem construct_beside {name : String} {tables : Imports} (settled : evaluation.typeNamed name tables = .ok type)
    (values : List Value) :
    AttemptsBeside SameCauses tables (construct evaluation.gate type values : Attempt Unit Value)
      (do construct evaluation.gate (← evaluation.namedType name) values) := by
  intro first second beside
  have found : (evaluation.namedType name).outcome.run second = (.ok type, second) := by
    rw [run_namedType, beside.sameImports, settled]
  have named : (evaluation.namedType name >>= fun type => construct evaluation.gate type values).outcome.run second =
      (construct evaluation.gate type values).outcome.run second :=
    Attempt.run_bind_of_ok found
  unfold Attempt.outcome at named
  rw [named]
  exact silent_construct evaluation.gate type values first second beside

theorem exists_found {text : String} {node node' : Expr} {after : Machine Unit}
    (ended : (evaluation.target text node).outcome.run machine = (.ok (.inl type), after))
    (store : after.store = machine.store) (runs : after.runs = machine.runs)
    (reported : after.reported = machine.reported) (alike : node.Alike (fun _ => False) node') (source : String) :
    ∃ behind, ((evaluation.on source).target source node').outcome.run machine = (.ok (.inl type), behind) ∧
      behind.Beside SameCauses machine.imports machine := by
  have targets : AttemptsBeside SameCauses machine.imports (evaluation.target text node : Attempt Unit _)
      ((evaluation.on source).target source node') := by
    refine .bind (.lift (evaluation.expression_beside source ?_ _ _ alike)) fun value => ?_
    · exact fun _ _ isHeld => isHeld.elim
    · exact evaluation.silent_initialised value ""
  obtain ⟨_, behind, found, rfl, beside⟩ := Coupled.exists_of_ok targets (.refl machine) ended
  exact ⟨behind, found,
    { memory := rfl
      store := beside.store.symm.trans store
      runs := beside.runs.symm.trans runs
      reported := reported ▸ beside.symm.reported
      imports := beside.sameImports
      sameImports := rfl }⟩

/-- An initialiser with positional arguments comes to what the construction with them comes to. -/
theorem Names.run_beside (names : evaluation.Names machine text type) {separator : String}
    (separates : Separates separator) {args : List (List Char)} {trees : List Expr}
    (arguments : List.Forall₂ Argument args trees) {first second : List Char}
    (isFirst : first = text.toList ++ '[' :: (separator.toList.intercalate args ++ [']']))
    (isSecond : second = "new ".toList ++ (text.toList ++ '(' :: ([',', ' '].intercalate args ++ [')'])))
    {tree : Expr} (read : Expr.parse (String.ofList second) = .ok tree) :
    let initialised := (evaluation.on (String.ofList (Text.trimChars first))).run.run machine
    let constructed := (evaluation.on (String.ofList (Text.trimChars second))).run.run machine
    initialised.1 = constructed.1 ∧ initialised.2.Beside SameCauses machine.imports constructed.2 := by
  obtain ⟨⟨name, isName, named⟩, node, span, opened, after, ended, store, runs, reported⟩ := names
  obtain ⟨inside, noAssignment, given⟩ := exists_segments separates arguments
  obtain ⟨node', place, readFirst, alike⟩ := exists_initialise (fun _ => False) isName opened inside isFirst
  obtain ⟨args', place', readSecond, alikeArgs⟩ := exists_construct isName arguments isSecond read
  let here := evaluation.on (String.ofList (Text.trimChars first))
  let there := evaluation.on (String.ofList (Text.trimChars second))
  obtain ⟨behind, found, beside⟩ : ∃ behind,
      (here.target here.source node').outcome.run machine = (.ok (.inl type), behind) ∧
        behind.Beside SameCauses machine.imports machine :=
    exists_found ended store runs reported alike here.source
  have settled : there.typeNamed name machine.imports = .ok type := by
    rwa [run_namedType] at named
  have both : RunsBeside SameCauses machine.imports
      (do
        let values ← ((segments (separator.toList.intercalate args)).filter
          fun segment => !segment.all Text.isBlank).mapM (here.segment (here.initialise 63))
        here.recover here.source (.initialise node' (String.ofList (separator.toList.intercalate args)) place)
          (construct here.gate type values))
      (there.value (.construct name args' place') : Run Unit Value) := by
    refine Coupled.bindEq (here.segments_beside there.source ?_ there.source given alikeArgs) fun values => ?_
    · exact fun target raw shallow =>
        here.initialise_beside there.source target shallow (Nat.lt_succ_of_lt shallow)
    · exact here.recover_beside there.source _ _ _ _ (there.construct_beside settled values)
  have runFirst : here.run = (here.value _ : Run Unit Value) := run_eq_value readFirst
  have runSecond : there.run = (there.value _ : Run Unit Value) := run_eq_value readSecond
  intro initialised constructed
  change (here.run.run machine).1 = (there.run.run machine).1 ∧
    (here.run.run machine).2.Beside SameCauses machine.imports (there.run.run machine).2
  rw [runFirst, runSecond, run_value_initialise found noAssignment]
  exact both behind machine beside

end Evaluation

end LateBound
