import LateBound.Proofs.ImportTables

/-!
# Machines that answer as their gate does

The caches of a machine hold what its gate has, and every imported type is the one that the gate shows under its name:
so it is behind any operations on an engine. Whatever is evaluated leaves it so, and leaves the imports as they are. One
who follows an evaluation step by step may then ask the gate and the grammar where the machine asks its caches.
-/

namespace LateBound

/-- The caches hold what the gate has, and the imported types are those that it shows. -/
structure Machine.Faithful (gate : Gate) (machine : Machine Caches) : Prop where
  kept : machine.memory.Kept gate
  imported : machine.imports.All fun type => gate.lookup type.name = .found type

abbrev Gate.itself (gate : Gate) : Twins Caches Caches :=
  .itself gate .any fun type _ => type.discreet_none

variable {gate : Gate} {machine : Machine Caches} {α : Type}

theorem Gate.has_of_lookup {name : String} {type : HostType} (found : gate.lookup name = .found type) :
    gate.Has type :=
  ⟨name, .inl (Gate.find?_of_lookup (congrArg Lookup.type? found)).1⟩

theorem Imports.All.imp {known shown : HostType → Prop} {imports : Imports} (all : imports.All known)
    (implies : ∀ type, known type → shown type) : imports.All shown :=
  fun entry isEntry label isLabel => implies _ (all entry isEntry label isLabel)

namespace Machine.Faithful

variable (faithful : machine.Faithful gate)

include faithful

theorem linked : gate.itself.Linked machine machine where
  memory := ⟨rfl, faithful.kept⟩
  store := by
    show Store.Alike (fun _ => false) machine.store machine.store
    rw [Store.alike_none]
  imports := rfl
  imported := faithful.imported.imp fun _ => Gate.has_of_lookup
  reported := rfl
  told _ _ := trivial
  runs := by
    show List.Forall₂ (HostRun.Alike fun _ => false) machine.runs machine.runs
    rw [HostRun.alike_none, List.forall₂_eq_eq_eq]
  permitted _ _ := trivial

theorem withMemory {memory : Caches} (kept : memory.Kept gate) : Faithful gate { machine with memory } :=
  ⟨kept, faithful.imported⟩

theorem resolved {unit : Option String} {word : String} {type : HostType}
    (resolved : machine.imports.resolve? unit word = some type) : gate.lookup type.name = .found type :=
  faithful.imported.resolve resolved

theorem requireType (name : String) : ∃ memory, Faithful gate { machine with memory } ∧
    (LateBound.requireType gate name).outcome.run machine =
      ((gate.lookup name).required name, { machine with memory }) := by
  obtain ⟨answered, types⟩ := faithful.kept.types.lookup name
  have kept : ((Memory.lookup gate name).run machine.memory).2.Kept gate := { faithful.kept with types }
  refine ⟨_, faithful.withMemory kept, ?_⟩
  rw [run_requireType]
  exact Prod.ext (congrArg (Lookup.required name) answered) rfl

theorem parse (text : String) : ∃ memory, Faithful gate { machine with memory } ∧
    (Run.remember (Memory.parse text)).run machine = (Expr.parse text, { machine with memory }) := by
  obtain ⟨parsed, trees⟩ := faithful.kept.trees.getOrParse text
  have kept : ((Memory.parse text).run machine.memory).2.Kept gate := { faithful.kept with trees }
  exact ⟨_, faithful.withMemory kept, Prod.ext parsed rfl⟩

end Machine.Faithful

/-! ## Evaluating -/

/-- The action leaves a faithful machine faithful, and its imports as they are. -/
def KeepsFaith (gate : Gate) (action : Run Caches α) : Prop :=
  ∀ machine, machine.Faithful gate →
    (action.run machine).2.Faithful gate ∧ (action.run machine).2.imports = machine.imports

theorem KeepsFaith.of_runs {answers : α → α → Prop} {action : Run Caches α}
    (runs : gate.itself.Runs answers action action)
    (beside : ∀ tables, RunsBeside (fun _ _ => True) tables action action) : KeepsFaith gate action := by
  intro machine faithful
  have unchanged := imports_of_beside beside machine
  obtain ⟨-, linked⟩ := runs machine machine faithful.linked
  refine ⟨⟨linked.memory.2, ?_⟩, unchanged⟩
  rw [unchanged]
  exact faithful.imported

theorem KeepsFaith.of_attempts {answers : α → α → Prop} {action : Attempt Caches α}
    (attempts : gate.itself.Attempts answers action action) (silent : ∀ tables, Silent (fun _ _ => True) tables action) :
    KeepsFaith gate action.outcome :=
  .of_runs attempts fun tables => Coupled.weaken (silent tables) fun _ _ ended => eq_of_endings ended

theorem construct_keepsFaith {type : HostType} (peers : Peers gate.admits gate.Has type type) (args : List Value) :
    KeepsFaith gate (construct gate type args).outcome := by
  have alike : List.Forall₂ (Value.Alike fun _ => false) args args := List.forall₂_same.2 fun value _ => .refl value
  have attempts : gate.itself.Attempts (Value.Alike fun _ => false) (construct gate type args)
      (construct gate type args) :=
    Twins.construct peers alike
  exact .of_attempts attempts fun _ => silent_construct gate type args

theorem writeField_keepsFaith (gate : Gate) (target : Value) (name : String) (value : Value) :
    KeepsFaith gate (writeField gate target name value).outcome := by
  have attempts : gate.itself.Attempts Eq (writeField gate target name value) (writeField gate target name value) :=
    Twins.writeField (.refl target) name (.refl value)
  exact .of_attempts attempts fun _ => silent_writeField gate target name value

namespace Evaluation

variable (evaluation : Evaluation)

theorem reportsBeside (tables : Imports) : evaluation.ReportsBeside Caches (fun _ _ => True) tables
    evaluation.settings.reportsResolution evaluation.settings.reportsResolution :=
  fun _ _ _ => Coupled.update fun _ _ beside => { beside with reported := trivial }

section Texts

variable (room : Nat) (text : String)

theorem opens_itself : evaluation.gate.itself.OpenAlike evaluation.source (evaluation.initialise room)
    (evaluation.initialise room) := by
  have contexts : Context.Alike evaluation.gate.itself.hides evaluation.context evaluation.context :=
    evaluation.context.alike_self
  exact Twins.initialise contexts room

theorem initialise_beside_itself (tables : Imports) (target : Value) (raw : String) :
    Silent (μ := Caches) (fun _ _ => True) tables (evaluation.initialise room target raw) :=
  initialise_of_reports (evaluation.reportsBeside tables) room target raw

/-- Whatever is evaluated in a text, also between the brackets of an initialiser, the machine stays faithful. -/
theorem expression_keepsFaith (tree : Expr) :
    KeepsFaith evaluation.gate (evaluation.expression (evaluation.initialise room) text tree) := by
  have runs : evaluation.gate.itself.Runs (Value.Alike fun _ => false)
      (evaluation.expression (evaluation.initialise room) text tree)
      (evaluation.expression (evaluation.initialise room) text tree) :=
    Twins.expression evaluation.context.alike_self (evaluation.opens_itself room) tree fun _ _ => trivial
  refine .of_runs runs fun tables => ?_
  exact expression_of_reports (evaluation.reportsBeside tables) (evaluation.initialise_beside_itself room tables) text tree

theorem arguments_keepsFaith (args : List Expr) :
    KeepsFaith evaluation.gate (evaluation.arguments (evaluation.initialise room) text args) := by
  have runs : evaluation.gate.itself.Runs (List.Forall₂ (Value.Alike fun _ => false))
      (evaluation.arguments (evaluation.initialise room) text args)
      (evaluation.arguments (evaluation.initialise room) text args) :=
    Twins.arguments evaluation.context.alike_self (evaluation.opens_itself room) args fun _ _ => trivial
  refine .of_runs runs fun tables => ?_
  exact arguments_of_reports (evaluation.reportsBeside tables) (evaluation.initialise_beside_itself room tables) text args

end Texts

theorem attempts_initialised (target : Value) (raw : String) :
    evaluation.gate.itself.Attempts (Sum.LiftRel (Peers evaluation.gate.admits evaluation.gate.Has) (Value.Alike fun _ => false))
      (evaluation.initialised target raw) (evaluation.initialised target raw) := by
  have contexts : Context.Alike evaluation.gate.itself.hides evaluation.context evaluation.context :=
    evaluation.context.alike_self
  exact Twins.initialised contexts (.refl target) raw

theorem initialised_keepsFaith (target : Value) (raw : String) :
    KeepsFaith evaluation.gate (evaluation.initialised target raw).outcome :=
  .of_attempts (evaluation.attempts_initialised target raw) fun _ => evaluation.silent_initialised target raw

theorem peers_of_initialised (faithful : machine.Faithful evaluation.gate) {target : Value} {raw : String}
    {type : HostType} {after : Machine Caches}
    (ended : (evaluation.initialised target raw).outcome.run machine = (.ok (.inl type), after)) :
    Peers evaluation.gate.admits evaluation.gate.Has type type := by
  obtain ⟨found, behind, again, related, -⟩ :=
    Coupled.exists_of_ok (evaluation.attempts_initialised target raw) faithful.linked ended
  cases again.symm.trans ended
  exact Sum.liftRel_inl_inl.1 related

end Evaluation

/-! ## Engines -/

namespace Operation

theorem all_importsAfter {gate : Gate} (named : gate.Named) (operation : Operation) {tables : Imports}
    (all : tables.All fun type => gate.lookup type.name = .found type) :
    (operation.importsAfter gate tables).All fun type => gate.lookup type.name = .found type := by
  cases operation with
  | evaluate | expandTemplate | callMethod | construct | getField | setField => exact all
  | removeUnit unit => exact all.remove unit
  | clearAll => exact Imports.all_empty
  | addImport unit name label? =>
    show ((gate.lookup name).importInto tables unit label?).All _
    cases answer : gate.lookup name with
    | notFound | denied => exact all
    | found type =>
      have same : type.name = name := named _ _ (Gate.find?_of_lookup (congrArg Lookup.type? answer)).1
      exact all.insert (same ▸ answer) unit label?

end Operation

namespace Engine

variable {engine : Engine Caches}

theorem Kept.faithful_after (named : gate.Named) (kept : engine.Kept gate)
    (faithful : engine.machine.Faithful gate) (operations : List Operation) :
    (engine.after operations).gate = gate ∧ (engine.after operations).machine.Faithful gate := by
  induction operations generalizing engine with
  | nil => exact ⟨kept.first, faithful⟩
  | cons operation operations inductionHypothesis =>
    rw [after_cons]
    have behind := kept.observe operation
    refine inductionHypothesis behind ⟨behind.machine.memory.2, ?_⟩
    rw [imports_observe operation kept.truthful, kept.first]
    exact operation.all_importsAfter named faithful.imported

/-- Behind any operations the machine of an engine with caches is faithful. -/
theorem faithful_after (registry : Registry) (policy : AllowList) (settings : Settings) (store : Store)
    (operations : List Operation) :
    let gate := gateOf registry policy
    let engine := (cached gate settings store).after operations
    engine.gate = gate ∧ engine.machine.Faithful gate := by
  intro gate
  have named : gate.Named := fun _ _ => Registry.name_of_find?
  have start : (cached gate settings store).machine.Faithful gate :=
    ⟨Caches.kept_empty gate settings.treeCapacity, Imports.all_empty⟩
  exact (kept_cached gate settings store).faithful_after named start operations

end Engine

end LateBound
