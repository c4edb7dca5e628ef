import LateBound.Observation
import LateBound.Proofs.EngineCoupling
import LateBound.Proofs.Muting

/-!
# What changes the imports

Of all that an engine does only three operations touch its imports: to import a type, to drop a unit and to forget
everything. An evaluation reads them and leaves them as they are, and so does whatever reaches a member of the host.
A type that is imported is the one that the gate shows under its name, provided that the memory of the engine answers
as the gate does; when the gate shows none, the imports stay as they are.
-/

namespace LateBound

variable {μ α : Type}

/-! ## Evaluations -/

theorem imports_of_beside {action : Run μ α} (beside : ∀ tables, RunsBeside (fun _ _ => True) tables action action)
    (machine : Machine μ) : (action.run machine).2.imports = machine.imports := by
  have itself : machine.Beside (fun _ _ => True) machine.imports machine := ⟨rfl, rfl, rfl, trivial, rfl, rfl⟩
  exact (beside machine.imports machine machine itself).2.imports

theorem Evaluation.imports_run [Memory μ] (evaluation : Evaluation) (machine : Machine μ) :
    (evaluation.run.run machine).2.imports = machine.imports := by
  have unchanged : evaluation.reporting evaluation.settings.reportsResolution = evaluation := rfl
  apply imports_of_beside
  intro tables
  rw [← unchanged]
  apply Evaluation.run_of_reports
  intro text node? failure
  exact Coupled.update fun _ _ beside => { beside with reported := trivial }

/-! ## Engines -/

namespace Engine

abbrev LeavesImports (action : Action μ α) : Prop :=
  Leaves (fun engine => engine.machine.imports) action

namespace LeavesImports

theorem imports {action : Action μ α} (leaves : LeavesImports action) (engine : Engine μ) :
    (action.run engine).2.machine.imports = engine.machine.imports :=
  Leaves.same leaves engine

theorem of_run {action : Gate → Run μ α}
    (keeps : ∀ gate machine, ((action gate).run machine).2.imports = machine.imports) :
    LeavesImports (Engine.run action) :=
  .of_same fun engine => keeps engine.gate engine.machine

theorem of_silent {action : Gate → Attempt μ α} (silent : ∀ gate tables, Silent (fun _ _ => True) tables (action gate)) :
    LeavesImports (Engine.attempt action) :=
  of_run fun gate => imports_of_beside fun tables =>
    Coupled.weaken (silent gate tables) fun _ _ ended => eq_of_endings ended

theorem drainReports : LeavesImports (μ := μ) Engine.drainReports :=
  .of_same fun _ => rfl

theorem takeReports : LeavesImports (μ := μ) Engine.takeReports :=
  fun tables => Coupled.map (drainReports tables) fun _ _ same => congrArg _ same

variable [Memory μ] (context : Context)

theorem evaluateSource (source : String) : LeavesImports (μ := μ) (Engine.evaluateSource context source) := by
  intro tables
  refine Coupled.bindSame Coupled.read fun engine isTables => ?_
  exact of_run (fun gate => Evaluation.imports_run ⟨gate, engine.settings, context, source⟩) tables

theorem renderSource (source : String) : LeavesImports (μ := μ) (Engine.renderSource context source) := by
  intro tables
  refine Coupled.bindSame Coupled.read fun engine isTables => ?_
  apply of_run
  intro gate machine
  let evaluation : Evaluation := ⟨gate, engine.settings, context, source⟩
  calc ((evaluation.run >>= evaluation.textOf).run machine).2.imports
    _ = (evaluation.run.run machine).2.imports := imports_of_beside (fun _ => evaluation.textOf_beside _) _
    _ = machine.imports := evaluation.imports_run machine

theorem expandTemplate (text : String) : LeavesImports (μ := μ) (Engine.expandTemplate context text) :=
  Leaves.expandTemplate (renderSource context) text

theorem evaluate (text : String) : LeavesImports (μ := μ) (Engine.evaluate context text) :=
  Leaves.evaluate (evaluateSource context) (renderSource context) text

theorem parse (text : String) : LeavesImports (μ := μ) (Engine.parse text) :=
  of_run fun _ _ => rfl

end LeavesImports

end Engine

/-! ## Imports -/

/-- The answer of the gate to someone who needs the type. -/
def Lookup.required (name : String) : Lookup → Except Failure HostType
  | found type => .ok type
  | notFound => .error (.of (.unknownType name))
  | denied => .error (.of (.denied name))

/-- The imports when a type was to be imported and the gate has answered: it is there if it was found. -/
def Lookup.importInto (tables : Imports) (unit label? : Option String) : Lookup → Imports
  | found type => tables.insert unit type label?
  | notFound | denied => tables

theorem Gate.exists_required_error_iff (gate : Gate) (name : String) :
    (∃ failure, (gate.lookup name).required name = .error failure) ↔
      gate.find? name = none ∨ gate.admits name = false := by
  unfold Gate.lookup
  cases gate.find? name with
  | none => simp [Gate.judge, Lookup.required]
  | some type => by_cases admitted : gate.admits name <;> simp [Gate.judge, Lookup.required, admitted]

theorem Lookup.importInto_of_error {answer : Lookup} {name : String} {failure : Failure}
    (refused : answer.required name = .error failure) (tables : Imports) (unit label? : Option String) :
    answer.importInto tables unit label? = tables := by
  cases answer with
  | found type => cases refused
  | notFound => rfl
  | denied => rfl

variable [Memory μ]

theorem run_requireType (gate : Gate) (name : String) (machine : Machine μ) :
    (requireType gate name).outcome.run machine =
      let asked := (Memory.lookup gate name).run machine.memory
      (asked.1.required name, { machine with memory := asked.2 }) := by
  have asks : (Attempt.lift (Run.remember (Memory.lookup gate name))).outcome.run machine =
      (.ok ((Memory.lookup gate name).run machine.memory).1,
        { machine with memory := ((Memory.lookup gate name).run machine.memory).2 }) := rfl
  unfold requireType lookupType
  rw [bind_assoc, Attempt.run_bind_of_ok asks]
  dsimp only
  cases ((Memory.lookup gate name).run machine.memory).1 <;> rfl

namespace Engine

theorem run_addImport (unit : Option String) (name : String) (label? : Option String) (engine : Engine μ) :
    (addImport unit name label?).run engine =
      let asked := (Memory.lookup engine.gate name).run engine.machine.memory
      (asked.1.required name,
        { engine with
          machine :=
            { engine.machine with
              memory := asked.2
              imports := asked.1.importInto engine.machine.imports unit label? } }) := by
  have required := run_requireType engine.gate name engine.machine
  unfold addImport attempt run
  dsimp only at required ⊢
  cases answer : ((Memory.lookup engine.gate name).run engine.machine.memory).1 with
  | found type =>
    rw [answer] at required
    simp only [StateT.run_modifyGet, Attempt.run_bind_of_ok required]
    rfl
  | notFound | denied =>
    rw [answer] at required
    simp only [StateT.run_modifyGet, Attempt.run_bind_of_error required]
    rfl

/-- Asked for a type, the memory of the engine answers as the gate does. -/
def Truthful (engine : Engine μ) : Prop :=
  ∀ name, ((Memory.lookup engine.gate name).run engine.machine.memory).1 = engine.gate.lookup name

theorem run_addImport_fresh (unit : Option String) (name : String) (label? : Option String) (engine : Engine Unit) :
    (addImport unit name label?).run engine =
      let answer := engine.gate.lookup name
      (answer.required name,
        { engine with machine.imports := answer.importInto engine.machine.imports unit label? }) :=
  run_addImport unit name label? engine

namespace Truthful

variable {engine : Engine μ} (truthful : engine.Truthful) (unit : Option String) (name : String) (label? : Option String)

include truthful

theorem answer_addImport : ((addImport unit name label?).run engine).1 = (engine.gate.lookup name).required name := by
  rw [run_addImport, ← truthful name]

theorem imports_addImport : ((addImport unit name label?).run engine).2.machine.imports =
    (engine.gate.lookup name).importInto engine.machine.imports unit label? := by
  rw [run_addImport, ← truthful name]

end Truthful

end Engine

end LateBound
