import LateBound.Imports
import LateBound.Memory

/-!
# The state of an engine

Evaluation runs on the store of the host, the import tables, the memory of the engine and the list of
reports, latest first. An action on this state yields a value or a failure; what it did before it failed
stays done. Every run of a member of the host is written down, latest first, and beside each diagnostic
what it is about.
-/

namespace LateBound

/-- What of a host type is run: a method or a constructor with its signature, or one side of a field. -/
inductive MemberPart
  | method (signature : String)
  | getter (field : String)
  | setter (field : String)
  deriving DecidableEq, Repr

/-- One run of a member: the type that declares it, what of it is run, and on which values. -/
structure HostRun where
  declaring : String
  part : MemberPart
  receiver : Option Value
  args : List Value
  deriving Repr

/-- A report: the diagnostic, and what it is about, namely the text that was being read and the node of it
that failed; no node when the text is no expression. -/
structure Report where
  diagnostic : Diagnostic
  text : String
  node? : Option Expr
  deriving Repr

/-- What evaluation reads and changes. -/
structure Machine (μ : Type) where
  memory : μ
  store : Store
  imports : Imports
  reported : List Report
  runs : List HostRun

namespace Machine

def start {μ : Type} (memory : μ) (store : Store) : Machine μ :=
  ⟨memory, store, .empty, [], []⟩

end Machine

/-- An action that does not fail. -/
abbrev Run (μ α : Type) := StateM (Machine μ) α

/-- An action that may fail. -/
abbrev Attempt (μ α : Type) := ExceptT Failure (StateM (Machine μ)) α

variable {μ α : Type}

/-- An action of the memory as one of the machine. -/
def Run.remember (action : StateM μ α) : Run μ α :=
  modifyGet fun machine =>
    let (answer, memory) := action.run machine.memory
    (answer, { machine with memory })

/-- The action of a member of the host as one of the machine. -/
def Run.host (run : HostRun) (action : Host α) : Run μ (Except Fault α) :=
  modifyGet fun machine =>
    let (outcome, store) := action.run.run machine.store
    (outcome, { machine with store, runs := run :: machine.runs })

def Attempt.lift (action : Run μ α) : Attempt μ α :=
  ExceptT.lift action

def Attempt.fail (cause : Cause) : Attempt μ α :=
  throw (.of cause)

def Attempt.outcome (action : Attempt μ α) : Run μ (Except Failure α) :=
  action.run

namespace Attempt

variable {β : Type} {action : Attempt μ α} {next : α → Attempt μ β} {machine after : Machine μ}

theorem run_bind_of_ok {a : α} (ended : action.outcome.run machine = (.ok a, after)) :
    (action >>= next).outcome.run machine = (next a).outcome.run after := by
  unfold outcome at *
  rw [ExceptT.run_bind, StateT.run_bind, ended]
  rfl

theorem run_bind_of_error {failure : Failure} (ended : action.outcome.run machine = (.error failure, after)) :
    (action >>= next).outcome.run machine = (.error failure, after) := by
  unfold outcome at *
  rw [ExceptT.run_bind, StateT.run_bind, ended]
  rfl

end Attempt

end LateBound
