import LateBound.Proofs.Coupling
import LateBound.Session

/-!
# Two sessions side by side

A request to a session is made of what its engine does, of imports and of bindings. When these lead related sessions to
related sessions and to one answer, then so does the request, whatever the relation is.
-/

namespace LateBound.Session

variable {μ ν : Type} [Memory μ] [Memory ν] {states : Session μ → Session ν → Prop}

/-! ## Imports -/

section Imports

variable (imports : ∀ name label?, Coupled states Eq (importAs name label?) (importAs name label?))

include imports

theorem importText_coupled (text : String) : Coupled states Eq (importText text) (importText text) := by
  unfold importText
  split <;> exact imports _ _

theorem importAll_coupled (log : List (String × Option String)) :
    Coupled states Eq (importAll log) (importAll log) := by
  induction log with
  | nil => exact Coupled.pure rfl
  | cons entry rest inductionHypothesis =>
    obtain ⟨name, label?⟩ := entry
    refine Coupled.bindEq (imports name label?) fun imported => ?_
    cases imported with
    | ok visible => exact inductionHypothesis
    | error error => exact Coupled.bindEq inductionHypothesis fun lost => Coupled.pure rfl

end Imports

/-! ## Starting over -/

def cleared (session : Session μ) : Session μ :=
  { session with engine := (Engine.clearAll.run session.engine).2, imports := [] }

def reloaded : List String → Except SessionError Unit
  | [] => .ok ()
  | lost => .error (.notImportedAgain lost)

theorem reload_eq : (reload : Action μ (Except SessionError Unit)) = (do
    let log := (← get).imports
    modify cleared
    reloaded <$> importAll log) := by
  have clears : (modify cleared : Action μ Unit) = (do
      onEngine Engine.clearAll
      modify fun session => { session with imports := [] }) := rfl
  rw [clears]
  apply bind_congr
  intro session
  rw [bind_assoc, map_eq_pure_bind]
  apply bind_congr
  intro _
  apply bind_congr
  intro _
  apply bind_congr
  intro lost
  cases lost <;> rfl

theorem run_reload (session : Session μ) :
    reload.run session =
      let ended := (importAll session.imports).run session.cleared
      (reloaded ended.1, ended.2) := by
  rw [reload_eq]
  rfl

theorem reload_coupled (imports : ∀ name label?, Coupled states Eq (importAs name label?) (importAs name label?))
    (logs : ∀ {session session'}, states session session' → session.imports = session'.imports)
    (clears : ∀ {session session'}, states session session' → states session.cleared session'.cleared) :
    Coupled states Eq reload reload := by
  rw [reload_eq, reload_eq]
  refine Coupled.bind Coupled.read fun session session' related => ?_
  rw [logs related]
  refine Coupled.bind (Coupled.update fun _ _ => clears) fun _ _ _ => ?_
  exact Coupled.map (importAll_coupled imports _) fun _ _ same => congrArg reloaded same

/-! ## Variables -/

section Variables

variable (parses : ∀ text, Coupled states Eq (onEngine (Engine.parse text)) (onEngine (Engine.parse text)))
  (evaluates : ∀ text, Coupled states Eq (evaluate text) (evaluate text))
  (binds : ∀ {session session'}, states session session' → ∀ name value,
    let locals := (name, value) :: session.locals.filter (·.1 != name)
    let locals' := (name, value) :: session'.locals.filter (·.1 != name)
    states { session with locals } { session' with locals := locals' })

include parses evaluates

theorem literal_coupled (text : String) : Coupled states Eq (literal text) (literal text) := by
  refine Coupled.bindEq (parses text) fun parsed => ?_
  cases parsed with
  | error error => exact Coupled.pure rfl
  | ok tree => exact Coupled.bindEq (evaluates text) fun outcome => Coupled.pure rfl

include binds

theorem bind_coupled (name text : String) : Coupled states Eq (Session.bind name text) (Session.bind name text) := by
  refine Coupled.bindEq (literal_coupled parses evaluates text) fun value => ?_
  exact Coupled.weaken (Coupled.update fun _ _ related => binds related name value) fun _ _ _ => rfl

theorem bindText_coupled (text : String) : Coupled states Eq (bindText text) (bindText text) := by
  unfold bindText
  split
  · exact Coupled.map (bind_coupled parses evaluates binds _ _) fun _ _ same => congrArg _ same
  · exact Coupled.pure rfl

end Variables

end LateBound.Session
