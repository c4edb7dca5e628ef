import LateBound.Engine
import LateBound.Proofs.Coupling

/-!
# Two engines side by side

Whether a text is evaluated as an expression or as a template depends on the delimiter, and on nothing else of an
engine. So engines that have one delimiter come to related values of all texts when they do so of expressions. An engine
beside itself shows what of it an action leaves as it is.
-/

namespace LateBound.Engine

section Coupled

variable {μ ν : Type} [Memory μ] [Memory ν] {states : Engine μ → Engine ν → Prop} {context context' : Context}
  (delimiters : ∀ {engine engine'}, states engine engine' → engine.settings.delimiter = engine'.settings.delimiter)

include delimiters

theorem expandTemplate_coupled
    (renders : ∀ source, Coupled states Eq (renderSource context source) (renderSource context' source))
    (text : String) : Coupled states Eq (expandTemplate context text) (expandTemplate context' text) := by
  refine Coupled.bind Coupled.read fun engine engine' related => ?_
  rw [delimiters related]
  exact Coupled.bindEq (Coupled.render renders _) fun rendered => Coupled.pure rfl

theorem evaluateText_coupled {values : Value → Value → Prop} (same : ∀ value, values value value)
    (sources : ∀ source, Coupled states values (evaluateSource context source) (evaluateSource context' source))
    (templates : ∀ text, Coupled states Eq (expandTemplate context text) (expandTemplate context' text))
    (text : String) : Coupled states values (evaluateText context text) (evaluateText context' text) := by
  refine Coupled.bind Coupled.read fun engine engine' related => ?_
  dsimp only
  rw [delimiters related]
  split
  · exact sources _
  · split
    · apply Coupled.map (templates text)
      rintro rendered _ rfl
      exact same _
    · exact sources _

end Coupled

/-! ## Parts that are left as they are -/

variable {μ α κ : Type} {part : Engine μ → κ}

/-- Whatever this part of the engine is, the action leaves it as it is. -/
abbrev Leaves (part : Engine μ → κ) (action : Action μ α) : Prop :=
  ∀ value, Coupled (Same fun engine => part engine = value) Eq action action

namespace Leaves

theorem same {action : Action μ α} (leaves : Leaves part action) (engine : Engine μ) :
    part (action.run engine).2 = part engine :=
  (leaves (part engine) engine engine ⟨rfl, rfl⟩).2.2

theorem of_same {action : Action μ α} (keeps : ∀ engine, part (action.run engine).2 = part engine) :
    Leaves part action := by
  rintro value engine _ ⟨rfl, isValue⟩
  exact ⟨rfl, rfl, (keeps engine).trans isValue⟩

variable [Memory μ] {context : Context}

theorem expandTemplate (renders : ∀ source, Leaves part (renderSource context source)) (text : String) :
    Leaves part (Engine.expandTemplate context text) := by
  intro value
  apply expandTemplate_coupled
  · rintro engine _ ⟨rfl, _⟩
    rfl
  · exact fun source => renders source value

theorem evaluate (sources : ∀ source, Leaves part (evaluateSource context source))
    (renders : ∀ source, Leaves part (renderSource context source)) (text : String) :
    Leaves part (Engine.evaluate context text) := by
  intro value
  refine Coupled.bindEq ?_ fun result => Coupled.pure rfl
  apply evaluateText_coupled
  · rintro engine _ ⟨rfl, _⟩
    rfl
  · exact fun result => rfl
  · exact fun source => sources source value
  · exact fun text => expandTemplate renders text value

end Leaves

end LateBound.Engine
