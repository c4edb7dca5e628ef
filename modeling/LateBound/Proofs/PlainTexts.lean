import LateBound.Engine

/-!
# Texts without a delimiter

A text without a delimiter in it is no template and has no placeholder: it is evaluated as it stands, blanks around it
apart.
-/

namespace LateBound

theorem whole?_eq_none {delimiter : Char} {text : String} (noDelimiter : delimiter ∉ text.toList) :
    Template.whole? delimiter text = none := by
  unfold Template.whole?
  split
  · rfl
  · next c rest trimmed =>
    dsimp only
    refine if_neg fun isWhole => noDelimiter ?_
    have inside : c ∈ Text.trimChars text.toList := trimmed ▸ List.mem_cons_self
    unfold Text.trimChars at inside
    have behindBlanks := (List.dropWhile_sublist _).subset (List.mem_reverse.1 inside)
    rw [← isWhole.1]
    exact (List.dropWhile_sublist _).subset (List.mem_reverse.1 behindBlanks)

theorem Engine.run_evaluateText {μ : Type} [Memory μ] (engine : Engine μ) (context : Context) {text : String}
    (noDelimiter : engine.settings.delimiter ∉ text.toList) :
    (Engine.evaluateText context text).run engine =
      let ran := (Evaluation.mk engine.gate engine.settings context (Text.trim text)).run.run engine.machine
      (ran.1, { engine with machine := ran.2 }) := by
  have noTemplate : Template.isTemplate engine.settings.delimiter text = false :=
    Bool.eq_false_iff.2 fun isTemplate => noDelimiter (List.contains_iff_mem.1 isTemplate)
  unfold Engine.evaluateText
  rw [StateT.run_bind, StateT.run_get, pure_bind]
  dsimp only
  rw [whole?_eq_none noDelimiter, noTemplate]
  rfl

end LateBound
