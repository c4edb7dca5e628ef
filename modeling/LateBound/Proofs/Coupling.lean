import LateBound.Resolution.Match
import LateBound.Template
import Mathlib.Data.List.Forall2

/-!
# Two runs side by side

A statement about two runs of one program, such as that a cache changes nothing or that nobody learns
what a denied type holds, is proved by keeping the two states related at every step. `Coupled` says of
two actions that they lead related states to related states and come to related answers; the rules below
carry it through the ways in which actions are put together.
-/

namespace LateBound

variable {σ τ α β α' β' ε : Type}

/-- From related states the two actions come to related answers and related states. -/
def Coupled (states : σ → τ → Prop) (answers : α → β → Prop) (first : StateM σ α)
    (second : StateM τ β) : Prop :=
  ∀ s t, states s t →
    answers (first.run s).1 (second.run t).1 ∧ states (first.run s).2 (second.run t).2

/-- The two answers are one, and `good` holds of it. -/
def Same (good : α → Prop) (first second : α) : Prop :=
  first = second ∧ good first

/-- Both actions end well or both fail, and what they end with is related. -/
def Endings (failures : ε → ε → Prop) (answers : α → β → Prop) : Except ε α → Except ε β → Prop
  | .ok first, .ok second => answers first second
  | .error first, .error second => failures first second
  | .ok _, .error _ | .error _, .ok _ => False

theorem eq_of_endings {ended ended' : Except ε α} (related : Endings Eq Eq ended ended') : ended = ended' := by
  match ended, ended', related with
  | .ok _, .ok _, same => exact congrArg Except.ok same
  | .error _, .error _, same => exact congrArg Except.error same

namespace Coupled

variable {states : σ → τ → Prop} {answers : α → β → Prop} {results : α' → β' → Prop}

/-! ## Actions that do not fail -/

theorem pure {a : α} {b : β} (related : answers a b) :
    Coupled states answers (Pure.pure a) (Pure.pure b) :=
  fun _ _ linked => ⟨related, linked⟩

theorem bind {first : StateM σ α} {second : StateM τ β} {next : α → StateM σ α'}
    {follow : β → StateM τ β'} (head : Coupled states answers first second)
    (tail : ∀ a b, answers a b → Coupled states results (next a) (follow b)) :
    Coupled states results (first >>= next) (second >>= follow) := by
  intro s t linked
  obtain ⟨answered, linked⟩ := head s t linked
  exact tail _ _ answered _ _ linked

theorem bindSame {good : α → Prop} {first : StateM σ α} {second : StateM τ α} {next : α → StateM σ α'}
    {follow : α → StateM τ β'} (head : Coupled states (Same good) first second)
    (tail : ∀ a, good a → Coupled states results (next a) (follow a)) :
    Coupled states results (first >>= next) (second >>= follow) := by
  refine bind head fun a _ ⟨same, isGood⟩ => ?_
  subst same
  exact tail a isGood

theorem bindEq {first : StateM σ α} {second : StateM τ α} {next : α → StateM σ α'} {follow : α → StateM τ β'}
    (head : Coupled states Eq first second) (tail : ∀ a, Coupled states results (next a) (follow a)) :
    Coupled states results (first >>= next) (second >>= follow) := by
  refine bind head fun a _ same => ?_
  subst same
  exact tail a

theorem map {first : StateM σ α} {second : StateM τ β} {f : α → α'} {g : β → β'}
    (head : Coupled states answers first second)
    (related : ∀ a b, answers a b → results (f a) (g b)) :
    Coupled states results (f <$> first) (g <$> second) := by
  intro s t linked
  obtain ⟨answered, linked⟩ := head s t linked
  exact ⟨related _ _ answered, linked⟩

theorem weaken {first : StateM σ α} {second : StateM τ β} {wider : α → β → Prop}
    (coupled : Coupled states answers first second) (implies : ∀ a b, answers a b → wider a b) :
    Coupled states wider first second := by
  intro s t linked
  obtain ⟨answered, linked⟩ := coupled s t linked
  exact ⟨implies _ _ answered, linked⟩

theorem read : Coupled states states get get :=
  fun _ _ linked => ⟨linked, linked⟩

theorem update {f : σ → σ} {g : τ → τ} (keeps : ∀ s t, states s t → states (f s) (g t)) :
    Coupled states (fun _ _ => True) (modify f) (modify g) :=
  fun s t linked => ⟨trivial, keeps s t linked⟩

theorem exchange {f : σ → α × σ} {g : τ → β × τ}
    (keeps : ∀ s t, states s t → answers (f s).1 (g t).1 ∧ states (f s).2 (g t).2) :
    Coupled states answers (modifyGet f) (modifyGet g) :=
  keeps

/-! ## Lists -/

theorem mapM {entries : α' → β' → Prop} {f : α' → StateM σ α} {g : β' → StateM τ β}
    (each : ∀ a b, entries a b → Coupled states answers (f a) (g b)) {as : List α'} {bs : List β'}
    (related : List.Forall₂ entries as bs) :
    Coupled states (List.Forall₂ answers) (as.mapM f) (bs.mapM g) := by
  induction related with
  | nil => simpa only [List.mapM_nil] using Coupled.pure .nil
  | cons head tail inductionHypothesis =>
    simp only [List.mapM_cons]
    refine bind (each _ _ head) fun a b answered => bind inductionHypothesis fun as bs rest => ?_
    exact Coupled.pure (.cons answered rest)

theorem allM {f : α → StateM σ Bool} {g : α → StateM τ Bool}
    (each : ∀ a, Coupled states Eq (f a) (g a)) (as : List α) :
    Coupled states Eq (as.allM f) (as.allM g) := by
  induction as with
  | nil => exact Coupled.pure rfl
  | cons a as inductionHypothesis =>
    refine bindEq (each a) fun holds => ?_
    cases holds with
    | false => exact Coupled.pure rfl
    | true => exact inductionHypothesis

theorem findM? {f : α → StateM σ Bool} {g : α → StateM τ Bool} (as : List α)
    (each : ∀ a, Coupled states Eq (f a) (g a)) :
    Coupled states (Same fun found => ∀ a ∈ found, a ∈ as) (as.findM? f) (as.findM? g) := by
  induction as with
  | nil => exact Coupled.pure ⟨rfl, fun _ found => nomatch found⟩
  | cons a as inductionHypothesis =>
    refine bindEq (each a) fun fits => ?_
    cases fits with
    | false =>
      refine weaken inductionHypothesis fun found _ ⟨same, inside⟩ => ?_
      exact ⟨same, fun b isFound => List.mem_cons_of_mem a (inside b isFound)⟩
    | true =>
      refine Coupled.pure ⟨rfl, fun b isFound => ?_⟩
      cases isFound
      exact List.mem_cons_self

theorem findSomeM? {good : α' → Prop} {f : α → StateM σ (Option α')} {g : α → StateM τ (Option α')}
    (as : List α)
    (each : ∀ a ∈ as, Coupled states (Same fun found => ∀ b ∈ found, good b) (f a) (g a)) :
    Coupled states (Same fun found => ∀ b ∈ found, good b) (as.findSomeM? f) (as.findSomeM? g) := by
  induction as with
  | nil => exact Coupled.pure ⟨rfl, fun _ found => nomatch found⟩
  | cons a as inductionHypothesis =>
    refine bindSame (each a List.mem_cons_self) fun found isGood => ?_
    cases found with
    | none => exact inductionHypothesis fun b inside => each b (List.mem_cons_of_mem a inside)
    | some b => exact Coupled.pure ⟨rfl, isGood⟩

/-- A template is rendered to one text when each of its expressions is. -/
theorem render {first : String → StateM σ String} {second : String → StateM τ String}
    (each : ∀ source, Coupled states Eq (first source) (second source)) (pieces : List Template.Piece) :
    Coupled states Eq (Template.render first pieces) (Template.render second pieces) := by
  induction pieces with
  | nil => exact Coupled.pure rfl
  | cons piece rest inductionHypothesis =>
    cases piece with
    | literal c => exact bindEq inductionHypothesis fun text => Coupled.pure rfl
    | placeholder expression =>
      exact bindEq (each _) fun rendered => bindEq inductionHypothesis fun text => Coupled.pure rfl

/-! ## Actions that may fail -/

variable {failures : ε → ε → Prop}

theorem pureExcept {a : α} {b : β} (related : answers a b) :
    Coupled states (Endings failures answers) (Pure.pure a : ExceptT ε (StateM σ) α).run
      (Pure.pure b : ExceptT ε (StateM τ) β).run :=
  Coupled.pure related

theorem fail {first second : ε} (related : failures first second) :
    Coupled states (Endings failures answers) (throw first : ExceptT ε (StateM σ) α).run
      (throw second : ExceptT ε (StateM τ) β).run :=
  Coupled.pure related

theorem lift {first : StateM σ α} {second : StateM τ β} (coupled : Coupled states answers first second) :
    Coupled states (Endings failures answers) (ExceptT.lift first : ExceptT ε (StateM σ) α).run
      (ExceptT.lift second : ExceptT ε (StateM τ) β).run :=
  map coupled fun _ _ answered => answered

theorem bindExcept {first : ExceptT ε (StateM σ) α} {second : ExceptT ε (StateM τ) β}
    {next : α → ExceptT ε (StateM σ) α'} {follow : β → ExceptT ε (StateM τ) β'}
    (head : Coupled states (Endings failures answers) first.run second.run)
    (tail : ∀ a b, answers a b → Coupled states (Endings failures results) (next a).run (follow b).run) :
    Coupled states (Endings failures results) (first >>= next).run (second >>= follow).run := by
  rw [ExceptT.run_bind, ExceptT.run_bind]
  refine bind head fun a b ended => ?_
  match a, b, ended with
  | .ok a, .ok b, answered => exact tail a b answered
  | .error _, .error _, failed => exact Coupled.pure failed

theorem exists_of_ok {first : ExceptT ε (StateM σ) α} {second : ExceptT ε (StateM τ) β}
    (coupled : Coupled states (Endings failures answers) first.run second.run) {s after : σ} {t : τ}
    (linked : states s t) {a : α} (ended : first.run.run s = (.ok a, after)) :
    ∃ b behind, second.run.run t = (.ok b, behind) ∧ answers a b ∧ states after behind := by
  obtain ⟨answered, reached⟩ := coupled s t linked
  rw [ended] at answered reached
  generalize second.run.run t = ended' at answered reached ⊢
  match ended', answered with
  | (.ok b, behind), answered => exact ⟨b, behind, rfl, answered, reached⟩

end Coupled

end LateBound
