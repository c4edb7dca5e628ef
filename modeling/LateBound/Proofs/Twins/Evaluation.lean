import LateBound.Proofs.Twins.Resolution

/-!
# Twins that evaluate expressions

Twins meet the nodes of one tree in one order. A node that fails for one fails for the other with the same
failure, which both report, so that what is told of the reports holds of every one of them. Within one
text this is by induction on the tree, and through initialisers by induction on how many may be opened.
-/

namespace LateBound

variable {hides : String → Bool}

/-- The contexts differ at most in what lies behind hidden names. -/
structure Context.Alike (hides : String → Bool) (first second : Context) : Prop where
  unit : first.unit = second.unit
  subject : Option.Rel (Value.Alike hides) first.subject second.subject
  locals (word : String) : Option.Rel (Value.Alike hides) (first.locals word) (second.locals word)
  ambient (word : String) : Option.Rel (Value.Alike hides) (first.ambient word) (second.ambient word)
  readWord (word : String) :
    Option.Rel (Value.Alike hides) (first.host.readWord word) (second.host.readWord word)
  readObject (text : String) :
    Option.Rel (Value.Alike hides) (first.host.readObject text) (second.host.readObject text)
  wrap {value value' : Value} : Value.Alike hides value value' →
    Value.Alike hides (first.host.wrap value) (second.host.wrap value')

theorem optionRel_or {α β : Type} {related : α → β → Prop} {first other : Option α} {second other' : Option β}
    (head : Option.Rel related first second) (rest : Option.Rel related other other') :
    Option.Rel related (first.or other) (second.or other') := by
  cases head with
  | none => exact rest
  | some same => exact .some same

/-- A bracket with this text is met when `source` is evaluated. -/
def Ledger.Opens (ledger : Ledger) (source raw : String) : Prop :=
  ∃ text target span, ledger.readable source text (.initialise target raw span)

namespace Twins

variable {μ ν : Type} [Memory μ] [Memory ν] {twins : Twins μ ν} {settings : Settings}
  {context context' : Context} {source : String}

abbrev here (twins : Twins μ ν) (settings : Settings) (context : Context) (source : String) : Evaluation :=
  ⟨twins.first, settings, context, source⟩

abbrev there (twins : Twins μ ν) (settings : Settings) (context : Context) (source : String) : Evaluation :=
  ⟨twins.second, settings, context, source⟩

variable (contexts : Context.Alike twins.hides context context')

include contexts

/-! ## Reporting -/

theorem report {text : String} {node? : Option Expr} {failure : Failure}
    (told : twins.ledger.told ⟨.ofFailure failure source context.unit, text, node?⟩) :
    twins.Runs (fun _ _ => True) ((twins.here settings context source).report text node? failure)
      ((twins.there settings context' source).report text node? failure) := by
  refine Coupled.update fun machine machine' linked => { linked with reported := ?_, told := ?_ }
  · rw [linked.reported, contexts.unit]
  · dsimp only [Settings.record]
    split
    · exact List.forall_mem_cons.2 ⟨told, linked.told⟩
    · exact linked.told

theorem recover {text : String} {node : Expr} (readable : twins.ledger.readable source text node)
    {first : Attempt μ Value} {second : Attempt ν Value}
    (attempts : twins.Attempts (Value.Alike twins.hides) first second) :
    twins.Runs (Value.Alike twins.hides) ((twins.here settings context source).recover text node first)
      ((twins.there settings context' source).recover text node second) := by
  refine Coupled.bind attempts fun ended ended' related => ?_
  match ended, ended', related with
  | .ok _, .ok _, alike => exact Coupled.pure alike
  | .error failure, .error _, ⟨rfl, placed⟩ =>
    refine Coupled.bind (report contexts (twins.ledger.tellFailure context.unit readable placed)) fun _ _ _ => ?_
    exact Coupled.pure (.refl .null)

/-! ## Names -/

theorem imported? (word : String) :
    twins.Runs (Same fun found => ∀ type ∈ found, twins.known type)
      ((twins.here settings context source).imported? word)
      ((twins.there settings context' source).imported? word) := by
  refine Coupled.bind Coupled.read fun machine machine' linked => Coupled.pure ⟨?_, fun type resolved => ?_⟩
  · rw [linked.imports, contexts.unit]
  · exact linked.imported.resolve resolved

theorem wordType? (word : String) :
    twins.Attempts (Same fun found => ∀ type ∈ found, twins.known type)
      ((twins.here settings context source).wordType? word)
      ((twins.there settings context' source).wordType? word) := by
  refine Attempts.bindSame (.lift (imported? contexts word)) fun found isKnown => ?_
  cases found with
  | none => exact lookupType word
  | some type => exact Attempts.bind (checkAdmitted type.name) fun _ _ _ => Attempts.pure ⟨rfl, isKnown⟩

theorem wordValue (word : String) :
    Value.Alike twins.hides ((twins.here settings context source).wordValue word)
      ((twins.there settings context' source).wordValue word) := by
  have subject : Option.Rel (Value.Alike twins.hides)
      (if settings.namesSubject word then context.subject else none)
      (if settings.namesSubject word then context'.subject else none) := by
    split
    · exact contexts.subject
    · exact .none
  have claimed := optionRel_or (optionRel_or (optionRel_or subject (contexts.locals word))
    (contexts.ambient word)) (contexts.readWord word)
  unfold Evaluation.wordValue
  revert claimed
  dsimp only
  generalize Option.or _ (context.host.readWord word) = first
  generalize Option.or _ (context'.host.readWord word) = second
  intro claimed
  cases claimed with
  | none => exact .refl _
  | some alike => exact alike

theorem word (word : String) :
    twins.Attempts (Value.Alike twins.hides) ((twins.here settings context source).word word)
      ((twins.there settings context' source).word word) := by
  unfold Evaluation.word
  split
  · exact Attempts.bindFound (wordType? contexts word) (.pure (wordValue contexts word)) fun _ _ => .pure (.refl _)
  · exact Attempts.pure (wordValue contexts word)

theorem namedType (name : String) :
    twins.Attempts (Same twins.known) ((twins.here settings context source).namedType name)
      ((twins.there settings context' source).namedType name) := by
  refine Attempts.bindFound (.lift (imported? contexts name)) (requireType name) fun type isKnown => ?_
  exact Attempts.bind (checkAdmitted type.name) fun _ _ _ => .pure ⟨rfl, isKnown⟩

/-! ## Nodes -/

omit contexts in
theorem member {target target' : Value} (alike : Value.Alike twins.hides target target') (name : String) :
    twins.Attempts (Value.Alike twins.hides) ((twins.here settings context source).member target name)
      ((twins.there settings context' source).member target' name) := by
  have alike := alike.unwrapped
  unfold Evaluation.member
  split
  · next qualifier shape =>
    rw [shape] at alike
    simp only [alike.eq_of_isPlain trivial]
    exact Attempts.bindFound (lookupType _) (.pure (.refl _)) fun _ _ => .pure (.refl _)
  · next noText =>
    split
    · next qualifier shape =>
      rw [shape] at alike
      exact absurd (alike.symm.eq_of_isPlain trivial) (noText qualifier)
    · exact readField alike name

omit contexts in
/-- The two ways to open a bracket come to alike values, for every bracket that is met in `source`. -/
def OpenAlike (twins : Twins μ ν) (source : String) (opening : Value → String → Attempt μ Value)
    (opening' : Value → String → Attempt ν Value) : Prop :=
  ∀ target target' raw, Value.Alike twins.hides target target' → twins.ledger.Opens source raw →
    twins.Attempts (Value.Alike twins.hides) (opening target raw) (opening' target' raw)

omit contexts

variable {opening : Value → String → Attempt μ Value} {opening' : Value → String → Attempt ν Value}

mutual
theorem expression (contexts : Context.Alike twins.hides context context')
    (opens : twins.OpenAlike source opening opening') {text : String} :
    ∀ tree : Expr, (∀ node ∈ tree.nodes, twins.ledger.readable source text node) →
      twins.Runs (Value.Alike twins.hides)
        ((twins.here settings context source).expression opening text tree)
        ((twins.there settings context' source).expression opening' text tree)
  | .literal value span, _ => Coupled.pure (.refl _)
  | .ident name span, readable => by
    exact recover contexts (readable (.ident name span) List.mem_cons_self) (word contexts name)
  | .field target name span, readable => by
    obtain ⟨here, below⟩ := List.forall_mem_cons.1 readable
    refine Coupled.bind (expression contexts opens target below) fun value value' alike => ?_
    exact recover contexts here (member alike name)
  | .call target name args span, readable => by
    obtain ⟨here, below⟩ := List.forall_mem_cons.1 readable
    obtain ⟨inTarget, inArgs⟩ := List.forall_mem_append.1 below
    refine Coupled.bind (expression contexts opens target inTarget) fun value value' alike => ?_
    refine Coupled.bind (arguments contexts opens args inArgs) fun values values' alikeArgs => ?_
    exact recover contexts here (callMember alike name alikeArgs)
  | .construct typeName args span, readable => by
    obtain ⟨here, below⟩ := List.forall_mem_cons.1 readable
    refine Coupled.bind (arguments contexts opens args below) fun values values' alikeArgs => ?_
    refine recover contexts here (Attempts.bindSame (namedType contexts typeName) fun type isKnown => ?_)
    exact construct (.refl isKnown) alikeArgs
  | .initialise target raw span, readable => by
    obtain ⟨here, below⟩ := List.forall_mem_cons.1 readable
    refine Coupled.bind (expression contexts opens target below) fun value value' alike => ?_
    exact recover contexts here (opens _ _ raw alike ⟨text, target, span, here⟩)

theorem arguments (contexts : Context.Alike twins.hides context context')
    (opens : twins.OpenAlike source opening opening') {text : String} :
    ∀ args : List Expr, (∀ node ∈ Expr.argNodes args, twins.ledger.readable source text node) →
      twins.Runs (List.Forall₂ (Value.Alike twins.hides))
        ((twins.here settings context source).arguments opening text args)
        ((twins.there settings context' source).arguments opening' text args)
  | [], _ => Coupled.pure .nil
  | arg :: args, readable => by
    obtain ⟨inArg, inRest⟩ := List.forall_mem_append.1 readable
    refine Coupled.bind (expression contexts opens arg inArg) fun value value' alike => ?_
    refine Coupled.bind (arguments contexts opens args inRest) fun values values' alikeRest => ?_
    exact Coupled.pure (.cons alike.unwrapped alikeRest)
end

/-! ## Initialisers -/

include contexts

theorem bracketType? (name : String) :
    twins.Attempts (Same fun found => ∀ type ∈ found, twins.known type)
      ((twins.here settings context source).bracketType? name)
      ((twins.there settings context' source).bracketType? name) := by
  refine Attempts.bindFound (.lift (imported? contexts name)) (lookupType name) fun type _ => ?_
  refine Attempts.bindSame (namedType contexts type.name) fun type isKnown => .pure ⟨rfl, fun found isFound => ?_⟩
  cases isFound
  exact isKnown

theorem interpreted (text : String) :
    twins.Attempts (Value.Alike twins.hides) ((twins.here settings context source).interpreted text)
      ((twins.there settings context' source).interpreted text) := by
  have read := contexts.readObject text
  unfold Evaluation.interpreted
  dsimp only
  generalize context.host.readObject text = first, context'.host.readObject text = second at read ⊢
  cases read with
  | none => exact Attempts.fail rfl
  | some alike => exact Attempts.pure alike

theorem initialised {target target' : Value} (alike : Value.Alike twins.hides target target')
    (raw : String) :
    twins.Attempts (Sum.LiftRel (Peers twins.first.admits twins.known) (Value.Alike twins.hides))
      ((twins.here settings context source).initialised target raw)
      ((twins.there settings context' source).initialised target' raw) := by
  have alike := alike.unwrapped
  unfold Evaluation.initialised
  split
  · next ref shape =>
    rw [shape] at alike
    obtain ⟨ref', shape', names⟩ := alike.exists_type
    simp only [shape', ← names]
    exact Attempts.pure (.inl (twins.describeSame ref.name).1)
  · next name shape =>
    rw [shape] at alike
    simp only [alike.eq_of_isPlain trivial]
    refine Attempts.bindFound (bracketType? contexts name) ?_ fun type isKnown => .pure (.inl (.refl isKnown))
    exact Attempts.bind (interpreted contexts _) fun value value' alike => .pure (.inr alike)
  · next shape =>
    rw [shape] at alike
    simp only [alike.eq_of_isPlain trivial]
    exact Attempts.fail rfl
  · next noType noText noNull =>
    split
    · next ref shape =>
      rw [shape] at alike
      obtain ⟨ref', shape', -⟩ := alike.symm.exists_type
      exact absurd shape' (noType ref')
    · next name shape =>
      rw [shape] at alike
      exact absurd (alike.symm.eq_of_isPlain trivial) (noText name)
    · next shape =>
      rw [shape] at alike
      exact absurd (alike.symm.eq_of_isPlain trivial) noNull
    · exact Attempts.fail (by rw [alike.display_eq])

theorem segment (opens : twins.OpenAlike source opening opening') {raw : String}
    (isOpen : twins.ledger.Opens source raw) {text : List Char} (given : Initialiser.Given raw text) :
    twins.Runs (Value.Alike twins.hides)
      ((twins.here settings context source).segment opening text)
      ((twins.there settings context' source).segment opening' text) := by
  refine Coupled.bindSame (remember (twins.parseSame _)) fun ended parsed => ?_
  cases ended with
  | error error => exact Coupled.pure (.refl _)
  | ok tree =>
    obtain ⟨_, target, span, readable⟩ := isOpen
    have below := twins.ledger.readSegment readable given parsed.symm
    exact Coupled.bind (expression contexts opens tree below) fun value value' alike =>
      Coupled.pure alike.unwrapped

theorem assignAll (opens : twins.OpenAlike source opening opening') {raw : String}
    (isOpen : twins.ledger.Opens source raw) {object object' : Value}
    (alike : Value.Alike twins.hides object object') (texts : List (List Char))
    (given : ∀ text ∈ texts, ∀ name value, Initialiser.assignment? text = some (name, value) →
      Initialiser.Given raw value) :
    twins.Attempts Eq ((twins.here settings context source).assignAll opening object raw texts)
      ((twins.there settings context' source).assignAll opening' object' raw texts) := by
  induction texts with
  | nil => exact Attempts.pure rfl
  | cons text rest inductionHypothesis =>
    obtain ⟨head, tail⟩ := List.forall_mem_cons.1 given
    unfold Evaluation.assignAll
    cases assigned : Initialiser.assignment? text with
    | none => exact Attempts.fail rfl
    | some sides =>
      obtain ⟨name, value⟩ := sides
      refine Attempts.bind (.lift (segment contexts opens isOpen (head name value assigned)))
        fun value value' alikeValue => ?_
      refine Attempts.bind (writeField alike _ alikeValue) fun _ _ _ => ?_
      exact inductionHypothesis tail

theorem fill (opens : twins.OpenAlike source opening opening') {raw : String}
    (isOpen : twins.ledger.Opens source raw) {type type' : HostType}
    (peers : Peers twins.first.admits twins.known type type') :
    twins.Attempts (Value.Alike twins.hides)
      ((twins.here settings context source).fill opening type raw)
      ((twins.there settings context' source).fill opening' type' raw) := by
  unfold Evaluation.fill
  dsimp only
  split
  · refine Attempts.bind (construct peers .nil) fun object object' alike => ?_
    refine Attempts.bind (assignAll contexts opens isOpen alike _ fun text inside name value assigned => ?_)
      fun _ _ _ => Attempts.pure alike
    obtain ⟨segment, isSegment, rfl⟩ := List.mem_map.1 (List.mem_filter.1 inside).1
    exact .value isSegment assigned
  · -- Without an assignment the segments that are not blank are the arguments.
    have given : List.Forall₂ (Same (Initialiser.Given raw))
        ((Initialiser.segments raw.toList).filter fun segment => !segment.all Text.isBlank)
        ((Initialiser.segments raw.toList).filter fun segment => !segment.all Text.isBlank) :=
      List.forall₂_same.2 fun text inside => ⟨rfl, .segment (List.mem_filter.1 inside).1⟩
    refine Attempts.bind (.lift (Coupled.mapM (fun text text' related => ?_) given))
      fun args args' alike => construct peers alike
    obtain ⟨rfl, given⟩ := related
    exact segment contexts opens isOpen given

theorem initialise (room : Nat) :
    twins.OpenAlike source ((twins.here settings context source).initialise room)
      ((twins.there settings context' source).initialise room) := by
  induction room with
  | zero =>
    intro target target' raw alike _
    refine Attempts.bind (initialised contexts alike raw) fun found found' related => ?_
    cases related with
    | inl peers => exact Attempts.fail rfl
    | inr alike => exact Attempts.pure alike
  | succ room inductionHypothesis =>
    intro target target' raw alike isOpen
    refine Attempts.bind (initialised contexts alike raw) fun found found' related => ?_
    cases related with
    | inl peers => exact fill contexts inductionHypothesis isOpen peers
    | inr alike => exact Attempts.pure alike

/-! ## Whole texts -/

theorem run : twins.Runs (Value.Alike twins.hides) (twins.here settings context source).run
    (twins.there settings context' source).run := by
  unfold Evaluation.run
  split
  · exact Coupled.pure (.refl .null)
  · refine Coupled.bindSame (remember (twins.parseSame source)) fun ended parsed => ?_
    cases ended with
    | ok tree => exact expression contexts (initialise contexts maxInitialisers) tree (twins.ledger.read parsed.symm)
    | error error =>
      refine Coupled.bind (report contexts (twins.ledger.tellSyntax context.unit parsed.symm)) fun _ _ _ => ?_
      exact Coupled.pure (.refl .null)

omit contexts in
theorem textOf {value value' : Value} (alike : Value.Alike twins.hides value value') :
    twins.Runs Eq ((twins.here settings context source).textOf value)
      ((twins.there settings context' source).textOf value') := by
  have alike := alike.unwrapped
  unfold Evaluation.textOf
  split
  · next ref shape =>
    rw [shape] at alike
    simp only [alike.eq_of_isPlain trivial]
    have noType : (Value.object ref).tag ≠ .type := nofun
    refine Coupled.bind (invokeInstance ⟨.refl _, noType⟩ "toString" .nil) fun ended ended' related => ?_
    match ended, ended', related with
    | .ok _, .ok _, alike => exact Coupled.pure alike.display_eq
    | .error _, .error _, _ => exact Coupled.pure rfl
  · next noObject =>
    split
    · next ref shape =>
      rw [shape] at alike
      exact absurd (alike.symm.eq_of_isPlain trivial) (noObject ref)
    · exact Coupled.pure alike.display_eq

end Twins

end LateBound
