import LateBound.Observation
import LateBound.Proofs.EngineCoupling
import LateBound.Proofs.Twins.Evaluation

/-!
# Twins that are engines

One operation leads twins from related engines to related engines, and what is seen of it is alike; so is
then what is seen of any sequence of operations.
-/

namespace LateBound

/-! ## What is alike to see -/

/-- The operations differ at most in what lies behind hidden names. -/
inductive Operation.Alike (hides : String → Bool) : Operation → Operation → Prop
  | evaluate {context context' : Context} (text : String) : context.Alike hides context' →
      Alike hides (.evaluate context text) (.evaluate context' text)
  | expandTemplate {context context' : Context} (text : String) : context.Alike hides context' →
      Alike hides (.expandTemplate context text) (.expandTemplate context' text)
  | callMethod {target target' : Value} (name : String) {args args' : List Value} :
      target.Alike hides target' → List.Forall₂ (Value.Alike hides) args args' →
      Alike hides (.callMethod target name args) (.callMethod target' name args')
  | construct (typeName : String) {args args' : List Value} : List.Forall₂ (Value.Alike hides) args args' →
      Alike hides (.construct typeName args) (.construct typeName args')
  | getField {target target' : Value} (name : String) : target.Alike hides target' →
      Alike hides (.getField target name) (.getField target' name)
  | setField {target target' : Value} (name : String) {value value' : Value} :
      target.Alike hides target' → value.Alike hides value' →
      Alike hides (.setField target name value) (.setField target' name value')
  | addImport (unit : Option String) (name : String) (label? : Option String) :
      Alike hides (.addImport unit name label?) (.addImport unit name label?)
  | removeUnit (unit : Option String) : Alike hides (.removeUnit unit) (.removeUnit unit)
  | clearAll : Alike hides .clearAll .clearAll

/-- The answers differ at most in what lies behind hidden names. -/
inductive Answer.Alike (hides : String → Bool) : Answer → Answer → Prop
  | value {value value' : Value} : value.Alike hides value' → Alike hides (.value value) (.value value')
  | outcome {outcome outcome' : Except Failure Value} : Endings Eq (Value.Alike hides) outcome outcome' →
      Alike hides (.outcome outcome) (.outcome outcome')
  | same (answer : Answer) : Alike hides answer answer

/-- What is seen differs at most in what lies behind hidden names. -/
structure Observation.Alike (hides : String → Bool) (first second : Observation) : Prop where
  answer : first.answer.Alike hides second.answer
  reports : first.reports = second.reports
  store : first.store.Alike hides second.store
  runs : List.Forall₂ (HostRun.Alike hides) first.runs second.runs

/-! ## With nothing hidden -/

theorem Context.alike_self (context : Context) : context.Alike (fun _ => false) context := by
  have optional : Option.Rel (Value.Alike fun _ => false) = Eq := by rw [Value.alike_none, optionRel_eq]
  constructor
  case wrap =>
    intro value value' same
    rw [Value.alike_none] at same ⊢
    rw [same]
  all_goals simp [optional]

theorem Operation.alike_self (operation : Operation) : operation.Alike (fun _ => false) operation := by
  have values (args : List Value) : List.Forall₂ (Value.Alike fun _ => false) args args :=
    List.forall₂_same.2 fun value _ => .refl value
  cases operation with
  | evaluate context text => exact .evaluate text context.alike_self
  | expandTemplate context text => exact .expandTemplate text context.alike_self
  | callMethod target name args => exact .callMethod name (.refl target) (values args)
  | construct typeName args => exact .construct typeName (values args)
  | getField target name => exact .getField name (.refl target)
  | setField target name value => exact .setField name (.refl target) (.refl value)
  | addImport unit name label? => exact .addImport unit name label?
  | removeUnit unit => exact .removeUnit unit
  | clearAll => exact .clearAll

theorem Answer.Alike.eq {first second : Answer} (alike : first.Alike (fun _ => false) second) :
    first = second := by
  cases alike with
  | value alike => rw [Value.alike_none] at alike; rw [alike]
  | outcome ended => rw [Value.alike_none] at ended; rw [eq_of_endings ended]
  | same answer => rfl

theorem Observation.Alike.eq {first second : Observation} (alike : first.Alike (fun _ => false) second) :
    first = second := by
  obtain ⟨answer, reports, store, runs⟩ := alike
  rw [Store.alike_none] at store
  rw [HostRun.alike_none, List.forall₂_eq_eq_eq] at runs
  cases first
  cases second
  simp only [Observation.mk.injEq]
  exact ⟨answer.eq, reports, store, runs⟩

namespace Twins

variable {μ ν α β : Type} [Memory μ] [Memory ν] {twins : Twins μ ν}

/-- The engines are the twins', under one setting, and their machines have come the same way. -/
structure Engines (twins : Twins μ ν) (engine : Engine μ) (engine' : Engine ν) : Prop where
  first : engine.gate = twins.first
  second : engine'.gate = twins.second
  settings : engine.settings = engine'.settings
  machine : twins.Linked engine.machine engine'.machine

/-- From related engines the two actions come to related engines and related answers. -/
abbrev Acts (twins : Twins μ ν) (answers : α → β → Prop) (first : Engine.Action μ α)
    (second : Engine.Action ν β) : Prop :=
  Coupled twins.Engines answers first second

/-- What twins let see is alike, and what they promise of reports and runs holds. -/
structure Seen (twins : Twins μ ν) (first second : Observation) : Prop where
  alike : first.Alike twins.hides second
  told : ∀ report ∈ first.reports, twins.ledger.told report
  permitted : ∀ run ∈ first.runs, twins.permits run.declaring

theorem engineRun {answers : α → β → Prop} {first : Gate → Run μ α} {second : Gate → Run ν β}
    (runs : twins.Runs answers (first twins.first) (second twins.second)) :
    twins.Acts answers (Engine.run first) (Engine.run second) := by
  refine Coupled.exchange fun engine engine' related => ?_
  obtain ⟨answered, machine⟩ := runs _ _ related.machine
  simp only [related.first, related.second]
  exact ⟨answered, rfl, rfl, related.settings, machine⟩

theorem attempt {answers : α → β → Prop} {first : Gate → Attempt μ α} {second : Gate → Attempt ν β}
    (attempts : twins.Attempts answers (first twins.first) (second twins.second)) :
    twins.Acts (Endings Eq answers) (Engine.attempt first) (Engine.attempt second) := by
  refine Coupled.weaken (engineRun attempts) fun ended ended' related => ?_
  match ended, ended', related with
  | .ok _, .ok _, answered => exact answered
  | .error _, .error _, ⟨same, _⟩ => exact same

/-! ## Evaluation -/

variable {context context' : Context} (contexts : Context.Alike twins.hides context context')

include contexts

theorem evaluateSource (source : String) :
    twins.Acts (Value.Alike twins.hides) (Engine.evaluateSource context source)
      (Engine.evaluateSource context' source) := by
  refine Coupled.bind Coupled.read fun engine engine' related => ?_
  rw [related.settings]
  exact engineRun (run contexts)

theorem renderSource (source : String) :
    twins.Acts Eq (Engine.renderSource context source) (Engine.renderSource context' source) := by
  refine Coupled.bind Coupled.read fun engine engine' related => ?_
  rw [related.settings]
  exact engineRun (Coupled.bind (run contexts) fun value value' alike => textOf alike)

theorem expandTemplate (text : String) :
    twins.Acts Eq (Engine.expandTemplate context text) (Engine.expandTemplate context' text) :=
  Engine.expandTemplate_coupled (fun related => by rw [related.settings]) (renderSource contexts) text

theorem evaluateText (text : String) :
    twins.Acts (Value.Alike twins.hides) (Engine.evaluateText context text)
      (Engine.evaluateText context' text) :=
  Engine.evaluateText_coupled (fun related => by rw [related.settings]) Value.Alike.refl
    (evaluateSource contexts) (expandTemplate contexts) text

theorem evaluate (text : String) :
    twins.Acts (Value.Alike twins.hides) (Engine.evaluate context text) (Engine.evaluate context' text) :=
  Coupled.bind (evaluateText contexts text) fun _ _ alike => Coupled.pure (contexts.wrap alike)

/-! ## Operations -/

omit contexts

theorem parse (text : String) : twins.Acts Eq (Engine.parse text) (Engine.parse text) :=
  engineRun (Coupled.weaken (remember (twins.parseSame text)) fun _ _ parsed => parsed.1)

theorem addImport (unit : Option String) (name : String) (label? : Option String) :
    twins.Acts Eq (Engine.addImport unit name label?) (Engine.addImport unit name label?) := by
  refine Coupled.weaken (attempt (Attempts.bind (requireType name) fun type _ ⟨same, isKnown⟩ => ?_))
    fun _ _ related => eq_of_endings related
  subst same
  refine Attempts.bind (.lift (Coupled.update fun machine machine' linked => ?_)) fun _ _ _ =>
    Attempts.pure rfl
  exact { linked with
    imports := by rw [linked.imports]
    imported := linked.imported.insert isKnown unit label? }

theorem imports (unit : Option String) : twins.Acts Eq (Engine.imports unit) (Engine.imports unit) := by
  refine Coupled.bind Coupled.read fun engine engine' related => Coupled.pure ?_
  rw [related.machine.imports]

theorem isAllowed (name : String) : twins.Acts Eq (Engine.isAllowed name) (Engine.isAllowed name) := by
  refine Coupled.bind Coupled.read fun engine engine' related => Coupled.pure ?_
  rw [related.first, related.second, twins.admitSame]

theorem resolveType (name : String) : twins.Acts Eq (Engine.resolveType name) (Engine.resolveType name) := by
  refine Coupled.weaken (attempt (lookupType name)) fun found found' ended => ?_
  match found, found', ended with
  | .ok _, .ok _, ⟨same, _⟩ => exact congrArg Except.ok same
  | .error _, .error _, same => exact congrArg Except.error same

theorem removeUnit (unit : Option String) :
    twins.Acts Eq (Engine.removeUnit unit) (Engine.removeUnit unit) := by
  refine Coupled.exchange fun engine engine' related => ⟨by rw [related.machine.imports], ?_⟩
  exact { related with
    machine := { related.machine with
      imports := by rw [related.machine.imports]
      imported := related.machine.imported.remove unit } }

theorem clearAll [forgetful : twins.Forgetful] :
    twins.Acts (fun _ _ => True) Engine.clearAll Engine.clearAll := by
  refine Coupled.update fun engine engine' related => ?_
  exact { related with
    machine := { related.machine with
      memory := forgetful.forgetSame related.machine.memory
      imports := rfl
      imported := Imports.all_empty } }

theorem perform_of_clears {operation operation' : Operation} (alike : operation.Alike twins.hides operation')
    (clears : operation = .clearAll → twins.Acts (fun _ _ => True) Engine.clearAll Engine.clearAll) :
    twins.Acts (Answer.Alike twins.hides) (Engine.perform operation) (Engine.perform operation') := by
  cases alike with
  | evaluate text contexts => exact Coupled.map (evaluate contexts text) fun _ _ alike => .value alike
  | expandTemplate text contexts =>
    exact Coupled.map (expandTemplate contexts text) fun _ _ same => same ▸ .same _
  | callMethod name target args =>
    exact Coupled.map (attempt (callMember target name args)) fun _ _ ended => .outcome ended
  | construct typeName args =>
    refine Coupled.map (attempt (Attempts.bind (requireType typeName) fun type _ ⟨same, isKnown⟩ => ?_))
      fun _ _ ended => .outcome ended
    subst same
    exact construct (.refl isKnown) args
  | getField name target =>
    exact Coupled.map (attempt (readField target name)) fun _ _ ended => .outcome ended
  | setField name target value =>
    exact Coupled.map (attempt (writeField target name value)) fun _ _ ended =>
      eq_of_endings ended ▸ .same _
  | addImport unit name label? =>
    exact Coupled.map (addImport unit name label?) fun _ _ same => same ▸ .same _
  | removeUnit unit => exact Coupled.map (removeUnit unit) fun _ _ same => same ▸ .same _
  | clearAll => exact Coupled.map (clears rfl) fun _ _ _ => .same _

theorem perform [twins.Forgetful] {operation operation' : Operation}
    (alike : operation.Alike twins.hides operation') :
    twins.Acts (Answer.Alike twins.hides) (Engine.perform operation) (Engine.perform operation') :=
  perform_of_clears alike fun _ => clearAll

theorem drainReports : twins.Acts (Same fun reports => ∀ report ∈ reports, twins.ledger.told report)
    Engine.drainReports Engine.drainReports := by
  refine Coupled.exchange fun engine engine' related => ?_
  refine ⟨⟨by rw [related.machine.reported], fun report isReported => ?_⟩, ?_⟩
  · exact related.machine.told report (List.mem_reverse.1 isReported)
  · exact { related with
      machine := { related.machine with
        reported := rfl
        told := fun _ isReported => nomatch isReported } }

theorem takeReports : twins.Acts Eq Engine.takeReports Engine.takeReports :=
  Coupled.map drainReports fun _ _ ⟨same, _⟩ => congrArg _ same

theorem observe [twins.Forgetful] {operation operation' : Operation}
    (alike : operation.Alike twins.hides operation') :
    twins.Acts twins.Seen (Engine.observe operation) (Engine.observe operation') := by
  refine Coupled.bind (perform alike) fun answer answer' alike => ?_
  refine Coupled.bindSame drainReports fun reports told => ?_
  refine Coupled.bind Coupled.read fun engine engine' related => Coupled.pure ?_
  exact ⟨⟨alike, rfl, related.machine.store, related.machine.runs⟩, told, related.machine.permitted⟩

theorem observeAll [twins.Forgetful] {engine : Engine μ} {engine' : Engine ν} (related : twins.Engines engine engine')
    {operations operations' : List Operation}
    (alike : List.Forall₂ (Operation.Alike twins.hides) operations operations') :
    List.Forall₂ twins.Seen (engine.observeAll operations) (engine'.observeAll operations') :=
  (Coupled.mapM (fun _ _ alike => observe alike) alike engine engine' related).1

/-- What twins promise of reports and runs holds of everything that is seen. -/
theorem promised {observations observations' : List Observation}
    (seen : List.Forall₂ twins.Seen observations observations') :
    ∀ observation ∈ observations, (∀ report ∈ observation.reports, twins.ledger.told report) ∧
      ∀ run ∈ observation.runs, twins.permits run.declaring := by
  induction seen with
  | nil => exact fun _ inside => nomatch inside
  | cons head _ inductionHypothesis =>
    exact List.forall_mem_cons.2 ⟨⟨head.told, head.permitted⟩, inductionHypothesis⟩

theorem start {memory : μ} {memory' : ν} (linked : twins.linked memory memory') (settings : Settings)
    {store store' : Store} (alike : store.Alike twins.hides store') :
    twins.Engines (.start twins.first settings memory store) (.start twins.second settings memory' store') where
  first := rfl
  second := rfl
  settings := rfl
  machine := {
    memory := linked
    store := alike
    imports := rfl
    imported := Imports.all_empty
    reported := rfl
    told := fun _ isReported => nomatch isReported
    runs := .nil
    permitted := fun _ isRun => nomatch isRun }

end Twins

end LateBound
