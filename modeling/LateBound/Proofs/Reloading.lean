import LateBound.Proofs.Importing
import LateBound.Proofs.Reticence
import LateBound.Proofs.Transparency

/-!
# A reload loses nothing

The imports of a session are those that its log leads to when they are made again, one after the other. Nothing that is
asked of a session breaks this: an evaluation leaves the imports as they are, and an import adds to the log what it adds
to the table. So after a reload the session has the imports that it had before, and what it has forgotten can be found
again: with an engine that remembers nothing a reload does nothing but count.
-/

namespace LateBound

variable {μ α : Type}

/-! ## Imports made again -/

/-- A log leads from some imports to others when what it lists is imported, one after the other, and the gate shows each
of these types. -/
inductive Gate.Replays (gate : Gate) (unit : Option String) : Imports → List (String × Option String) → Imports → Prop
  | nil (tables : Imports) : Replays gate unit tables [] tables
  | cons {tables after : Imports} {name : String} {label? : Option String} {log : List (String × Option String)}
      {type : HostType} : gate.lookup name = .found type →
      Replays gate unit (tables.insert unit type label?) log after → Replays gate unit tables ((name, label?) :: log) after

theorem Gate.Replays.concat {gate : Gate} {unit : Option String} {tables after : Imports}
    {log : List (String × Option String)} (replays : gate.Replays unit tables log after) {name : String} {type : HostType}
    (found : gate.lookup name = .found type) (label? : Option String) :
    gate.Replays unit tables (log ++ [(name, label?)]) (after.insert unit type label?) := by
  induction replays with
  | nil tables => exact .cons found (.nil _)
  | cons isFound _ inductionHypothesis => exact .cons isFound inductionHypothesis

namespace Session

section Memory

variable [Memory μ]

theorem run_importAs (name : String) (label? : Option String) (session : Session μ) :
    (importAs name label?).run session =
      let added := (Engine.addImport session.unit name label?).run session.engine
      match added.1 with
      | .ok type => (.ok (label?.getD type.shortName),
          { session with engine := added.2, imports := session.imports ++ [(name, label?)] })
      | .error failure => (.error (.failed failure), { session with engine := added.2 }) := by
  have adds : (onEngine (Engine.addImport session.unit name label?)).run session =
      let added := (Engine.addImport session.unit name label?).run session.engine
      (added.1, { session with engine := added.2 }) := rfl
  unfold importAs
  rw [StateT.run_bind, StateT.run_get]
  show ((onEngine (Engine.addImport session.unit name label?) >>= _).run session : Id _) = _
  rw [StateT.run_bind, adds]
  generalize (Engine.addImport session.unit name label?).run session.engine = added
  obtain ⟨answer, engine⟩ := added
  cases answer <;> rfl

/-! ### Generations -/

def generation (session : Session μ) : Nat :=
  session.engine.generation

theorem generation_importAs (name : String) (label? : Option String) (session : Session μ) :
    ((importAs name label?).run session).2.generation = session.generation := by
  rw [run_importAs, Engine.run_addImport]
  dsimp only
  split <;> rfl

theorem generation_importAll (log : List (String × Option String)) (session : Session μ) :
    ((importAll log).run session).2.generation = session.generation := by
  induction log generalizing session with
  | nil => rfl
  | cons entry log inductionHypothesis =>
    obtain ⟨name, label?⟩ := entry
    unfold importAll
    rw [StateT.run_bind]
    have imported := generation_importAs name label? session
    generalize (importAs name label?).run session = ended at imported ⊢
    obtain ⟨answer, after⟩ := ended
    cases answer with
    | ok visible => exact (inductionHypothesis after).trans imported
    | error error => exact (inductionHypothesis after).trans imported

theorem generation_reload (session : Session μ) : (reload.run session).2.generation = session.generation + 1 := by
  rw [run_reload]
  exact generation_importAll session.imports session.cleared

end Memory

/-! ### Nothing remembered -/

variable {session : Session Unit}

theorem run_importAs_of_found {name : String} {type : HostType}
    (found : session.engine.gate.lookup name = .found type) (label? : Option String) :
    (importAs name label?).run session = (.ok (label?.getD type.shortName),
      { session with
        engine.machine.imports := session.engine.machine.imports.insert session.unit type label?
        imports := session.imports ++ [(name, label?)] }) := by
  rw [run_importAs, Engine.run_addImport_fresh, found]
  rfl

theorem run_importAll_of_replays {gate : Gate} {unit : Option String} {tables after : Imports}
    {log : List (String × Option String)} (replays : gate.Replays unit tables log after)
    (isGate : session.engine.gate = gate) (isUnit : session.unit = unit)
    (isTables : session.engine.machine.imports = tables) :
    (importAll log).run session =
      ([], { session with engine.machine.imports := after, imports := session.imports ++ log }) := by
  induction replays generalizing session with
  | nil tables =>
    subst isTables
    rw [List.append_nil]
    rfl
  | @cons tables after name label? log type found _ inductionHypothesis =>
    subst isGate isUnit isTables
    unfold importAll
    rw [StateT.run_bind, run_importAs_of_found found label?]
    refine Eq.trans (inductionHypothesis rfl rfl rfl) ?_
    rw [List.append_assoc]
    rfl

/-- With an engine that remembers nothing, a reload does nothing but begin a generation. -/
theorem run_reload_of_replays
    (replays : session.engine.gate.Replays session.unit .empty session.imports session.engine.machine.imports) :
    reload.run session = (.ok (), { session with engine.generation := session.generation + 1 }) := by
  have again : (importAll session.imports).run session.cleared = ([],
      { session with engine.generation := session.generation + 1 }) :=
    run_importAll_of_replays replays rfl rfl rfl
  rw [run_reload, again]
  rfl

end Session

/-! ## A session beside one that remembers nothing -/

variable {gate : Gate} {coherent : gate.Coherent}

/-- The sessions have come the same way, the engine of the second remembering nothing, and their log leads to the imports
that they have. -/
structure Session.Shadowed (coherent : gate.Coherent) (session : Session Caches) (shadow : Session Unit) : Prop where
  engine : coherent.twins.Engines session.engine shadow.engine
  unit : session.unit = shadow.unit
  locals : session.locals = shadow.locals
  log : session.imports = shadow.imports
  replays : gate.Replays shadow.unit .empty shadow.imports shadow.engine.machine.imports

namespace Session.Shadowed

theorem start (coherent : gate.Coherent) (settings : Settings) (store : Store) (unit : Option String) :
    Shadowed coherent (.start (.cached gate settings store) unit) (.start (.start gate settings () store) unit) where
  engine := coherent.start settings store
  unit := rfl
  locals := rfl
  log := rfl
  replays := .nil .empty

section States

variable {session : Session Caches} {shadow : Session Unit} (shadowed : session.Shadowed coherent shadow)

include shadowed

theorem context : session.context = shadow.context := by
  unfold Session.context
  rw [shadowed.unit, shadowed.locals]

theorem tables : session.engine.machine.imports = shadow.engine.machine.imports :=
  shadowed.engine.machine.imports

theorem store : session.engine.machine.store = shadow.engine.machine.store := by
  have alike : Store.Alike (fun _ => false) session.engine.machine.store shadow.engine.machine.store :=
    shadowed.engine.machine.store
  rwa [Store.alike_none] at alike

theorem of_generation (generation : Nat) :
    session.Shadowed coherent { shadow with engine.generation := generation } :=
  { shadowed with engine := { shadowed.engine with } }

theorem cleared : session.cleared.Shadowed coherent shadow.cleared :=
  { shadowed with
    engine := (Twins.clearAll _ _ shadowed.engine).2
    log := rfl
    replays := .nil .empty }

theorem bound (name : String) (value : Value) :
    let locals := (name, value) :: session.locals.filter (·.1 != name)
    let locals' := (name, value) :: shadow.locals.filter (·.1 != name)
    Shadowed coherent { session with locals } { shadow with locals := locals' } :=
  { shadowed with locals := by rw [shadowed.locals] }

end States

/-! ### Requests -/

theorem onEngine {answers : α → α → Prop} {first : Engine.Action Caches α} {second : Engine.Action Unit α}
    (acts : coherent.twins.Acts answers first second) (leaves : Engine.LeavesImports second) :
    Coupled (Shadowed coherent) answers (Session.onEngine first) (Session.onEngine second) := by
  apply Coupled.exchange
  intro session shadow shadowed
  obtain ⟨answered, engine⟩ := acts _ _ shadowed.engine
  refine ⟨answered, { shadowed with engine, replays := ?_ }⟩
  show gate.Replays _ _ _ (second.run shadow.engine).2.machine.imports
  rw [leaves.imports]
  exact shadowed.replays

theorem collecting {first : Context → Engine.Action Caches α} {second : Context → Engine.Action Unit α}
    (acts : ∀ context, coherent.twins.Acts Eq (first context) (second context))
    (leaves : ∀ context, Engine.LeavesImports (second context)) :
    Coupled (Shadowed coherent) Eq (Session.collecting first) (Session.collecting second) := by
  refine Coupled.bind Coupled.read fun session shadow shadowed => ?_
  rw [shadowed.context]
  apply onEngine
  · refine Coupled.bindEq (acts _) fun value => ?_
    exact Coupled.bindEq Twins.takeReports fun diagnostics => Coupled.pure rfl
  · intro tables
    refine Coupled.bindEq (leaves _ tables) fun value => ?_
    exact Coupled.bindEq (Engine.LeavesImports.takeReports tables) fun diagnostics => Coupled.pure rfl

theorem evaluate (text : String) :
    Coupled (Shadowed coherent) Eq (Session.evaluate text) (Session.evaluate text) := by
  apply collecting
  · intro context
    have contexts : context.Alike coherent.twins.hides context := context.alike_self
    apply Coupled.weaken (Twins.evaluate contexts text)
    intro value value' alike
    have alike : value.Alike (fun _ => false) value' := alike
    rwa [Value.alike_none] at alike
  · intro context
    exact .evaluate context text

theorem expand (text : String) :
    Coupled (Shadowed coherent) Eq (Session.expand text) (Session.expand text) := by
  apply collecting
  · intro context
    have contexts : context.Alike coherent.twins.hides context := context.alike_self
    exact Twins.expandTemplate contexts text
  · intro context
    exact .expandTemplate context text

/-- What an import adds to the log is what it adds to the imports. -/
theorem importAs (name : String) (label? : Option String) :
    Coupled (Shadowed coherent) Eq (Session.importAs name label?) (Session.importAs name label?) := by
  intro session shadow shadowed
  obtain ⟨same, engines⟩ := Twins.addImport shadow.unit name label? _ _ shadowed.engine
  have isGate : shadow.engine.gate = gate := shadowed.engine.second
  rw [run_importAs, run_importAs, shadowed.unit]
  rw [Engine.run_addImport_fresh] at same engines ⊢
  generalize (Engine.addImport shadow.unit name label?).run session.engine = added at same engines ⊢
  obtain ⟨answer, engine⟩ := added
  cases answered : shadow.engine.gate.lookup name with
  | found type =>
    rw [answered] at same engines
    subst same
    rw [isGate] at answered
    refine ⟨rfl, { shadowed with engine := engines, unit := rfl, log := ?_, replays := ?_ }⟩
    · exact congrArg (· ++ [(name, label?)]) shadowed.log
    · exact shadowed.replays.concat answered label?
  | notFound | denied =>
    rw [answered] at same engines
    subst same
    exact ⟨rfl, { shadowed with engine := engines, unit := rfl }⟩

theorem reload : Coupled (Shadowed coherent) Eq Session.reload Session.reload := by
  apply reload_coupled importAs
  · intro session shadow shadowed
    exact shadowed.log
  · intro session shadow shadowed
    exact shadowed.cleared

theorem parse (text : String) :
    Coupled (Shadowed coherent) Eq (Session.onEngine (Engine.parse text)) (Session.onEngine (Engine.parse text)) :=
  onEngine (Twins.parse text) (.parse text)

theorem bindName (name text : String) :
    Coupled (Shadowed coherent) Eq (Session.bind name text) (Session.bind name text) := by
  apply bind_coupled parse evaluate
  intro session shadow shadowed
  exact shadowed.bound

theorem bindText (text : String) :
    Coupled (Shadowed coherent) Eq (Session.bindText text) (Session.bindText text) := by
  apply bindText_coupled parse evaluate
  intro session shadow shadowed
  exact shadowed.bound

end Session.Shadowed

/-! ## Errands -/

/-- What a session is asked to do: a request, or an import or a binding that is given by its parts. -/
inductive Errand
  | request (request : Session.Request)
  | importAs (name : String) (label? : Option String)
  | bindName (name text : String)

section Errands

variable [Memory μ]

def Errand.respond : Errand → Session.Action μ Session.Reply
  | .request asked => Session.respond asked
  | .importAs name label? => .imported <$> Session.importAs name label?
  | .bindName name text => (fun _ => .bound (.ok ())) <$> Session.bind name text

def Errand.serve (errand : Errand) : Session.Action μ Session.Seen := do
  let reply ← errand.respond
  let session ← get
  return ⟨reply, session.locals, session.engine.machine.store⟩

def Session.seenOf (session : Session μ) (errands : List Errand) : List Seen :=
  ((errands.mapM Errand.serve).run session).1

def Session.after (session : Session μ) (errands : List Errand) : Session μ :=
  ((errands.mapM Errand.serve).run session).2

end Errands

namespace Session.Shadowed

theorem respond (errand : Errand) : Coupled (Shadowed coherent) Eq errand.respond errand.respond := by
  cases errand with
  | importAs name label? => exact Coupled.map (importAs name label?) fun _ _ same => congrArg Reply.imported same
  | bindName name text => exact Coupled.map (bindName name text) fun _ _ _ => rfl
  | request request =>
    cases request with
    | importText text =>
      exact Coupled.map (importText_coupled importAs text) fun _ _ same => congrArg Reply.imported same
    | bindText text => exact Coupled.map (bindText text) fun _ _ same => congrArg Reply.bound same
    | evaluate text => exact Coupled.map (evaluate text) fun _ _ same => congrArg Reply.evaluated same
    | expand text => exact Coupled.map (expand text) fun _ _ same => congrArg Reply.expanded same
    | reload => exact Coupled.map reload fun _ _ same => congrArg Reply.reloaded same

theorem serve (errand : Errand) : Coupled (Shadowed coherent) Eq errand.serve errand.serve := by
  refine Coupled.bindEq (respond errand) fun reply => ?_
  refine Coupled.bind Coupled.read fun session shadow shadowed => Coupled.pure ?_
  rw [shadowed.locals, shadowed.store]

theorem serveAll (errands : List Errand) :
    Coupled (Shadowed coherent) Eq (errands.mapM Errand.serve) (errands.mapM Errand.serve) := by
  have same : List.Forall₂ Eq errands errands := List.forall₂_same.2 fun _ _ => rfl
  refine Coupled.weaken (Coupled.mapM (fun errand _ same => ?_) same) fun _ _ seen => List.forall₂_eq_eq_eq ▸ seen
  exact same ▸ serve errand

end Session.Shadowed

/-! ## Reloading -/

/-- Nothing of what the user of a session has is lost: not the imports, the log of them, the variables or the objects of
the host, and all errands are seen alike from here on. What the engine counts is not part of it. -/
structure Session.Continues (later earlier : Session Caches) : Prop where
  unit : later.unit = earlier.unit
  tables : later.engine.machine.imports = earlier.engine.machine.imports
  log : later.imports = earlier.imports
  locals : later.locals = earlier.locals
  store : later.engine.machine.store = earlier.engine.machine.store
  seen (errands : List Errand) : later.seenOf errands = earlier.seenOf errands

namespace Session

theorem Shadowed.continues {later earlier : Session Caches} {shadow : Session Unit}
    (shadowed : later.Shadowed coherent shadow) (before : earlier.Shadowed coherent shadow) : later.Continues earlier where
  unit := shadowed.unit.trans before.unit.symm
  tables := shadowed.tables.trans before.tables.symm
  log := shadowed.log.trans before.log.symm
  locals := shadowed.locals.trans before.locals.symm
  store := shadowed.store.trans before.store.symm
  seen errands := (Shadowed.serveAll errands _ _ shadowed).1.trans (Shadowed.serveAll errands _ _ before).1.symm

/-- A reload succeeds, and the session has the same shadow as before. -/
theorem Shadowed.reloaded {session : Session Caches} {shadow : Session Unit} (shadowed : session.Shadowed coherent shadow) :
    (Session.reload.run session).1 = .ok () ∧ (Session.reload.run session).2.Shadowed coherent shadow := by
  have isGate : shadow.engine.gate = gate := shadowed.engine.second
  have again := run_reload_of_replays (isGate ▸ shadowed.replays)
  obtain ⟨answered, after⟩ := Shadowed.reload session shadow shadowed
  rw [again] at answered after
  exact ⟨answered, after.of_generation shadow.generation⟩

/-- A reload loses nothing: it succeeds, a new generation begins, and the session goes on as without it. A second reload
does no more. -/
theorem reload_loses_nothing (registry : Registry) (policy : AllowList) (settings : Settings) (store : Store)
    (unit : Option String) (errands : List Errand) :
    let session := (Session.start (.cached (Engine.gateOf registry policy) settings store) unit).after errands
    let once := reload.run session
    let twice := reload.run once.2
    (once.1 = .ok () ∧ once.2.Continues session ∧ once.2.generation = session.generation + 1) ∧
      twice.1 = .ok () ∧ twice.2.Continues once.2 ∧ twice.2.generation = once.2.generation + 1 := by
  intro session once twice
  have coherent := Engine.coherent_gateOf registry policy
  have shadowed := (Shadowed.serveAll errands _ _ (.start coherent settings store unit)).2
  obtain ⟨reloads, shadowedOnce⟩ := shadowed.reloaded
  obtain ⟨reloadsAgain, shadowedTwice⟩ := shadowedOnce.reloaded
  refine ⟨⟨reloads, ?_, ?_⟩, reloadsAgain, ?_, ?_⟩
  · exact shadowedOnce.continues shadowed
  · exact generation_reload session
  · exact shadowedTwice.continues shadowedOnce
  · exact generation_reload once.2

end Session

end LateBound
