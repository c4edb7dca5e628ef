import LateBound.Proofs.Muting
import LateBound.Proofs.PlainTexts
import LateBound.Proofs.SessionCoupling
import LateBound.Program
import Mathlib

/-!
# Sessions that keep quiet about failed resolutions

What a session replies does not depend on whether failed resolutions are reported, but for the reports themselves.
There is one place where a session reads its own reports: a text that a variable is bound to stands for itself when
anything was reported of it. So a session that is quiet about failed resolutions binds a variable to the value of a
text that a loud one takes for itself, unless something else settles the matter.
-/

namespace LateBound

variable {μ α : Type}

/-! ## What is seen of a session -/

namespace Session

inductive Request
  | importText (text : String)
  | bindText (text : String)
  | evaluate (text : String)
  | expand (text : String)
  | reload

inductive Reply
  | imported (answer : Except SessionError String)
  | bound (answer : Except SessionError Unit)
  | evaluated (outcome : Outcome Value)
  | expanded (outcome : Outcome String)
  | reloaded (answer : Except SessionError Unit)

/-- What is seen of one request: the reply, and behind it the variables and the objects of the host. -/
structure Seen where
  reply : Reply
  locals : List (String × Value)
  store : Store

variable [Memory μ]

def respond : Request → Action μ Reply
  | .importText text => .imported <$> importText text
  | .bindText text => .bound <$> bindText text
  | .evaluate text => .evaluated <$> evaluate text
  | .expand text => .expanded <$> expand text
  | .reload => .reloaded <$> reload

def serve (request : Request) : Action μ Seen := do
  let reply ← respond request
  let session ← get
  return ⟨reply, session.locals, session.engine.machine.store⟩

def serveAll (session : Session μ) (requests : List Request) : List Seen :=
  ((requests.mapM serve).run session).1

theorem serveAll_cons (session : Session μ) (request : Request) (requests : List Request) :
    session.serveAll (request :: requests) =
      ((serve request).run session).1 :: ((serve request).run session).2.serveAll requests := by
  unfold serveAll
  rw [List.mapM_cons]
  rfl

end Session

structure Outcome.Muted (loud quiet : Outcome α) : Prop where
  value : loud.value = quiet.value
  diagnostics : quiet.diagnostics = loud.diagnostics.filter (·.kind != .resolution)

inductive Session.Reply.Muted : Reply → Reply → Prop
  | imported (answer : Except SessionError String) : Muted (.imported answer) (.imported answer)
  | bound (answer : Except SessionError Unit) : Muted (.bound answer) (.bound answer)
  | evaluated {loud quiet : Outcome Value} : loud.Muted quiet → Muted (.evaluated loud) (.evaluated quiet)
  | expanded {loud quiet : Outcome String} : loud.Muted quiet → Muted (.expanded loud) (.expanded quiet)
  | reloaded (answer : Except SessionError Unit) : Muted (.reloaded answer) (.reloaded answer)

structure Session.Seen.Muted (loud quiet : Seen) : Prop where
  reply : loud.reply.Muted quiet.reply
  locals : loud.locals = quiet.locals
  store : loud.store = quiet.store

/-! ## Two sessions -/

variable {gate : Gate} {settings : Settings}

/-- The sessions have come the same way, but the engine of the second is quiet about failed resolutions. -/
structure Session.Muted (gate : Gate) (settings : Settings) (loud quiet : Session μ) : Prop where
  engine : loud.engine.Muted gate settings quiet.engine
  unit : loud.unit = quiet.unit
  locals : loud.locals = quiet.locals
  imports : loud.imports = quiet.imports

namespace Session.Muted

theorem context {loud quiet : Session μ} (muted : Muted gate settings loud quiet) : loud.context = quiet.context := by
  unfold Session.context
  rw [muted.unit, muted.locals]

theorem store {loud quiet : Session μ} (muted : Muted gate settings loud quiet) :
    loud.engine.machine.store = quiet.engine.machine.store := by
  obtain ⟨tables, beside⟩ := muted.engine.machine
  exact beside.store

theorem onEngine {answers : α → α → Prop} {first second : Engine.Action μ α}
    (acts : ActsMuted gate settings answers first second) :
    Coupled (Muted gate settings) answers (Session.onEngine first) (Session.onEngine second) := by
  apply Coupled.exchange
  intro loud quiet muted
  obtain ⟨answered, engine⟩ := acts _ _ muted.engine
  exact ⟨answered, { muted with engine }⟩

theorem collecting {action : Context → Engine.Action μ α}
    (acts : ∀ context, ActsMuted gate settings Eq (action context) (action context)) :
    Coupled (Muted gate settings) Outcome.Muted (Session.collecting action) (Session.collecting action) := by
  refine Coupled.bind Coupled.read fun loud quiet muted => ?_
  rw [muted.context]
  apply onEngine
  refine Coupled.bindEq (acts _) fun value => ?_
  exact Coupled.bind Engine.Muted.takeReports fun diagnostics kept isKept => Coupled.pure ⟨rfl, isKept⟩

variable [Memory μ]

theorem evaluate (text : String) :
    Coupled (Muted (μ := μ) gate settings) Outcome.Muted (Session.evaluate text) (Session.evaluate text) :=
  collecting fun context => Engine.Muted.evaluate context text

theorem expand (text : String) :
    Coupled (Muted (μ := μ) gate settings) Outcome.Muted (Session.expand text) (Session.expand text) :=
  collecting fun context => Engine.Muted.expandTemplate context text

/-! ### Imports -/

theorem importAs (name : String) (label? : Option String) :
    Coupled (Muted (μ := μ) gate settings) Eq (Session.importAs name label?) (Session.importAs name label?) := by
  refine Coupled.bind Coupled.read fun loud quiet muted => ?_
  rw [muted.unit]
  refine Coupled.bindEq (onEngine (Engine.Muted.addImport _ name label?)) fun added => ?_
  cases added with
  | error failure => exact Coupled.pure rfl
  | ok type =>
    refine Coupled.bind (Coupled.update fun loud quiet muted => ?_) fun _ _ _ => Coupled.pure rfl
    exact { muted with imports := by rw [muted.imports] }

theorem reload : Coupled (Muted (μ := μ) gate settings) Eq Session.reload Session.reload := by
  apply reload_coupled importAs
  · intro loud quiet muted
    exact muted.imports
  · intro loud quiet muted
    exact { muted with engine := (Engine.Muted.clearAll _ _ muted.engine).2, imports := rfl }

end Session.Muted

/-! ## Variables -/

theorem Outcome.failed_iff (outcome : Outcome α) : outcome.failed = true ↔ outcome.diagnostics ≠ [] := by
  simp [failed]

theorem Outcome.Muted.failed_iff {loud quiet : Outcome α} (muted : loud.Muted quiet) :
    quiet.failed = true ↔ ∃ diagnostic ∈ loud.diagnostics, diagnostic.kind ≠ .resolution := by
  simp [Outcome.failed, muted.diagnostics]

/-- The outcome of a text settles what a variable is bound to: nothing was reported, or something that a quiet session
reports as well, or the value is the text itself. -/
def Outcome.Settles (outcome : Outcome Value) (text : String) : Prop :=
  outcome.diagnostics = [] ∨ (∃ diagnostic ∈ outcome.diagnostics, diagnostic.kind ≠ .resolution) ∨
    outcome.value.unwrapped = .str text

namespace Session

variable [Memory μ]

def outcome? (text : String) : Action μ (Option (Outcome Value)) := do
  match ← onEngine (Engine.parse text) with
  | .error _ => return none
  | .ok _ => return some (← evaluate text)

def bound (text : String) : Option (Outcome Value) → Value
  | none => .str text
  | some outcome => if outcome.failed then .str text else outcome.value.unwrapped

theorem literal_eq (text : String) : (literal text : Action μ Value) = bound text <$> outcome? text := by
  unfold literal outcome?
  rw [map_bind]
  congr 1
  funext parsed
  cases parsed with
  | error error => rfl
  | ok tree =>
    simp only [map_bind, map_pure]
    rfl

theorem outcome?_muted (text : String) :
    Coupled (Muted (μ := μ) gate settings) (Option.Rel Outcome.Muted) (outcome? text) (outcome? text) := by
  refine Coupled.bindEq (Muted.onEngine (Engine.Muted.parse text)) fun parsed => ?_
  cases parsed with
  | error error => exact Coupled.pure .none
  | ok tree => exact Coupled.bind (Muted.evaluate text) fun _ _ muted => Coupled.pure (.some muted)

/-- Both sessions bind a variable to one value exactly when the outcome settles which. -/
theorem bound_eq_iff {text : String} {loud quiet : Option (Outcome Value)}
    (muted : Option.Rel Outcome.Muted loud quiet) :
    bound text loud = bound text quiet ↔ ∀ outcome ∈ loud, outcome.Settles text := by
  cases muted with
  | none => simp
  | @some loud quiet muted =>
    simp only [bound, ← muted.value, Option.mem_some_iff, forall_eq', Outcome.Settles]
    by_cases other : ∃ diagnostic ∈ loud.diagnostics, diagnostic.kind ≠ .resolution
    · have loudFailed : loud.failed = true := by
        obtain ⟨diagnostic, inside, -⟩ := other
        exact loud.failed_iff.2 (List.ne_nil_of_mem inside)
      simp only [loudFailed, muted.failed_iff.2 other, if_true, other, true_or, or_true]
    · have quietSucceeds : quiet.failed = false := Bool.eq_false_iff.2 fun failed => other (muted.failed_iff.1 failed)
      by_cases silent : loud.diagnostics = []
      · have loudSucceeds : loud.failed = false := Bool.eq_false_iff.2 fun failed => loud.failed_iff.1 failed silent
        simp only [loudSucceeds, quietSucceeds, silent, true_or]
      · -- Nothing but failed resolutions was reported: the loud session binds the text, the quiet one the value.
        simp only [loud.failed_iff.2 silent, quietSucceeds, if_true, Bool.false_eq_true, if_false, silent, other,
          false_or]
        exact eq_comm

/-! ## Requests one after the other -/

/-- The request does not bind a variable, or what the variable is bound to is settled. -/
def Request.Settles (session : Session μ) : Request → Prop
  | .bindText text => ∀ name value, splitEquals? text.toList = some (name, value) →
      let given := String.ofList (Text.trimChars value)
      ∀ outcome ∈ ((outcome? given).run session).1, outcome.Settles given
  | _ => True

def SettlesAll (session : Session μ) : List Request → Prop
  | [] => True
  | request :: requests => request.Settles session ∧ ((serve request).run session).2.SettlesAll requests

theorem run_serve_bindText {text : String} {name value : List Char}
    (isBinding : splitEquals? text.toList = some (name, value)) (session : Session μ) :
    let given := String.ofList (Text.trimChars value)
    let name := String.ofList (Text.trimChars name)
    let read := (outcome? given).run session
    let locals := (name, bound given read.1) :: read.2.locals.filter (·.1 != name)
    (serve (.bindText text)).run session =
      (⟨.bound (.ok ()), locals, read.2.engine.machine.store⟩, { read.2 with locals }) := by
  intro given name read locals
  have binds : (bindText text : Action μ (Except SessionError Unit)) = (do return .ok (← Session.bind name given)) := by
    unfold bindText
    rw [isBinding]
    rfl
  have responds : (respond (.bindText text) : Action μ Reply) = .bound <$> bindText text := rfl
  unfold serve
  rw [responds, binds]
  unfold Session.bind
  rw [literal_eq]
  rfl

/-- A request is seen alike exactly when it settles what it binds, and leads to such sessions again. -/
structure Request.Agrees (request : Request) (gate : Gate) (settings : Settings) (loud quiet : Session μ) : Prop where
  seen : ((serve request).run loud).1.Muted ((serve request).run quiet).1 ↔ request.Settles loud
  after : request.Settles loud → ((serve request).run loud).2.Muted gate settings ((serve request).run quiet).2

namespace Request

variable {request : Request} {loud quiet : Session μ}

theorem agrees_of_respond
    (responds : Coupled (Muted (μ := μ) gate settings) Reply.Muted (respond request) (respond request))
    (settles : request.Settles loud) (muted : loud.Muted gate settings quiet) :
    request.Agrees gate settings loud quiet := by
  have serves : Coupled (Muted (μ := μ) gate settings) Seen.Muted (serve request) (serve request) := by
    refine Coupled.bind responds fun reply reply' muted => ?_
    exact Coupled.bind Coupled.read fun loud quiet same => Coupled.pure ⟨muted, same.locals, same.store⟩
  obtain ⟨seen, after⟩ := serves loud quiet muted
  exact ⟨iff_of_true seen settles, fun _ => after⟩

theorem settles_bindText_iff {text : String} {name value : List Char}
    (isBinding : splitEquals? text.toList = some (name, value)) (session : Session μ) :
    (bindText text).Settles session ↔
      let given := String.ofList (Text.trimChars value)
      ∀ outcome ∈ ((outcome? given).run session).1, outcome.Settles given := by
  constructor
  · intro settles
    exact settles name value isBinding
  · intro settles name' value' isBinding'
    cases isBinding.symm.trans isBinding'
    exact settles

theorem agrees_bindText {text : String} (muted : loud.Muted gate settings quiet) :
    (bindText text).Agrees gate settings loud quiet := by
  cases isBinding : splitEquals? text.toList with
  | none =>
    have refused : (Session.bindText text : Action μ _) = pure (.error (.noBinding text)) := by
      unfold Session.bindText
      rw [isBinding]
    have responds : (respond (.bindText text) : Action μ Reply) = .bound <$> Session.bindText text := rfl
    apply agrees_of_respond _ _ muted
    · rw [responds, refused]
      exact Coupled.pure (.bound _)
    · intro name value isBinding'
      rw [isBinding] at isBinding'
      cases isBinding'
  | some sides =>
    obtain ⟨name, value⟩ := sides
    obtain ⟨answered, after⟩ := outcome?_muted (String.ofList (Text.trimChars value)) loud quiet muted
    have settles := (settles_bindText_iff isBinding loud).trans (bound_eq_iff answered).symm
    constructor
    · rw [run_serve_bindText isBinding, run_serve_bindText isBinding, settles]
      constructor
      · intro seen
        exact (Prod.mk.inj (List.cons.inj seen.locals).1).2
      · intro same
        exact ⟨.bound _, by simp only [same, after.locals], after.store⟩
    · intro isSettled
      rw [run_serve_bindText isBinding, run_serve_bindText isBinding]
      exact { after with locals := by simp only [settles.1 isSettled, after.locals] }

theorem agrees (request : Request) (muted : loud.Muted gate settings quiet) :
    request.Agrees gate settings loud quiet := by
  cases request with
  | importText text =>
    refine agrees_of_respond ?_ trivial muted
    exact Coupled.map (importText_coupled Muted.importAs text) fun answer _ same => same ▸ .imported answer
  | evaluate text =>
    refine agrees_of_respond ?_ trivial muted
    exact Coupled.map (Muted.evaluate text) fun _ _ outcome => .evaluated outcome
  | expand text =>
    refine agrees_of_respond ?_ trivial muted
    exact Coupled.map (Muted.expand text) fun _ _ outcome => .expanded outcome
  | reload =>
    refine agrees_of_respond ?_ trivial muted
    exact Coupled.map Muted.reload fun answer _ same => same ▸ .reloaded answer
  | bindText text => exact agrees_bindText muted

end Request

/-- Requests are seen alike, one by one, exactly when each settles what it binds. -/
theorem serveAll_muted_iff {loud quiet : Session μ} (muted : loud.Muted gate settings quiet) (requests : List Request) :
    List.Forall₂ Seen.Muted (loud.serveAll requests) (quiet.serveAll requests) ↔ loud.SettlesAll requests := by
  induction requests generalizing loud quiet with
  | nil => exact iff_of_true .nil trivial
  | cons request requests inductionHypothesis =>
    obtain ⟨seen, after⟩ := request.agrees muted
    rw [serveAll_cons, serveAll_cons, List.forall₂_cons, seen]
    exact and_congr_right fun settles => inductionHypothesis (after settles)

/-- Two sessions that differ in whether failed resolutions are reported are seen alike, but for these reports, exactly
when everything that variables are bound to is settled otherwise. -/
theorem seen_alike_iff_settles (gate : Gate) (settings : Settings) (memory : μ) (store : Store) (unit : Option String)
    (requests : List Request) :
    let session (reportsResolution : Bool) : Session μ :=
      .start (.start gate (settings.reporting reportsResolution) memory store) unit
    List.Forall₂ Seen.Muted ((session true).serveAll requests) ((session false).serveAll requests) ↔
      (session true).SettlesAll requests := by
  intro session
  have muted : (session true).Muted gate settings (session false) := ⟨.start gate settings memory store, rfl, rfl, rfl⟩
  exact serveAll_muted_iff muted requests

/-! ## A variable that is bound otherwise -/

theorem run_outcome? {session : Session μ} {text : String}
    (noDelimiter : session.engine.settings.delimiter ∉ text.toList)
    {tree : Expr} {read : μ} (parsed : (Memory.parse text).run session.engine.machine.memory = (.ok tree, read)) :
    (outcome? text).run session =
      let engine := session.engine
      let ran := (Evaluation.mk engine.gate engine.settings session.context (Text.trim text)).run.run
        { engine.machine with memory := read }
      (some ⟨ran.1, ran.2.reported.reverse.map Report.diagnostic⟩,
        { session with engine := { engine with machine := { ran.2 with reported := [] } } }) := by
  let after : Session μ :=
    { session with engine := { session.engine with machine := { session.engine.machine with memory := read } } }
  have reads : (onEngine (Engine.parse text)).run session = (.ok tree, after) := by
    have remembered : (onEngine (Engine.parse text)).run session =
        let read := (Memory.parse text).run session.engine.machine.memory
        (read.1, { session with
          engine := { session.engine with machine := { session.engine.machine with memory := read.2 } } }) := rfl
    rw [remembered, parsed]
  have evaluated : (evaluate text).run after =
      let ran := (Engine.evaluateText session.context text).run after.engine
      (⟨ran.1, ran.2.machine.reported.reverse.map Report.diagnostic⟩,
        { session with engine := { ran.2 with machine := { ran.2.machine with reported := [] } } }) := rfl
  unfold outcome?
  rw [StateT.run_bind, reads]
  show (some ((evaluate text).run after).1, ((evaluate text).run after).2) = _
  rw [evaluated, after.engine.run_evaluateText session.context noDelimiter]

def filledNumber : Expr :=
  .initialise (.literal (.int 5) ⟨1, 1, 0, 1⟩) "" ⟨1, 1, 0, 3⟩

theorem run_filledNumber {evaluation : Evaluation} (isSource : evaluation.source = "5[]") {machine : Machine μ}
    {read : μ} (parsed : (Memory.parse "5[]").run machine.memory = (.ok filledNumber, read)) :
    evaluation.run.run machine = (.null, { machine with
      memory := read
      reported := evaluation.settings.record "5[]" evaluation.context.unit "5[]" (some filledNumber)
        ⟨.notInitialisable "5" "", some filledNumber.span⟩ machine.reported }) := by
  have reads : (Run.remember (Memory.parse "5[]")).run machine =
      (.ok filledNumber, { machine with memory := read }) := by
    have remembered : (Run.remember (Memory.parse "5[]")).run machine =
        let read := (Memory.parse "5[]").run machine.memory
        (read.1, { machine with memory := read.2 }) := rfl
    rw [remembered, parsed]
  unfold Evaluation.run
  rw [isSource, if_neg (by decide), StateT.run_bind, reads]
  show (evaluation.value filledNumber).run _ = _
  rw [← isSource]
  rfl

def standard (reportsResolution : Bool) : Session Caches :=
  .start (Program.engineWith standardRegistry (Settings.standard.reporting reportsResolution)) none

theorem locals_standard (reportsResolution : Bool) :
    ((standard reportsResolution).serveAll [.bindText "x=5[]"]).map Seen.locals =
      [[("x", if reportsResolution then .str "5[]" else .null)]] := by
  have read : Expr.parse "5[]" = .ok filledNumber := by cbv
  let kept : TreeCache := ⟨⟨512, [("5[]", filledNumber)]⟩, 1, 0⟩
  have parsed : (TreeCache.empty 512).getOrParse "5[]" = (.ok filledNumber, kept) := by
    unfold TreeCache.getOrParse
    rw [read]
    rfl
  have parsedFirst : (Memory.parse "5[]").run (standard reportsResolution).engine.machine.memory =
      (.ok filledNumber, (⟨kept, .empty, .empty⟩ : Caches)) := by
    have remembered : (Memory.parse "5[]").run (standard reportsResolution).engine.machine.memory =
        let read := (TreeCache.empty 512).getOrParse "5[]"
        (read.1, (⟨read.2, .empty, .empty⟩ : Caches)) := rfl
    rw [remembered, parsed]
  have parsedAgain : (Memory.parse "5[]").run (⟨kept, .empty, .empty⟩ : Caches) =
      (.ok filledNumber, ⟨{ kept with hits := 1 }, .empty, .empty⟩) := by rfl
  have noDelimiter : (standard reportsResolution).engine.settings.delimiter ∉ "5[]".toList := by
    show '%' ∉ "5[]".toList
    decide
  have trimmed : Text.trim "5[]" = "5[]" := by cbv
  have outcome := run_outcome? noDelimiter parsedFirst
  rw [trimmed] at outcome
  dsimp only at outcome
  rw [run_filledNumber rfl parsedAgain] at outcome
  have isBinding : splitEquals? "x=5[]".toList = some (['x'], "5[]".toList) := by decide
  rw [serveAll_cons, run_serve_bindText isBinding]
  have given : String.ofList (Text.trimChars "5[]".toList) = "5[]" := trimmed
  rw [given, outcome]
  cases reportsResolution <;> rfl

/-- A loud session takes `5[]` for itself, since a failure is reported of it; a quiet one binds its value, null. -/
theorem exists_binding_swayed :
    let seen (reportsResolution : Bool) := (standard reportsResolution).serveAll [.bindText "x=5[]"]
    (seen true).map Seen.locals = [[("x", .str "5[]")]] ∧ (seen false).map Seen.locals = [[("x", .null)]] ∧
      ¬ List.Forall₂ Seen.Muted (seen true) (seen false) := by
  intro seen
  have loud := locals_standard true
  have quiet := locals_standard false
  refine ⟨loud, quiet, fun muted => ?_⟩
  have same : (seen true).map Seen.locals = (seen false).map Seen.locals := by
    rw [← List.forall₂_eq_eq_eq, List.forall₂_map_left_iff, List.forall₂_map_right_iff]
    exact muted.imp fun _ _ seen => seen.locals
  rw [loud, quiet] at same
  cases same

end Session

end LateBound
