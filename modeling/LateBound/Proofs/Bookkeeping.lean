import LateBound.Proofs.Diary
import LateBound.Proofs.EngineCoupling

/-!
# What the statistics of an engine count

An engine is asked one thing after another. Beside it the same is asked of one that keeps a diary, and both reply the
same; what the diary of this one then says accounts for every number that the first has counted. A page of the diary
is a generation: only forgetting everything turns the page, and all else adds to it.
-/

namespace LateBound

variable {μ α : Type}

namespace Engine

/-! ## Requests -/

/-- What an engine is asked for: an operation, or something that changes at most what it remembers and has to report. -/
inductive Request
  | perform (operation : Operation)
  | parse (text : String)
  | resolveType (name : String)
  | imports (unit : Option String)
  | isAllowed (name : String)
  | takeReports

inductive Reply
  | performed (answer : Answer)
  | parsed (outcome : Except SyntaxError Expr)
  | resolved (outcome : Except Failure (Option HostType))
  | imported (labels : List (String × String))
  | allowed (admits : Bool)
  | reported (diagnostics : List Diagnostic)

def Request.clears : Request → Bool
  | perform .clearAll => true
  | perform _ | parse _ | resolveType _ | imports _ | isAllowed _ | takeReports => false

section Memory

variable [Memory μ]

def serve : Request → Action μ Reply
  | .perform operation => .performed <$> perform operation
  | .parse text => .parsed <$> parse text
  | .resolveType name => .resolved <$> resolveType name
  | .imports unit => .imported <$> imports unit
  | .isAllowed name => .allowed <$> isAllowed name
  | .takeReports => .reported <$> takeReports

def serveAll (engine : Engine μ) (requests : List Request) : List Reply × Engine μ :=
  (requests.mapM serve).run engine

theorem serveAll_cons (engine : Engine μ) (request : Request) (requests : List Request) :
    engine.serveAll (request :: requests) =
      let first := (serve request).run engine
      let rest := first.2.serveAll requests
      (first.1 :: rest.1, rest.2) := by
  unfold serveAll
  rw [List.mapM_cons]
  rfl

theorem generation_serve (request : Request) (engine : Engine μ) :
    ((serve request).run engine).2.generation = engine.generation + if request.clears then 1 else 0 := by
  cases request with
  | parse | resolveType | imports | isAllowed | takeReports => rfl
  | perform operation =>
    cases operation with
    -- An evaluation comes back to the engine for each expression of a template; all else runs on the machine at once.
    | evaluate context text =>
      have leaves : Leaves (μ := μ) generation (evaluate context text) :=
        .evaluate (fun _ => .of_same fun _ => rfl) (fun _ => .of_same fun _ => rfl) text
      exact leaves.same engine
    | expandTemplate context text =>
      have leaves : Leaves (μ := μ) generation (expandTemplate context text) :=
        .expandTemplate (fun _ => .of_same fun _ => rfl) text
      exact leaves.same engine
    | callMethod | construct | getField | setField | addImport | removeUnit => rfl
    | clearAll => rfl

end Memory

/-! ## An engine beside one that keeps a diary -/

section Engines

variable {gate : Gate} {before : Diary} {engine : Engine Caches} {noting : Engine Diary}

theorem tells_of_engines (engines : (Diary.twins gate before).Engines engine noting) :
    Diary.Tells gate before 0 engine.machine.memory noting.machine.memory :=
  engines.machine.memory

theorem engines_of_earlier (engines : (Diary.twins gate before).Engines engine noting) :
    (Diary.twins gate noting.machine.memory).Engines engine noting := by
  have tells := tells_of_engines engines
  obtain ⟨first, second, settings, -, store, imports, imported, reported, told, runs, permitted⟩ := engines
  exact ⟨first, second, settings, { tells with continues := .refl _ }, store, imports, imported, reported, told, runs,
    permitted⟩

theorem engines_clearAll (engines : (Diary.twins gate before).Engines engine noting) :
    (Diary.twins gate noting.machine.memory.turn).Engines (clearAll.run engine).2 (clearAll.run noting).2 := by
  have tells := tells_of_engines engines
  obtain ⟨first, second, settings, -, store, -, -, reported, told, runs, permitted⟩ := engines
  exact ⟨first, second, settings, tells.forget, store, rfl, Imports.all_empty, reported, told, runs, permitted⟩

theorem serve_acts {request : Request} (stays : request.clears = false) :
    (Diary.twins gate before).Acts Eq (serve request) (serve request) := by
  cases request with
  | perform operation =>
    have notCleared : operation ≠ .clearAll := by
      rintro rfl
      cases stays
    apply Coupled.map (Twins.perform_of_clears operation.alike_self fun isCleared => absurd isCleared notCleared)
    exact fun answer answer' alike => congrArg Reply.performed alike.eq
  | parse text => exact Coupled.map (Twins.parse text) fun _ _ same => congrArg Reply.parsed same
  | resolveType name => exact Coupled.map (Twins.resolveType name) fun _ _ same => congrArg Reply.resolved same
  | imports unit => exact Coupled.map (Twins.imports unit) fun _ _ same => congrArg Reply.imported same
  | isAllowed name => exact Coupled.map (Twins.isAllowed name) fun _ _ same => congrArg Reply.allowed same
  | takeReports => exact Coupled.map Twins.takeReports fun _ _ same => congrArg Reply.reported same

end Engines

/-- The engines have come the same way, the second keeping a diary, and both have forgotten everything so often. -/
structure Noted (gate : Gate) (clears : Nat) (engine : Engine Caches) (noting : Engine Diary) : Prop where
  engines : (Diary.twins gate noting.machine.memory).Engines engine noting
  generation : engine.generation = clears
  pages : noting.machine.memory.earlier.length = clears

/-- What a request does to a diary: it turns the page, or it adds to it. -/
def Request.Leaves (request : Request) (before diary : Diary) : Prop :=
  if request.clears then diary = before.turn else diary.Continues before

namespace Noted

variable {gate : Gate} {clears : Nat} {engine : Engine Caches} {noting : Engine Diary}

theorem serve (noted : Noted gate clears engine noting) (request : Request) :
    let served := (serve request).run engine
    let wrote := (Engine.serve request).run noting
    served.1 = wrote.1 ∧ Noted gate (clears + if request.clears then 1 else 0) served.2 wrote.2 ∧
      request.Leaves noting.machine.memory wrote.2.machine.memory := by
  intro served wrote
  have generation : served.2.generation = clears + if request.clears then 1 else 0 := by
    rw [← noted.generation]
    exact generation_serve request engine
  cases isClear : request.clears with
  | false =>
    -- The twins start from the diary as it is now, so that what is related behind them continues it.
    obtain ⟨same, engines⟩ := serve_acts isClear engine noting noted.engines
    have continues := (tells_of_engines engines).continues
    refine ⟨same, ⟨engines_of_earlier engines, by rw [generation, isClear], ?_⟩, ?_⟩
    · rw [continues.earlier]
      exact noted.pages
    · rw [Request.Leaves, isClear]
      exact continues
  | true =>
    obtain rfl : request = .perform .clearAll := by
      unfold Request.clears at isClear
      split at isClear
      · rfl
      all_goals cases isClear
    refine ⟨rfl, ⟨engines_clearAll noted.engines, generation, ?_⟩, rfl⟩
    exact congrArg (· + 1) noted.pages

/-- Whatever is asked for, the replies are the same, and a page was filled whenever everything was forgotten. -/
theorem serveAll (noted : Noted gate clears engine noting) (requests : List Request) :
    let served := engine.serveAll requests
    let wrote := noting.serveAll requests
    served.1 = wrote.1 ∧ Noted gate (clears + requests.countP Request.clears) served.2 wrote.2 := by
  induction requests generalizing clears engine noting with
  | nil => exact ⟨rfl, noted⟩
  | cons request requests inductionHypothesis =>
    obtain ⟨same, noted, -⟩ := noted.serve request
    obtain ⟨sameRest, noted⟩ := inductionHypothesis noted
    rw [serveAll_cons, serveAll_cons]
    refine ⟨congrArg₂ List.cons same sameRest, ?_⟩
    rw [List.countP_cons, Nat.add_comm (requests.countP _), ← Nat.add_assoc]
    exact noted

theorem continues (noted : Noted gate clears engine noting) {since : List Request}
    (stay : ∀ request ∈ since, request.clears = false) :
    (noting.serveAll since).2.machine.memory.Continues noting.machine.memory := by
  induction since generalizing clears engine noting with
  | nil => exact .refl _
  | cons request since inductionHypothesis =>
    obtain ⟨stays, stay⟩ := List.forall_mem_cons.1 stay
    obtain ⟨-, after, leaves⟩ := noted.serve request
    rw [Request.Leaves, stays] at leaves
    rw [serveAll_cons]
    exact (inductionHypothesis after stay).trans leaves

end Noted

/-! ## The statistics -/

/-- The numbers are those that the diary tells behind some requests. Of texts, of members that were found and of types
the page of this generation tells, of searches, hits and lookups of types all pages do. -/
structure Statistics.ToldBy (statistics : Statistics) (requests : List Request) (diary : Diary) : Prop where
  generation : statistics.generation = requests.countP Request.clears
  pages : diary.earlier.length = statistics.generation
  texts : statistics.parses + statistics.treeHits = diary.page.texts.length
  members : statistics.searches + statistics.handleHits = (diary.pages.map fun page => page.keys.length).sum
  searches : statistics.searches = (diary.pages.map Diary.Page.searches).sum
  handles : statistics.handles = diary.page.found.dedup.length
  types : statistics.types = diary.page.names.dedup.length
  typeLookups : statistics.typeLookups = (diary.pages.map fun page => page.names.dedup.length).sum

/-- Looks up a member of a type. -/
def findMember [Memory μ] (sort : MemberSort) (type : HostType) (shape : CallShape) : Action μ (Option sort.Handle) :=
  run fun gate => Run.remember (sort.find gate type shape)

namespace Noted

variable {gate : Gate} {clears : Nat} {engine : Engine Caches} {noting : Engine Diary}

theorem toldBy {requests : List Request} (noted : Noted gate (requests.countP Request.clears) engine noting) :
    engine.statistics.ToldBy requests noting.machine.memory := by
  have tells := tells_of_engines noted.engines
  constructor
  case generation => exact noted.generation
  case pages => exact noted.pages.trans noted.generation.symm
  case texts => exact tells.texts
  case members => exact tells.members
  case searches => exact tells.searches
  case handles => exact tells.size
  case types => simpa [statistics, TypeCache.size] using congrArg List.length tells.names
  case typeLookups => exact tells.typeLookups

end Noted

/-- Nobody is asked twice about a name in one generation. -/
example : ((cached (gateOf .empty .all) .standard).serveAll [.resolveType "a", .resolveType "a",
    .perform .clearAll, .resolveType "a", .resolveType "b"]).2.statistics = ⟨1, 0, 0, 0, 0, 0, 0, 2, 3, 0⟩ := by
  rfl

end Engine

end LateBound
