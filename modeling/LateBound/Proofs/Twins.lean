import LateBound.Evaluate
import LateBound.Proofs.Discretion
import LateBound.Proofs.SearchCoupling

/-!
# Twins

Twins are two ways to run one engine: over gates and memories that may differ, on values that differ at
most behind hidden names. `Twins` says what the two must have in common, and from that alone the modules
below this one show that both go through related machines and come to related answers. A cache that
changes nothing, a denied type that nobody can see into and a diagnostic that is at its place are three
choices of twins.
-/

namespace LateBound

/-! ## What is told -/

/-- A text between the brackets of an initialiser that is read as an expression, if it is one. -/
inductive Initialiser.Given (raw : String) : List Char → Prop
  | segment {text : List Char} : text ∈ segments raw.toList → Given raw text
  | value {text name value : List Char} : text ∈ segments raw.toList →
      assignment? (Text.trimChars text) = some (name, value) → Given raw value

/-- What holds of the reports of an evaluation. `readable source text node` says that the node of the text
is met when `source` is evaluated, `places` where a failure may say that it arose, and `told` what a report
is. -/
structure Ledger where
  places : Option Span → Prop
  readable : String → String → Expr → Prop
  told : Report → Prop
  placeless : places none
  read {source : String} {tree : Expr} : Expr.parse source = .ok tree →
    ∀ node ∈ tree.nodes, readable source source node
  readSegment {source text raw : String} {target tree : Expr} {span : Span} {given : List Char} :
    readable source text (.initialise target raw span) → Initialiser.Given raw given →
    Expr.parse (String.ofList (Text.trimChars given)) = .ok tree →
    ∀ node ∈ tree.nodes, readable source (String.ofList (Text.trimChars given)) node
  tellFailure {source text : String} {node : Expr} {failure : Failure} (unit : Option String) :
    readable source text node → places failure.span →
    told ⟨.ofFailure (failure.orAt node.span) source unit, text, some node⟩
  tellSyntax {source : String} {error : SyntaxError} (unit : Option String) :
    Expr.parse source = .error error → told ⟨.ofFailure (.ofSyntax error) source unit, source, none⟩

/-- Nothing in particular holds of the reports. -/
abbrev Ledger.any : Ledger where
  places _ := True
  readable _ _ _ := True
  told _ := True
  placeless := trivial
  read _ _ _ := trivial
  readSegment _ _ _ _ _ := trivial
  tellFailure _ _ _ := trivial
  tellSyntax _ _ := trivial

/-! ## What is imported -/

theorem lookup_eq_none_iff_notMem_keys {α β : Type} [BEq α] [LawfulBEq α] {entries : List (α × β)} {key : α} :
    entries.lookup key = none ↔ key ∉ entries.map Prod.fst := by
  rw [List.lookup_eq_none_iff, List.mem_map]
  constructor
  · rintro others ⟨entry, inside, rfl⟩
    simpa using others entry inside
  · intro isNone entry inside
    apply bne_iff_ne.2
    rintro rfl
    exact isNone ⟨entry, inside, rfl⟩

namespace Imports

/-- Every imported type is one that `known` holds of. -/
def All (known : HostType → Prop) (imports : Imports) : Prop :=
  ∀ entry ∈ imports.tables, ∀ label ∈ entry.2.entries, known label.2

variable {known : HostType → Prop} {imports : Imports}

theorem all_empty : Imports.empty.All known :=
  fun _ inside => nomatch inside

theorem All.remove (all : imports.All known) (unit : Option String) : (imports.remove unit).All known :=
  fun entry inside => all entry (List.mem_filter.1 inside).1

theorem All.table (all : imports.All known) {unit : Option String} {table : ImportTable}
    (isTable : imports.table? unit = some table) : ∀ label ∈ table.entries, known label.2 :=
  all _ (mem_of_lookup_eq_some isTable)

theorem All.insert (all : imports.All known) {type : HostType} (isKnown : known type)
    (unit : Option String) (label? : Option String) : (imports.insert unit type label?).All known := by
  have old : ∀ label ∈ ((imports.table? unit).getD .empty).entries, known label.2 := by
    cases isTable : imports.table? unit with
    | none => exact fun _ inside => nomatch inside
    | some table => exact all.table isTable
  intro entry inside
  cases inside with
  | head =>
    refine List.forall_mem_cons.2 ⟨isKnown, fun label kept => ?_⟩
    exact old label (List.mem_filter.1 kept).1
  | tail _ kept => exact all entry (List.mem_filter.1 kept).1

theorem All.resolve (all : imports.All known) {unit : Option String} {name : String} {type : HostType}
    (resolved : imports.resolve? unit name = some type) : known type := by
  obtain ⟨table, isTable, resolved⟩ := Option.bind_eq_some_iff.1 resolved
  have entries := all.table isTable
  obtain labelled | ⟨-, short⟩ := Option.or_eq_some_iff.1 resolved
  · exact entries _ (mem_of_lookup_eq_some labelled)
  · obtain ⟨label, inside, rfl⟩ := List.mem_map.1 (List.mem_of_find?_eq_some short)
    exact entries label inside

end Imports

/-! ## Twins -/

/-- The types have one name, and they are one type if it is admitted. -/
structure Peers (admits : String → Bool) (known : HostType → Prop) (first second : HostType) : Prop where
  names : first.name = second.name
  same : admits first.name = true → first = second ∧ known first

theorem Peers.refl {admits : String → Bool} {known : HostType → Prop} {type : HostType}
    (isKnown : known type) : Peers admits known type type :=
  ⟨rfl, fun _ => ⟨rfl, isKnown⟩⟩

/-- Two gates over memories of two kinds. `linked` relates the memories, `known` holds of the types that
are reached, whose members `permits` allows to run, and `hides` picks out the names behind which values
may differ. -/
structure Twins (μ ν : Type) [Memory μ] [Memory ν] where
  first : Gate
  second : Gate
  ledger : Ledger
  hides : String → Bool
  known : HostType → Prop
  permits : String → Prop
  linked : μ → ν → Prop
  admitSame : first.admits = second.admits
  showSame : ShowSame linked known first second
  describeSame (name : String) : Peers first.admits known (first.describe name) (second.describe name) ∧
    (first.admits name = true → first.describe name = second.describe name ∧ known (first.describe name))
  findSame {type : HostType} {shape : CallShape} : known type → shape.owner = type.name →
    ∀ sort : MemberSort, Coupled linked (Same fun found => ∀ handle ∈ found, sort.Of known handle)
      (sort.find first type shape) (sort.find second type shape)
  parseSame (source : String) :
    Coupled linked (Same (· = Expr.parse source)) (Memory.parse source) (Memory.parse source)
  permitKnown {type : HostType} : known type → permits type.name
  discreet {type : HostType} : known type → type.Discreet hides ledger.places

namespace Twins

variable {μ ν : Type} [Memory μ] [Memory ν] (twins : Twins μ ν)

/-- The memories are still related when both have forgotten what a reload makes stale. No evaluation asks for this. -/
class Forgetful : Prop where
  forgetSame {memory : μ} {memory' : ν} : twins.linked memory memory' →
    twins.linked (Memory.forget memory) (Memory.forget memory')

/-- The machines have come the same way. -/
structure Linked (machine : Machine μ) (machine' : Machine ν) : Prop where
  memory : twins.linked machine.memory machine'.memory
  store : Store.Alike twins.hides machine.store machine'.store
  imports : machine.imports = machine'.imports
  imported : machine.imports.All twins.known
  reported : machine.reported = machine'.reported
  told : ∀ report ∈ machine.reported, twins.ledger.told report
  runs : List.Forall₂ (HostRun.Alike twins.hides) machine.runs machine'.runs
  permitted : ∀ run ∈ machine.runs, twins.permits run.declaring

/-- From linked machines the two actions come to linked machines and related answers. -/
abbrev Runs {α β : Type} (answers : α → β → Prop) (first : Run μ α) (second : Run ν β) : Prop :=
  Coupled twins.Linked answers first second

/-- From linked machines the two actions come to linked machines, and to related answers or to one
failure. -/
abbrev Attempts {α β : Type} (answers : α → β → Prop) (first : Attempt μ α) (second : Attempt ν β) :
    Prop :=
  Coupled twins.Linked (Endings (Same fun failure => twins.ledger.places failure.span) answers)
    first.run second.run

variable {twins} {α β α' β' : Type} {answers : α → β → Prop} {results : α' → β' → Prop}

/-! ## Actions on one part of the machine -/

theorem remember {first : StateM μ α} {second : StateM ν β}
    (coupled : Coupled twins.linked answers first second) :
    twins.Runs answers (.remember first) (.remember second) := by
  refine Coupled.exchange fun machine machine' linked => ?_
  obtain ⟨answered, memory⟩ := coupled _ _ linked.memory
  exact ⟨answered, { linked with memory }⟩

theorem host {run run' : HostRun} {first : Host α} {second : Host α} {answers : α → α → Prop}
    (alike : run.Alike twins.hides run') (permitted : twins.permits run.declaring)
    (acts : Host.ActAlike twins.hides twins.ledger.places answers first second) :
    twins.Runs (Endings (Fault.SameAt twins.ledger.places) answers) (.host run first)
      (.host run' second) := by
  refine Coupled.exchange fun machine machine' linked => ?_
  obtain ⟨ended, store⟩ := acts _ _ linked.store
  exact ⟨ended, { linked with
    store
    runs := .cons alike linked.runs
    permitted := List.forall_mem_cons.2 ⟨permitted, linked.permitted⟩ }⟩

/-! ## Attempts -/

namespace Attempts

theorem pure {a : α} {b : β} (related : answers a b) :
    twins.Attempts answers (Pure.pure a) (Pure.pure b) :=
  Coupled.pureExcept related

theorem fail {cause cause' : Cause} (same : cause = cause') :
    twins.Attempts answers (.fail cause) (.fail cause') :=
  Coupled.fail ⟨congrArg Failure.of same, twins.ledger.placeless⟩

theorem lift {first : Run μ α} {second : Run ν β} (coupled : twins.Runs answers first second) :
    twins.Attempts answers (.lift first) (.lift second) :=
  Coupled.lift coupled

theorem bind {first : Attempt μ α} {second : Attempt ν β} {next : α → Attempt μ α'}
    {follow : β → Attempt ν β'} (head : twins.Attempts answers first second)
    (tail : ∀ a b, answers a b → twins.Attempts results (next a) (follow b)) :
    twins.Attempts results (first >>= next) (second >>= follow) :=
  Coupled.bindExcept head tail

theorem bindSame {good : α → Prop} {first : Attempt μ α} {second : Attempt ν α} {next : α → Attempt μ α'}
    {follow : α → Attempt ν β'} (head : twins.Attempts (Same good) first second)
    (tail : ∀ a, good a → twins.Attempts results (next a) (follow a)) :
    twins.Attempts results (first >>= next) (second >>= follow) := by
  refine bind head fun a _ ⟨same, isGood⟩ => ?_
  subst same
  exact tail a isGood

/-- What is found for one twin is found for the other, or both have found nothing. -/
theorem bindFound {good : α → Prop} {first : Attempt μ (Option α)} {second : Attempt ν (Option α)}
    {next : Option α → Attempt μ α'} {follow : Option α → Attempt ν β'}
    (search : twins.Attempts (Same fun found => ∀ a ∈ found, good a) first second)
    (vain : twins.Attempts results (next none) (follow none))
    (tail : ∀ a, good a → twins.Attempts results (next (some a)) (follow (some a))) :
    twins.Attempts results (first >>= next) (second >>= follow) := by
  refine bindSame search fun found isGood => ?_
  cases found with
  | none => exact vain
  | some a => exact tail a (isGood a rfl)

end Attempts

end Twins

end LateBound
