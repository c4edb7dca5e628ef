import LateBound.Proofs.Diagnostics
import LateBound.Proofs.Importing
import LateBound.Proofs.Precedence

/-!
# Import tables follow the last import

The imports that were made into a unit since it was last dropped determine its table: a name stands for the type that
was last imported under it, and else for a type that is still imported and has it for a short name. Imports into other
units, imports that fail and everything else that is performed have no part in it.
-/

namespace LateBound

/-! ## The table of a list of imports -/

/-- The imports into one unit, the last one in front: labels with types. -/
abbrev Made := List (String × HostType)

def Made.table (made : Made) : ImportTable :=
  made.foldr (fun entry table => table.insert entry.2 (some entry.1)) .empty

/-- There is a table as soon as something has been imported. -/
def Made.table? (made : Made) : Option ImportTable :=
  if made.isEmpty then none else some made.table

namespace Made

variable {made : Made} {name label : String} {type : HostType}

@[simp] theorem getD_table? (made : Made) : made.table?.getD .empty = made.table := by
  cases made <;> rfl

theorem resolve?_of_table? (made : Made) (name : String) :
    made.table?.bind (·.resolve? name) = made.table.resolve? name := by
  cases made <;> rfl

theorem lookup_table (made : Made) (name : String) : made.table.entries.lookup name = made.lookup name := by
  induction made with
  | nil => rfl
  | cons entry made inductionHypothesis =>
    obtain ⟨label, type⟩ := entry
    show ((label, type) :: (table made).entries.filter (·.1 != label)).lookup name = _
    by_cases same : name = label
    · simp [same]
    · simp [List.lookup_cons, beq_eq_false_iff_ne.2 same, lookup_filter_of_ne same, inductionHypothesis]

theorem mem_table_iff : (label, type) ∈ made.table.entries ↔ made.lookup label = some type := by
  induction made with
  | nil => simp [table, ImportTable.empty]
  | cons entry made inductionHypothesis =>
    obtain ⟨other, imported⟩ := entry
    show (label, type) ∈ (other, imported) :: (table made).entries.filter (·.1 != other) ↔ _
    by_cases same : label = other
    · simp [same, eq_comm]
    · simp [List.lookup_cons, beq_eq_false_iff_ne.2 same, same, inductionHypothesis]

/-- The type is still imported, under whatever label, and has the name for a short name. -/
def HasShort (made : Made) (name : String) (type : HostType) : Prop :=
  type.shortName = name ∧ ∃ label, made.lookup label = some type

theorem hasShort_iff : made.HasShort name type ↔
    type ∈ made.table.entries.map Prod.snd ∧ (type.shortName == name) = true := by
  simp [HasShort, ← mem_table_iff, and_comm]

/-- A name is resolved as the imports say: to the type last imported under it; if there is none, to the one type that
is still imported and has it for a short name; if there is none either, to nothing. -/
structure Resolves (made : Made) (name : String) (resolved : Option HostType) : Prop where
  labelled (type : HostType) : made.lookup name = some type → resolved = some type
  short (type : HostType) : made.lookup name = none → (∀ other, made.HasShort name other ↔ other = type) →
    resolved = some type
  neither : made.lookup name = none → (∀ type, ¬ made.HasShort name type) → resolved = none

theorem resolves (made : Made) (name : String) : made.Resolves name (made.table.resolve? name) := by
  unfold ImportTable.resolve?
  rw [lookup_table]
  constructor
  case labelled =>
    intro type labelled
    rw [labelled]
    rfl
  case short =>
    intro type unlabelled one
    rw [unlabelled, Option.none_or]
    obtain ⟨isImported, isShort⟩ := hasShort_iff.1 ((one type).2 rfl)
    cases found : (made.table.entries.map Prod.snd).find? (·.shortName == name) with
    | none => exact absurd isShort (List.find?_eq_none.1 found type isImported)
    | some other =>
      have isShort : (other.shortName == name) = true := by simpa using List.find?_some found
      have hasShort := hasShort_iff.2 ⟨List.mem_of_find?_eq_some found, isShort⟩
      rw [(one other).1 hasShort]
  case neither =>
    intro unlabelled nobody
    rw [unlabelled, Option.none_or, List.find?_eq_none]
    intro type isImported isShort
    exact nobody type (hasShort_iff.2 ⟨isImported, isShort⟩)

end Made

/-! ## Operations -/

namespace Operation

/-- What an operation does to the imports, all units together. -/
def importsAfter (gate : Gate) (tables : Imports) : Operation → Imports
  | addImport unit name label? => (gate.lookup name).importInto tables unit label?
  | removeUnit unit => tables.remove unit
  | clearAll => .empty
  | evaluate .. | expandTemplate .. | callMethod .. | construct .. | getField .. | setField .. => tables

/-- What an operation does to the imports that were made into one unit. -/
def record (gate : Gate) (unit : Option String) (made : Made) : Operation → Made
  | addImport other name label? =>
    match (gate.lookup name).type? with
    | some type => if Imports.key unit = Imports.key other then (label?.getD type.shortName, type) :: made else made
    | none => made
  | removeUnit other => if Imports.key unit = Imports.key other then [] else made
  | clearAll => []
  | evaluate .. | expandTemplate .. | callMethod .. | construct .. | getField .. | setField .. => made

/-- The successful imports into a unit since it was last dropped, the last one in front. -/
def made (gate : Gate) (unit : Option String) (operations : List Operation) : Made :=
  operations.foldl (fun made operation => operation.record gate unit made) []

/-- The table of a unit stays the one of the imports that were made into it. -/
theorem table?_importsAfter (gate : Gate) (operation : Operation) {tables : Imports} {unit : Option String}
    {made : Made} (isTable : tables.table? unit = made.table?) :
    (operation.importsAfter gate tables).table? unit = (operation.record gate unit made).table? := by
  cases operation with
  | evaluate | expandTemplate | callMethod | construct | getField | setField => exact isTable
  | clearAll => rfl
  | removeUnit other =>
    by_cases same : Imports.key unit = Imports.key other
    · have dropped : (tables.remove other).table? unit = (tables.remove other).table? other :=
        Imports.table?_congr same _
      simp [importsAfter, record, same, dropped, Made.table?]
    · simp [importsAfter, record, same, Imports.table?_remove_of_ne same, isTable]
  | addImport other name label? =>
    cases answer : gate.lookup name with
    | notFound | denied => simpa [importsAfter, record, answer, Lookup.importInto, Lookup.type?] using isTable
    | found type =>
      simp only [importsAfter, record, answer, Lookup.importInto, Lookup.type?, Imports.insert]
      by_cases same : Imports.key unit = Imports.key other
      · -- The unit may be named otherwise here than in the operation, but it has one table.
        rw [Imports.table?_congr same, Imports.table?_setTable_self, ← Imports.table?_congr same, isTable]
        simp only [same, if_true, Made.getD_table?]
        rfl
      · simp [same, Imports.table?_setTable_of_ne same, isTable]

end Operation

/-! ## Engines -/

namespace Engine

variable {μ : Type} [Memory μ]

theorem imports_observe (operation : Operation) {engine : Engine μ} (truthful : engine.Truthful) :
    ((observe operation).run engine).2.machine.imports =
      operation.importsAfter engine.gate engine.machine.imports := by
  show ((perform operation).run engine).2.machine.imports = _
  cases operation with
  | evaluate context text => exact (LeavesImports.evaluate context text).imports engine
  | expandTemplate context text => exact (LeavesImports.expandTemplate context text).imports engine
  | callMethod target name args =>
    exact (LeavesImports.of_silent fun gate _ => silent_callMember gate target name args).imports engine
  | construct typeName args =>
    have leaves : LeavesImports (μ := μ) (constructType typeName args) := LeavesImports.of_silent fun gate _ =>
      .bind (silent_requireType gate typeName) fun type => silent_construct gate type args
    exact leaves.imports engine
  | getField target name =>
    exact (LeavesImports.of_silent fun gate _ => silent_readField gate target name).imports engine
  | setField target name value =>
    exact (LeavesImports.of_silent fun gate _ => silent_writeField gate target name value).imports engine
  | addImport unit name label? => exact truthful.imports_addImport unit name label?
  | removeUnit unit => rfl
  | clearAll => rfl

abbrev Kept (gate : Gate) (engine : Engine Caches) : Prop :=
  (Twins.itself gate .any fun type _ => type.discreet_none).Engines engine engine

variable {gate : Gate} {engine : Engine Caches}

theorem Kept.truthful (kept : engine.Kept gate) : engine.Truthful := by
  intro name
  obtain ⟨-, caches⟩ := kept.machine.memory
  rw [kept.first]
  exact (caches.types.lookup name).1

theorem Kept.observe (kept : engine.Kept gate) (operation : Operation) :
    ((Engine.observe operation).run engine).2.Kept gate :=
  (Twins.observe operation.alike_self engine engine kept).2

theorem kept_cached (gate : Gate) (settings : Settings) (store : Store) : (cached gate settings store).Kept gate := by
  have caches : Caches.KeptBoth gate (.empty settings.treeCapacity) (.empty settings.treeCapacity) :=
    ⟨rfl, Caches.kept_empty gate settings.treeCapacity⟩
  let twins := Twins.itself gate .any fun type _ => type.discreet_none
  exact twins.start caches settings rfl

theorem after_cons (engine : Engine μ) (operation : Operation) (operations : List Operation) :
    engine.after (operation :: operations) = ((observe operation).run engine).2.after operations := by
  unfold after
  rw [List.mapM_cons]
  rfl

/-- Whatever is performed, the table of a unit is the one of the imports that were made into it. -/
theorem Kept.table?_after (kept : engine.Kept gate) (operations : List Operation) {unit : Option String} {made : Made}
    (isTable : engine.machine.imports.table? unit = made.table?) :
    (engine.after operations).Kept gate ∧ (engine.after operations).machine.imports.table? unit =
      Made.table? (operations.foldl (fun made operation => operation.record gate unit made) made) := by
  induction operations generalizing engine made with
  | nil => exact ⟨kept, isTable⟩
  | cons operation operations inductionHypothesis =>
    rw [after_cons]
    apply inductionHypothesis (kept.observe operation)
    rw [imports_observe operation kept.truthful, kept.first]
    exact operation.table?_importsAfter gate isTable

end Engine

/-- Import tables are per unit and follow the last import. -/
theorem imports_follow_last (gate : Gate) (settings : Settings) (store : Store) (operations : List Operation) :
    let engine := (Engine.cached gate settings store).after operations
    (∀ unit,
      let made := Operation.made gate unit operations
      engine.machine.imports.table? unit = made.table? ∧
        ∀ name, made.Resolves name (engine.machine.imports.resolve? unit name)) ∧
    (∀ name, engine.machine.imports.resolve? none name = engine.machine.imports.resolve? (some globalUnit) name) ∧
    ∀ unit name label?,
      let added := (Engine.addImport unit name label?).run engine
      ((∃ failure, added.1 = .error failure) ↔ gate.find? name = none ∨ gate.admits name = false) ∧
        ∀ failure, added.1 = .error failure → added.2.machine.imports = engine.machine.imports ∧
          added.2.statistics.importUnits = engine.statistics.importUnits := by
  intro engine
  have isNew (unit : Option String) : (Engine.cached gate settings store).machine.imports.table? unit = Made.table? [] :=
    rfl
  have kept := Engine.kept_cached gate settings store
  have truthful : engine.Truthful := (kept.table?_after operations (isNew none)).1.truthful
  have isGate : engine.gate = gate := (kept.table?_after operations (isNew none)).1.first
  refine ⟨?tables, ?global, ?failing⟩
  case tables =>
    intro unit made
    have isTable : engine.machine.imports.table? unit = made.table? := (kept.table?_after operations (isNew unit)).2
    refine ⟨isTable, fun name => ?_⟩
    unfold Imports.resolve?
    rw [isTable, made.resolve?_of_table?]
    exact made.resolves name
  case global =>
    intro name
    rfl
  case failing =>
    intro unit name label? added
    have answered := truthful.answer_addImport unit name label?
    have changed := truthful.imports_addImport unit name label?
    rw [isGate] at answered changed
    constructor
    · show (∃ failure, added.1 = _) ↔ _
      rw [answered]
      exact gate.exists_required_error_iff name
    · intro failure refused
      have refused := answered.symm.trans refused
      have unchanged : added.2.machine.imports = engine.machine.imports := by
        rw [← Lookup.importInto_of_error refused engine.machine.imports unit label?]
        exact changed
      exact ⟨unchanged, congrArg Imports.size unchanged⟩

def bareType (name : String) : HostType :=
  ⟨name, none, none, [], [], []⟩

def twoTypes : Gate :=
  Engine.gateOf ⟨[bareType "a.Point", bareType "b.Other"]⟩ .all

def overwriting : List Operation :=
  [.addImport none "a.Point" none, .addImport (some "x") "a.Point" none,
    .addImport (some globalUnit) "b.Other" (some "Point"), .removeUnit (some "x")]

/-- The overwritten name stands for the second type, whose short name does so too, and the first type is gone. -/
theorem imports_follow_last_overwriting :
    let engine := (Engine.cached twoTypes .standard).after overwriting
    let imports := engine.machine.imports
    imports.resolve? none "Point" = some (bareType "b.Other") ∧
      imports.resolve? none "Other" = some (bareType "b.Other") ∧
      imports.resolve? (some "x") "Point" = none ∧
      ((Engine.addImport none "c.Missing" none).run engine).2.statistics.importUnits =
        engine.statistics.importUnits := by
  have follows := imports_follow_last twoTypes .standard .empty overwriting
  generalize (Engine.cached twoTypes .standard).after overwriting = engine at follows ⊢
  intro engine imports
  obtain ⟨tables, -, failing⟩ := follows
  have made : Operation.made twoTypes none overwriting =
      [("Point", bareType "b.Other"), ("Point", bareType "a.Point")] := rfl
  have dropped : Operation.made twoTypes (some "x") overwriting = [] := rfl
  have resolves := (tables none).2
  rw [made] at resolves
  refine ⟨(resolves "Point").labelled _ rfl, ?short, ?gone, ?refused⟩
  case short =>
    apply (resolves "Other").short _ rfl
    intro other
    constructor
    · rintro ⟨-, label, imported⟩
      by_cases isPoint : label = "Point"
      · subst isPoint
        exact (Option.some.inj imported).symm
      · simp [List.lookup_cons, beq_eq_false_iff_ne.2 isPoint] at imported
    · rintro rfl
      exact ⟨by cbv, "Point", rfl⟩
  case gone =>
    have resolves := (tables (some "x")).2 "Point"
    rw [dropped] at resolves
    apply resolves.neither rfl
    rintro type ⟨-, label, imported⟩
    cases imported
  case refused =>
    obtain ⟨refuses, unchanged⟩ := failing none "c.Missing" none
    obtain ⟨failure, refused⟩ := refuses.2 (.inl rfl)
    exact (unchanged failure refused).2

end LateBound
