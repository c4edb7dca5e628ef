import LateBound.Proofs.BalancedSegments
import LateBound.Proofs.TextMethods

/-!
# The views of an enum constant

A constant is made four times when an enum is described: for its static field, for the list of all constants, for the
search by its exact name and for texts that are brought to a parameter of the enum. All of them count the constants in
the order of their declaration, so that they give one value. A text that only resembles a name counts for it when it
resembles no other.
-/

namespace LateBound

namespace HostType

/-! ## Distinct keys -/

section

variable {pairs : List (String × Value)} (distinct : (pairs.map Prod.fst).Nodup) {place : ℕ} {key : String}
  {value : Value} (isThere : pairs[place]? = some (key, value))

include distinct isThere

theorem exists_before_of_distinct :
    ∃ before behind, pairs = before ++ (key, value) :: behind ∧ ∀ pair ∈ before, pair.1 ≠ key := by
  obtain ⟨inside, isEntry⟩ := List.getElem?_eq_some_iff.1 isThere
  have isSplit : pairs = pairs.take place ++ (key, value) :: pairs.drop (place + 1) := by
    rw [← isEntry, List.getElem_cons_drop, List.take_append_drop]
  refine ⟨_, _, isSplit, fun pair isBefore same => ?_⟩
  rw [isSplit, List.map_append, List.map_cons] at distinct
  exact (List.nodup_append.1 distinct).2.2 pair.1 (List.mem_map_of_mem isBefore) key List.mem_cons_self same

theorem lookup_of_distinct : pairs.lookup key = some value := by
  obtain ⟨before, behind, isSplit, others⟩ := exists_before_of_distinct distinct isThere
  refine List.lookup_eq_some_iff.2 ⟨before, behind, isSplit, fun pair inside => ?_⟩
  exact bne_iff_ne.2 (others pair inside).symm

theorem find?_of_distinct : pairs.find? (·.1 == key) = some (key, value) := by
  obtain ⟨before, behind, isSplit, others⟩ := exists_before_of_distinct distinct isThere
  refine List.find?_eq_some_iff_append.2 ⟨beq_self_eq_true key, before, behind, isSplit, fun pair inside => ?_⟩
  simpa using others pair inside

end

/-! ## The description of an enum -/

def holding (declared : ParamType) (pair : String × Value) : Field :=
  ⟨pair.1, declared, true, true, true, fun _ => pure pair.2, none⟩

@[simp]
theorem holding_name (declared : ParamType) (pair : String × Value) : (holding declared pair).name = pair.1 :=
  rfl

theorem foldl_staticField (declared : ParamType) (pairs : List (String × Value)) (type : HostType)
    (distinct : (type.fields.map Field.name ++ pairs.map Prod.fst).Nodup) :
    pairs.foldl (fun type (constant, value) => type.staticField constant declared (pure value)) type =
      { type with fields := type.fields ++ pairs.map (holding declared) } := by
  induction pairs generalizing type with
  | nil => simp
  | cons pair pairs inductionHypothesis =>
    have fresh : type.fields.filter (·.name != pair.1) = type.fields := by
      refine List.filter_eq_self.2 fun field isField => bne_iff_ne.2 fun isSame => ?_
      exact (List.nodup_append.1 distinct).2.2 field.name (List.mem_map_of_mem isField) pair.1 List.mem_cons_self isSame
    have added : type.staticField pair.1 declared (pure pair.2) =
        { type with fields := type.fields ++ [holding declared pair] } := by
      rw [staticField, addField]
      simp only [fresh]
      rfl
    rw [List.foldl_cons]
    dsimp only
    rw [added, inductionHypothesis]
    · simp
    · simpa using distinct

section

variable {name : String} {constants : List String}

theorem map_fst_namedValues : (namedValues name constants).map Prod.fst = constants :=
  List.map_fst_zip (by rw [constantValues, List.length_mapIdx])

theorem getElem?_namedValues (name : String) {ordinal : ℕ} {constant : String}
    (isConstant : constants[ordinal]? = some constant) :
    (namedValues name constants)[ordinal]? = some (constant, .enum ⟨name, constant, ordinal⟩) := by
  rw [namedValues, List.getElem?_zip_eq_some, constantValues, List.getElem?_mapIdx, isConstant]
  exact ⟨rfl, rfl⟩

def withConstants (name : String) (constants : List String) : HostType :=
  { HostType.empty name with
    constants? := some constants
    fields := (namedValues name constants).map (holding (.enum name)) }

variable (distinct : constants.Nodup)

include distinct

theorem enumeration_eq : enumeration name constants = (withConstants name constants).constantMethods constants := by
  refine congrArg (constantMethods · constants) (foldl_staticField (.enum name) _ _ ?_)
  show ([] ++ (namedValues name constants).map Prod.fst).Nodup
  rwa [List.nil_append, map_fst_namedValues]

theorem field?_enumeration {ordinal : ℕ} {constant : String} (isConstant : constants[ordinal]? = some constant) :
    (enumeration name constants).field? constant =
      some (holding (.enum name) (constant, .enum ⟨name, constant, ordinal⟩)) := by
  have found := find?_of_distinct (by rwa [map_fst_namedValues]) (getElem?_namedValues name isConstant)
  have described : (enumeration name constants).fields = (namedValues name constants).map (holding (.enum name)) :=
    congrArg HostType.fields (enumeration_eq distinct)
  rw [field?, described, List.find?_map]
  exact congrArg (Option.map _) found

variable {gate : Gate} (named : gate.Named)

include named

theorem outcome_values :
    StaticOutcome gate (enumeration name constants) "values" [] (.ok (.list (constantValues name constants))) := by
  rw [enumeration_eq distinct]
  refine ⟨_, Callee.found_of_strict named rfl rfl ?_, fun _ => rfl⟩
  exact List.Forall₂.nil

theorem outcome_valueOf {ordinal : ℕ} {constant : String} (isConstant : constants[ordinal]? = some constant) :
    StaticOutcome gate (enumeration name constants) "valueOf" [.str constant]
      (.ok (.enum ⟨name, constant, ordinal⟩)) := by
  have found := lookup_of_distinct (by rwa [map_fst_namedValues]) (getElem?_namedValues name isConstant)
  rw [enumeration_eq distinct]
  refine ⟨_, Callee.found_of_strict named rfl rfl ?_, fun store => ?_⟩
  · exact .cons (.exact .strict rfl) .nil
  · show (constantNamed name constants constant).run.run store = _
    rw [constantNamed, found]
    rfl

theorem found_name (constant : EnumValue) :
    ∃ handle, (Callee.method "name").found gate (enumeration name constants) [] = some handle ∧
      ∀ store, handle.member.ending (some (.enum constant)) (([] : List Value).zipWith gate.passed handle.member.params)
        store = (.ok (.str constant.constant), store) := by
  rw [enumeration_eq distinct]
  refine ⟨_, Callee.found_of_strict named rfl rfl ?_, fun _ => rfl⟩
  exact List.Forall₂.nil

theorem found_ordinal (constant : EnumValue) :
    ∃ handle, (Callee.method "ordinal").found gate (enumeration name constants) [] = some handle ∧
      ∀ store, handle.member.ending (some (.enum constant)) (([] : List Value).zipWith gate.passed handle.member.params)
        store = (.ok (.int (Int32.ofNat constant.ordinal)), store) := by
  rw [enumeration_eq distinct]
  refine ⟨_, Callee.found_of_strict named rfl rfl ?_, fun _ => rfl⟩
  exact List.Forall₂.nil

omit named

theorem constant?_enumeration (text : String) :
    (enumeration name constants).constant? text =
      ((constants.findIdx? (· == text)).or (constants.findIdx? (equalsIgnoringCase · (looseName text)))).map
        fun ordinal => .enum ⟨name, constants[ordinal]?.getD "", ordinal⟩ := by
  rw [enumeration_eq distinct]
  rfl

theorem findIdx?_of_only {counts : String → Bool} {ordinal : ℕ} {constant : String}
    (isConstant : constants[ordinal]? = some constant)
    (only : ∀ other ∈ constants, counts other = true ↔ other = constant) :
    constants.findIdx? counts = some ordinal := by
  obtain ⟨inside, isThere⟩ := List.getElem?_eq_some_iff.1 isConstant
  refine List.findIdx?_eq_some_iff_getElem.2 ⟨inside, ?_, fun earlier sooner => ?_⟩
  · exact (only _ (List.getElem_mem inside)).2 isThere
  · rw [only _ (List.getElem_mem _), ← isThere, distinct.getElem_inj_iff]
    exact sooner.ne

theorem constant?_of_exact {ordinal : ℕ} {constant : String} (isConstant : constants[ordinal]? = some constant) :
    (enumeration name constants).constant? constant = some (.enum ⟨name, constant, ordinal⟩) := by
  rw [constant?_enumeration distinct, findIdx?_of_only distinct isConstant fun _ _ => beq_iff_eq]
  simp [isConstant]

end

/-! ## Texts that resemble a name -/

structure TrimsTo (text core : List Char) : Prop where
  around : ∃ front behind, text = front ++ (core ++ behind) ∧ (∀ c ∈ front, Text.isBlank c = true) ∧
    ∀ c ∈ behind, Text.isBlank c = true
  first : ∀ c ∈ core.head?, Text.isBlank c = false
  last : ∀ c ∈ core.getLast?, Text.isBlank c = false

theorem dropWhile_of_head? {p : Char → Bool} {text : List Char} (isFirst : ∀ c ∈ text.head?, p c = false) :
    text.dropWhile p = text := by
  cases text with
  | nil => rfl
  | cons c text => exact List.dropWhile_cons_of_neg (ne_true_of_eq_false (isFirst c rfl))

theorem head?_dropWhile_isBlank {text : List Char} {c : Char} (isFirst : c ∈ (text.dropWhile Text.isBlank).head?) :
    Text.isBlank c = false := by
  have first := List.head?_dropWhile_not Text.isBlank text
  rw [Option.mem_def.1 isFirst] at first
  exact first

theorem trimsTo_iff {text core : List Char} : TrimsTo text core ↔ Text.trimChars text = core := by
  constructor
  · rintro ⟨⟨front, behind, rfl, inFront, isBehind⟩, first, last⟩
    have isReversed : ∀ c ∈ core.reverse.head?, Text.isBlank c = false := by
      rwa [List.head?_reverse]
    rw [Initialiser.trimChars_blanks_append inFront, Initialiser.trimChars_append_blanks isBehind, Text.trimChars,
      dropWhile_of_head? first, dropWhile_of_head? isReversed, List.reverse_reverse]
  · rintro rfl
    refine ⟨Initialiser.exists_trimChars text, fun c isFirst => ?_, fun c isLast => ?_⟩
    · -- What is taken off the end leaves the first character as it is.
      have isPrefix : Text.trimChars text <+: text.dropWhile Text.isBlank := by
        rw [Text.trimChars, ← List.reverse_suffix, List.reverse_reverse]
        exact List.dropWhile_suffix _
      obtain ⟨behind, isText⟩ := isPrefix
      refine @head?_dropWhile_isBlank text c ?_
      rw [← isText, List.head?_append, Option.mem_def.1 isFirst]
      rfl
    · rw [Text.trimChars, List.getLast?_reverse] at isLast
      exact head?_dropWhile_isBlank isLast

/-- A text spells a name when it is the name but for blanks around it, spaces in place of underscores and the case of
ASCII letters. -/
def Spells (text name : List Char) : Prop :=
  ∃ core, TrimsTo text core ∧ core.map (fun c => (if c = ' ' then '_' else c).toLower) = name.map Char.toLower

theorem equalsIgnoringCase_looseName_iff {text name : String} :
    equalsIgnoringCase name (looseName text) = true ↔ Spells text.toList name.toList := by
  rw [equalsIgnoringCase, looseName, String.toList_ofList, List.map_map, beq_iff_eq]
  constructor
  · intro same
    exact ⟨_, trimsTo_iff.2 rfl, same.symm⟩
  · rintro ⟨core, trims, same⟩
    rw [trimsTo_iff.1 trims]
    exact same.symm

theorem constant?_of_spells {name : String} {constants : List String} (distinct : constants.Nodup) {ordinal : ℕ}
    {constant text : String} (isConstant : constants[ordinal]? = some constant) (notExact : text ∉ constants)
    (spells : ∀ other ∈ constants, Spells text.toList other.toList ↔ other = constant) :
    (enumeration name constants).constant? text = some (.enum ⟨name, constant, ordinal⟩) := by
  have noneExact : constants.findIdx? (· == text) = none :=
    List.findIdx?_eq_none_iff.2 fun other isOther => beq_false_of_ne fun same => notExact (same ▸ isOther)
  have only (other : String) (isOther : other ∈ constants) :
      equalsIgnoringCase other (looseName text) = true ↔ other = constant :=
    equalsIgnoringCase_looseName_iff.trans (spells other isOther)
  rw [constant?_enumeration distinct, noneExact, findIdx?_of_only distinct isConstant only]
  simp [isConstant]

/-! ## One value for all views -/

/-- A text for a parameter of a visible enum is the constant that it names. -/
theorem passed_constant {gate : Gate} {type : HostType} {text : String} {value : Value}
    (shown : gate.lookup type.name = .found type) (isConstant : type.constant? text = some value) :
    gate.passed (.str text) (.enum type.name) = value := by
  have found : ((gate.lookup type.name).type?).bind (·.constant? text) = some value := by
    rw [shown]
    exact isConstant
  exact congrArg (Option.getD · _) found

/-- What an engine gives for a constant of an enum: one value in every view, with the name and the place of the
constant, the place as a 32-bit word, and the same value for every text that spells this name and no other. -/
structure ShowsConstant (engine : Engine Caches) (type : HostType) (constants : List String) (constant : String)
    (ordinal : ℕ) (value : Value) : Prop where
  field : ((Engine.getField (.type type.ref) constant).run engine).1 = .ok value
  valueOf : engine.answer (.type type.ref) "valueOf" [.str constant] = .ok value
  values : ∃ all, engine.answer (.type type.ref) "values" [] = .ok (.list all) ∧ all[ordinal]? = some value
  brought : engine.brought (.str constant) (.enum type.name) = value
  name : engine.answer value "name" [] = .ok (.str constant)
  ordinal : engine.answer value "ordinal" [] = .ok (.int (Int32.ofNat ordinal)) ∧
    (ordinal < 2 ^ 31 → (Int32.ofNat ordinal).toInt = ordinal)
  resembling : ∀ text : String, text ∉ constants →
    (∀ other ∈ constants, Spells text.toList other.toList ↔ other = constant) →
      engine.brought (.str text) (.enum type.name) = value

/-- Every view of a constant of a visible enum gives the same value. -/
theorem enum_views_agree {registry : Registry} {policy : AllowList} {name : String} {constants : List String}
    (distinct : constants.Nodup)
    (shown : (Engine.gateOf registry policy).lookup name = .found (enumeration name constants)) (settings : Settings)
    (store : Store) (operations : List Operation) {ordinal : ℕ} {constant : String}
    (isConstant : constants[ordinal]? = some constant) :
    ShowsConstant ((Engine.cached (Engine.gateOf registry policy) settings store).after operations)
      (enumeration name constants) constants constant ordinal (.enum ⟨name, constant, ordinal⟩) := by
  have named : (Engine.gateOf registry policy).Named := fun _ _ => Registry.name_of_find?
  have isName : (enumeration name constants).name = name := congrArg HostType.name (enumeration_eq distinct)
  have shown : (Engine.gateOf registry policy).lookup (enumeration name constants).name =
      .found (enumeration name constants) := by rwa [isName]
  have isOwner : (Value.enum ⟨name, constant, ordinal⟩).runtimeTypeName? = some (enumeration name constants).name :=
    congrArg some isName.symm
  have plain : (Value.enum ⟨name, constant, ordinal⟩).unwrapped = .enum ⟨name, constant, ordinal⟩ := rfl
  constructor
  · exact getField_of_holds shown settings store operations (field?_enumeration distinct isConstant) rfl rfl rfl
  · exact answer_type_of_ok shown settings store operations (outcome_valueOf distinct named isConstant)
  · refine ⟨_, answer_type_of_ok shown settings store operations (outcome_values distinct named), ?_⟩
    rw [constantValues, List.getElem?_mapIdx, isConstant]
    rfl
  · exact (brought_after settings store operations _ _).trans
      (passed_constant shown (constant?_of_exact distinct isConstant))
  · obtain ⟨handle, isFound, ends⟩ := found_name distinct named ⟨name, constant, ordinal⟩
    exact answer_of_found shown settings store operations plain (fun _ => nofun) isOwner isFound ends
  · obtain ⟨handle, isFound, ends⟩ := found_ordinal distinct named ⟨name, constant, ordinal⟩
    exact ⟨answer_of_found shown settings store operations plain (fun _ => nofun) isOwner isFound ends,
      Int32.toInt_ofNat_of_lt⟩
  · intro text notExact spells
    exact (brought_after settings store operations _ _).trans
      (passed_constant shown (constant?_of_spells distinct isConstant notExact spells))

/-- The second of two constants, and a text that spells it. -/
theorem enum_views_agree_darkRed :
    let constants := ["LIGHT", "DARK_RED"]
    let shade := enumeration "Shade" constants
    let gate := Engine.gateOf ⟨[shade]⟩ .all
    let engine := Engine.cached gate .standard
    constants.Nodup ∧ gate.lookup "Shade" = .found shade ∧ constants[1]? = some "DARK_RED" ∧
      ShowsConstant engine shade constants "DARK_RED" 1 (.enum ⟨"Shade", "DARK_RED", 1⟩) ∧
      engine.brought (.str " dark red") (.enum "Shade") = .enum ⟨"Shade", "DARK_RED", 1⟩ := by
  intro constants shade gate engine
  have distinct : constants.Nodup := by decide
  have shown : gate.lookup "Shade" = .found shade := rfl
  have isConstant : constants[1]? = some "DARK_RED" := rfl
  have shows := enum_views_agree distinct shown .standard .empty [] isConstant
  refine ⟨distinct, shown, isConstant, shows, shows.resembling " dark red" (by decide) fun other isOther => ?_⟩
  rw [← equalsIgnoringCase_looseName_iff]
  obtain rfl | rfl : other = "LIGHT" ∨ other = "DARK_RED" := by simpa [constants] using isOther
  · decide
  · decide

end HostType

end LateBound
