import LateBound.Proofs.Payloads
import LateBound.Proofs.Precedence

/-!
# What a member is passed

A call is resolved by the tags of its arguments, perhaps from what the engine remembers of an earlier call, but
its arguments are converted by their values. Both agree: a resolved call passes one value for each argument and
each parameter, and a value is not of its parameter's shape only where a text or a number does not denote any
value there. When the member fails, the first such value is blamed.
-/

namespace LateBound

/-! ## Converting one argument -/

/-- An argument that nothing of a parameter's type is made of: a text that denotes no value of the primitive or
of the visible enum, or a number that is passed for a character and whose whole part is the code of none. -/
inductive Gate.Unconvertible (gate : Gate) (arg : Value) : ParamType → Prop
  | primitive {text : String} {kind : Primitive} : arg.unwrapped = .str text → readPrimitive? text kind = none →
      Unconvertible gate arg (.primitive kind)
  | constant {text typeName : String} : arg.unwrapped = .str text →
      (∀ type, gate.lookup typeName = .found type → type.constant? text = none) →
      Unconvertible gate arg (.enum typeName)
  | char {whole : Int} : arg.toInteger? = some whole → (∀ c : Char, (c.toNat : Int) ≠ whole) →
      Unconvertible gate arg (.primitive .char)

namespace Value

theorem exists_text {value : Value} (isText : value.tag = .str) : ∃ text, value.unwrapped = .str text := by
  rw [← tag_unwrapped] at isText
  cases shape : value.unwrapped with
  | str text => exact ⟨text, rfl⟩
  | wrapped origin inner => exact absurd shape (unwrapped_ne_wrapped origin inner value)
  | _ =>
    rw [shape] at isText
    cases isText

theorem exists_constant {value : Value} {typeName : String} (isConstant : value.tag = .enum typeName) :
    ∃ constant, value.unwrapped = .enum constant ∧ constant.typeName = typeName := by
  rw [← tag_unwrapped] at isConstant
  cases shape : value.unwrapped with
  | enum constant =>
    rw [shape] at isConstant
    exact ⟨constant, rfl, Tag.enum.inj isConstant⟩
  | wrapped origin inner => exact absurd shape (unwrapped_ne_wrapped origin inner value)
  | _ =>
    rw [shape] at isConstant
    cases isConstant

theorem unwrapped_of_tag_null {value : Value} (isNull : value.tag = .null) : value.unwrapped = .null := by
  rw [← tag_unwrapped] at isNull
  cases shape : value.unwrapped with
  | null => rfl
  | wrapped origin inner => exact absurd shape (unwrapped_ne_wrapped origin inner value)
  | _ =>
    rw [shape] at isNull
    cases isNull

theorem toInteger?_unwrapped (value : Value) : value.unwrapped.toInteger? = value.toInteger? := by
  rw [toInteger?, toInteger?, unwrapped_unwrapped]

theorem toFloat?_unwrapped (value : Value) : value.unwrapped.toFloat? = value.toFloat? := by
  rw [toFloat?, toFloat?, unwrapped_unwrapped]

theorem toFloat32?_unwrapped (value : Value) : value.unwrapped.toFloat32? = value.toFloat32? := by
  rw [toFloat32?, toFloat32?, unwrapped_unwrapped]

theorem exists_number {value : Value} (isNumber : value.isNumeric = true) :
    (∃ whole, value.toInteger? = some whole) ∧ (∃ single, value.toFloat32? = some single) ∧
      ∃ double, value.toFloat? = some double := by
  rw [isNumeric, ← tag_unwrapped] at isNumber
  rw [← toInteger?_unwrapped, ← toFloat32?_unwrapped, ← toFloat?_unwrapped]
  cases shape : value.unwrapped with
  | byte _ | short _ | int _ | long _ | float _ | double _ | char _ => exact ⟨⟨_, rfl⟩, ⟨_, rfl⟩, ⟨_, rfl⟩⟩
  | null | bool _ | str _ | enum _ | object _ | type _ | list _ =>
    rw [shape] at isNumber
    cases isNumber
  | wrapped origin inner => exact absurd shape (unwrapped_ne_wrapped origin inner value)

theorem charOfCode?_eq_none_iff {code : Int} : charOfCode? code = none ↔ ∀ c : Char, (c.toNat : Int) ≠ code := by
  unfold charOfCode?
  split
  · next isCode =>
    refine iff_of_false (fun none => nomatch none) fun noCode => noCode (Char.ofNat code.toNat) ?_
    have same : (Char.ofNat code.toNat).toNat = code.toNat := by
      rw [Char.ofNat, dif_pos isCode.2]
      exact UInt32.toNat_ofNatLT ..
    rw [same, Int.toNat_of_nonneg isCode.1]
  · next noCode =>
    refine iff_of_true rfl fun c isCode => noCode ?_
    subst isCode
    exact ⟨Int.natCast_nonneg _, c.valid⟩

end Value

theorem tag_of_readPrimitive? {text : String} {kind : Primitive} {value : Value}
    (isRead : readPrimitive? text kind = some value) : value.tag = .primitive kind := by
  obtain ⟨payload, rfl⟩ := exists_payload_of_readPrimitive? isRead
  exact kind.tag_hold payload

theorem tag_of_convertNumber? {number value : Value} {kind : Primitive}
    (isConverted : convertNumber? number kind = some value) : value.tag = .primitive kind := by
  obtain ⟨payload, rfl⟩ := exists_payload_of_convertNumber? isConverted
  exact kind.tag_hold payload

theorem convertNumber?_eq_none_iff {number : Value} (isNumber : number.isNumeric = true) {kind : Primitive}
    (isNumeric : kind.isNumeric = true) : convertNumber? number kind = none ↔
      kind = .char ∧ ∃ whole, number.toInteger? = some whole ∧ ∀ c : Char, (c.toNat : Int) ≠ whole := by
  obtain ⟨⟨whole, isWhole⟩, ⟨single, isSingle⟩, ⟨double, isDouble⟩⟩ := Value.exists_number isNumber
  cases kind with
  | bool => cases isNumeric
  | char => simp [convertNumber?, isWhole, Value.charOfCode?_eq_none_iff]
  | _ => simp [convertNumber?, isWhole, isSingle, isDouble]

namespace Gate

variable {gate : Gate} {mode : MatchMode} {tag : Tag}

theorem Assignable.of_primitive {kind : Primitive} (assignable : gate.Assignable mode tag (.primitive kind)) :
    tag = .str ∨ tag = .primitive kind ∨ tag.isNumeric = true ∧ kind.isNumeric = true := by
  cases assignable with
  | null _ noPrimitive => cases noPrimitive
  | exact _ isExact => exact .inr (.inl (Option.some.inj isExact).symm)
  | number isNumber takesNumbers => exact .inr (.inr ⟨isNumber, takesNumbers⟩)
  | readPrimitive => exact .inl rfl

theorem Assignable.of_enum {typeName : String} (assignable : gate.Assignable mode tag (.enum typeName)) :
    tag = .null ∨ tag = .str ∨ tag = .enum typeName := by
  cases assignable with
  | null => exact .inl rfl
  | exact _ isExact => exact .inr (.inr (Option.some.inj isExact).symm)
  | number _ takesNumbers => cases takesNumbers
  | readConstant => exact .inr (.inl rfl)

end Gate

theorem convert?_number (find? : String → Option HostType) {number : Value} (isNumber : number.isNumeric = true)
    {kind : Primitive} (isNumeric : kind.isNumeric = true) :
    convert? find? number (.primitive kind) = convertNumber? number kind := by
  cases number with
  | null | bool _ | str _ | enum _ | object _ | type _ | list _ => cases isNumber
  | byte _ | short _ | int _ | long _ | float _ | double _ | char _ | wrapped _ _ =>
    exact if_pos (by rw [isNumeric, isNumber]; rfl)

/-- The value that is passed for an argument. -/
def Gate.passed (gate : Gate) (arg : Value) (param : ParamType) : Value :=
  coerce (fun name => (gate.lookup name).type?) arg param

section

variable {gate : Gate} {arg : Value}

theorem passed_text {text : String} (isText : arg.unwrapped = .str text) (kind : Primitive) :
    gate.passed arg (.primitive kind) = (readPrimitive? text kind).getD (.str text) := by
  rw [Gate.passed, coerce, isText]
  rfl

theorem passed_number (isNumber : arg.unwrapped.isNumeric = true) {kind : Primitive}
    (isNumeric : kind.isNumeric = true) :
    gate.passed arg (.primitive kind) = (convertNumber? arg.unwrapped kind).getD arg.unwrapped := by
  rw [Gate.passed, coerce, convert?_number _ isNumber isNumeric]

theorem conforms_text_iff (isText : arg.tag = .str) (kind : Primitive) :
    conforms (gate.passed arg (.primitive kind)) (.primitive kind) = false ↔
      gate.Unconvertible arg (.primitive kind) := by
  obtain ⟨text, isText⟩ := Value.exists_text isText
  rw [passed_text isText]
  cases isRead : readPrimitive? text kind with
  | none => exact iff_of_true rfl (.primitive isText isRead)
  | some value =>
    have fits : conforms value (.primitive kind) = true := beq_iff_eq.2 (tag_of_readPrimitive? isRead)
    refine iff_of_false (fun misses => ?_) fun unconvertible => ?_
    · rw [Option.getD_some, fits] at misses
      cases misses
    · cases unconvertible with
      | primitive isText' notRead =>
        cases isText.symm.trans isText'
        cases isRead.symm.trans notRead
      | char isWhole =>
        rw [← Value.toInteger?_unwrapped, isText] at isWhole
        cases isWhole

theorem conforms_number_iff (isNumber : arg.isNumeric = true) {kind : Primitive} (isNumeric : kind.isNumeric = true) :
    conforms (gate.passed arg (.primitive kind)) (.primitive kind) = false ↔
      gate.Unconvertible arg (.primitive kind) := by
  have isNumber : arg.unwrapped.isNumeric = true := by
    rw [Value.isNumeric, Value.tag_unwrapped]
    exact isNumber
  have unconvertible_iff := convertNumber?_eq_none_iff isNumber isNumeric
  rw [Value.toInteger?_unwrapped] at unconvertible_iff
  rw [passed_number isNumber isNumeric]
  cases converted : convertNumber? arg.unwrapped kind with
  | none =>
    obtain ⟨rfl, whole, isWhole, noChar⟩ := unconvertible_iff.1 converted
    refine iff_of_true (beq_eq_false_iff_ne.2 fun isChar => ?_) (.char isWhole noChar)
    rw [Option.getD_none, Value.tag_unwrapped] at isChar
    obtain ⟨c, isChar⟩ := Value.exists_payload isChar
    rw [← Value.toInteger?_unwrapped, isChar] at isWhole
    exact noChar c (Option.some.inj isWhole)
  | some value =>
    have fits : conforms value (.primitive kind) = true := beq_iff_eq.2 (tag_of_convertNumber? converted)
    refine iff_of_false (fun misses => ?_) fun unconvertible => ?_
    · rw [Option.getD_some, fits] at misses
      cases misses
    · cases unconvertible with
      | primitive isText =>
        rw [isText] at isNumber
        cases isNumber
      | char isWhole noChar =>
        rw [unconvertible_iff.2 ⟨rfl, _, isWhole, noChar⟩] at converted
        cases converted

theorem conforms_constant_iff (named : gate.Named) (isText : arg.tag = .str) (typeName : String) :
    conforms (gate.passed arg (.enum typeName)) (.enum typeName) = false ↔ gate.Unconvertible arg (.enum typeName) := by
  obtain ⟨text, isText⟩ := Value.exists_text isText
  have passed : gate.passed arg (.enum typeName) =
      ((gate.lookup typeName).type?.bind (·.constant? text)).getD (.str text) := by
    rw [Gate.passed, coerce, isText]
    rfl
  rw [passed]
  cases isRead : (gate.lookup typeName).type?.bind (·.constant? text) with
  | none =>
    refine iff_of_true rfl (.constant isText fun type shown => ?_)
    rwa [shown] at isRead
  | some value =>
    obtain ⟨type, shown, isConstant⟩ := Option.bind_eq_some_iff.1 isRead
    obtain ⟨constant, ordinal, rfl⟩ := typeName_of_constant? isConstant
    refine iff_of_false (fun misses => ?_) fun unconvertible => ?_
    · have isName := named typeName type (Gate.find?_of_lookup shown).1
      simp [conforms, isName] at misses
    · cases unconvertible with
      | constant isText' notRead =>
        cases isText.symm.trans isText'
        cases isConstant.symm.trans (notRead type (Gate.lookup_eq_found.2 shown))

/-- An argument that is passed as it is and has its parameter's shape needs no conversion. -/
theorem conforms_kept_iff {param : ParamType} (fits : conforms (gate.passed arg param) param = true)
    (noText : ∀ text, arg.unwrapped ≠ .str text) (noChar : param ≠ .primitive .char) :
    conforms (gate.passed arg param) param = false ↔ gate.Unconvertible arg param := by
  refine iff_of_false (fun misses => ?_) fun unconvertible => ?_
  · rw [fits] at misses
    cases misses
  · cases unconvertible with
    | primitive isText => exact noText _ isText
    | constant isText => exact noText _ isText
    | char => exact noChar rfl

end

theorem conforms_passed_iff {gate : Gate} (named : gate.Named) {arg : Value} {param : ParamType}
    (assignable : gate.Assignable .lenient arg.tag param) :
    conforms (gate.passed arg param) param = false ↔ gate.Unconvertible arg param := by
  cases param with
  | primitive kind =>
    obtain isText | isKind | ⟨isNumber, isNumeric⟩ := assignable.of_primitive
    · exact conforms_text_iff isText kind
    · cases kind with
      | bool =>
        obtain ⟨b, isBool⟩ := Value.exists_payload isKind
        exact conforms_kept_iff (by rw [Gate.passed, coerce, isBool]; rfl)
          (fun text => by rw [isBool]; rintro ⟨⟩) (by rintro ⟨⟩)
      | _ => exact conforms_number_iff (by rw [Value.isNumeric, isKind]; rfl) rfl
    · exact conforms_number_iff isNumber isNumeric
  | enum typeName =>
    obtain isNull | isText | isEnum := assignable.of_enum
    · have isNull := Value.unwrapped_of_tag_null isNull
      exact conforms_kept_iff (by rw [Gate.passed, coerce, isNull]; rfl)
        (fun text => by rw [isNull]; rintro ⟨⟩) (by rintro ⟨⟩)
    · exact conforms_constant_iff named isText typeName
    · obtain ⟨constant, isConstant, rfl⟩ := Value.exists_constant isEnum
      exact conforms_kept_iff (by rw [Gate.passed, coerce, isConstant]; exact beq_self_eq_true _)
        (fun text => by rw [isConstant]; rintro ⟨⟩) (by rintro ⟨⟩)
  | str | object | list | any => exact iff_of_false (fun misses => Bool.noConfusion misses) (by rintro ⟨⟩)

/-! ## Calls -/

theorem run_coerceArg (gate : Gate) (arg : Value) (param : ParamType) (machine : Machine Unit) :
    (coerceArg gate arg param).run machine = (gate.passed arg param, machine) := by
  unfold coerceArg Gate.passed coerce
  cases param with
  | enum typeName =>
    cases shape : arg.unwrapped <;> simp only [neededType?, shape] <;> rfl
  | primitive kind =>
    cases shape : arg.unwrapped <;> simp only [neededType?] <;> rfl
  | _ => rfl

theorem run_coerceArgs (gate : Gate) (args : List Value) (params : List ParamType) (machine : Machine Unit) :
    (coerceArgs gate args params).run machine = (args.zipWith gate.passed params, machine) := by
  unfold coerceArgs
  induction args generalizing params with
  | nil => rfl
  | cons arg args inductionHypothesis =>
    cases params with
    | nil => rfl
    | cons param params =>
      rw [List.zip_cons_cons, List.mapM_cons, StateT.run_bind, run_coerceArg]
      refine (StateT.run_bind _ _ machine).trans ?_
      rw [inductionHypothesis]
      rfl

def Member.ending (member : Member) (receiver : Option Value) (passed : List Value) (store : Store) :
    Except Fault Value × Store :=
  (member.run receiver passed).run.run store

def Machine.behind {μ : Type} (machine : Machine μ) (handle : MethodHandle) (receiver : Option Value)
    (passed : List Value) : Machine μ :=
  { machine with
    store := (handle.member.ending receiver passed machine.store).2
    runs := ⟨handle.declaring, .method handle.member.signature, receiver, passed⟩ :: machine.runs }

theorem run_invoke (gate : Gate) (handle : MethodHandle) (receiver : Option Value) (args : List Value)
    (machine : Machine Unit) :
    let passed := args.zipWith gate.passed handle.member.params
    (invoke gate handle receiver args).outcome.run machine =
      ((handle.member.ending receiver passed machine.store).1.mapError (callFailure handle passed),
        machine.behind handle receiver passed) := by
  intro passed
  have coerced : (Attempt.lift (coerceArgs gate args handle.member.params)).outcome.run machine =
      (.ok passed, machine) :=
    congrArg (fun ran : List Value × Machine Unit => (Except.ok ran.1, ran.2)) (run_coerceArgs ..)
  have ended : (Attempt.lift (handle.run receiver passed)).outcome.run machine =
      (.ok (handle.member.ending receiver passed machine.store).1, machine.behind handle receiver passed) := rfl
  refine (Attempt.run_bind_of_ok coerced).trans ((Attempt.run_bind_of_ok ended).trans ?_)
  cases (handle.member.ending receiver passed machine.store).1 <;> rfl

/-! ## Who is to blame -/

/-- The value that is passed at a place does not have the shape of the parameter there. -/
def Mismatched (passed : List Value) (params : List ParamType) (place : ℕ) (value : Value) (param : ParamType) : Prop :=
  passed[place]? = some value ∧ params[place]? = some param ∧ conforms value param = false

/-- The first mismatch is blamed, with its place counted from one. -/
theorem firstOf_firstMismatch? (passed : List Value) (params : List ParamType) :
    FirstOf (fun place blamed => ∃ value param, Mismatched passed params place value param ∧
      (place + 1, value, param) = blamed) (firstMismatch? passed params) := by
  let blames (entry : (Value × ParamType) × ℕ) : Option (ℕ × Value × ParamType) :=
    if conforms entry.1.1 entry.1.2 then none else some (entry.2, entry.1.1, entry.1.2)
  have isEntry {place : ℕ} {entry : (Value × ParamType) × ℕ} :
      ((passed.zip params).zipIdx 1)[place]? = some entry ↔
        (passed[place]? = some entry.1.1 ∧ params[place]? = some entry.1.2) ∧ 1 + place = entry.2 := by
    rw [List.getElem?_zipIdx, Option.map_eq_some_iff, ← List.getElem?_zip_eq_some]
    constructor
    · rintro ⟨pair, isPair, rfl⟩
      exact ⟨isPair, rfl⟩
    · rintro ⟨isPair, place⟩
      exact ⟨entry.1, isPair, Prod.ext rfl place⟩
  refine (FirstOf.findSome? (fun entry => FirstOf.self (blames entry)) ((passed.zip params).zipIdx 1)).rename (fun route => (ofLex route).1) ?_ ?_ ?_
  · intro route other sooner
    exact Prod.Lex.monotone_fst_ofLex sooner
  · rintro route blamed ⟨entry, isThere, isBlamed⟩
    obtain ⟨⟨isValue, isParam⟩, place⟩ := isEntry.1 isThere
    obtain ⟨misses, isBlamed⟩ := Option.ite_none_left_eq_some.1 isBlamed
    cases isBlamed
    refine ⟨_, _, ⟨isValue, isParam, eq_false_of_ne_true misses⟩, ?_⟩
    rw [← place, Nat.add_comm]
  · rintro place blamed ⟨value, param, ⟨isValue, isParam, misses⟩, rfl⟩
    refine ⟨toLex (place, ()), (place + 1, value, param), ⟨((value, param), place + 1), ?_, ?_⟩, le_refl place⟩
    · exact isEntry.2 ⟨⟨isValue, isParam⟩, Nat.add_comm 1 place⟩
    · exact if_neg (ne_true_of_eq_false misses)

/-! ## Resolved calls -/

/-- What is passed for the arguments of a call. -/
structure Passing (gate : Gate) (args : List Value) (params : List ParamType) (passed : List Value) : Prop where
  perParam : passed.length = params.length
  perArg : passed.length = args.length
  coerced : ∀ (place : ℕ) arg param, args[place]? = some arg → params[place]? = some param →
    passed[place]? = some (coerce (fun name => (gate.lookup name).type?) arg param)
  conforming : ∀ (place : ℕ) arg param value, args[place]? = some arg → params[place]? = some param →
    passed[place]? = some value → (conforms value param = false ↔ gate.Unconvertible arg param)

/-- The member is run once, on the values that are passed. When it fails with a plain error, the first of these
that does not have its parameter's shape is blamed, or the member itself if there is none. -/
structure Invocation {μ : Type} (handle : MethodHandle) (receiver : Option Value) (passed : List Value)
    (before behind : Machine μ) (answer : Except Failure Value) : Prop where
  runs : behind.runs = ⟨handle.declaring, .method handle.member.signature, receiver, passed⟩ :: before.runs
  store : behind.store = (handle.member.ending receiver passed before.store).2
  returned : ∀ value, (handle.member.ending receiver passed before.store).1 = .ok value → answer = .ok value
  blamed : ∀ message, (handle.member.ending receiver passed before.store).1 = .error (.error message) →
    (∀ place value param, Mismatched passed handle.member.params place value param →
      (∀ earlier < place, ∀ value param, ¬ Mismatched passed handle.member.params earlier value param) →
      answer = .error (.of (.argumentMismatch handle.label (place + 1) value.display param))) ∧
    ((∀ place value param, ¬ Mismatched passed handle.member.params place value param) →
      answer = .error (.of (.memberFailed handle.label message)))

theorem Gate.Accepts.passing {gate : Gate} (named : gate.Named) {member : Member} {args : List Value}
    (accepted : gate.Accepts .lenient member (args.map Value.tag)) :
    Passing gate args member.params (args.zipWith gate.passed member.params) := by
  have sameLength : args.length = member.params.length := by
    rw [← List.length_map Value.tag]
    exact accepted.length_eq.symm
  have coerced (place : ℕ) (arg : Value) (param : ParamType) (isArg : args[place]? = some arg)
      (isParam : member.params[place]? = some param) :
      (args.zipWith gate.passed member.params)[place]? = some (gate.passed arg param) := by
    rw [List.getElem?_zipWith, isArg, isParam]
  refine ⟨by rw [List.length_zipWith]; omega, by rw [List.length_zipWith]; omega, coerced, ?_⟩
  intro place arg param value isArg isParam isPassed
  cases (coerced place arg param isArg isParam).symm.trans isPassed
  have inside : (param, arg.tag) ∈ member.params.zip (args.map Value.tag) :=
    List.mem_of_getElem? (List.getElem?_zip_eq_some.2 ⟨isParam, by rw [List.getElem?_map, isArg]; rfl⟩)
  exact conforms_passed_iff named ((List.forall₂_iff_zip.1 accepted).2 inside)

theorem Machine.invocation_behind {μ : Type} (machine : Machine μ) (handle : MethodHandle) (receiver : Option Value)
    (passed : List Value) :
    Invocation handle receiver passed machine (machine.behind handle receiver passed)
      ((handle.member.ending receiver passed machine.store).1.mapError (callFailure handle passed)) := by
  refine ⟨rfl, rfl, fun value ended => by rw [ended]; rfl, fun message ended => ?_⟩
  have isFirst := firstOf_firstMismatch? passed handle.member.params
  rw [ended]
  refine ⟨fun place value param isMismatch isLeast => ?_, fun allFit => ?_⟩
  · cases found : firstMismatch? passed handle.member.params with
    | none =>
      rw [found] at isFirst
      exact absurd ⟨value, param, isMismatch, rfl⟩ (isFirst place _)
    | some blamed =>
      rw [found] at isFirst
      obtain ⟨first, ⟨value', param', isFirst, rfl⟩, least⟩ := isFirst
      have same : first = place := by
        refine (least place _ ⟨value, param, isMismatch, rfl⟩).antisymm (Nat.le_of_not_lt fun earlier => ?_)
        exact isLeast first earlier value' param' isFirst
      subst same
      cases isFirst.1.symm.trans isMismatch.1
      cases isFirst.2.1.symm.trans isMismatch.2.1
      simp only [Except.mapError, callFailure, found]
      rfl
  · cases found : firstMismatch? passed handle.member.params with
    | none =>
      simp only [Except.mapError, callFailure, found]
      rfl
    | some blamed =>
      rw [found] at isFirst
      obtain ⟨place, ⟨value, param, isMismatch, -⟩, -⟩ := isFirst
      exact absurd isMismatch (allFit place value param)

/-- Of the machines only the stores and the runs count. -/
theorem Invocation.transfer {μ ν : Type} {handle : MethodHandle} {receiver : Option Value} {passed : List Value}
    {before behind : Machine μ} {before' behind' : Machine ν} {answer : Except Failure Value}
    (invocation : Invocation handle receiver passed before' behind' answer)
    (same : before.store = before'.store ∧ before.runs = before'.runs)
    (sameBehind : behind.store = behind'.store ∧ behind.runs = behind'.runs) :
    Invocation handle receiver passed before behind answer := by
  obtain ⟨runs, store, returned, blamed⟩ := invocation
  rw [← same.1] at store returned blamed
  exact ⟨by rw [sameBehind.2, runs, same.2], by rw [sameBehind.1, store], returned, blamed⟩

theorem Gate.Coherent.seen_of_engines {gate : Gate} (coherent : gate.Coherent) {engine : Engine Caches}
    {engine' : Engine Unit} (engines : coherent.twins.Engines engine engine') :
    engine.machine.store = engine'.machine.store ∧ engine.machine.runs = engine'.machine.runs := by
  have store : Store.Alike (fun _ => false) engine.machine.store engine'.machine.store := engines.machine.store
  have runs : List.Forall₂ (HostRun.Alike fun _ => false) engine.machine.runs engine'.machine.runs :=
    engines.machine.runs
  rw [Store.alike_none] at store
  rw [HostRun.alike_none, List.forall₂_eq_eq_eq] at runs
  exact ⟨store, runs⟩

namespace Callee

variable {μ : Type} [Memory μ]

/-- A call: it is resolved, and the member that was found is invoked. -/
def call (callee : Callee) (gate : Gate) (owner : HostType) (receiver : Option Value) (args : List Value) :
    Attempt μ Value := do
  invoke gate (← callee.handle gate owner args) receiver args

theorem invokeStatic_eq (gate : Gate) (type : HostType) (name : String) (args : List Value) :
    invokeStatic gate type name args =
      (do checkAdmitted gate type.name; (method name).call gate type none args : Attempt μ Value) := rfl

theorem invokeInstance_eq (gate : Gate) (receiver : Value) (name : String) (args : List Value) :
    invokeInstance gate receiver name args =
      (do (method name).call gate (← runtimeType gate receiver.unwrapped) (some receiver.unwrapped) args :
        Attempt μ Value) := rfl

theorem run_call (callee : Callee) (gate : Gate) (owner : HostType) (receiver : Option Value) (args : List Value)
    {handle : MethodHandle} (isFound : callee.found gate owner args = some handle) (machine : Machine Unit) :
    (callee.call gate owner receiver args).outcome.run machine =
      (invoke gate handle receiver args).outcome.run machine := by
  have resolved := callee.run_handle gate owner args machine
  rw [isFound] at resolved
  unfold call Attempt.outcome at *
  rw [ExceptT.run_bind, StateT.run_bind, resolved]
  rfl

def called (callee : Callee) (engine : Engine μ) (owner : HostType) (receiver : Option Value) (args : List Value) :
    Except Failure Value × Engine μ :=
  (Engine.attempt fun gate => callee.call gate owner receiver args).run engine

theorem called_fresh {callee : Callee} {gate : Gate} {engine : Engine Unit} (isGate : engine.gate = gate)
    {owner : HostType} (receiver : Option Value) {args : List Value} {handle : MethodHandle}
    (isFound : callee.found gate owner args = some handle) :
    let passed := args.zipWith gate.passed handle.member.params
    (callee.called engine owner receiver args).1 =
        (handle.member.ending receiver passed engine.machine.store).1.mapError (callFailure handle passed) ∧
      (callee.called engine owner receiver args).2.machine = engine.machine.behind handle receiver passed := by
  subst isGate
  have ran := (callee.run_call engine.gate owner receiver args isFound engine.machine).trans
    (run_invoke engine.gate handle receiver args engine.machine)
  exact ⟨congrArg Prod.fst ran, congrArg Prod.snd ran⟩

theorem attempts_call {gate : Gate} (coherent : gate.Coherent) {owner : HostType}
    (known : gate.find? owner.name = some owner) (callee : Callee) (receiver : Option Value) (args : List Value) :
    coherent.twins.Attempts (Value.Alike coherent.twins.hides)
      (callee.call coherent.twins.first owner receiver args)
      (callee.call coherent.twins.second owner receiver args) := by
  have values : List.Forall₂ (Value.Alike fun _ => false) args args :=
    List.forall₂_same.2 fun value _ => .refl value
  have receivers : Option.Rel (Value.Alike coherent.twins.hides) receiver receiver := by
    cases receiver with
    | none => exact .none
    | some value => exact .some (.refl value)
  refine Twins.Attempts.bindSame (attempts_handle coherent known callee args) fun handle isOf => ?_
  refine Twins.invokeSame isOf receivers (fun passed passed' alike => ?_) values
  have same : passed = passed' := by
    rwa [show coherent.twins.hides = fun _ => false from rfl, Value.alike_none, List.forall₂_eq_eq_eq] at alike
  subst same
  have placed : (handle.member.run receiver passed).FailsAt fun _ => True := fun _ _ _ => trivial
  have acts := placed.actAlike
  rwa [← Value.alike_none] at acts

/-- Matching and coercion agree on every call that is resolved, whatever was performed before. -/
theorem called_of_resolved {registry : Registry} {owner : HostType} (known : registry.find? owner.name = some owner)
    (policy : AllowList) (settings : Settings) (store : Store) (operations : List Operation) (callee : Callee)
    (receiver : Option Value) (args : List Value) {handle : MethodHandle}
    (isResolved : callee.resolved ((Engine.cached (Engine.gateOf registry policy) settings store).after operations)
      owner args = .ok handle) :
    let gate := Engine.gateOf registry policy
    let engine := (Engine.cached gate settings store).after operations
    let called := callee.called engine owner receiver args
    ∃ passed, Passing gate args handle.member.params passed ∧
      Invocation handle receiver passed engine.machine called.2.machine called.1 := by
  intro gate engine called
  have coherent : gate.Coherent := Engine.coherent_gateOf registry policy
  have named : gate.Named := fun _ _ => Registry.name_of_find?
  have isFound : callee.found gate owner args = some handle := by
    rw [resolved_after coherent known] at isResolved
    cases found : callee.found gate owner args with
    | none =>
      rw [found] at isResolved
      cases isResolved
    | some other =>
      rw [found] at isResolved
      cases isResolved
      rfl
  refine ⟨_, (accepts_of_found named known isFound).passing named, ?_⟩
  let fresh := (Engine.start gate settings () store).after operations
  have engines : coherent.twins.Engines engine fresh := coherent.engines_after settings store operations
  let call {μ : Type} [Memory μ] (gate : Gate) : Attempt μ Value := callee.call gate owner receiver args
  have calls : coherent.twins.Attempts (Value.Alike fun _ => false)
      (call coherent.twins.first) (call coherent.twins.second) := attempts_call coherent known callee receiver args
  obtain ⟨ended, behind⟩ := Twins.attempt calls engine fresh engines
  rw [Value.alike_none] at ended
  have answers : called.1 = (callee.called fresh owner receiver args).1 := eq_of_endings ended
  have isGate : fresh.gate = gate := engines.second
  obtain ⟨freshAnswer, freshBehind⟩ := called_fresh isGate receiver isFound
  rw [answers, freshAnswer]
  refine (fresh.machine.invocation_behind handle receiver _).transfer (coherent.seen_of_engines engines) ?_
  rw [← freshBehind]
  exact coherent.seen_of_engines behind

def valve : HostType where
  name := "Valve"
  declaredParent? := none
  constants? := none
  constructors := []
  methods := [⟨"turn", [.primitive .char], true, true, fun _ _ => Host.fail "stuck"⟩]
  fields := []

/-- A number that is no character's code is passed as it is, also when the method is known from an earlier call
with a number that is one. -/
theorem called_of_resolved_valve :
    let gate := Engine.gateOf ⟨[valve]⟩ .all
    let engine := (Engine.cached gate .standard).after [.callMethod (.type ⟨"Valve", false⟩) "turn" [.int 65]]
    let handle : MethodHandle := ⟨"Valve", valve.methods[0]⟩
    (Registry.mk [valve]).find? valve.name = some valve ∧
      (method "turn").resolved engine valve [.int (-1)] = .ok handle ∧
      ∃ passed, Passing gate [.int (-1)] handle.member.params passed ∧
        Invocation handle none passed engine.machine ((method "turn").called engine valve none [.int (-1)]).2.machine
          ((method "turn").called engine valve none [.int (-1)]).1 := by
  intro gate engine handle
  have known : (Registry.mk [valve]).find? valve.name = some valve := rfl
  have isResolved : (method "turn").resolved engine valve [.int (-1)] = .ok handle := rfl
  exact ⟨known, isResolved, called_of_resolved known .all .standard .empty
    [.callMethod (.type ⟨"Valve", false⟩) "turn" [.int 65]] (.method "turn") none [.int (-1)] isResolved⟩

end Callee

end LateBound
