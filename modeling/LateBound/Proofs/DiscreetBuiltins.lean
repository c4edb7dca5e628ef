import LateBound.Builtin
import LateBound.Proofs.Blindness

/-!
# The built-in types are discreet

No member of a type under `lang` looks behind the name of a type that it is given. `lang.Class` describes the
type that it is asked about, but no engine runs its members on a type: they are the static members of that type
that count then.
-/

namespace LateBound

namespace Builtin

variable {hides : String → Bool} {type : HostType}

/-! ## The root and the type of types -/

theorem objectType_discreet : objectType.Discreet hides fun _ => True := by
  refine HostType.Discreet.method (.method (.method (.empty rootType) ?toString) ?equals) ?hashCode
  case toString =>
    intro _ _ _ _ receivers _
    exact .value (by rw [receivers.1.display_eq])
  case equals =>
    intro _ _ _ _ receivers alike
    refine .bind (given_agree alike 0) fun _ _ others => ?_
    exact .value (by rw [receivers.1.equals_eq others])
  case hashCode =>
    intro _ _ _ _ receivers _
    exact .value (by rw [receivers.1.display_eq])

theorem onType_agree (read read' : TypeRef → Value) {receiver receiver' : Value}
    (receivers : Value.AlikeInstances hides receiver receiver') :
    Host.Agree hides (Value.Alike hides) (onType read receiver) (onType read' receiver') := by
  have noType (ref : TypeRef) : receiver.unwrapped ≠ .type ref := fun same => receivers.unwrapped.2 (by rw [same]; rfl)
  have noType' (ref : TypeRef) : receiver'.unwrapped ≠ .type ref := by
    intro same
    obtain ⟨ref', same', -⟩ := (same ▸ receivers.unwrapped.1).symm.exists_type
    exact noType ref' same'
  have fails {value : Value} (noType : ∀ ref, value.unwrapped ≠ .type ref) (read : TypeRef → Value) :
      onType read value = Host.fail ("expected a type, got " ++ value.unwrapped.display) := by
    unfold onType
    split
    · next shape => exact absurd shape (noType _)
    · rfl
  rw [fails noType, fails noType', receivers.unwrapped.1.display_eq]
  exact .fail rfl

theorem classType_discreet : classType.Discreet hides fun _ => True := by
  refine HostType.Discreet.method (.method (.method (.method (.empty "lang.Class") ?_) ?_) ?_) ?isInstance
  case isInstance =>
    intro _ _ _ _ receivers alike
    exact .bind (given_agree alike 0) fun _ _ _ => onType_agree _ _ receivers
  all_goals exact fun _ _ _ _ receivers _ => onType_agree _ _ receivers

/-! ## Texts and characters -/

theorem textMethod_discreet {name : String} {params : List ParamType} {run : String → List Value → Host Value}
    (agrees : ∀ text args args', List.Forall₂ (Value.Alike hides) args args' →
      Host.Agree hides (Value.Alike hides) (run text args) (run text args'))
    (discreet : type.Discreet hides fun _ => True) : (textMethod type name params run).Discreet hides fun _ => True := by
  refine discreet.method fun receiver receiver' args args' receivers alike => ?_
  have reads : Host.Agree hides Eq (receiverText receiver) (receiverText receiver') := by
    unfold receiverText
    rw [receivers.1.same Value.text?_veil, receivers.1.display_eq]
    cases receiver'.text? with
    | none => exact .fail rfl
    | some text => exact .pure rfl
  exact .bindEq reads fun text => agrees text args args' alike

theorem stringType_discreet : stringType.Discreet hides fun _ => True := by
  have alone {name : String} {view : String → Value} {type : HostType} :
      type.Discreet hides (fun _ => True) →
      (textMethod type name [] fun text _ => pure (view text)).Discreet hides fun _ => True :=
    textMethod_discreet fun _ _ _ _ => .value rfl
  have withText {name : String} {view : String → String → Value} {type : HostType} :
      type.Discreet hides (fun _ => True) →
      (textMethod type name [.str] fun text args => do return view text (← arg String args 0)).Discreet hides
        fun _ => True :=
    textMethod_discreet fun _ _ _ alike => one_agree alike String _
  have withSearch {name : String} {search : String → String → Except Fault Value} {type : HostType} :
      type.Discreet hides (fun _ => True) →
      (textMethod type name [.str] fun text args => do
        Host.ofOutcome (search text (← arg String args 0))).Discreet hides fun _ => True :=
    textMethod_discreet fun _ _ _ alike => .bindEq (arg_same alike String 0) fun _ => (Host.Agree.ofOutcome _).alike
  unfold stringType
  refine withText <| textMethod_discreet ?repeated <| withText <| textMethod_discreet ?replace <| withText <| withSearch <|
    withSearch <| withText <| withText <| withText <| textMethod_discreet ?charAt <| textMethod_discreet ?between <|
    textMethod_discreet ?behind ?others
  case others =>
    iterate 7 refine alone ?_
    refine .staticMethod (.staticMethod (.constructor (.constructor (.empty "lang.String") ?empty) ?copy) ?valueOf) ?join
    case empty => exact fun _ _ _ => .value rfl
    case copy => exact fun _ _ alike => one_agree alike String _
    case valueOf => exact fun _ _ alike => shown_agree alike
    case join =>
      refine fun _ _ alike => .bindEq (arg_same alike String 0) fun separator => ?_
      refine .bind (items_agree alike 1) fun items items' alike => .value ?_
      have texts : items.map Value.display = items'.map Value.display := by
        induction alike with
        | nil => rfl
        | cons head _ inductionHypothesis => rw [List.map_cons, List.map_cons, head.display_eq, inductionHypothesis]
      rw [texts]
  case behind =>
    refine fun _ _ _ alike => .bindEq (arg_same alike Int32 0) fun _ => ?_
    exact .bindEq (.ofOutcome _) fun _ => .value rfl
  case between =>
    refine fun _ _ _ alike => .bindEq (arg_same alike Int32 0) fun _ => .bindEq (arg_same alike Int32 1) fun _ => ?_
    exact .bindEq (.ofOutcome _) fun _ => .value rfl
  case charAt =>
    refine fun text _ _ alike => .bindEq (arg_same alike Int32 0) fun index => ?_
    cases (place? index).bind (text.toList[·]?) with
    | none => exact .fail rfl
    | some c => exact .value rfl
  case replace =>
    exact fun _ _ _ alike => two_agree alike String _
  case repeated =>
    refine fun text _ _ alike => .bindEq (arg_same alike Int32 0) fun times => ?_
    cases place? times with
    | none => exact .fail rfl
    | some times => exact .value rfl

theorem characterType_discreet : characterType.Discreet hides fun _ => True := by
  have tested {name : String} {test : Char → Bool} {type : HostType} (discreet : type.Discreet hides fun _ => True) :
      (charTest type name test).Discreet hides fun _ => True :=
    discreet.staticMethod fun _ _ alike => one_agree alike Char _
  unfold characterType
  iterate 6 refine tested ?_
  refine .method (.staticMethod (.staticMethod (.staticMethod (.empty "lang.Character") ?upper) ?lower) ?numeric) ?self
  case self => exact fun _ _ _ _ receivers _ => .pure receivers.1
  all_goals exact fun _ _ alike => one_agree alike Char _

/-! ## Arithmetic -/

theorem unary_discreet {name : String} {f : Float → Float} (discreet : type.Discreet hides fun _ => True) :
    (unary type name f).Discreet hides fun _ => True :=
  discreet.staticMethod fun _ _ alike => one_agree alike Float _

theorem binary_discreet {name : String} {f : Float → Float → Float} (discreet : type.Discreet hides fun _ => True) :
    (binary type name f).Discreet hides fun _ => True :=
  discreet.staticMethod fun _ _ alike => two_agree alike Float _

theorem choice_discreet {name : String} {floats : Float → Float → Float}
    {words : {α : Type} → [Max α] → [Min α] → α → α → α} (discreet : type.Discreet hides fun _ => True) :
    (choice type name floats words).Discreet hides fun _ => True := by
  refine .staticMethod (.staticMethod (binary_discreet discreet) ?long) ?int
  case long =>
    exact fun _ _ alike => two_agree alike Int64 _
  case int =>
    exact fun _ _ alike => two_agree alike Int32 _

theorem mathType_discreet : mathType.Discreet hides fun _ => True := by
  unfold mathType
  iterate 13 refine unary_discreet ?_
  refine .staticMethod (.staticMethod ?others ?round) ?floorDiv
  case others =>
    iterate 3 refine binary_discreet ?_
    refine .staticMethod (.staticMethod (unary_discreet (choice_discreet (choice_discreet (.staticField (.staticField
      (.empty "lang.Math")))))) ?long) ?int
    case long => exact fun _ _ alike => one_agree alike Int64 _
    case int => exact fun _ _ alike => one_agree alike Int32 _
  case round => exact fun _ _ alike => one_agree alike Float _
  case floorDiv =>
    refine fun _ _ alike => .bindEq (arg_same alike Int32 0) fun _ => .bindEq (arg_same alike Int32 1) fun _ => ?_
    exact .bindEq (.ofOutcome _) fun _ => .value rfl

/-! ## Numbers and booleans -/

theorem numberView_discreet {name : String} {view : Value → Option Value}
    (blind : ∀ value : Value, view (value.veil hides) = view value) (discreet : type.Discreet hides fun _ => True) :
    (numberView type name view).Discreet hides fun _ => True := by
  refine discreet.method fun receiver receiver' _ _ receivers _ => ?_
  rw [receivers.1.same blind, receivers.1.display_eq]
  cases view receiver' with
  | none => exact .fail rfl
  | some value => exact .value rfl

theorem numberType_discreet : numberType.Discreet hides fun _ => True := by
  unfold numberType
  iterate 6 refine numberView_discreet (fun value => by simp) ?_
  exact .empty numberTypeName

theorem compareNumbers_eq (floating : Bool) {a a' b b' : Value} (left : Value.Alike hides a a')
    (right : Value.Alike hides b b') : compareNumbers floating a b = compareNumbers floating a' b' := by
  unfold compareNumbers
  rw [left.same Value.toFloat?_veil, left.same Value.toInteger?_veil, right.same Value.toFloat?_veil,
    right.same Value.toInteger?_veil]

theorem parsed_agree (text : String) (value? : Option Value) :
    Host.Agree hides (Value.Alike hides) (parsed text value?) (parsed text value?) := by
  cases value? with
  | none => exact .fail rfl
  | some value => exact .value rfl

theorem Boxed.discreet {boxed : Boxed}
    (parses : ∀ text, Host.Agree hides (Value.Alike hides) (boxed.parse text) (boxed.parse text)) :
    boxed.hostType.Discreet hides fun _ => True := by
  have parsing : ∀ args args', List.Forall₂ (Value.Alike hides) args args' →
      Host.Agree hides (Value.Alike hides) (arg String args 0 >>= boxed.parse) (arg String args' 0 >>= boxed.parse) :=
    fun _ _ alike => .bindEq (arg_same alike String 0) parses
  refine .method (.staticMethod (.staticMethod (.staticMethod (.staticMethod (.staticMethod (.staticField (.staticField
    (.withParent (.empty boxed.name) numberTypeName))) parsing) ?valueOf) parsing) ?toString) ?compare) ?compareTo
  case valueOf => exact fun _ _ alike => given_agree alike 0
  case toString => exact fun _ _ alike => shown_agree alike
  case compare =>
    refine fun _ _ alike => .bind (given_agree alike 0) fun _ _ left => .bind (given_agree alike 1) fun _ _ right => ?_
    exact .value (compareNumbers_eq _ left right)
  case compareTo =>
    refine fun _ _ _ _ receivers alike => .bind (given_agree alike 0) fun _ _ right => ?_
    exact .value (compareNumbers_eq _ receivers.1 right)

theorem integerType_discreet : integerType.Discreet hides fun _ => True := by
  refine .staticMethod (.staticMethod (.staticMethod (Boxed.discreet fun _ => parsed_agree _ _) ?parseInt) ?hex) ?binary
  case parseInt =>
    refine fun _ _ alike => .bindEq (arg_same alike String 0) fun text => .bindEq (arg_same alike Int32 1) fun radix => ?_
    split
    · cases (readRadix? radix.toInt.toNat text.toList).bind Number.toInt32? with
      | none => exact .fail rfl
      | some n => exact .value rfl
    · exact .fail rfl
  all_goals exact fun _ _ alike => one_agree alike Int32 _

theorem doubleType_discreet : doubleType.Discreet hides fun _ => True := by
  refine .method (.staticMethod (.staticField (.staticField (.staticField (Boxed.discreet fun _ =>
    parsed_agree _ _)))) ?isNaN) ?isNaNHere
  case isNaN => exact fun _ _ alike => one_agree alike Float _
  case isNaNHere => exact fun _ _ _ _ receivers _ => .value (by rw [receivers.1.same Value.toFloat?_veil])

theorem parseBoolean_agree (args args' : List Value) (alike : List.Forall₂ (Value.Alike hides) args args') :
    Host.Agree hides (Value.Alike hides) (parseBoolean args) (parseBoolean args') := by
  refine .bind (given_agree alike 0) fun text text' given => ?_
  rw [show text.isNull = text'.isNull by rw [Value.isNull, Value.isNull, given.tag_eq]]
  cases text'.isNull with
  | true => exact .value rfl
  | false => exact one_agree alike String _

theorem booleanType_discreet : booleanType.Discreet hides fun _ => True := by
  have joined {name : String} {join : Bool → Bool → Bool} {type : HostType} (discreet : type.Discreet hides fun _ => True) :
      (booleanJoin type name join).Discreet hides fun _ => True :=
    discreet.staticMethod fun _ _ alike => two_agree alike Bool _
  refine .method (joined (joined (joined (.staticMethod (.staticMethod (.staticMethod (.staticMethod (.staticField
    (.staticField (.empty "lang.Boolean"))) parseBoolean_agree) ?valueOf) parseBoolean_agree) ?toString)))) ?value
  case valueOf => exact fun _ _ alike => given_agree alike 0
  case toString => exact fun _ _ alike => shown_agree alike
  case value => exact fun _ _ _ _ receivers _ => .pure receivers.1

/-! ## Lists -/

theorem listMethod_discreet {name : String} {params : List ParamType} {run : List Value → List Value → Host Value}
    (agrees : ∀ items items' args args', List.Forall₂ (Value.Alike hides) items items' →
      List.Forall₂ (Value.Alike hides) args args' →
      Host.Agree hides (Value.Alike hides) (run items args) (run items' args'))
    (discreet : type.Discreet hides fun _ => True) : (listMethod type name params run).Discreet hides fun _ => True := by
  refine discreet.method fun receiver receiver' args args' receivers alike => ?_
  have reads : Host.Agree hides (List.Forall₂ (Value.Alike hides)) (receiverItems receiver) (receiverItems receiver') := by
    have fails {value : Value} (noList : ∀ items, value.unwrapped ≠ .list items) :
        receiverItems value = Host.fail ("expected a List, got " ++ value.unwrapped.display) := by
      unfold receiverItems
      split
      · next shape => exact absurd shape (noList _)
      · rfl
    obtain ⟨items, items', shape, shape', itemwise⟩ | ⟨noList, noList'⟩ := receivers.1.unwrapped.lists
    · unfold receiverItems
      rw [shape, shape']
      exact .pure itemwise
    · rw [fails noList, fails noList', receivers.1.unwrapped.display_eq]
      exact .fail rfl
  exact .bind reads fun items items' itemwise => agrees items items' args args' itemwise alike

theorem map_equals_eq {items items' : List Value} (itemwise : List.Forall₂ (Value.Alike hides) items items')
    {wanted wanted' : Value} (alike : Value.Alike hides wanted wanted') :
    items.map (·.equals wanted) = items'.map (·.equals wanted') := by
  induction itemwise with
  | nil => rfl
  | cons head _ inductionHypothesis => rw [List.map_cons, List.map_cons, head.equals_eq alike, inductionHypothesis]

theorem listType_discreet : listType.Discreet hides fun _ => True := by
  unfold listType
  refine listMethod_discreet ?subList <| listMethod_discreet ?indexOf <| listMethod_discreet ?contains <|
    listMethod_discreet ?get <| listMethod_discreet ?isEmpty <| listMethod_discreet ?size <| .empty "lang.List"
  case size => exact fun _ _ _ _ itemwise _ => .value (by rw [itemwise.length_eq])
  case isEmpty =>
    refine fun _ _ _ _ itemwise _ => .value ?_
    cases itemwise <;> rfl
  case get =>
    refine fun items items' _ _ itemwise alike => .bindEq (arg_same alike Int32 0) fun index => ?_
    rw [itemwise.length_eq]
    cases place? index with
    | none => exact .fail rfl
    | some place =>
      have related := Value.alike_getElem? itemwise place
      dsimp only [Option.bind_some]
      generalize items[place]? = item?, items'[place]? = item?' at related ⊢
      cases related with
      | none => exact .fail rfl
      | some alike => exact .pure alike
  case contains =>
    refine fun items items' _ _ itemwise alike => .bind (given_agree alike 0) fun wanted wanted' same => .value ?_
    have found := congrArg (·.any id) (map_equals_eq itemwise same)
    simp only [List.any_map, Function.id_comp] at found
    rw [found]
  case indexOf =>
    refine fun items items' _ _ itemwise alike => .bind (given_agree alike 0) fun wanted wanted' same => .value ?_
    have found := congrArg (·.findIdx? id) (map_equals_eq itemwise same)
    simp only [List.findIdx?_map, Function.id_comp] at found
    rw [found]
  case subList =>
    refine fun items items' _ _ itemwise alike => .bindEq (arg_same alike Int32 0) fun first => ?_
    refine .bindEq (arg_same alike Int32 1) fun last => ?_
    have refused : Host.Agree hides (Value.Alike hides) (listType.outOfRange first last items)
        (listType.outOfRange first last items') := .fail (by rw [itemwise.length_eq])
    cases place? first <;> cases place? last
    case some.some m n =>
      dsimp only
      rw [itemwise.length_eq]
      split
      · exact .pure (.list (List.forall₂_drop m (List.forall₂_take n itemwise)))
      · exact refused
    all_goals exact refused

/-! ## Text being built -/

theorem TextBuffer.load?_veil (state : Instance) :
    (Native.load? (state.veil hides) : Option TextBuffer) = Native.load? state := by
  cases state <;> rfl

theorem TextBuffer.hostType_discreet : TextBuffer.hostType.Discreet hides fun _ => True := by
  have changes (edit : String → Except Fault String) {receiver receiver' : Value}
      (receivers : Value.AlikeInstances hides receiver receiver') :
      Host.Agree hides (Value.Alike hides) (change receiver edit) (change receiver' edit) :=
    .bindEq (Changing.on_agree load?_veil _ receivers.1) fun _ => .pure receivers.1
  have reads (view : String → Value) {receiver receiver' : Value}
      (receivers : Value.AlikeInstances hides receiver receiver') :
      Host.Agree hides (Value.Alike hides) (read receiver view) (read receiver' view) :=
    (Reading.on_agree load?_veil _ receivers.1).alike
  refine .method (.method (.method (.method (.method (.constructor (.constructor (.empty typeName) ?empty) ?copy)
    ?append) ?insert) ?reverse) ?length) ?toString
  case empty => exact fun _ _ _ => Host.create_agree _ _
  case copy => exact fun _ _ alike => .bindEq (arg_same alike String 0) fun _ => Host.create_agree _ _
  case append =>
    refine fun _ _ _ _ receivers alike => .bind (given_agree alike 0) fun _ _ added => ?_
    rw [added.display_eq]
    exact changes _ receivers
  case insert =>
    refine fun _ _ _ _ receivers alike => .bindEq (arg_same alike Int32 0) fun _ => ?_
    refine .bind (given_agree alike 1) fun _ _ added => ?_
    rw [added.display_eq]
    exact changes _ receivers
  case reverse => exact fun _ _ _ _ receivers _ => changes _ receivers
  all_goals exact fun _ _ _ _ receivers _ => reads _ receivers

end Builtin

/-- What a member of a built-in type does depends on a type that it is given by its name alone. -/
theorem builtinTypes_discreet {hides : String → Bool} : ∀ type ∈ builtinTypes, type.Discreet hides fun _ => True := by
  open Builtin in
  unfold builtinTypes
  simp only [List.forall_mem_cons]
  exact ⟨objectType_discreet, classType_discreet, stringType_discreet, characterType_discreet,
    TextBuffer.hostType_discreet, numberType_discreet, booleanType_discreet, mathType_discreet, listType_discreet,
    integerType_discreet, Boxed.discreet fun _ => parsed_agree _ _, doubleType_discreet,
    Boxed.discreet fun _ => parsed_agree _ _, Boxed.discreet fun _ => parsed_agree _ _,
    Boxed.discreet fun _ => parsed_agree _ _, nofun⟩

end LateBound
