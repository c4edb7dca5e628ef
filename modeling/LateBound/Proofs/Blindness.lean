import LateBound.Builtin.Args
import LateBound.Proofs.Discretion

/-!
# What is read off a value

Numbers, texts, equality and the conversions of arguments do not look behind the name of a type. So a member
that works with these alone is discreet, and a type is discreet when it is described by adding such members.
-/

namespace LateBound

variable {hides : String → Bool}

/-! ## Values -/

namespace Value

theorem read_veil {α : Type} {read : Value → α} (unboxes : ∀ value, read value = read value.unwrapped)
    (types : ∀ ref ref' : TypeRef, ref.name = ref'.name → read (type ref) = read (type ref'))
    (lists : ∀ items, read (list (veilItems hides items)) = read (list items)) (value : Value) :
    read (value.veil hides) = read value := by
  rw [unboxes, unboxes value, unwrapped_veil]
  cases shape : value.unwrapped with
  | type ref => exact types _ _ ref.name_veil
  | list items => exact lists items
  | wrapped origin inner => exact absurd shape (unwrapped_ne_wrapped origin inner value)
  | _ => simp only [veil]

@[simp] theorem toInteger?_veil : ∀ value : Value, (value.veil hides).toInteger? = value.toInteger? :=
  read_veil (fun value => by rw [toInteger?, toInteger?, unwrapped_unwrapped]) (fun _ _ _ => rfl) fun _ => rfl

@[simp] theorem toFloat?_veil : ∀ value : Value, (value.veil hides).toFloat? = value.toFloat? :=
  read_veil (fun value => by rw [toFloat?, toFloat?, unwrapped_unwrapped]) (fun _ _ _ => rfl) fun _ => rfl

@[simp] theorem toFloat32?_veil : ∀ value : Value, (value.veil hides).toFloat32? = value.toFloat32? :=
  read_veil (fun value => by rw [toFloat32?, toFloat32?, unwrapped_unwrapped]) (fun _ _ _ => rfl) fun _ => rfl

@[simp] theorem text?_veil : ∀ value : Value, (value.veil hides).text? = value.text? :=
  read_veil (fun value => by rw [text?, text?, unwrapped_unwrapped]) (fun _ _ _ => rfl) fun _ => rfl

theorem equals_veil_of_isPlain {first : Value} (plain : first.IsPlain) :
    ∀ second : Value, first.equals (second.veil hides) = first.equals second := by
  refine read_veil (fun second => ?_) (fun ref ref' _ => ?_) fun items => ?_ <;> cases first <;> first
    | exact plain.elim
    | simp only [equals.eq_def, unwrapped_unwrapped, unwrapped]

mutual
@[simp] theorem equals_veil : ∀ first second : Value, (first.veil hides).equals (second.veil hides) = first.equals second
  | wrapped _ inner, second => by simp only [veil, wrapped_equals, equals_veil inner second]
  | list items, second => by
    rw [veil, list_equals, list_equals, unwrapped_veil]
    cases second.unwrapped <;> simp only [veil, equalItems_veilItems items]
  | type ref, second => by
    rw [veil, type_equals, type_equals, unwrapped_veil]
    cases second.unwrapped <;> simp only [veil, TypeRef.name_veil]
  | null, second | bool _, second | byte _, second | short _, second | int _, second | long _, second
  | float _, second | double _, second | char _, second | str _, second | enum _, second | object _, second => by
    simp only [veil]
    exact equals_veil_of_isPlain (by trivial) second

@[simp] theorem equalItems_veilItems : ∀ items others : List Value,
    equalItems (veilItems hides items) (veilItems hides others) = equalItems items others
  | [], [] => rfl
  | [], _ :: _ => rfl
  | _ :: _, [] => rfl
  | item :: items, other :: others => by
    simp only [veilItems, equalItems, equals_veil item other, equalItems_veilItems items others]
end

theorem forall₂_alike_of_veilItems : ∀ {items items' : List Value}, veilItems hides items = veilItems hides items' →
    List.Forall₂ (Alike hides) items items'
  | [], [], _ => .nil
  | item :: items, item' :: items', same => by
    obtain ⟨head, tail⟩ := List.cons.inj same
    exact .cons head (forall₂_alike_of_veilItems tail)

theorem alike_getElem? {items items' : List Value} (itemwise : List.Forall₂ (Alike hides) items items') (index : Nat) :
    Option.Rel (Alike hides) items[index]? items'[index]? := by
  induction itemwise generalizing index with
  | nil => exact .none
  | cons head _ inductionHypothesis =>
    cases index with
    | zero => exact .some head
    | succ index => exact inductionHypothesis index

namespace Alike

variable {first second : Value}

/-- Alike values show the same to whoever sees them through the veil. -/
theorem same {α : Type} {read : Value → α} (blind : ∀ value, read (value.veil hides) = read value)
    (alike : Alike hides first second) : read first = read second := by
  rw [← blind first, alike, blind]

theorem equals_eq {other other' : Value} (alike : Alike hides first second) (others : Alike hides other other') :
    first.equals other = second.equals other' := by
  rw [← @equals_veil hides, alike, others, equals_veil]

theorem exists_list {items : List Value} (alike : Alike hides (.list items) second) :
    ∃ items', second = .list items' ∧ List.Forall₂ (Alike hides) items items' := by
  cases second with
  | list items' => exact ⟨items', rfl, forall₂_alike_of_veilItems (Value.list.inj alike)⟩
  | _ => simp_all [Alike, veil]

theorem lists (alike : Alike hides first second) :
    (∃ items items', first = .list items ∧ second = .list items' ∧ List.Forall₂ (Alike hides) items items') ∨
      (∀ items, first ≠ .list items) ∧ ∀ items, second ≠ .list items := by
  by_cases isList : ∃ items, first = .list items
  · obtain ⟨items, rfl⟩ := isList
    obtain ⟨items', rfl, itemwise⟩ := alike.exists_list
    exact .inl ⟨items, items', rfl, rfl, itemwise⟩
  · refine .inr ⟨fun items same => isList ⟨items, same⟩, fun items same => isList ?_⟩
    subst same
    obtain ⟨items', same, -⟩ := alike.symm.exists_list
    exact ⟨items', same⟩

theorem list {items items' : List Value} (alike : List.Forall₂ (Alike hides) items items') :
    Alike hides (.list items) (.list items') := by
  have same : veilItems hides items = veilItems hides items' := by
    induction alike with
    | nil => rfl
    | cons head _ inductionHypothesis => rw [veilItems, veilItems, head, inductionHypothesis]
  rw [Alike, veil, veil, same]

end Alike

end Value

/-! ## Actions of the host -/

/-- From alike stores the two actions come to alike stores, and to one fault or to related answers. -/
def Host.Agree {α : Type} (hides : String → Bool) (answers : α → α → Prop) (first second : Host α) : Prop :=
  Host.ActAlike hides (fun _ => True) answers first second

namespace Host.Agree

variable {α β : Type} {answers : α → α → Prop} {results : β → β → Prop}

theorem pure {answer answer' : α} (related : answers answer answer') :
    Agree hides answers (Pure.pure answer) (Pure.pure answer') :=
  Coupled.pureExcept related

theorem fail {message message' : String} (same : message = message') :
    Agree hides answers (Host.fail message) (Host.fail message') :=
  Coupled.fail ⟨congrArg Fault.error same, trivial⟩

theorem value {answer answer' : Value} (same : answer = answer') :
    Agree hides (Value.Alike hides) (Pure.pure answer) (Pure.pure answer') :=
  pure (same ▸ .refl _)

theorem ofOutcome (outcome : Except Fault α) : Agree hides Eq (Host.ofOutcome outcome) (Host.ofOutcome outcome) := by
  cases outcome with
  | ok answer => exact pure rfl
  | error fault => exact Coupled.fail ⟨rfl, trivial⟩

theorem alike {first second : Host Value} (agree : Agree hides Eq first second) :
    Agree hides (Value.Alike hides) first second := by
  refine Coupled.weaken agree fun ended ended' same => ?_
  match ended, ended', same with
  | .ok _, .ok _, same => exact same ▸ .refl _
  | .error _, .error _, same => exact same

variable {first second : Host α} {next follow : α → Host β}

theorem bind (head : Agree hides answers first second)
    (tail : ∀ answer answer', answers answer answer' → Agree hides results (next answer) (follow answer')) :
    Agree hides results (first >>= next) (second >>= follow) :=
  Coupled.bindExcept head tail

theorem bindEq (head : Agree hides Eq first second) (tail : ∀ answer, Agree hides results (next answer) (follow answer)) :
    Agree hides results (first >>= next) (second >>= follow) :=
  bind head fun answer _ same => same ▸ tail answer

end Host.Agree

/-! ## Arguments -/

/-- What is read for a parameter does not depend on what lies behind hidden names. -/
class HostArg.Blind (α : Type) [HostArg α] : Prop where
  agree {hides : String → Bool} {value value' : Value} : Value.Alike hides value value' →
    Host.Agree hides Eq (HostArg.read value : Host α) (HostArg.read value')

theorem Host.agree_ofExcept {α : Type} {read : Value → Except String α}
    (blind : ∀ value : Value, read (value.veil hides) = read value) {value value' : Value}
    (alike : Value.Alike hides value value') :
    Host.Agree hides Eq (Host.ofExcept (read value)) (Host.ofExcept (read value')) := by
  rw [alike.same blind]
  cases read value' with
  | ok result => exact .pure rfl
  | error message => exact .fail rfl

section

open Value

theorem readText_veil (value : Value) : (value.veil hides).readText = value.readText := by
  unfold readText unreadable
  rw [unwrapped_veil, display_veil]
  cases value.unwrapped <;> simp only [veil, display, displayItems_veilItems, display_veil, TypeRef.name_veil]

theorem readBool_veil (value : Value) : (value.veil hides).readBool = value.readBool := by
  unfold readBool unreadable
  rw [unwrapped_veil, display_veil]
  cases value.unwrapped <;> simp only [veil]

instance : HostArg.Blind Float where
  agree := Host.agree_ofExcept fun value => by simp only [readFloat, readAs, unreadable, toFloat?_veil, display_veil]

instance : HostArg.Blind Int64 where
  agree := Host.agree_ofExcept fun value => by simp only [readInt64, readAs, unreadable, toInteger?_veil, display_veil]

instance : HostArg.Blind Int32 where
  agree := Host.agree_ofExcept fun value => by simp only [readInt32, readAs, unreadable, toInteger?_veil, display_veil]

instance : HostArg.Blind Char where
  agree := Host.agree_ofExcept fun value => by simp only [readChar, readAs, unreadable, toInteger?_veil, display_veil]

instance : HostArg.Blind Bool where
  agree := Host.agree_ofExcept readBool_veil

instance : HostArg.Blind String where
  agree := Host.agree_ofExcept readText_veil

end

namespace Builtin

theorem arg_agree (α : Type) [HostArg α] {answers : α → α → Prop} {args args' : List Value}
    (alike : List.Forall₂ (Value.Alike hides) args args')
    (reads : ∀ value value', Value.Alike hides value value' →
      Host.Agree hides answers (HostArg.read value : Host α) (HostArg.read value')) (index : Nat) :
    Host.Agree hides answers (arg α args index) (arg α args' index) := by
  have related := Value.alike_getElem? alike index
  unfold arg
  generalize args[index]? = value?, args'[index]? = value?' at related ⊢
  cases related with
  | none => exact .fail rfl
  | some alike => exact reads _ _ alike

section

variable {args args' : List Value} (alike : List.Forall₂ (Value.Alike hides) args args')

include alike

theorem arg_same (α : Type) [HostArg α] [HostArg.Blind α] (index : Nat) :
    Host.Agree hides Eq (arg α args index) (arg α args' index) :=
  arg_agree α alike (fun _ _ => HostArg.Blind.agree) index

theorem given_agree (index : Nat) :
    Host.Agree hides (Value.Alike hides) (given args index) (given args' index) :=
  arg_agree Value alike (fun _ _ alike => .pure alike) index

theorem one_agree (α : Type) [HostArg α] [HostArg.Blind α] (result : α → Value) :
    Host.Agree hides (Value.Alike hides) (do return result (← arg α args 0)) (do return result (← arg α args' 0)) :=
  .bindEq (arg_same alike α 0) fun _ => .value rfl

theorem two_agree (α : Type) [HostArg α] [HostArg.Blind α] (result : α → α → Value) :
    Host.Agree hides (Value.Alike hides) (do return result (← arg α args 0) (← arg α args 1))
      (do return result (← arg α args' 0) (← arg α args' 1)) :=
  .bindEq (arg_same alike α 0) fun _ => .bindEq (arg_same alike α 1) fun _ => .value rfl

theorem shown_agree :
    Host.Agree hides (Value.Alike hides) (do return .str (← given args 0).display)
      (do return .str (← given args' 0).display) :=
  .bind (given_agree alike 0) fun _ _ alike => .value (by rw [alike.display_eq])

theorem items_agree (index : Nat) :
    Host.Agree hides (List.Forall₂ (Value.Alike hides)) (arg (List Value) args index) (arg (List Value) args' index) := by
  refine arg_agree (List Value) alike (fun value value' alike => ?_) index
  show Host.Agree hides _ (Host.ofExcept value.readList) (Host.ofExcept value'.readList)
  unfold Value.readList Value.unreadable
  rw [alike.display_eq]
  obtain ⟨items, items', shape, shape', itemwise⟩ | ⟨noList, noList'⟩ := alike.unwrapped.lists
  · rw [shape, shape']
    exact .pure itemwise
  · split
    · next isList => exact absurd isList (noList _)
    · exact .fail rfl

end

end Builtin

/-! ## Objects of the host -/

/-- The object with nothing behind hidden names. -/
def HostObject.veil (hides : String → Bool) (object : HostObject) : HostObject :=
  { object with state := object.state.veil hides }

namespace Store.Alike

variable {store store' : Store} (alike : store.Alike hides store')

include alike

theorem objects : store.objects.map (·.veil hides) = store'.objects.map (·.veil hides) :=
  congrArg Store.objects alike

theorem withObjects {objects objects' : Array HostObject}
    (same : objects.map (·.veil hides) = objects'.map (·.veil hides)) :
    Store.Alike hides { store with objects } { store' with objects := objects' } := by
  have slots := congrArg Store.slots alike
  exact Store.mk.injEq .. |>.mpr ⟨same, slots⟩

theorem push (object : HostObject) :
    Store.Alike hides { store with objects := store.objects.push object }
      { store' with objects := store'.objects.push object } :=
  alike.withObjects (by rw [Array.map_push, Array.map_push, alike.objects])

theorem modify (id : Nat) {change : HostObject → HostObject} (changed : HostObject → HostObject)
    (blind : ∀ object : HostObject, (change object).veil hides = changed (object.veil hides)) :
    Store.Alike hides { store with objects := store.objects.modify id change }
      { store' with objects := store'.objects.modify id change } := by
  have veiled (objects : Array HostObject) :
      (objects.modify id change).map (·.veil hides) = (objects.map (·.veil hides)).modify id changed := by
    ext place <;> simp [Array.getElem_modify]
    split <;> simp [blind]
  exact alike.withObjects (by rw [veiled, veiled, alike.objects])

end Store.Alike

theorem Host.create_agree (typeName : String) (state : Instance) :
    Host.Agree hides (Value.Alike hides) (Host.create typeName state) (Host.create typeName state) := by
  intro store store' alike
  have sizes : store.objects.size = store'.objects.size := by
    simpa using congrArg Array.size alike.objects
  refine ⟨?_, alike.push ⟨state, false⟩⟩
  show Value.Alike hides (.object ⟨typeName, store.objects.size⟩) (.object ⟨typeName, store'.objects.size⟩)
  rw [sizes]
  exact .refl _

section

variable {σ ρ : Type} [Native σ]
  (blind : ∀ state : Instance, Native.load? (state.veil hides) = (Native.load? state : Option σ))

include blind

theorem Host.view_agree (ref : ObjectRef) :
    Host.Agree hides Eq (Host.view ref Native.load? : Host σ) (Host.view ref Native.load?) := by
  intro store store' alike
  have same : store.objects[ref.id]?.map (·.veil hides) = store'.objects[ref.id]?.map (·.veil hides) := by
    rw [← Array.getElem?_map, ← Array.getElem?_map, alike.objects]
  rw [Host.run_view, Host.run_view]
  refine ⟨?_, alike⟩
  cases found : store.objects[ref.id]? <;> cases found' : store'.objects[ref.id]? <;> rw [found, found'] at same
  case none.none => exact ⟨rfl, trivial⟩
  case none.some | some.none => cases same
  case some.some object object' =>
    obtain ⟨sameState, sameSpoiled⟩ := HostObject.mk.inj (Option.some.inj same)
    have loads : (Native.load? object.state : Option σ) = Native.load? object'.state := by
      rw [← blind, sameState, blind]
    dsimp only
    rw [loads, sameSpoiled]
    split
    · exact ⟨rfl, trivial⟩
    · cases (Native.load? object'.state : Option σ) with
      | none => exact ⟨rfl, trivial⟩
      | some state => exact rfl

theorem Native.reach_agree {receiver receiver' : Value} (alike : Value.Alike hides receiver receiver') :
    Host.Agree hides Eq (Native.reach receiver : Host (ObjectRef × σ)) (Native.reach receiver') := by
  have alike := alike.unwrapped
  have fails {value : Value} (noObject : ∀ ref, value.unwrapped ≠ .object ref) :
      (Native.reach value : Host (ObjectRef × σ)) = Host.fail (value.unwrapped.unreadable (Native.typeName σ)) := by
    unfold Native.reach
    split
    · next shape => exact absurd shape (noObject _)
    · rfl
  by_cases isObject : ∃ ref, receiver.unwrapped = .object ref
  · obtain ⟨ref, shape⟩ := isObject
    rw [shape] at alike
    unfold Native.reach
    rw [shape, alike.eq_of_isPlain trivial]
    exact .bindEq (Host.view_agree blind ref) fun _ => .pure rfl
  · have noObject (ref : ObjectRef) : receiver.unwrapped ≠ .object ref := fun same => isObject ⟨ref, same⟩
    have noObject' (ref : ObjectRef) : receiver'.unwrapped ≠ .object ref := fun same =>
      noObject ref ((same ▸ alike.symm).eq_of_isPlain trivial)
    rw [fails noObject, fails noObject', Value.unreadable, alike.display_eq]
    exact .fail rfl

theorem Reading.on_agree (run : σ → Except Fault ρ) {receiver receiver' : Value}
    (alike : Value.Alike hides receiver receiver') :
    Host.Agree hides Eq ((Reading.of run).on receiver) ((Reading.of run).on receiver') :=
  .bindEq (Native.reach_agree blind alike) fun (_, state) => .ofOutcome (run state)

theorem Changing.on_agree (run : σ → Except Fault ρ × σ) {receiver receiver' : Value}
    (alike : Value.Alike hides receiver receiver') :
    Host.Agree hides Eq ((Changing.of run).on receiver) ((Changing.of run).on receiver') := by
  refine .bindEq (Native.reach_agree blind alike) fun (ref, state) => ?_
  have entered : Host.Agree hides Eq (liftM ((Changing.of run).run state) : Host _) (liftM ((Changing.of run).run state)) :=
    fun _ _ alike => ⟨rfl, alike⟩
  refine .bindEq entered fun (outcome, next) => ?_
  let saved := Native.save next
  have stored : Host.Agree hides Eq (Host.setState ref saved) (Host.setState ref saved) := fun _ _ alike =>
    ⟨rfl, alike.modify ref.id ({ · with state := saved.veil hides }) fun _ => rfl⟩
  have spoiled : Host.Agree hides Eq (Host.spoil ref) (Host.spoil ref) := fun _ _ alike =>
    ⟨rfl, alike.modify ref.id ({ · with spoiled := true }) fun _ => rfl⟩
  refine .bindEq stored fun _ => ?_
  match outcome with
  | .error (.panic message) => exact .bindEq spoiled fun _ => .ofOutcome (.error (.panic message))
  | .ok result => exact .ofOutcome (.ok result)
  | .error (.error message) => exact .ofOutcome (.error (.error message))
  | .error (.raised kind message span) => exact .ofOutcome (.error (.raised kind message span))

end

/-! ## Types that are described by adding members -/

namespace HostType.Discreet

variable {type : HostType} (discreet : type.Discreet hides fun _ => True)

theorem empty (name : String) : (HostType.empty name).Discreet hides fun _ => True :=
  ⟨nofun, nofun, nofun⟩

include discreet

theorem withParent (parent : String) : (type.withParent parent).Discreet hides fun _ => True :=
  ⟨discreet.constructors, discreet.methods, discreet.fields⟩

theorem addMethod {member : Member} (added : member.Discreet hides fun _ => True) :
    (type.addMethod member).Discreet hides fun _ => True :=
  { discreet with methods := List.forall_mem_append.2 ⟨discreet.methods, List.forall_mem_singleton.2 added⟩ }

theorem method {name : String} {params : List ParamType} {run : Value → List Value → Host Value} {isPublic : Bool}
    (agrees : ∀ receiver receiver' args args', Value.AlikeInstances hides receiver receiver' →
      List.Forall₂ (Value.Alike hides) args args' →
      Host.Agree hides (Value.Alike hides) (run receiver args) (run receiver' args')) :
    (type.method name params run isPublic).Discreet hides fun _ => True := by
  refine discreet.addMethod fun receiver receiver' args args' alikeReceiver alike => ?_
  cases alikeReceiver with
  | none => exact Host.Agree.fail rfl
  | some alikeReceiver => exact agrees _ _ _ _ alikeReceiver alike

theorem staticMethod {name : String} {params : List ParamType} {run : List Value → Host Value}
    (agrees : ∀ args args', List.Forall₂ (Value.Alike hides) args args' →
      Host.Agree hides (Value.Alike hides) (run args) (run args')) :
    (type.staticMethod name params run).Discreet hides fun _ => True :=
  discreet.addMethod fun _ _ _ _ _ alike => agrees _ _ alike

theorem constructor {params : List ParamType} {run : List Value → Host Value} {isPublic : Bool}
    (agrees : ∀ args args', List.Forall₂ (Value.Alike hides) args args' →
      Host.Agree hides (Value.Alike hides) (run args) (run args')) :
    (type.constructor params run isPublic).Discreet hides fun _ => True :=
  { discreet with
    constructors := List.forall_mem_append.2
      ⟨discreet.constructors, List.forall_mem_singleton.2 fun _ _ _ _ _ alike => agrees _ _ alike⟩ }

theorem staticField {name : String} {declared : ParamType} {value : Value} :
    (type.staticField name declared (pure value)).Discreet hides fun _ => True :=
  { discreet with
    fields := List.forall_mem_append.2 ⟨fun field inside => discreet.fields field (List.mem_filter.1 inside).1,
      List.forall_mem_singleton.2 ⟨fun _ _ _ => Host.Agree.value rfl, nofun⟩⟩ }

end HostType.Discreet

end LateBound
