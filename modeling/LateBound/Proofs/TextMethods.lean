import LateBound.Proofs.EngineCalls
import LateBound.Proofs.Hashing
import LateBound.Proofs.NativeCalls
import LateBound.Proofs.Offsets

/-!
# Texts are counted in characters

Scripts reach the methods of texts through an engine, and the host answers them from byte offsets. Whatever the engine
has come to remember, ranges, searches and insertions agree on the places of a text, and these count its characters.
-/

namespace LateBound

namespace Builtin

/-! ## Methods of texts -/

def TextOutcome (gate : Gate) (s : String) (name : String) (args : List Value) (outcome : Except Fault Value) : Prop :=
  ∃ handle, (Callee.method name).found gate stringType args = some handle ∧
    ∀ store, handle.member.ending (some (.str s)) (args.zipWith gate.passed handle.member.params) store =
      (outcome, store)

section

variable (gate : Gate) (s t : String) (i j : Int32)

theorem outcome_length : TextOutcome gate s "length" [] (.ok (count s.length)) :=
  ⟨_, rfl, fun _ => rfl⟩

theorem outcome_substring :
    TextOutcome gate s "substring" [.int i, .int j]
      ((substring s.toList i j).map fun part => .str (String.ofList part)) := by
  refine ⟨_, rfl, fun store => ?_⟩
  simp only [List.zipWith_cons_cons, List.zipWith_nil_left, passed_int]
  show (do
    let part ← Host.ofOutcome (substring s.toList (Int32.ofInt i.toInt) (Int32.ofInt j.toInt))
    return .str (String.ofList part) : Host Value).run.run store = _
  rw [Int32.ofInt_toInt, Int32.ofInt_toInt, Host.run_return_ofOutcome]

theorem outcome_substring_from :
    TextOutcome gate s "substring" [.int i]
      ((substring s.toList i (Int32.ofNat s.length)).map fun part => .str (String.ofList part)) := by
  refine ⟨_, rfl, fun store => ?_⟩
  simp only [List.zipWith_cons_cons, List.zipWith_nil_left, passed_int]
  show (do
    let part ← Host.ofOutcome (substring s.toList (Int32.ofInt i.toInt) (Int32.ofNat s.length))
    return .str (String.ofList part) : Host Value).run.run store = _
  rw [Int32.ofInt_toInt, Host.run_return_ofOutcome]

theorem outcome_concat : TextOutcome gate s "concat" [.str t] (.ok (.str (s ++ t))) :=
  ⟨_, rfl, fun _ => rfl⟩

theorem outcome_contains :
    TextOutcome gate s "contains" [.str t] (.ok (.bool (Text.find? t.toList s.toList).isSome)) :=
  ⟨_, rfl, fun _ => rfl⟩

theorem outcome_indexOf :
    TextOutcome gate s "indexOf" [.str t] (indexValue s.toList (Text.find? t.toList s.toList)) :=
  ⟨_, rfl, fun store => Host.run_ofOutcome (indexValue s.toList (Text.find? t.toList s.toList)) store⟩

end

/-! ## Texts being built -/

namespace TextBuffer

section

variable {store : Store} {receiver : Value} {ref : ObjectRef} {s : String} {edit : String → Except Fault String}

theorem modify_state_self {objects : Array HostObject} {place : Nat} {object : HostObject}
    (isThere : objects[place]? = some object) : objects.modify place ({ · with state := object.state }) = objects := by
  refine Array.ext_getElem? fun other => ?_
  rw [Array.getElem?_modify]
  split
  · next same =>
    subst same
    rw [isThere]
    rfl
  · rfl

theorem state_of_load {state : Instance} (loaded : Native.load? state = some (TextBuffer.mk s)) :
    state = .buffer s := by
  cases state with
  | buffer text =>
    cases loaded
    rfl
  | record | struct => cases loaded

theorem run_change_of_ok (holds : Native.Holds store receiver ref (TextBuffer.mk s)) {text : String}
    (edited : edit s = .ok text) :
    (change receiver edit).run.run store =
      (.ok receiver, { store with objects := store.objects.modify ref.id ({ · with state := .buffer text }) }) := by
  unfold change Changing.on
  rw [bind_assoc, Host.run_bind, holds.run_reach]
  simp only [Changing.enter, Changing.of, edited]
  rfl

theorem run_change_of_error (holds : Native.Holds store receiver ref (TextBuffer.mk s)) {message : String}
    (failed : edit s = .error (.error message)) :
    (change receiver edit).run.run store = (.error (.error message), store) := by
  have same : store.objects.modify ref.id ({ · with state := .buffer s }) = store.objects := by
    obtain ⟨object, isThere, -, loaded⟩ := holds.held
    have isState : object.state = .buffer s := state_of_load loaded
    rw [← isState]
    exact modify_state_self isThere
  unfold change Changing.on
  rw [bind_assoc, Host.run_bind, holds.run_reach]
  simp only [Changing.enter, Changing.of, failed]
  show (Except.error (Fault.error message),
    { store with objects := store.objects.modify ref.id ({ · with state := .buffer s }) }) = _
  rw [same]

end

end TextBuffer

def inserting (i : Int32) (added text : String) : Except Fault String :=
  (insertAt text.toList i added.toList).map String.ofList

theorem insert_found (gate : Gate) (i : Int32) (x : Value) :
    ∃ handle, (Callee.method "insert").found gate TextBuffer.hostType [.int i, x] = some handle ∧
      ∀ receiver store,
        handle.member.ending (some receiver) ([.int i, x].zipWith gate.passed handle.member.params) store =
          (TextBuffer.change receiver (inserting i x.display)).run.run store := by
  refine ⟨_, rfl, fun receiver store => ?_⟩
  simp only [List.zipWith_cons_cons, List.zipWith_nil_left, passed_int]
  show (TextBuffer.change receiver (inserting (Int32.ofInt i.toInt) x.unwrapped.display)).run.run store = _
  rw [Int32.ofInt_toInt, Value.display_unwrapped]

/-! ## Places -/

/-- What the calls answer that look for one text in another: the index `k`, the length of the pattern and whether the
text contains it. -/
structure Searches (call : Value → String → List Value → Except Failure Value) (s t : String) (k length : Int32)
    (contained : Bool) : Prop where
  index : call (.str s) "indexOf" [.str t] = .ok (.int k)
  isLength : call (.str t) "length" [] = .ok (.int length)
  contains : call (.str s) "contains" [.str t] = .ok (.bool contained)
  stands : 0 ≤ k.toInt → call (.str s) "substring" [.int k, .int (k + length)] = .ok (.str t)
  least : ∀ earlier : Int32, 0 ≤ earlier.toInt → earlier.toInt < k.toInt →
    call (.str s) "substring" [.int earlier, .int (earlier + length)] ≠ .ok (.str t)
  isIndex : 0 ≤ k.toInt ∨ k = -1
  absent : k = -1 ↔ contained = false
  present : contained = true ↔ t.toList <:+: s.toList

/-- The calls that are made on a text count its characters. -/
structure CountsCharacters (call : Value → String → List Value → Except Failure Value) (s t : String) (i j : Int32) :
    Prop where
  length : ∃ length : Int32, length.toInt = s.length ∧ call (.str s) "length" [] = .ok (.int length)
  substring : InRange s.toList i j →
    call (.str s) "substring" [.int i, .int j] = .ok (.str (String.ofList (between s.toList i j)))
  refuses : ¬ InRange s.toList i j → ∃ failure, call (.str s) "substring" [.int i, .int j] = .error failure
  splits : 0 ≤ i.toInt → i.toInt ≤ s.length → ∃ front behind,
    call (.str s) "substring" [.int 0, .int i] = .ok (.str front) ∧
      call (.str s) "substring" [.int i] = .ok (.str behind) ∧
      call (.str front) "concat" [.str behind] = .ok (.str s)
  searches : ∃ k length contained, Searches call s t k length contained

/-- Inserting into a builder that holds a text counts the characters of the text, or leaves it as it is. -/
structure InsertsAt (engine : Engine Caches) (ref : ObjectRef) (s : String) (i : Int32) (x : Value) : Prop where
  inserts : 0 ≤ i.toInt → i.toInt ≤ s.length → ∃ front behind,
    engine.answer (.str s) "substring" [.int 0, .int i] = .ok (.str front) ∧
      engine.answer (.str s) "substring" [.int i] = .ok (.str behind) ∧
      engine.answer (.object ref) "insert" [.int i, x] = .ok (.object ref) ∧
      ((Engine.callMethod (.object ref) "insert" [.int i, x]).run engine).2.machine.store.objects[ref.id]? =
        some ⟨.buffer (front ++ x.display ++ behind), false⟩
  refuses : ¬ (0 ≤ i.toInt ∧ i.toInt ≤ s.length) →
    (∃ failure, engine.answer (.object ref) "insert" [.int i, x] = .error failure) ∧
      ((Engine.callMethod (.object ref) "insert" [.int i, x]).run engine).2.machine.store = engine.machine.store

theorem ofList_take_drop (s : String) (n : Nat) :
    String.ofList (s.toList.take n) ++ String.ofList (s.toList.drop n) = s := by
  rw [← String.ofList_append, List.take_append_drop, String.ofList_toList]

theorem toInt_length {s : String} (short : s.length < 2 ^ 31) : (Int32.ofNat s.length).toInt = s.length :=
  Int32.toInt_ofNat_of_lt short

theorem between_of_room {s t : String} {index : Nat} (room : index + t.length < 2 ^ 31) :
    (Int32.ofNat index).toInt = index ∧ (Int32.ofNat index + Int32.ofNat t.length).toInt = index + t.length ∧
      between s.toList (Int32.ofNat index) (Int32.ofNat index + Int32.ofNat t.length) =
        (s.toList.drop index).take t.toList.length := by
  have first : (Int32.ofNat index).toInt = index := Int32.toInt_ofNat_of_lt (by omega)
  have last : (Int32.ofNat index + Int32.ofNat t.length).toInt = index + t.length := by
    rw [← Int32.ofNat_add, Int32.toInt_ofNat_of_lt room, Int.natCast_add]
  refine ⟨first, last, ?_⟩
  have long : ((index : Int) + t.length).toNat - (index : Int).toNat = t.toList.length := by
    rw [String.length_toList]
    omega
  rw [between, first, last, long, Int.toNat_natCast]

section

variable {s t : String} {i j : Int32} (short : s.length < 2 ^ 31)

include short

theorem isShort : IsShort s.toList := by
  rw [IsShort, String.length_toList]
  exact short

theorem substring_front (nonnegative : 0 ≤ i.toInt) (inside : i.toInt ≤ s.length) :
    substring s.toList 0 i = .ok (s.toList.take i.toInt.toNat) := by
  have inRange : InRange s.toList 0 i := ⟨Int.le_refl 0, nonnegative, by rw [String.length_toList]; exact inside⟩
  exact substring_of_inRange (isShort short) inRange

theorem substring_behind (nonnegative : 0 ≤ i.toInt) (inside : i.toInt ≤ s.length) :
    substring s.toList i (Int32.ofNat s.length) = .ok (s.toList.drop i.toInt.toNat) := by
  have inRange : InRange s.toList i (Int32.ofNat s.length) := by
    rw [InRange, toInt_length short, String.length_toList]
    exact ⟨nonnegative, inside, Int.le_refl _⟩
  have whole : ((s.length : Int).toNat - i.toInt.toNat) = (s.toList.drop i.toInt.toNat).length := by
    rw [List.length_drop, String.length_toList, Int.toNat_natCast]
  rw [substring_of_inRange (isShort short) inRange, between, toInt_length short, whole, List.take_length]

theorem substring_of_occursAt {index : Nat} (occurs : OccursAt t.toList s.toList index) :
    substring s.toList (Int32.ofNat index) (Int32.ofNat index + Int32.ofNat t.length) = .ok t.toList := by
  have fits : t.length ≤ s.length - index := by
    have fits := occurs.2.length_le
    rwa [List.length_drop, String.length_toList, String.length_toList] at fits
  have inside : index ≤ s.length := by
    have inside := occurs.1
    rwa [String.length_toList] at inside
  obtain ⟨first, last, isRange⟩ := between_of_room (s := s) (show index + t.length < 2 ^ 31 by omega)
  have inRange : InRange s.toList (Int32.ofNat index) (Int32.ofNat index + Int32.ofNat t.length) := by
    rw [InRange, first, last, String.length_toList]
    omega
  rw [substring_of_inRange (isShort short) inRange, isRange, ← List.prefix_iff_eq_take.1 occurs.2]

theorem occursAt_of_substring {index : Nat} (room : index + t.length < 2 ^ 31)
    (holds : substring s.toList (Int32.ofNat index) (Int32.ofNat index + Int32.ofNat t.length) = .ok t.toList) :
    OccursAt t.toList s.toList index := by
  obtain ⟨first, last, isRange⟩ := between_of_room room
  by_cases inRange : InRange s.toList (Int32.ofNat index) (Int32.ofNat index + Int32.ofNat t.length)
  · rw [substring_of_inRange (isShort short) inRange, isRange] at holds
    rw [InRange, first, last] at inRange
    exact ⟨by omega, List.prefix_iff_eq_take.2 (Except.ok.inj holds).symm⟩
  · obtain ⟨message, refused⟩ := substring_of_not_inRange (isShort short) inRange
    rw [refused] at holds
    cases holds

end

section

variable {registry : Registry} {policy : AllowList}
  (strings : (Engine.gateOf registry policy).lookup stringType.name = .found stringType) (settings : Settings)
  (store : Store) (operations : List Operation) {s t : String} {i j : Int32}

include strings

theorem answer_of_outcome {name : String} {args : List Value} {outcome : Except Fault Value}
    (isOutcome : TextOutcome (Engine.gateOf registry policy) s name args outcome) :
    ∃ classify, ((Engine.cached (Engine.gateOf registry policy) settings store).after operations).answer (.str s) name
      args = outcome.mapError classify := by
  obtain ⟨handle, isFound, ends⟩ := isOutcome
  have plain : (Value.str s).unwrapped = .str s := rfl
  exact ⟨_, answer_of_found strings settings store operations plain (fun _ => nofun) rfl isFound ends⟩

theorem answer_of_ok {name : String} {args : List Value} {value : Value}
    (isOutcome : TextOutcome (Engine.gateOf registry policy) s name args (.ok value)) :
    ((Engine.cached (Engine.gateOf registry policy) settings store).after operations).answer (.str s) name args =
      .ok value := by
  obtain ⟨classify, answered⟩ := answer_of_outcome strings settings store operations isOutcome
  exact answered

theorem answer_parts (short : s.length < 2 ^ 31) (nonnegative : 0 ≤ i.toInt) (inside : i.toInt ≤ s.length) :
    let engine := (Engine.cached (Engine.gateOf registry policy) settings store).after operations
    engine.answer (.str s) "substring" [.int 0, .int i] = .ok (.str (String.ofList (s.toList.take i.toInt.toNat))) ∧
      engine.answer (.str s) "substring" [.int i] = .ok (.str (String.ofList (s.toList.drop i.toInt.toNat))) := by
  have front := outcome_substring (Engine.gateOf registry policy) s 0 i
  have behind := outcome_substring_from (Engine.gateOf registry policy) s i
  rw [substring_front short nonnegative inside] at front
  rw [substring_behind short nonnegative inside] at behind
  exact ⟨answer_of_ok strings settings store operations front, answer_of_ok strings settings store operations behind⟩

theorem answer_substring_iff (i j : Int32) :
    ((Engine.cached (Engine.gateOf registry policy) settings store).after operations).answer (.str s) "substring"
        [.int i, .int j] = .ok (.str t) ↔ substring s.toList i j = .ok t.toList := by
  obtain ⟨classify, answered⟩ :=
    answer_of_outcome strings settings store operations (outcome_substring (Engine.gateOf registry policy) s i j)
  rw [answered]
  cases substring s.toList i j with
  | error fault => exact iff_of_false nofun nofun
  | ok part =>
    simp only [Except.map, Except.mapError, Except.ok.injEq, Value.str.injEq]
    exact ⟨fun same => by rw [← same, String.toList_ofList], fun same => by rw [same, String.ofList_toList]⟩

/-- The pattern is found where it stands first. -/
theorem searches_of_least {index : Nat} (short : s.length < 2 ^ 31)
    (isIndex : indexValue s.toList (Text.find? t.toList s.toList) = .ok (count index))
    (isFound : (Text.find? t.toList s.toList).isSome = true) (occurs : OccursAt t.toList s.toList index)
    (least : ∀ earlier < index, ¬ OccursAt t.toList s.toList earlier) :
    Searches ((Engine.cached (Engine.gateOf registry policy) settings store).after operations).answer s t
      (Int32.ofNat index) (Int32.ofNat t.length) true := by
  have searched := outcome_indexOf (Engine.gateOf registry policy) s t
  have contains := outcome_contains (Engine.gateOf registry policy) s t
  rw [isIndex] at searched
  rw [isFound] at contains
  have fits : t.length ≤ s.length - index := by
    have fits := occurs.2.length_le
    rwa [List.length_drop, String.length_toList, String.length_toList] at fits
  have inside : index ≤ s.length := by
    have inside := occurs.1
    rwa [String.length_toList] at inside
  have isPlace : (Int32.ofNat index).toInt = index := Int32.toInt_ofNat_of_lt (by omega)
  have negative : (-1 : Int32).toInt = -1 := by decide
  constructor
  · exact answer_of_ok strings settings store operations searched
  · exact answer_of_ok strings settings store operations (outcome_length (Engine.gateOf registry policy) t)
  · exact answer_of_ok strings settings store operations contains
  · intro _
    exact (answer_substring_iff strings settings store operations _ _).2 (substring_of_occursAt short occurs)
  · intro earlier nonnegative sooner answered
    have isEarlier : earlier = Int32.ofNat earlier.toInt.toNat := by
      rw [← Int32.toInt_inj, Int32.toInt_ofNat_of_lt (by omega)]
      omega
    rw [isEarlier] at answered
    have holds := (answer_substring_iff strings settings store operations _ _).1 answered
    exact least earlier.toInt.toNat (by omega) (occursAt_of_substring short (by omega) holds)
  · rw [isPlace]
    exact .inl (Int.natCast_nonneg index)
  · refine iff_of_false (fun isNegative => ?_) Bool.noConfusion
    rw [isNegative] at isPlace
    omega
  · exact iff_of_true rfl (exists_occursAt_iff.1 ⟨index, occurs⟩)

theorem searches_of_nowhere (isNone : indexValue s.toList (Text.find? t.toList s.toList) = .ok (.int (-1)))
    (notFound : (Text.find? t.toList s.toList).isSome = false)
    (nowhere : ∀ index, ¬ OccursAt t.toList s.toList index) :
    Searches ((Engine.cached (Engine.gateOf registry policy) settings store).after operations).answer s t (-1)
      (Int32.ofNat t.length) false := by
  have searched := outcome_indexOf (Engine.gateOf registry policy) s t
  have contains := outcome_contains (Engine.gateOf registry policy) s t
  rw [isNone] at searched
  rw [notFound] at contains
  have negative : (-1 : Int32).toInt = -1 := by decide
  constructor
  · exact answer_of_ok strings settings store operations searched
  · exact answer_of_ok strings settings store operations (outcome_length (Engine.gateOf registry policy) t)
  · exact answer_of_ok strings settings store operations contains
  · intro nonnegative
    omega
  · intro earlier nonnegative sooner
    omega
  · exact .inr rfl
  · exact iff_of_true rfl rfl
  · refine iff_of_false Bool.noConfusion fun isInfix => ?_
    obtain ⟨index, occurs⟩ := exists_occursAt_iff.2 isInfix
    exact nowhere index occurs

theorem countsCharacters (short : s.length < 2 ^ 31) (t : String) (i j : Int32) :
    CountsCharacters ((Engine.cached (Engine.gateOf registry policy) settings store).after operations).answer s t i
      j where
  length := ⟨Int32.ofNat s.length, toInt_length short,
    answer_of_ok strings settings store operations (outcome_length (Engine.gateOf registry policy) s)⟩
  substring inRange := by
    have isPart := substring_of_inRange (isShort short) inRange
    rw [answer_substring_iff strings settings store operations, isPart, String.toList_ofList]
  refuses outside := by
    obtain ⟨message, refused⟩ := substring_of_not_inRange (isShort short) outside
    obtain ⟨classify, answered⟩ :=
      answer_of_outcome strings settings store operations (outcome_substring (Engine.gateOf registry policy) s i j)
    rw [refused] at answered
    exact ⟨_, answered⟩
  splits nonnegative inside := by
    obtain ⟨front, behind⟩ := answer_parts strings settings store operations short nonnegative inside
    have joined := answer_of_ok strings settings store operations (outcome_concat (Engine.gateOf registry policy)
      (String.ofList (s.toList.take i.toInt.toNat)) (String.ofList (s.toList.drop i.toInt.toNat)))
    rw [ofList_take_drop] at joined
    exact ⟨_, _, front, behind, joined⟩
  searches := by
    obtain ⟨index, isIndex, isFound, occurs, least⟩ | ⟨isNone, notFound, nowhere⟩ :=
      indexValue_find? t.toList s.toList
    · exact ⟨_, _, _, searches_of_least strings settings store operations short isIndex isFound occurs least⟩
    · exact ⟨_, _, _, searches_of_nowhere strings settings store operations isNone notFound nowhere⟩

theorem insertsAt
    (builders : (Engine.gateOf registry policy).lookup TextBuffer.hostType.name = .found TextBuffer.hostType)
    (short : s.length < 2 ^ 31) (i : Int32) (x : Value) {ref : ObjectRef}
    (isBuilder : ref.typeName = TextBuffer.typeName) :
    let engine := (Engine.cached (Engine.gateOf registry policy) settings store).after operations
    engine.machine.store.objects[ref.id]? = some ⟨.buffer s, false⟩ → InsertsAt engine ref s i x := by
  intro engine isThere
  obtain ⟨handle, isFound, ends⟩ := insert_found (Engine.gateOf registry policy) i x
  have plain : (Value.object ref).unwrapped = .object ref := rfl
  have isOwner : (Value.object ref).runtimeTypeName? = some TextBuffer.hostType.name := congrArg some isBuilder
  obtain ⟨answered, behind⟩ :=
    callMethod_of_found builders settings store operations plain (fun _ => nofun) isOwner isFound
  rw [ends] at answered behind
  have holds : Native.Holds engine.machine.store (.object ref) ref (TextBuffer.mk s) := ⟨rfl, _, isThere, rfl, rfl⟩
  constructor
  · intro nonnegative inside
    obtain ⟨isFront, isBehind⟩ := answer_parts strings settings store operations short nonnegative inside
    have inRange : InRange s.toList i i := ⟨nonnegative, Int.le_refl _, by rw [String.length_toList]; exact inside⟩
    have inserted : inserting i x.display s = _ :=
      congrArg (Except.map String.ofList) (insertAt_of_inRange (isShort short) inRange x.display.toList)
    rw [TextBuffer.run_change_of_ok holds inserted] at answered behind
    refine ⟨_, _, isFront, isBehind, answered, ?_⟩
    rw [behind, Array.getElem?_modify, if_pos rfl, isThere]
    simp only [Option.map_some, String.ofList_append, String.ofList_toList]
  · intro outside
    have notInRange : ¬ InRange s.toList i i := by
      rintro ⟨nonnegative, -, inside⟩
      rw [String.length_toList] at inside
      exact outside ⟨nonnegative, inside⟩
    obtain ⟨message, refused⟩ := insertAt_of_not_inRange (isShort short) notInRange x.display.toList
    have failed : inserting i x.display s = _ := congrArg (Except.map String.ofList) refused
    rw [TextBuffer.run_change_of_error holds failed] at answered behind
    exact ⟨⟨_, answered⟩, behind⟩

end

/-- Every operation on a text agrees with the others on its places, and so does inserting into a builder that holds the
text, whatever the engine has done before. -/
theorem text_positions_count_characters {registry : Registry} {policy : AllowList}
    (strings : (Engine.gateOf registry policy).lookup stringType.name = .found stringType)
    (builders : (Engine.gateOf registry policy).lookup TextBuffer.hostType.name = .found TextBuffer.hostType)
    (settings : Settings) (store : Store) (operations : List Operation) {s : String} (short : s.length < 2 ^ 31)
    (t : String) (i j : Int32) :
    let engine := (Engine.cached (Engine.gateOf registry policy) settings store).after operations
    CountsCharacters engine.answer s t i j ∧
      ∀ ref x, ref.typeName = TextBuffer.typeName →
        engine.machine.store.objects[ref.id]? = some ⟨.buffer s, false⟩ → InsertsAt engine ref s i x :=
  ⟨countsCharacters strings settings store operations short t i j, fun _ x isBuilder isThere =>
    insertsAt strings settings store operations builders short i x isBuilder isThere⟩

/-- In a builder that holds a text with an accent, a number is put in behind the second character. -/
theorem text_positions_count_characters_accent :
    let gate := Engine.gateOf standardRegistry .all
    let engine := Engine.cached gate .standard ⟨#[⟨.buffer "hélo", false⟩], []⟩
    gate.lookup stringType.name = .found stringType ∧
      gate.lookup TextBuffer.hostType.name = .found TextBuffer.hostType ∧
      "hélo".length < 2 ^ 31 ∧ CountsCharacters engine.answer "hélo" "l" 2 2 ∧
      InsertsAt engine ⟨TextBuffer.typeName, 0⟩ "hélo" 2 (.int 7) := by
  intro gate engine
  have strings : gate.lookup stringType.name = .found stringType := rfl
  have builders : gate.lookup TextBuffer.hostType.name = .found TextBuffer.hostType := rfl
  have short : "hélo".length < 2 ^ 31 := by decide
  obtain ⟨counts, inserts⟩ := text_positions_count_characters strings builders .standard
    ⟨#[⟨.buffer "hélo", false⟩], []⟩ [] short "l" 2 2
  exact ⟨strings, builders, short, counts, inserts ⟨TextBuffer.typeName, 0⟩ (.int 7) rfl rfl⟩

end Builtin

end LateBound
