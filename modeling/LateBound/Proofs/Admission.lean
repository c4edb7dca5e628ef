import LateBound.AllowList

/-!
# Admission by whole segments

An allow-list compares a prefix with a name character by character and then looks at the one character behind it. This
is a comparison of segments: between points, a prefix without a point at its end admits the names that begin with its
own segments, empty ones included, and so it never admits a name for the characters alone.
-/

namespace LateBound.AllowList

def segments (name : String) : List (List Char) :=
  name.toList.splitOn '.'

/-- Whether a prefix ends with a point, and is therefore compared by its characters. -/
def IsOpen (entry : String) : Prop :=
  ['.'] <:+ entry.toList

/-! ## Segments of a longer name -/

theorem intercalate_append {separator : List Char} {front behind : List (List Char)} (front_ne : front ≠ [])
    (behind_ne : behind ≠ []) : separator.intercalate (front ++ behind) =
      separator.intercalate front ++ (separator ++ separator.intercalate behind) := by
  induction front with
  | nil => exact absurd rfl front_ne
  | cons first rest inductionHypothesis =>
    cases rest with
    | nil => simp [List.intercalate_cons_of_ne_nil behind_ne]
    | cons second rest => simpa using inductionHypothesis (List.cons_ne_nil _ _)

theorem splitOn_prefix_iff {entry name : List Char} :
    entry.splitOn '.' <+: name.splitOn '.' ↔ name = entry ∨ ∃ below, name = entry ++ '.' :: below := by
  constructor
  · rintro ⟨more, isMore⟩
    have isName : name = ['.'].intercalate (entry.splitOn '.' ++ more) := by
      rw [isMore, List.intercalate_splitOn]
    by_cases more_ne : more = []
    · left
      rw [isName, more_ne, List.append_nil, List.intercalate_splitOn]
    · right
      refine ⟨['.'].intercalate more, ?_⟩
      rw [isName, intercalate_append (List.splitOn_ne_nil '.' entry) more_ne, List.intercalate_splitOn]
      rfl
  · rintro (rfl | ⟨below, rfl⟩)
    · exact List.prefix_refl _
    · exact ⟨below.splitOn '.', (List.splitOn_append_cons_self entry below).symm⟩

/-! ## One prefix -/

/-- How a prefix admits a name. -/
inductive Admits (name : String) : String → Prop
  | all : Admits name "*"
  | started {entry : String} : IsOpen entry → entry.toList <+: name.toList → Admits name entry
  | segments {entry : String} : entry ≠ "*" → ¬ IsOpen entry → segments entry <+: segments name → Admits name entry

theorem isOpen_iff {entry : String} : IsOpen entry ↔ entry.toList.getLast? = some '.' :=
  List.singleton_suffix_iff_getLast?_eq_some

theorem entryAdmits_all (name : String) : entryAdmits "*".toList name.toList = true :=
  if_pos rfl

theorem entryAdmits_of_isOpen {entry : String} (isOpen : IsOpen entry) (name : String) :
    entryAdmits entry.toList name.toList = true ↔ entry.toList <+: name.toList := by
  have notAll : entry.toList ≠ ['*'] := by
    intro isAll
    rw [isOpen_iff, isAll] at isOpen
    cases isOpen
  rw [entryAdmits, if_neg notAll, if_pos (isOpen_iff.1 isOpen), List.isPrefixOf_iff_prefix]

/-- A prefix that is compared by its characters and by the one behind them is compared by whole segments. -/
theorem entryAdmits_of_not_isOpen {entry : String} (notAll : entry ≠ "*") (isClosed : ¬ IsOpen entry) (name : String) :
    entryAdmits entry.toList name.toList = true ↔
      name.toList = entry.toList ∨ ∃ below, name.toList = entry.toList ++ '.' :: below := by
  have notAll : entry.toList ≠ ['*'] := fun isAll => notAll (String.toList_injective isAll)
  rw [entryAdmits, if_neg notAll, if_neg (fun isOpen => isClosed (isOpen_iff.2 isOpen)), Bool.and_eq_true,
    List.isPrefixOf_iff_prefix]
  constructor
  · rintro ⟨⟨rest, isRest⟩, fits⟩
    rw [← isRest, List.drop_left] at fits
    cases rest with
    | nil =>
      rw [List.append_nil] at isRest
      exact .inl isRest.symm
    | cons c below =>
      obtain rfl : c = '.' := beq_iff_eq.1 fits
      exact .inr ⟨below, isRest.symm⟩
  · rintro (same | ⟨below, further⟩)
    · rw [same, List.drop_length]
      exact ⟨List.prefix_refl _, rfl⟩
    · rw [further, List.drop_left]
      exact ⟨List.prefix_append _ _, rfl⟩

theorem entryAdmits_iff (entry name : String) : entryAdmits entry.toList name.toList = true ↔ Admits name entry := by
  constructor
  · intro admitted
    by_cases isAll : entry = "*"
    · subst isAll
      exact .all
    by_cases isOpen : IsOpen entry
    · exact .started isOpen ((entryAdmits_of_isOpen isOpen name).1 admitted)
    · exact .segments isAll isOpen (splitOn_prefix_iff.2 ((entryAdmits_of_not_isOpen isAll isOpen name).1 admitted))
  · intro admits
    cases admits with
    | all => exact entryAdmits_all name
    | started isOpen isPrefix => exact (entryAdmits_of_isOpen isOpen name).2 isPrefix
    | segments notAll isClosed first =>
      exact (entryAdmits_of_not_isOpen notAll isClosed name).2 (splitOn_prefix_iff.1 first)

/-! ## The list -/

theorem admits_iff (list : AllowList) (name : String) :
    list.admits name = true ↔ ∃ entry ∈ list.prefixes, Admits name entry := by
  rw [admits, List.any_eq_true]
  exact exists_congr fun entry => and_congr_right fun _ => entryAdmits_iff entry name

theorem admits_push_iff (list : AllowList) (entry name : String) :
    (list.push entry).admits name = true ↔ list.admits name = true ∨ Admits name entry := by
  simp only [admits_iff, push, List.mem_append, List.mem_singleton, or_and_right, exists_or, exists_eq_left]

/-- An allow-list admits the names that begin with the segments of a prefix, or, where the prefix ends with a point,
with its characters; one more prefix admits more names. -/
theorem admits_whole_segments (list : AllowList) (name : String) :
    (list.admits name = true ↔ ∃ entry ∈ list.prefixes, Admits name entry) ∧
      (∀ entry, entry ≠ "*" → ¬ IsOpen entry → ((AllowList.mk [entry]).admits name = true ↔
        name = entry ∨ ∃ below, name = entry ++ "." ++ below)) ∧
      ∀ entry, list.admits name = true → (list.push entry).admits name = true := by
  refine ⟨admits_iff list name, fun entry notAll isClosed => ?_, fun entry admitted => ?_⟩
  · rw [admits, List.any_cons, List.any_nil, Bool.or_false, entryAdmits_of_not_isOpen notAll isClosed]
    refine or_congr String.toList_inj ⟨?_, ?_⟩
    · rintro ⟨below, further⟩
      refine ⟨String.ofList below, String.toList_injective ?_⟩
      rw [further]
      simp
    · rintro ⟨below, rfl⟩
      exact ⟨below.toList, by simp⟩
  · exact (admits_push_iff list entry name).2 (.inl admitted)

/-- The empty prefix admits the names that begin with a point, and `lang` what lies below it. -/
theorem admits_whole_segments_lang :
    ("lang" ≠ "*" ∧ ¬ IsOpen "lang") ∧
      ((AllowList.mk ["lang"]).admits "language.Thing" = true ↔
        "language.Thing" = "lang" ∨ ∃ below, "language.Thing" = "lang" ++ "." ++ below) ∧
      (AllowList.mk ["", "demo."]).admits ".demo" = true ∧
      ((AllowList.mk ["", "demo."]).push "lang").admits ".demo" = true := by
  have notAll : "lang" ≠ "*" := by decide
  have isClosed : ¬ IsOpen "lang" := by
    rw [isOpen_iff]
    decide
  have admitted : (AllowList.mk ["", "demo."]).admits ".demo" = true := by decide
  exact ⟨⟨notAll, isClosed⟩, (admits_whole_segments ⟨[]⟩ "language.Thing").2.1 "lang" notAll isClosed, admitted,
    (admits_whole_segments ⟨["", "demo."]⟩ ".demo").2.2 "lang" admitted⟩

end LateBound.AllowList
