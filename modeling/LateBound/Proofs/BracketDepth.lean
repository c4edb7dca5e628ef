import LateBound.Proofs.Segments
import LateBound.Proofs.Twins

/-!
# How deep brackets are nested

The nesting of a text is how many of its brackets are open at once, those in strings apart. What stands between
two brackets is nested less deep than the whole, and what an initialiser reads of that, a segment or the value
that one assigns, no deeper. So the nesting of a text bounds how many initialisers are opened inside each other
when it is evaluated.
-/

namespace LateBound

/-- How many brackets are open at once at most, `depth` of them at the start. -/
def deepest (depth : Nat) : List Char → Nat
  | [] => depth
  | '[' :: cs => deepest (depth + 1) cs
  | ']' :: cs => max depth (deepest (depth - 1) cs)
  | _ :: cs => deepest depth cs

def bracketNest (text : List Char) : Nat :=
  deepest 0 (outside false text)

theorem deepest_other {c : Char} (noOpening : c ≠ '[') (noClosing : c ≠ ']') (depth : Nat) (cs : List Char) :
    deepest depth (c :: cs) = deepest depth cs := by
  rw [deepest.eq_4 _ _ _ noOpening noClosing]

theorem deepest_mono {depth deeper : Nat} (within : depth ≤ deeper) (cs : List Char) :
    deepest depth cs ≤ deepest deeper cs := by
  fun_induction deepest depth cs generalizing deeper with
  | case1 => exact within
  | case2 depth cs inductionHypothesis =>
    rw [deepest]
    exact inductionHypothesis (by omega)
  | case3 depth cs inductionHypothesis =>
    have further : deepest (depth - 1) cs ≤ deepest (deeper - 1) cs := inductionHypothesis (by omega)
    rw [deepest]
    omega
  | case4 depth c cs noOpening noClosing inductionHypothesis =>
    rw [deepest_other noOpening noClosing]
    exact inductionHypothesis within

theorem le_deepest (depth : Nat) (cs : List Char) : depth ≤ deepest depth cs := by
  fun_induction deepest depth cs with
  | case1 => exact Nat.le_refl _
  | case2 => omega
  | case3 => exact Nat.le_max_left ..
  | case4 => assumption

theorem deepest_le_append (depth : Nat) (cs more : List Char) : deepest depth cs ≤ deepest depth (cs ++ more) := by
  fun_induction deepest depth cs with
  | case1 depth => exact le_deepest depth more
  | case2 depth cs inductionHypothesis => exact inductionHypothesis
  | case3 depth cs inductionHypothesis =>
    rw [List.cons_append, deepest]
    omega
  | case4 depth c cs noOpening noClosing inductionHypothesis =>
    rwa [List.cons_append, deepest_other noOpening noClosing]

theorem deepest_le_of_suffix (depth : Nat) (cs more : List Char) : deepest 0 more ≤ deepest depth (cs ++ more) := by
  fun_induction deepest depth cs with
  | case1 depth => exact deepest_mono (Nat.zero_le depth) more
  | case2 depth cs inductionHypothesis => exact inductionHypothesis
  | case3 depth cs inductionHypothesis =>
    rw [List.cons_append, deepest]
    omega
  | case4 depth c cs noOpening noClosing inductionHypothesis =>
    rwa [List.cons_append, deepest_other noOpening noClosing]

/-! ## Between brackets -/

/-- Between brackets that match, one more open bracket counts for all of them. -/
theorem InBrackets.deepest_succ_le {depth : Nat} {quoted : Bool} {raw : List Char}
    (inside : InBrackets depth quoted raw) :
    deepest depth (outside quoted raw) + 1 ≤ deepest (depth + 1) (outside quoted raw) := by
  induction inside with
  | nil => exact Nat.le_refl _
  | escaped c _ inductionHypothesis => exact inductionHypothesis
  | quoted noQuote noEscape _ inductionHypothesis => rwa [outside_quoted noQuote noEscape]
  | unquote _ inductionHypothesis => exact inductionHypothesis
  | quote _ inductionHypothesis => exact inductionHypothesis
  | opening _ inductionHypothesis =>
    rw [outside_plain (by decide), deepest, deepest]
    exact inductionHypothesis
  | @closing depth raw _ inductionHypothesis =>
    rw [outside_plain (by decide), deepest, deepest, Nat.add_sub_cancel, Nat.add_sub_cancel]
    omega
  | plain noQuote noOpening noClosing _ inductionHypothesis =>
    rwa [outside_plain noQuote, deepest_other noOpening noClosing, deepest_other noOpening noClosing]

/-- What stands between two brackets of a text is nested less deep than the text. -/
theorem Lexed.bracketNest_lt {text : List Char} {tokens : List Token} (lexed : Lexed text tokens) {raw : String}
    (inside : .bracket raw ∈ tokens) : bracketNest raw.toList < bracketNest text := by
  unfold bracketNest
  induction lexed with
  | nil => cases inside
  | blank isBlank _ inductionHypothesis =>
    have other {mark : Char} (noBlank : Text.isBlank mark = false) := ne_of_isBlank isBlank noBlank
    rw [outside_plain (other rfl), deepest_other (other rfl) (other rfl)]
    exact inductionHypothesis inside
  | @token token lexeme rest tokens written _ inductionHypothesis =>
    have isLexeme := written.lexeme
    rw [isLexeme.outside_append]
    obtain rfl | isBehind := List.mem_cons.1 inside
    · cases isLexeme with
      | @bracket raw isRaw =>
        rw [String.toList_ofList, outside_plain (by decide), isRaw.outside_append, List.cons_append, deepest,
          List.append_assoc]
        exact Nat.lt_of_lt_of_le (Nat.lt_of_succ_le isRaw.deepest_succ_le) (deepest_le_append ..)
      | word isPlain _ => exact isPlain.elim
    · exact Nat.lt_of_lt_of_le (inductionHypothesis isBehind) (deepest_le_of_suffix ..)

/-! ## Segments -/

theorem outside_isPrefix (quoted : Bool) (cs more : List Char) : outside quoted cs <+: outside quoted (cs ++ more) := by
  fun_induction outside quoted cs with
  | case1 => exact List.nil_prefix
  | case2 c cs inductionHypothesis => exact inductionHypothesis
  | case3 c cs noEscape inductionHypothesis =>
    cases cs with
    | nil => simp
    | cons d cs =>
      rw [List.cons_append, List.cons_append, outside.eq_3]
      · exact inductionHypothesis
      · rintro e rest rfl
        exact absurd rfl (noEscape d cs rfl)
  | case4 cs inductionHypothesis => exact inductionHypothesis
  | case5 c cs noQuote inductionHypothesis =>
    rw [List.cons_append, outside_plain noQuote]
    exact (List.prefix_cons_inj c).2 inductionHypothesis

namespace Initialiser

theorem Scan.next_of_plain {c : Char} (noQuote : c ≠ '"') (depth : Nat) :
    ∃ deeper, (Scan.at false depth).next c = .at false deeper := by
  unfold Scan.next
  rw [if_neg nofun, if_neg noQuote]
  split
  · exact ⟨depth + 1, rfl⟩
  · split
    · exact ⟨depth - 1, rfl⟩
    · exact ⟨depth, rfl⟩

theorem outside_append_of_scan {quoted : Bool} {cs : List Char} {depth : Nat}
    (ends : (cs.foldl Scan.next (.at quoted depth)).quoted = false) (more : List Char) :
    outside quoted (cs ++ more) = outside quoted cs ++ outside false more := by
  fun_induction outside quoted cs generalizing depth with
  | case1 quoted =>
    have ends : quoted = false := ends
    rw [ends]
    rfl
  | case2 c cs inductionHypothesis => exact inductionHypothesis ends
  | case3 c cs noEscape inductionHypothesis =>
    by_cases isEscape : c = '\\'
    · -- A backslash with nothing behind it leaves the scan inside the string.
      subst isEscape
      cases cs with
      | nil => cases ends
      | cons d cs => exact absurd rfl (noEscape d cs rfl)
    · have step : (Scan.at true depth).next c = .at (c != '"') depth := by
        by_cases isQuote : c = '"'
        · subst isQuote
          rfl
        · rw [bne_iff_ne.2 isQuote, Scan.at, Scan.next, if_pos rfl, if_neg Bool.false_ne_true, if_neg isEscape, if_neg isQuote]
      rw [List.foldl_cons, step] at ends
      rw [List.cons_append, outside.eq_3 _ _ fun _ _ same _ => isEscape same]
      exact inductionHypothesis ends
  | case4 cs inductionHypothesis => exact inductionHypothesis ends
  | case5 c cs noQuote inductionHypothesis =>
    obtain ⟨deeper, step⟩ := Scan.next_of_plain noQuote depth
    rw [List.foldl_cons, step] at ends
    rw [List.cons_append, outside_plain noQuote, inductionHypothesis ends, List.cons_append]

/-- The part stands in the text, and a scan comes to it outside strings. -/
def Exposes (scan : Scan) (text part : List Char) : Prop :=
  ∃ before behind, text = before ++ (part ++ behind) ∧ (before.foldl Scan.next scan).quoted = false

theorem Exposes.bracketNest_le {text part : List Char} (exposes : Exposes .start text part) :
    bracketNest part ≤ bracketNest text := by
  obtain ⟨before, behind, rfl, ends⟩ := exposes
  obtain ⟨more, shown⟩ := outside_isPrefix false part behind
  unfold bracketNest
  have parted : outside false (before ++ (part ++ behind)) = outside false before ++ outside false (part ++ behind) :=
    outside_append_of_scan ends (part ++ behind)
  rw [parted, ← shown]
  exact Nat.le_trans (deepest_le_append ..) (deepest_le_of_suffix ..)

theorem Exposes.cons {scan : Scan} {c : Char} {text part : List Char} (exposes : Exposes (scan.next c) text part) :
    Exposes scan (c :: text) part := by
  obtain ⟨before, behind, rfl, ends⟩ := exposes
  exact ⟨c :: before, behind, rfl, ends⟩

theorem exposes_of_isPrefix {scan : Scan} (noQuote : scan.quoted = false) {text part : List Char}
    (isPrefix : part <+: text) : Exposes scan text part := by
  obtain ⟨behind, rfl⟩ := isPrefix
  exact ⟨[], behind, rfl, noQuote⟩

theorem Scan.quoted_next_of_atTop {scan : Scan} {c : Char} (isTop : scan.atTop c = true) :
    (scan.next c).quoted = false := by
  simp only [Scan.atTop, Bool.and_eq_true, Bool.not_eq_true', List.all_eq_true] at isTop
  obtain ⟨⟨noString, -⟩, noMark⟩ := isTop
  have noQuote : c ≠ '"' := (bne_iff_ne.1 (noMark '"' (by decide))).symm
  unfold Scan.next
  rw [if_neg (Bool.eq_false_iff.1 noString), if_neg noQuote]
  split
  · exact noString
  · split <;> exact noString

theorem exists_splitMarked (separates : Char → Bool) (scan : Scan) (text : List Char) :
    ∃ first others, splitMarked separates (marked scan text) = first :: others ∧ first <+: text ∧
      ∀ part ∈ others, Exposes scan text part := by
  induction text generalizing scan with
  | nil => exact ⟨[], [], rfl, List.prefix_rfl, List.forall_mem_nil _⟩
  | cons c text inductionHypothesis =>
    obtain ⟨first, others, cut, isPrefix, exposed⟩ := inductionHypothesis (scan.next c)
    rw [marked, splitMarked, cut]
    split
    · next separator =>
      have noQuote := Scan.quoted_next_of_atTop (Bool.and_eq_true _ _ ▸ separator).1
      refine ⟨[], _, rfl, List.nil_prefix, List.forall_mem_cons.2 ⟨?_, fun part inside => (exposed part inside).cons⟩⟩
      exact (exposes_of_isPrefix noQuote isPrefix).cons
    · refine ⟨c :: first, others, rfl, (List.prefix_cons_inj c).2 isPrefix, fun part inside => ?_⟩
      exact (exposed part inside).cons

theorem exposes_of_mem_segments {text part : List Char} (inside : part ∈ segments text) : Exposes .start text part := by
  obtain ⟨first, others, cut, isPrefix, exposed⟩ := exists_splitMarked (fun c => c == ',' || c == ';') .start text
  rw [segments, cut] at inside
  obtain rfl | inside := List.mem_cons.1 inside
  · exact exposes_of_isPrefix rfl isPrefix
  · exact exposed part inside

theorem exposes_of_cutAssignment {behindColon : Bool} {scan : Scan} {text name value : List Char}
    (cut : cutAssignment behindColon (marked scan text) = some (name, value)) : Exposes scan text value := by
  induction text generalizing behindColon scan name with
  | nil => cases cut
  | cons c text inductionHypothesis =>
    rw [marked, cutAssignment] at cut
    dsimp only at cut
    split at cut
    · next separator =>
      cases cut
      rw [map_fst_marked]
      exact (exposes_of_isPrefix (Scan.quoted_next_of_atTop (Bool.and_eq_true _ _ ▸ separator).1) List.prefix_rfl).cons
    · obtain ⟨⟨inner, _⟩, behind, same⟩ := Option.map_eq_some_iff.1 cut
      cases same
      exact (inductionHypothesis behind).cons

theorem exposes_trimChars (text : List Char) : Exposes .start text (Text.trimChars text) := by
  obtain ⟨behind, front⟩ := List.rdropWhile_prefix Text.isBlank (text.dropWhile Text.isBlank)
  refine ⟨text.takeWhile Text.isBlank, behind, ?_, ?_⟩
  · exact (List.takeWhile_append_dropWhile.symm).trans (congrArg (_ ++ ·) front.symm)
  · have passes := passes_blanks (fun c inside => List.mem_takeWhile_imp (l := text) inside) (.nil .start)
    rw [List.append_nil] at passes
    exact congrArg Scan.quoted passes.foldl_eq

/-- What an initialiser reads is nested no deeper than its text. -/
theorem Given.bracketNest_le {raw : String} {given : List Char} (isGiven : Given raw given) :
    bracketNest (Text.trimChars given) ≤ bracketNest raw.toList := by
  refine Nat.le_trans (exposes_trimChars given).bracketNest_le ?_
  cases isGiven with
  | segment inside => exact (exposes_of_mem_segments inside).bracketNest_le
  | @value text _ _ inside isAssignment =>
    have assigned : Exposes .start (Text.trimChars text) given := exposes_of_cutAssignment isAssignment
    exact (assigned.bracketNest_le.trans (exposes_trimChars text).bracketNest_le).trans
      (exposes_of_mem_segments inside).bracketNest_le

end Initialiser

end LateBound
