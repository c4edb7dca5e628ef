import LateBound.Proofs.Unambiguity

/-!
# Trees without their places

Tokens say where they stand, and so do the nodes of the tree that they derive. The grammar asks for nothing but
what the tokens are: the same tokens at other places derive the same tree but for its places.
-/

namespace LateBound

mutual
/-- The trees are one, the places of their nodes apart, and `held` holds of all texts between their brackets. -/
inductive Expr.Alike (held : String → Prop) : Expr → Expr → Prop
  | literal (value : Literal) (span span' : Span) : Alike held (.literal value span) (.literal value span')
  | ident (name : String) (span span' : Span) : Alike held (.ident name span) (.ident name span')
  | field {target target' : Expr} (name : String) (span span' : Span) : Alike held target target' →
      Alike held (.field target name span) (.field target' name span')
  | call {target target' : Expr} {args args' : List Expr} (name : String) (span span' : Span) :
      Alike held target target' → ArgsAlike held args args' →
      Alike held (.call target name args span) (.call target' name args' span')
  | construct {args args' : List Expr} (typeName : String) (span span' : Span) : ArgsAlike held args args' →
      Alike held (.construct typeName args span) (.construct typeName args' span')
  | initialise {target target' : Expr} (raw : String) (span span' : Span) : Alike held target target' →
      held raw → Alike held (.initialise target raw span) (.initialise target' raw span')

/-- The trees of two lists are one by one the same but for their places. -/
inductive Expr.ArgsAlike (held : String → Prop) : List Expr → List Expr → Prop
  | nil : ArgsAlike held [] []
  | cons {arg arg' : Expr} {args args' : List Expr} : Expr.Alike held arg arg' → ArgsAlike held args args' →
      ArgsAlike held (arg :: args) (arg' :: args')
end

def kinds (tokens : List LocatedToken) : List Token :=
  tokens.map LocatedToken.token

@[simp] theorem kinds_nil : kinds [] = [] := rfl

@[simp] theorem kinds_cons (token : Token) (span : Span) (tokens : List LocatedToken) :
    kinds (⟨token, span⟩ :: tokens) = token :: kinds tokens := rfl

@[simp] theorem kinds_append (tokens others : List LocatedToken) :
    kinds (tokens ++ others) = kinds tokens ++ kinds others :=
  List.map_append

section Inversions

variable {tokens first second : List LocatedToken} {token : Token} {span : Span}

theorem exists_cons_of_kinds (same : kinds tokens = kinds (⟨token, span⟩ :: second)) :
    ∃ span' rest, tokens = ⟨token, span'⟩ :: rest ∧ kinds rest = kinds second := by
  obtain ⟨⟨_, span'⟩, rest, rfl, rfl, behind⟩ := List.map_eq_cons_iff.1 same
  exact ⟨span', rest, rfl, behind⟩

theorem exists_singleton_of_kinds (same : kinds tokens = kinds [⟨token, span⟩]) :
    ∃ span', tokens = [⟨token, span'⟩] := by
  obtain ⟨span', rest, rfl, behind⟩ := exists_cons_of_kinds same
  cases List.map_eq_nil_iff.1 behind
  exact ⟨span', rfl⟩

theorem exists_append_of_kinds (same : kinds tokens = kinds (first ++ second)) :
    ∃ front back, tokens = front ++ back ∧ kinds front = kinds first ∧ kinds back = kinds second := by
  rw [kinds_append] at same
  exact List.map_eq_append_iff.1 same

end Inversions

namespace Grammar

variable {held : String → Prop}

theorem Dotted.relocate {tokens others : List LocatedToken} {name : String} (dotted : Dotted tokens name)
    (same : kinds others = kinds tokens) : Dotted others name := by
  induction dotted generalizing others with
  | name name span =>
    obtain ⟨span', rfl⟩ := exists_singleton_of_kinds same
    exact .name name span'
  | part part dot span _ inductionHypothesis =>
    obtain ⟨front, back, rfl, sameFirst, sameLast⟩ := exists_append_of_kinds same
    obtain ⟨dot', rest, rfl, samePart⟩ := exists_cons_of_kinds sameLast
    obtain ⟨span', rfl⟩ := exists_singleton_of_kinds samePart
    exact .part part dot' span' (inductionHypothesis sameFirst)

/-- Every bracket among the tokens is one of which `held` holds. -/
def Holds (held : String → Prop) (tokens : List LocatedToken) : Prop :=
  ∀ raw, .bracket raw ∈ kinds tokens → held raw

theorem holds_append {tokens others : List LocatedToken} :
    Holds held (tokens ++ others) ↔ Holds held tokens ∧ Holds held others := by
  simp only [Holds, kinds_append, List.mem_append, or_imp, forall_and]

theorem Holds.tail {token : Token} {span : Span} {tokens : List LocatedToken}
    (holds : Holds held (⟨token, span⟩ :: tokens)) : Holds held tokens :=
  fun raw inside => holds raw (List.mem_cons_of_mem _ inside)

mutual
theorem Primary.relocate : ∀ {tokens tree nest}, Primary tokens tree nest → Holds held tokens →
    ∀ {others}, kinds others = kinds tokens → ∃ tree', Primary others tree' nest ∧ tree.Alike held tree'
  | _, _, _, .literal span isLiteral, _, others, same => by
    obtain ⟨span', rfl⟩ := exists_singleton_of_kinds same
    exact ⟨_, .literal span' isLiteral, .literal _ span span'⟩
  | _, _, _, .ident name span, _, others, same => by
    obtain ⟨span', rfl⟩ := exists_singleton_of_kinds same
    exact ⟨_, .ident name span', .ident name span span'⟩
  | _, _, _, .construct first opening last names args, holds, others, same => by
    obtain ⟨first', rest, rfl, behindNew⟩ := exists_cons_of_kinds same
    obtain ⟨front, back, rfl, sameNames, behindNames⟩ := exists_append_of_kinds behindNew
    obtain ⟨opening', rest, rfl, behindOpening⟩ := exists_cons_of_kinds behindNames
    obtain ⟨inner, back, rfl, sameArgs, closing⟩ := exists_append_of_kinds behindOpening
    obtain ⟨last', rfl⟩ := exists_singleton_of_kinds closing
    have holdsArgs := (holds_append.1 (holds_append.1 holds.tail).2.tail).1
    obtain ⟨args', filled, alike⟩ := args.relocate holdsArgs sameArgs
    exact ⟨_, .construct first' opening' last' (names.relocate sameNames) filled, .construct _ _ _ alike⟩
  | _, _, _, .paren opening closing chain, holds, others, same => by
    obtain ⟨opening', rest, rfl, behindOpening⟩ := exists_cons_of_kinds same
    obtain ⟨inner, back, rfl, sameInner, behindInner⟩ := exists_append_of_kinds behindOpening
    obtain ⟨closing', rfl⟩ := exists_singleton_of_kinds behindInner
    obtain ⟨tree', derived, alike⟩ := chain.relocate (holds_append.1 holds.tail).1 sameInner
    exact ⟨tree', .paren opening' closing' derived, alike⟩

/-- The same tokens at other places derive the same chain but for its places. -/
theorem Chain.relocate : ∀ {tokens tree links nest}, Chain tokens tree links nest → Holds held tokens →
    ∀ {others}, kinds others = kinds tokens → ∃ tree', Chain others tree' links nest ∧ tree.Alike held tree'
  | _, _, _, _, .primary isPrimary, holds, others, same => by
    obtain ⟨tree', derived, alike⟩ := isPrimary.relocate holds same
    exact ⟨tree', .primary derived, alike⟩
  | _, _, _, _, .field name dot span chain, holds, others, same => by
    obtain ⟨front, back, rfl, sameTarget, link⟩ := exists_append_of_kinds same
    obtain ⟨dot', rest, rfl, behindDot⟩ := exists_cons_of_kinds link
    obtain ⟨span', rfl⟩ := exists_singleton_of_kinds behindDot
    obtain ⟨target', derived, alike⟩ := chain.relocate (holds_append.1 holds).1 sameTarget
    exact ⟨_, .field name dot' span' derived, .field name _ _ alike⟩
  | _, _, _, _, .call name dot span opening last chain args, holds, others, same => by
    obtain ⟨front, back, rfl, sameTarget, link⟩ := exists_append_of_kinds same
    obtain ⟨dot', rest, rfl, behindDot⟩ := exists_cons_of_kinds link
    obtain ⟨span', rest, rfl, behindName⟩ := exists_cons_of_kinds behindDot
    obtain ⟨opening', rest, rfl, behindOpening⟩ := exists_cons_of_kinds behindName
    obtain ⟨inner, back, rfl, sameArgs, closing⟩ := exists_append_of_kinds behindOpening
    obtain ⟨last', rfl⟩ := exists_singleton_of_kinds closing
    obtain ⟨holdsTarget, holdsLink⟩ := holds_append.1 holds
    have holdsArgs := (holds_append.1 holdsLink.tail.tail.tail).1
    obtain ⟨target', derived, alike⟩ := chain.relocate holdsTarget sameTarget
    obtain ⟨args', filled, alikeArgs⟩ := args.relocate holdsArgs sameArgs
    exact ⟨_, .call name dot' span' opening' last' derived filled, .call name _ _ alike alikeArgs⟩
  | _, _, _, _, .initialise raw span chain, holds, others, same => by
    obtain ⟨front, back, rfl, sameTarget, link⟩ := exists_append_of_kinds same
    obtain ⟨span', rfl⟩ := exists_singleton_of_kinds link
    obtain ⟨holdsTarget, holdsLink⟩ := holds_append.1 holds
    obtain ⟨target', derived, alike⟩ := chain.relocate holdsTarget sameTarget
    exact ⟨_, .initialise raw span' derived, .initialise raw _ _ alike (holdsLink raw List.mem_cons_self)⟩

theorem Args.relocate : ∀ {tokens args nest}, Args tokens args nest → Holds held tokens →
    ∀ {others}, kinds others = kinds tokens → ∃ args', Args others args' nest ∧ Expr.ArgsAlike held args args'
  | _, _, _, .none, _, others, same => by
    cases List.map_eq_nil_iff.1 same
    exact ⟨[], .none, .nil⟩
  | _, _, _, .some items, holds, others, same => by
    obtain ⟨args', derived, alike⟩ := items.relocate holds same
    exact ⟨args', .some derived, alike⟩

theorem Items.relocate : ∀ {tokens args nest}, Items tokens args nest → Holds held tokens →
    ∀ {others}, kinds others = kinds tokens → ∃ args', Items others args' nest ∧ Expr.ArgsAlike held args args'
  | _, _, _, .one chain, holds, others, same => by
    obtain ⟨tree', derived, alike⟩ := chain.relocate holds same
    exact ⟨[tree'], .one derived, .cons alike .nil⟩
  | _, _, _, .more comma chain items, holds, others, same => by
    obtain ⟨front, back, rfl, sameFirst, behindFirst⟩ := exists_append_of_kinds same
    obtain ⟨comma', rest, rfl, sameRest⟩ := exists_cons_of_kinds behindFirst
    obtain ⟨holdsFirst, holdsRest⟩ := holds_append.1 holds
    obtain ⟨tree', derived, alike⟩ := chain.relocate holdsFirst sameFirst
    obtain ⟨args', derivedRest, alikeRest⟩ := items.relocate holdsRest.tail sameRest
    exact ⟨tree' :: args', .more comma' derived derivedRest, .cons alike alikeRest⟩
end

theorem Chain.alike_self {tokens : List LocatedToken} {tree : Expr} {links nest : Nat}
    (chain : Chain tokens tree links nest) (holds : Holds held tokens) : tree.Alike held tree := by
  obtain ⟨tree', derived, alike⟩ := chain.relocate holds rfl
  obtain ⟨rfl, -⟩ := chain.eq_of_tokens derived
  exact alike

end Grammar

end LateBound
