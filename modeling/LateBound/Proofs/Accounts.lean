import LateBound.Proofs.Causes
import LateBound.Proofs.NamedInitialisers

/-!
# Accounts of evaluations

The account of an evaluation says of each node that was evaluated which nodes were evaluated for it and what it came
to: its target and arguments, and the segments between its brackets, each with an account of its own. It is written by
an evaluation that counts the brackets which it is in: the counter is raised in front of what stands between brackets
and set back behind it.
-/

namespace LateBound

open Initialiser

/-! ## Accounts -/

/-- What was evaluated: a node of a text, or a segment whose text is no expression; the counter in front of it and
behind it; the accounts of its target and arguments and those of the segments between its brackets, in order; and how it
ended. -/
structure Account where
  text : String
  node? : Option Expr
  entered : Nat
  left : Nat
  parts : List Account
  segments : List Account
  outcome : Except Failure Value

namespace Account

def value (account : Account) : Value :=
  match account.outcome with
  | .ok value => value
  | .error _ => .null

def subject (account : Account) : String × Option Expr :=
  (account.text, account.node?)

/-- What the node itself reports: the failure that it ended in, if that is reported at all. -/
def own (evaluation : Evaluation) (account : Account) : List Report :=
  match account.node?, account.outcome with
  | some node, .error failure =>
    evaluation.settings.record evaluation.source evaluation.context.unit account.text (some node)
      (failure.orAt node.span) []
  | _, _ => []

mutual
/-- All that is reported: by the parts, by the segments, and then by the node itself. -/
def told (evaluation : Evaluation) : Account → List Report
  | ⟨text, node?, entered, left, parts, segments, outcome⟩ =>
    toldBy evaluation parts ++ toldBy evaluation segments ++
      own evaluation ⟨text, node?, entered, left, parts, segments, outcome⟩

def toldBy (evaluation : Evaluation) : List Account → List Report
  | [] => []
  | account :: rest => told evaluation account ++ toldBy evaluation rest
end

/-- The second account is part of the first, inside so many pairs of brackets. -/
inductive Contains : Account → Nat → Account → Prop
  | self (account : Account) : Contains account 0 account
  | part {outer part inner : Account} {level : Nat} : part ∈ outer.parts → Contains part level inner →
      Contains outer level inner
  | segment {outer segment inner : Account} {level : Nat} : segment ∈ outer.segments →
      Contains segment level inner → Contains outer (level + 1) inner

variable (evaluation : Evaluation)

theorem toldBy_eq (accounts : List Account) : toldBy evaluation accounts = accounts.flatMap (told evaluation) := by
  induction accounts with
  | nil => rw [toldBy, List.flatMap_nil]
  | cons account rest inductionHypothesis => rw [toldBy, inductionHypothesis, List.flatMap_cons]

theorem told_eq (account : Account) : account.told evaluation =
    account.parts.flatMap (told evaluation) ++ account.segments.flatMap (told evaluation) ++
      account.own evaluation := by
  cases account
  rw [told, toldBy_eq, toldBy_eq]

theorem length_own_le (account : Account) : (account.own evaluation).length ≤ 1 := by
  unfold own
  split
  · unfold Settings.record
    split
    · exact Nat.le_refl 1
    · exact Nat.zero_le 1
  · exact Nat.zero_le 1

end Account

/-! ## What belongs to a node -/

namespace Expr

def target? : Expr → Option Expr
  | field target _ _ | call target _ _ _ | initialise target _ _ => some target
  | literal .. | ident .. | construct .. => none

def children : Expr → List Expr
  | literal .. | ident .. => []
  | field target _ _ | initialise target _ _ => [target]
  | call target _ args _ => target :: args
  | construct _ args _ => args

def readIn (text : String) : String × Option Expr :=
  (text, (parse text).toOption)

end Expr

def Initialiser.readTexts (raw : String) : List String :=
  let segments := segments raw.toList
  if segments.any fun segment => (assignment? segment).isSome then
    ((segments.map Text.trimChars).filter (!·.isEmpty)).filterMap fun segment =>
      (assignment? segment).map fun sides => trimmed sides.2
  else (segments.filter fun segment => !segment.all Text.isBlank).map trimmed

/-- The texts that may be read for a node beside its own. -/
def Expr.readTexts : Expr → List String
  | .initialise _ raw _ => Initialiser.readTexts raw
  | _ => []

/-! ## Counting -/

structure Counted (μ : Type) where
  depth : Nat
  machine : Machine μ

abbrev Counting (μ α : Type) := StateM (Counted μ) α

namespace Counting

variable {μ α : Type}

def lift (action : Run μ α) : Counting μ α :=
  modifyGet fun counted =>
    let (answer, machine) := action.run counted.machine
    (answer, { counted with machine })

theorem run_lift (action : Run μ α) (counted : Counted μ) : (lift action).run counted =
    ((action.run counted.machine).1, { counted with machine := (action.run counted.machine).2 }) :=
  rfl

def depth : Counting μ Nat :=
  return (← get).depth

def setDepth (depth : Nat) : Counting μ Unit :=
  modify fun counted => { counted with depth }

variable {β : Type} (counted : Counted μ)

theorem run_depth_bind (next : Nat → Counting μ β) : (depth >>= next).run counted = (next counted.depth).run counted :=
  rfl

end Counting

/-- What came of a text between brackets: the accounts of the segments that were evaluated, and how it ended. -/
structure Filled (α : Type) where
  segments : List Account
  outcome : Except Failure α

namespace Evaluation

variable {μ : Type} (evaluation : Evaluation)

/-- Ends a node with what it came to, and reports it if that is a failure. -/
def close (text : String) (node : Expr) (entered : Nat) (parts segments : List Account)
    (outcome : Except Failure Value) : Counting μ Account := do
  match outcome with
  | .ok _ => pure ()
  | .error failure => Counting.lift (evaluation.report text (some node) (failure.orAt node.span))
  return ⟨text, some node, entered, ← Counting.depth, parts, segments, outcome⟩

variable [Memory μ]

mutual
/-- The account of a node in a text, `opening` being what comes of a target in front of a bracket. -/
def accountOf (opening : Value → String → Counting μ (Filled Value)) (text : String) (tree : Expr) :
    Counting μ Account := do
  let entered ← Counting.depth
  match tree with
  | .literal value _ => evaluation.close text tree entered [] [] (.ok (literalValue value))
  | .ident name _ =>
    evaluation.close text tree entered [] [] (← Counting.lift (evaluation.word name).outcome)
  | .field target name _ =>
    let target ← accountOf opening text target
    evaluation.close text tree entered [target] [] (← Counting.lift (evaluation.member target.value name).outcome)
  | .call target name args _ =>
    let target ← accountOf opening text target
    let args ← accountsOf opening text args
    let values := args.map (·.value.unwrapped)
    evaluation.close text tree entered (target :: args) []
      (← Counting.lift (callMember evaluation.gate target.value name values).outcome)
  | .construct typeName args _ =>
    let args ← accountsOf opening text args
    let values := args.map (·.value.unwrapped)
    let constructed : Attempt μ Value := do construct evaluation.gate (← evaluation.namedType typeName) values
    evaluation.close text tree entered args [] (← Counting.lift constructed.outcome)
  | .initialise target raw _ =>
    let target ← accountOf opening text target
    let filled ← opening target.value raw
    evaluation.close text tree entered [target] filled.segments filled.outcome

def accountsOf (opening : Value → String → Counting μ (Filled Value)) (text : String) (args : List Expr) :
    Counting μ (List Account) :=
  match args with
  | [] => return []
  | arg :: args => do
    let account ← accountOf opening text arg
    return account :: (← accountsOf opening text args)
end

/-- The account of a segment: that of the expression in it, or of its own text if it is none. -/
def segmentAccount (opening : Value → String → Counting μ (Filled Value)) (text : List Char) :
    Counting μ Account := do
  let entered ← Counting.depth
  match ← Counting.lift (Run.remember (Memory.parse (trimmed text))) with
  | .ok tree => evaluation.accountOf opening (trimmed text) tree
  | .error _ => return ⟨trimmed text, none, entered, ← Counting.depth, [], [], .ok (.str (trimmed text))⟩

/-- The accounts of the values that are assigned, in order, up to the first segment that fails. -/
def assignmentAccounts (opening : Value → String → Counting μ (Filled Value)) (object : Value) (raw : String) :
    List (List Char) → Counting μ (Filled Unit)
  | [] => return ⟨[], .ok ()⟩
  | text :: rest =>
    match assignment? text with
    | none => return ⟨[], .error (.of (.notAssignment raw (String.ofList text)))⟩
    | some (name, value) => do
      let account ← evaluation.segmentAccount opening value
      match ← Counting.lift (writeField evaluation.gate object (trimmed name) account.value.unwrapped).outcome with
      | .error failure => return ⟨[account], .error failure⟩
      | .ok () =>
        let filled ← assignmentAccounts opening object raw rest
        return ⟨account :: filled.segments, filled.outcome⟩

/-- What comes of the text between the brackets behind a type. -/
def fillAccounts (opening : Value → String → Counting μ (Filled Value)) (type : HostType) (raw : String) :
    Counting μ (Filled Value) := do
  let segments := segments raw.toList
  if segments.any fun segment => (assignment? segment).isSome then
    match ← Counting.lift (construct evaluation.gate type []).outcome with
    | .error failure => return ⟨[], .error failure⟩
    | .ok object =>
      let filled ← evaluation.assignmentAccounts opening object raw
        ((segments.map Text.trimChars).filter (!·.isEmpty))
      return ⟨filled.segments, filled.outcome.map fun _ => object⟩
  else
    let accounts ← (segments.filter fun segment => !segment.all Text.isBlank).mapM (evaluation.segmentAccount opening)
    let values := accounts.map (·.value.unwrapped)
    return ⟨accounts, ← Counting.lift (construct evaluation.gate type values).outcome⟩

/-- What comes of a target with an initialiser. The counter says how many are open, and is set back behind this one.
`fuel` is no less than the number of those that may still be opened, and runs out no earlier. -/
def countedInitialise : Nat → Value → String → Counting μ (Filled Value)
  | fuel, target, raw => do
    match ← Counting.lift (evaluation.initialised target raw).outcome with
    | .error failure => return ⟨[], .error failure⟩
    | .ok (.inr value) => return ⟨[], .ok value⟩
    | .ok (.inl type) =>
      let depth ← Counting.depth
      if maxInitialisers ≤ depth then return ⟨[], .error (.of (.initialisersTooDeep maxInitialisers))⟩
      match fuel with
      | 0 => return ⟨[], .error (.of (.initialisersTooDeep maxInitialisers))⟩
      | fuel + 1 =>
        Counting.setDepth (depth + 1)
        let filled ← evaluation.fillAccounts (countedInitialise fuel) type raw
        Counting.setDepth depth
        return filled

end Evaluation

end LateBound
