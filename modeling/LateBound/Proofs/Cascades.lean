import LateBound.Proofs.AccountSoundness

/-!
# Failures do not cascade

A node reports one failure at most, its own, and none behind a target that is null, which leaves null again. So a chain
of members whose arguments and brackets hold nothing but literals reports one failure at most, and is null from the link
on that fails.
-/

namespace LateBound

open Initialiser

/-! ## Chains -/

namespace Expr

def IsLiteral : Expr → Prop
  | literal .. => True
  | _ => False

/-- The tree is a chain of members: what is not a link of it is a literal, or a text between brackets that is read as
literals or not at all. -/
inductive IsChain : Expr → Prop
  | literal (value : Literal) (span : Span) : IsChain (.literal value span)
  | ident (name : String) (span : Span) : IsChain (.ident name span)
  | construct (typeName : String) {args : List Expr} (span : Span) : (∀ arg ∈ args, arg.IsLiteral) →
      IsChain (.construct typeName args span)
  | field {target : Expr} (name : String) (span : Span) : IsChain target → IsChain (.field target name span)
  | call {target : Expr} (name : String) {args : List Expr} (span : Span) : IsChain target →
      (∀ arg ∈ args, arg.IsLiteral) → IsChain (.call target name args span)
  | initialise {target : Expr} {raw : String} (span : Span) : IsChain target →
      (∀ text ∈ Initialiser.readTexts raw, ∀ tree, parse text = .ok tree → tree.IsLiteral) →
      IsChain (.initialise target raw span)

/-- The chain goes on from the link to a later one. -/
def LeadsTo : Expr → Expr → Prop :=
  Relation.TransGen fun link next => next.target? = some link

theorem IsChain.target {tree link : Expr} (isChain : tree.IsChain) (isTarget : tree.target? = some link) :
    link.IsChain := by
  cases isChain with
  | literal | ident | construct => cases isTarget
  | field _ _ target | call _ _ target _ | initialise _ target _ =>
    cases isTarget
    exact target

end Expr

/-! ## What is reported of one node -/

namespace Account

variable {evaluation : Evaluation} {account : Account}

theorem own_of_ok {value : Value} (ended : account.outcome = .ok value) : account.own evaluation = [] := by
  unfold own
  rw [ended]
  split
  · contradiction
  · rfl

theorem own_of_nothing (ended : account.outcome = .error (.of .nothing)) : account.own evaluation = [] := by
  unfold own
  rw [ended]
  split
  · rename_i failed
    cases failed
    rfl
  · rfl

theorem value_of_own {report : Report} (reported : report ∈ account.own evaluation) : account.value = .null := by
  unfold value
  cases ended : account.outcome with
  | error failure => rfl
  | ok value =>
    rw [own_of_ok ended] at reported
    cases reported

theorem Regular.exists_target {depth : Nat} (regular : account.Regular depth) {node link : Expr}
    (isNode : account.node? = some node) (isTarget : node.target? = some link) :
    ∃ target others, account.parts = target :: others ∧ target.subject = (account.text, some link) := by
  have isParts : account.parts.map subject = node.children.map fun child => (account.text, some child) :=
    (regular.ofNode node isNode).parts
  have isFirst : ∃ others, node.children = link :: others := by
    cases node with
    | literal | ident | construct => cases isTarget
    | field | call | initialise =>
      cases isTarget
      exact ⟨_, rfl⟩
  obtain ⟨others, isFirst⟩ := isFirst
  rw [isFirst] at isParts
  obtain ⟨target, others, isCons, isSubject, -⟩ := List.map_eq_cons_iff.1 isParts
  exact ⟨target, others, isCons, isSubject⟩

/-- What is reported of a node is reported of its target, its arguments and the segments between its brackets, and then
once at most of the node itself. Of a node behind null nothing is reported, and it is null. -/
structure ReportsOnce (evaluation : Evaluation) (account : Account) : Prop where
  told : account.told evaluation =
    account.parts.flatMap (told evaluation) ++ account.segments.flatMap (Account.told evaluation) ++
      account.own evaluation
  once : (account.own evaluation).length ≤ 1
  leavesNull : account.own evaluation ≠ [] → account.value = .null
  ofText : account.node? = none → account.told evaluation = []
  absorbs : ∀ node link, account.node? = some node → node.target? = some link →
    ∃ target others, account.parts = target :: others ∧ target.subject = (account.text, some link) ∧
      (target.value.unwrapped = .null →
        account.own evaluation = [] ∧ account.value = .null ∧ account.segments = [])

theorem Regular.reportsOnce {depth : Nat} (regular : account.Regular depth) : account.ReportsOnce evaluation where
  told := account.told_eq evaluation
  once := account.length_own_le evaluation
  leavesNull isReported := by
    obtain ⟨report, reported⟩ := List.exists_mem_of_ne_nil _ isReported
    exact value_of_own reported
  ofText isText := by
    obtain ⟨noParts, noSegments, ended⟩ := regular.ofText isText
    rw [told_eq, noParts, noSegments, own_of_ok ended]
    rfl
  absorbs node link isNode isTarget := by
    obtain ⟨target, others, isParts, isSubject⟩ := regular.exists_target isNode isTarget
    refine ⟨target, others, isParts, isSubject, fun isNull => ?_⟩
    have hasTarget : node.target?.isSome := Option.isSome_of_eq_some isTarget
    have isFirst : account.parts.head? = some target := by rw [isParts, List.head?_cons]
    obtain ⟨noSegments, ended⟩ := (regular.ofNode node isNode).absorbs hasTarget target isFirst isNull
    refine ⟨own_of_nothing ended, ?_, noSegments⟩
    unfold value
    rw [ended]

/-! ## Chains -/

theorem Sound.told_of_literal {depth : Nat} (sound : account.Sound depth) {tree : Expr}
    (isTree : account.node? = some tree) (isLiteral : tree.IsLiteral) : account.told evaluation = [] := by
  cases tree with
  | literal value span =>
    have ofNode := sound.regular.ofNode _ isTree
    have noParts : account.parts = [] := List.map_eq_nil_iff.1 ofNode.parts
    have noSegments : account.segments = [] := List.map_eq_nil_iff.1 (List.prefix_nil.1 ofNode.segments)
    rw [told_eq, noParts, noSegments, own_of_ok (ofNode.literal value span rfl)]
    rfl
  | ident | field | call | construct | initialise => exact isLiteral.elim

theorem told_of_literals {depth : Nat} {accounts : List Account} (sounds : ∀ account ∈ accounts, account.Sound depth)
    {text : String} {args : List Expr} (subjects : accounts.map subject = args.map fun arg => (text, some arg))
    (areLiterals : ∀ arg ∈ args, arg.IsLiteral) : accounts.flatMap (told evaluation) = [] := by
  refine List.flatMap_eq_nil_iff.2 fun account inside => ?_
  have isSubject : account.subject ∈ args.map fun arg => (text, some arg) := subjects ▸ List.mem_map_of_mem inside
  obtain ⟨arg, isArg, same⟩ := List.mem_map.1 isSubject
  exact (sounds account inside).told_of_literal (congrArg Prod.snd same).symm (areLiterals arg isArg)

theorem told_of_texts {depth : Nat} {accounts : List Account} (sounds : ∀ account ∈ accounts, account.Sound depth)
    {texts : List String} (subjects : accounts.map subject <+: texts.map Expr.readIn)
    (areLiterals : ∀ text ∈ texts, ∀ tree, Expr.parse text = .ok tree → tree.IsLiteral) :
    accounts.flatMap (told evaluation) = [] := by
  refine List.flatMap_eq_nil_iff.2 fun account inside => ?_
  have isSubject : account.subject ∈ texts.map Expr.readIn := subjects.subset (List.mem_map_of_mem inside)
  obtain ⟨text, isText, same⟩ := List.mem_map.1 isSubject
  have isRead : (Expr.parse text).toOption = account.node? := congrArg Prod.snd same
  cases read : Expr.parse text with
  | ok tree =>
    rw [read] at isRead
    exact (sounds account inside).told_of_literal isRead.symm (areLiterals text isText tree read)
  | error error =>
    rw [read] at isRead
    exact (sounds account inside).regular.reportsOnce.ofText isRead.symm

/-- One failure is reported at most, and then the whole is null. -/
structure FailsOnce (evaluation : Evaluation) (account : Account) : Prop where
  once : (account.told evaluation).length ≤ 1
  leavesNull : account.told evaluation ≠ [] → account.value = .null

/-- A node for which nothing is reported but of itself fails once. -/
theorem ReportsOnce.failsOnce (reports : account.ReportsOnce evaluation)
    (noParts : account.parts.flatMap (Account.told evaluation) = [])
    (noSegments : account.segments.flatMap (Account.told evaluation) = []) : account.FailsOnce evaluation := by
  have own : account.told evaluation = account.own evaluation := by rw [reports.told, noParts, noSegments]; rfl
  exact ⟨own ▸ reports.once, own ▸ reports.leavesNull⟩

theorem ReportsOnce.failsOnce_of_target (reports : account.ReportsOnce evaluation) {target : Account}
    {others : List Account} (isParts : account.parts = target :: others) (failsOnce : target.FailsOnce evaluation)
    (absorbs : target.value.unwrapped = .null → account.own evaluation = [] ∧ account.value = .null)
    (noOthers : others.flatMap (Account.told evaluation) = [])
    (noSegments : account.segments.flatMap (Account.told evaluation) = []) : account.FailsOnce evaluation := by
  have told : account.told evaluation = target.told evaluation ++ account.own evaluation := by
    rw [reports.told, isParts, List.flatMap_cons, noOthers, noSegments, List.append_nil, List.append_nil]
  by_cases quiet : target.told evaluation = []
  · have own : account.told evaluation = account.own evaluation := by rw [told, quiet, List.nil_append]
    exact ⟨own ▸ reports.once, own ▸ reports.leavesNull⟩
  · obtain ⟨noOwn, isNull⟩ := absorbs (by rw [failsOnce.leavesNull quiet]; rfl)
    have same : account.told evaluation = target.told evaluation := by rw [told, noOwn, List.append_nil]
    exact ⟨same ▸ failsOnce.once, fun _ => isNull⟩

theorem Regular.failsOnce_of_target {depth : Nat} (regular : account.Regular depth)
    (soundParts : ∀ part ∈ account.parts, part.Sound depth) {node link : Expr} {args : List Expr}
    (isNode : account.node? = some node) (isTarget : node.target? = some link) (children : node.children = link :: args)
    (areLiterals : ∀ arg ∈ args, arg.IsLiteral)
    (noSegments : account.segments.flatMap (told evaluation) = [])
    (failsOnce : ∀ target : Account, target.Sound depth → target.node? = some link → target.FailsOnce evaluation) :
    account.FailsOnce evaluation := by
  have reports : account.ReportsOnce evaluation := regular.reportsOnce
  obtain ⟨target, others, isParts, isSubject, absorbs⟩ := reports.absorbs node link isNode isTarget
  have subjects : account.parts.map subject = node.children.map fun child => (account.text, some child) :=
    (regular.ofNode node isNode).parts
  rw [isParts, children] at subjects
  rw [isParts] at soundParts
  obtain ⟨soundTarget, soundOthers⟩ := List.forall_mem_cons.1 soundParts
  have ofTarget := failsOnce target soundTarget (congrArg Prod.snd isSubject)
  refine reports.failsOnce_of_target isParts ofTarget ?_ ?_ noSegments
  · exact fun isNull => ⟨(absorbs isNull).1, (absorbs isNull).2.1⟩
  · exact told_of_literals soundOthers (List.cons.inj subjects).2 areLiterals

/-- A chain whose arguments and brackets hold nothing but literals fails once, at one of its links. -/
theorem Sound.failsOnce {tree : Expr} (isChain : tree.IsChain) {depth : Nat} (sound : account.Sound depth)
    (isTree : account.node? = some tree) : account.FailsOnce evaluation := by
  induction isChain generalizing account with
  | literal | ident =>
    obtain ⟨regular, -, soundSegments⟩ := sound
    have ofNode := regular.ofNode _ isTree
    have noParts : account.parts = [] := List.map_eq_nil_iff.1 ofNode.parts
    refine regular.reportsOnce.failsOnce (by rw [noParts]; rfl) ?_
    exact told_of_texts soundSegments ofNode.segments (List.forall_mem_nil _)
  | construct typeName span areLiterals =>
    obtain ⟨regular, soundParts, soundSegments⟩ := sound
    have ofNode := regular.ofNode _ isTree
    refine regular.reportsOnce.failsOnce (told_of_literals soundParts ofNode.parts areLiterals) ?_
    exact told_of_texts soundSegments ofNode.segments (List.forall_mem_nil _)
  | field name span isChain inductionHypothesis =>
    obtain ⟨regular, soundParts, soundSegments⟩ := sound
    refine regular.failsOnce_of_target soundParts isTree rfl rfl (List.forall_mem_nil _) ?_ fun _ => inductionHypothesis
    exact told_of_texts soundSegments (regular.ofNode _ isTree).segments (List.forall_mem_nil _)
  | call name span isChain areLiterals inductionHypothesis =>
    obtain ⟨regular, soundParts, soundSegments⟩ := sound
    refine regular.failsOnce_of_target soundParts isTree rfl rfl areLiterals ?_ fun _ => inductionHypothesis
    exact told_of_texts soundSegments (regular.ofNode _ isTree).segments (List.forall_mem_nil _)
  | initialise span isChain areLiterals inductionHypothesis =>
    obtain ⟨regular, soundParts, soundSegments⟩ := sound
    refine regular.failsOnce_of_target soundParts isTree rfl rfl (List.forall_mem_nil _) ?_ fun _ => inductionHypothesis
    exact told_of_texts soundSegments (regular.ofNode _ isTree).segments areLiterals

end Account

/-! ## Behind a link that is null -/

namespace Evaluation

variable {evaluation : Evaluation}

theorem run_recover_nothing (text : String) (node : Expr) (machine : Machine Caches) :
    (evaluation.recover text node (Attempt.fail .nothing)).run machine = (.null, machine) :=
  rfl

theorem run_arguments_of_literals (opening : Value → String → Attempt Caches Value) (text : String)
    (machine : Machine Caches) {args : List Expr} (areLiterals : ∀ arg ∈ args, arg.IsLiteral) :
    ∃ values, (evaluation.arguments opening text args).run machine = (values, machine) := by
  induction args with
  | nil => exact ⟨[], by rw [arguments]; rfl⟩
  | cons arg args inductionHypothesis =>
    obtain ⟨isLiteral, others⟩ := List.forall_mem_cons.1 areLiterals
    obtain ⟨values, ran⟩ := inductionHypothesis others
    cases arg with
    | literal value span =>
      refine ⟨(literalValue value).unwrapped :: values, ?_⟩
      rw [arguments, StateT.run_bind, expression]
      change (evaluation.arguments opening text args >>= _).run machine = _
      rw [StateT.run_bind, ran]
      rfl
    | ident | field | call | construct | initialise => exact isLiteral.elim

theorem initialise_of_null (room : Nat) {target : Value} (isNull : target.unwrapped = .null) (raw : String) :
    (evaluation.initialise room target raw : Attempt Caches Value) = Attempt.fail .nothing := by
  cases room with
  | zero | succ room =>
    rw [initialise, initialised_of_null isNull]
    rfl

/-- A link behind one that is null is null, and nothing else has happened. -/
theorem run_of_null_target {room : Nat} {text : String} {link next : Expr} {value : Value}
    {machine after : Machine Caches} (isChain : next.IsChain) (isTarget : next.target? = some link)
    (ended : (evaluation.expression (evaluation.initialise room) text link).run machine = (value, after))
    (isNull : value.unwrapped = .null) :
    (evaluation.expression (evaluation.initialise room) text next).run machine = (.null, after) := by
  cases isChain with
  | literal | ident | construct => cases isTarget
  | field name span isChain =>
    cases isTarget
    rw [expression, StateT.run_bind, ended]
    change (evaluation.recover text _ (evaluation.member value name)).run after = _
    rw [member_of_null isNull, run_recover_nothing]
  | call name span isChain areLiterals =>
    cases isTarget
    obtain ⟨values, ran⟩ := run_arguments_of_literals (evaluation.initialise room) text after areLiterals
    rw [expression, StateT.run_bind, ended]
    change (evaluation.arguments (evaluation.initialise room) text _ >>= _).run after = _
    rw [StateT.run_bind, ran]
    change (evaluation.recover text _ (callMember evaluation.gate value name values)).run after = _
    rw [callMember_of_null isNull, run_recover_nothing]
  | initialise span isChain areLiterals =>
    cases isTarget
    rw [expression, StateT.run_bind, ended]
    change (evaluation.recover text _ (evaluation.initialise room value _)).run after = _
    rw [initialise_of_null room isNull, run_recover_nothing]

theorem run_of_null_link {room : Nat} {text : String} {link tree : Expr} {value : Value}
    {machine after : Machine Caches} (isChain : tree.IsChain) (leadsTo : link.LeadsTo tree)
    (ended : (evaluation.expression (evaluation.initialise room) text link).run machine = (value, after))
    (isNull : value.unwrapped = .null) :
    (evaluation.expression (evaluation.initialise room) text tree).run machine = (.null, after) := by
  induction leadsTo with
  | single isTarget => exact run_of_null_target isChain isTarget ended isNull
  | tail _ isTarget inductionHypothesis =>
    exact run_of_null_target isChain isTarget (inductionHypothesis (isChain.target isTarget)) rfl

end Evaluation

/-- Behind any operations, and wherever an evaluation has come to, whatever a tree reports is told by the account of its
nodes, each of which reports one failure at most, and none behind null. A chain of members whose arguments and brackets
hold nothing but literals reports one at most, and is null behind a link that is null. -/
theorem failures_do_not_cascade (registry : Registry) (policy : AllowList) (settings : Settings) (store : Store)
    (operations : List Operation) (context : Context) (source : String) :
    let gate := Engine.gateOf registry policy
    let engine := (Engine.cached gate settings store).after operations
    let evaluation : Evaluation := ⟨gate, engine.settings, context, source⟩
    engine.machine.Faithful gate ∧ ∀ machine : Machine Caches, machine.Faithful gate →
      ∀ depth room, depth + room = maxInitialisers → ∀ text tree,
        let ended := (evaluation.expression (evaluation.initialise room) text tree).run machine
        let told := (evaluation.accountOf (evaluation.countedInitialise room) text tree).run ⟨depth, machine⟩
        evaluation.Writes depth machine.reported (text, some tree) told.1 ended.1 told.2 ended.2 ∧
          (∀ level inner, told.1.Contains level inner →
            inner.Regular (depth + level) ∧ inner.ReportsOnce evaluation) ∧
          (tree.IsChain → told.1.FailsOnce evaluation ∧ ∀ link value after, link.LeadsTo tree →
            (evaluation.expression (evaluation.initialise room) text link).run machine = (value, after) →
              value.unwrapped = .null → ended = (.null, after)) := by
  intro gate engine evaluation
  obtain ⟨-, faithful⟩ := Engine.faithful_after registry policy settings store operations
  refine ⟨faithful, ?_⟩
  intro machine faithful depth room isRoom text tree ended told
  have opens : evaluation.Opens depth (evaluation.countedInitialise room) (evaluation.initialise room) :=
    Evaluation.opens_countedInitialise isRoom (Nat.le_refl room)
  have writes : evaluation.Writes depth machine.reported (text, some tree) told.1 ended.1 told.2 ended.2 :=
    Evaluation.tracks_accountOf opens machine.reported text tree ⟨depth, machine⟩ machine ⟨rfl, rfl, rfl, faithful⟩
  refine ⟨writes, fun level inner contains => ?_, fun isChain => ⟨?_, ?_⟩⟩
  · have regular := (writes.sound.of_contains contains).regular
    exact ⟨regular, regular.reportsOnce⟩
  · exact writes.sound.failsOnce isChain (congrArg Prod.snd writes.subject)
  · exact fun link value after leadsTo ran isNull => Evaluation.run_of_null_link isChain leadsTo ran isNull

/-- There is no such type: that is reported once, and the call, the bracket and the field behind it say no more. -/
theorem failures_do_not_cascade_missing :
    let gate := Engine.gateOf ⟨[]⟩ .all
    let engine := Engine.cached gate .standard
    let source := "new Missing(1).part(2)[3].name"
    let evaluation : Evaluation := ⟨gate, engine.settings, .empty, source⟩
    let missing : Expr := .construct "Missing" [.literal (.int 1) ⟨1, 13, 12, 13⟩] ⟨1, 1, 0, 14⟩
    let part : Expr := .call missing "part" [.literal (.int 2) ⟨1, 21, 20, 21⟩] ⟨1, 1, 0, 22⟩
    let tree : Expr := .field (.initialise part "3" ⟨1, 1, 0, 25⟩) "name" ⟨1, 1, 0, 30⟩
    Expr.parse source = .ok tree ∧ tree.IsChain ∧ missing.LeadsTo tree ∧ ∃ after : Machine Caches,
      after.reported.map (·.diagnostic.message) = ["unknown type Missing"] ∧
        (evaluation.value missing).run engine.machine = (.null, after) ∧
        (evaluation.value tree).run engine.machine = (.null, after) := by
  intro gate engine source evaluation missing part tree
  have parsed : Expr.parse source = .ok tree := by cbv
  have isChain : tree.IsChain := by
    have literals (value : Literal) (span : Span) : ∀ arg ∈ [Expr.literal value span], arg.IsLiteral :=
      List.forall_mem_singleton.2 trivial
    refine .field _ _ (.initialise _ (.call _ _ (.construct _ _ (literals _ _)) (literals _ _)) ?_)
    have read : Initialiser.readTexts "3" = ["3"] := rfl
    have isLiteral : Expr.parse "3" = .ok (.literal (.int 3) ⟨1, 1, 0, 1⟩) := by cbv
    rw [read]
    refine List.forall_mem_singleton.2 fun tree parsed => ?_
    cases isLiteral.symm.trans parsed
    trivial
  have leadsTo : missing.LeadsTo tree := .tail (.tail (.single rfl) rfl) rfl
  obtain ⟨after, ended, told⟩ : ∃ after : Machine Caches,
      (evaluation.value missing).run engine.machine = (.null, after) ∧
        after.reported.map (·.diagnostic.message) = ["unknown type Missing"] :=
    ⟨_, rfl, rfl⟩
  obtain ⟨faithful, follows⟩ := failures_do_not_cascade ⟨[]⟩ .all .standard .empty [] .empty source
  obtain ⟨-, -, chain⟩ := follows _ faithful 0 64 rfl source tree
  exact ⟨parsed, isChain, leadsTo, after, told, ended, (chain isChain).2 _ _ _ leadsTo ended rfl⟩

end LateBound
