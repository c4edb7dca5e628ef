import LateBound.Proofs.Accounts

/-!
# Accounts are those of the evaluator

The evaluation that writes an account comes to what the evaluator comes to: the same value, the same machine, the
counter where it was, and no reports but those of the account. The account is regular: below each node are its target,
its arguments and the texts between its brackets, inside as many brackets as the counter says.
-/

namespace LateBound

open Initialiser

/-! ## Regular accounts -/

/-- The accounts are those of the target and the arguments of a node of the text. -/
def Account.AreParts (text : String) (node : Expr) (parts : List Account) : Prop :=
  parts.map subject = node.children.map fun child => (text, some child)

/-- The account is that of a node, inside so many brackets: it begins with its target and arguments and goes on with
what was read between its brackets; a literal is its value; a target that is null ends the node without a word; and only
an initialiser says that initialisers are nested too deep, inside as many as are allowed. -/
structure Account.OfNode (depth : Nat) (account : Account) (node : Expr) : Prop where
  parts : AreParts account.text node account.parts
  segments : account.segments.map subject <+: node.readTexts.map Expr.readIn
  literal : ∀ value span, node = .literal value span → account.outcome = .ok (Evaluation.literalValue value)
  absorbs : node.target?.isSome → ∀ target, account.parts.head? = some target → target.value.unwrapped = .null →
    account.segments = [] ∧ account.outcome = .error (.of .nothing)
  tooDeep : ∀ failure limit, account.outcome = .error failure → failure.cause = .initialisersTooDeep limit →
    maxInitialisers ≤ depth ∧ ∃ target raw span, node = .initialise target raw span

/-- The account is one of a node or of a segment that is no expression, inside so many brackets. -/
structure Account.Regular (depth : Nat) (account : Account) : Prop where
  entered : account.entered = depth
  left : account.left = depth
  ofNode : ∀ node, account.node? = some node → account.OfNode depth node
  ofText : account.node? = none →
    account.parts = [] ∧ account.segments = [] ∧ account.outcome = .ok (.str account.text)

/-- The account is regular, and so are all that it contains. -/
inductive Account.Sound : Nat → Account → Prop
  | intro {depth : Nat} {account : Account} : account.Regular depth → (∀ part ∈ account.parts, Sound depth part) →
      (∀ segment ∈ account.segments, Sound (depth + 1) segment) → Sound depth account

theorem Account.Sound.regular {depth : Nat} {account : Account} (sound : account.Sound depth) :
    account.Regular depth := by
  cases sound with
  | intro regular _ _ => exact regular

theorem Account.Sound.of_contains {depth level : Nat} {outer inner : Account} (sound : outer.Sound depth)
    (contains : outer.Contains level inner) : inner.Sound (depth + level) := by
  induction contains generalizing depth with
  | self account => exact sound
  | part inside _ inductionHypothesis =>
    cases sound with
    | intro _ parts _ => exact inductionHypothesis (parts _ inside)
  | @segment _ _ _ level inside _ inductionHypothesis =>
    cases sound with
    | intro _ _ segments =>
      rw [Nat.add_comm level 1, ← Nat.add_assoc]
      exact inductionHypothesis (segments _ inside)

/-! ## Side by side -/

section Tracks

variable {σ τ α β α' β' : Type} {before : σ → τ → Prop} {between : α → β → σ → τ → Prop}
  {behind : α' → β' → σ → τ → Prop}

/-- From states that are related as said the two actions come to answers and states that are related as said. -/
def Tracks (before : σ → τ → Prop) (first : StateM σ α) (second : StateM τ β) (behind : α → β → σ → τ → Prop) : Prop :=
  ∀ s t, before s t → behind (first.run s).1 (second.run t).1 (first.run s).2 (second.run t).2

namespace Tracks

theorem pure {a : α'} {b : β'} (related : ∀ s t, before s t → behind a b s t) :
    Tracks before (Pure.pure a) (Pure.pure b) behind :=
  related

theorem bind {first : StateM σ α} {second : StateM τ β} {next : α → StateM σ α'} {follow : β → StateM τ β'}
    (head : Tracks before first second between)
    (tail : ∀ a b, Tracks (between a b) (next a) (follow b) behind) :
    Tracks before (first >>= next) (second >>= follow) behind :=
  fun s t linked => tail _ _ _ _ (head s t linked)

theorem weaken {wider : α' → β' → σ → τ → Prop} {first : StateM σ α'} {second : StateM τ β'}
    (tracks : Tracks before first second behind) (implies : ∀ a b s t, behind a b s t → wider a b s t) :
    Tracks before first second wider :=
  fun s t linked => implies _ _ _ _ (tracks s t linked)

end Tracks

end Tracks

namespace Attempt

variable {μ α β : Type}

theorem outcome_bind (action : Attempt μ α) (next : α → Attempt μ β) :
    (action >>= next).outcome = action.outcome >>= fun outcome =>
      match outcome with
      | .ok a => (next a).outcome
      | .error failure => pure (.error failure) := by
  unfold outcome
  rw [ExceptT.run_bind]
  refine bind_congr fun outcome => ?_
  cases outcome <;> rfl

theorem outcome_lift_bind (action : Run μ α) (next : α → Attempt μ β) :
    (lift action >>= next).outcome = action >>= fun a => (next a).outcome :=
  ExceptT.run_bind_lift ..

end Attempt

/-! ## Quiet actions -/

/-- The action reports nothing, leaves a faithful machine faithful, and fails for causes that lie in a name or in the
host. -/
structure Quiet {α : Type} (gate : Gate) (action : Attempt Caches α) : Prop where
  reported : ∀ machine, (action.outcome.run machine).2.reported = machine.reported
  faithful : KeepsFaith gate action.outcome
  plainly : FailsPlainly action

theorem reported_of_silent {α : Type} {action : Attempt Caches α}
    (silent : ∀ related tables, Silent related tables action) (machine : Machine Caches) :
    (action.outcome.run machine).2.reported = machine.reported := by
  have beside : machine.Beside (fun first _ => first = machine.reported) machine.imports machine :=
    ⟨rfl, rfl, rfl, rfl, rfl, rfl⟩
  exact (silent _ _ machine machine beside).2.reported

theorem quiet_of_attempts {α : Type} {gate : Gate} {answers : α → α → Prop} {action : Attempt Caches α}
    (attempts : gate.itself.Attempts answers action action) (silent : ∀ related tables, Silent related tables action)
    (plainly : FailsPlainly action) : Quiet gate action :=
  ⟨reported_of_silent silent, .of_attempts attempts fun _ => silent _ _, plainly⟩

theorem alike_self (args : List Value) : List.Forall₂ (Value.Alike fun _ => false) args args :=
  List.forall₂_same.2 fun value _ => .refl value

theorem quiet_callMember (gate : Gate) (target : Value) (name : String) (args : List Value) :
    Quiet gate (callMember gate target name args) := by
  have attempts : gate.itself.Attempts (Value.Alike fun _ => false) (callMember gate target name args)
      (callMember gate target name args) :=
    Twins.callMember (.refl target) name (alike_self args)
  exact quiet_of_attempts attempts (fun _ _ => silent_callMember gate target name args)
    (callMember_failsPlainly gate target name args)

theorem quiet_writeField (gate : Gate) (target : Value) (name : String) (value : Value) :
    Quiet gate (writeField gate target name value) where
  reported := reported_of_silent fun _ _ => silent_writeField gate target name value
  faithful := writeField_keepsFaith gate target name value
  plainly := writeField_failsPlainly gate target name value

theorem quiet_construct {gate : Gate} {type : HostType} (peers : Peers gate.admits gate.Has type type)
    (args : List Value) : Quiet gate (construct gate type args) where
  reported := reported_of_silent fun _ _ => silent_construct gate type args
  faithful := construct_keepsFaith peers args
  plainly := construct_failsPlainly gate type args

theorem Settings.record_eq_append (settings : Settings) (source : String) (unit : Option String) (text : String)
    (node? : Option Expr) (failure : Failure) (reported : List Report) :
    settings.record source unit text node? failure reported =
      (settings.record source unit text node? failure []).reverse ++ reported := by
  unfold record
  split <;> rfl

namespace Evaluation

variable (evaluation : Evaluation)

theorem quiet_word (word : String) : Quiet evaluation.gate (evaluation.word word) := by
  have attempts : evaluation.gate.itself.Attempts (Value.Alike fun _ => false) (evaluation.word word)
      (evaluation.word word) :=
    Twins.word evaluation.context.alike_self word
  exact quiet_of_attempts attempts (fun _ _ => evaluation.silent_word word) (evaluation.word_failsPlainly word)

theorem quiet_member (target : Value) (name : String) : Quiet evaluation.gate (evaluation.member target name) := by
  have attempts : evaluation.gate.itself.Attempts (Value.Alike fun _ => false) (evaluation.member target name)
      (evaluation.member target name) :=
    Twins.member (.refl target) name
  exact quiet_of_attempts attempts (fun _ _ => evaluation.silent_member target name)
    (evaluation.member_failsPlainly target name)

theorem quiet_constructed (typeName : String) (args : List Value) :
    Quiet evaluation.gate (do construct evaluation.gate (← evaluation.namedType typeName) args) := by
  have named : evaluation.gate.itself.Attempts (Same evaluation.gate.Has) (evaluation.namedType typeName)
      (evaluation.namedType typeName) :=
    Twins.namedType evaluation.context.alike_self typeName
  have constructs (type : HostType) (isKnown : evaluation.gate.Has type) :
      evaluation.gate.itself.Attempts (Value.Alike fun _ => false) (construct evaluation.gate type args)
        (construct evaluation.gate type args) :=
    Twins.construct (.refl isKnown) (alike_self args)
  refine quiet_of_attempts (.bindSame named constructs) (fun _ _ => ?_) ?_
  · exact .bind (evaluation.silent_namedType typeName) fun type => silent_construct _ type args
  · exact .bind (evaluation.namedType_failsPlainly typeName) fun type => construct_failsPlainly _ type args

theorem quiet_initialised (target : Value) (raw : String) :
    Quiet evaluation.gate (evaluation.initialised target raw) where
  reported := reported_of_silent fun _ _ => evaluation.silent_initialised target raw
  faithful := evaluation.initialised_keepsFaith target raw
  plainly := evaluation.initialised_failsPlainly target raw

/-! ## One node -/

/-- The two have come the same way, one with a counter, and this has been reported so far. -/
structure At (depth : Nat) (reported : List Report) (counted : Counted Caches) (machine : Machine Caches) : Prop where
  same : counted.machine = machine
  counter : counted.depth = depth
  reported : machine.reported = reported
  faithful : machine.Faithful evaluation.gate

variable {evaluation} {depth : Nat} {reported : List Report} {α β : Type}

theorem tracks_quiet {action : Attempt Caches α} (quiet : Quiet evaluation.gate action) :
    Tracks (evaluation.At depth reported) (Counting.lift action.outcome) action.outcome
      (fun outcome outcome' counted machine => outcome = outcome' ∧
        (∃ machine, machine.Faithful evaluation.gate ∧ (action.outcome.run machine).1 = outcome) ∧
        evaluation.At depth reported counted machine) := by
  rintro ⟨_, machine⟩ _ ⟨rfl, rfl, rfl, faithful⟩
  exact ⟨rfl, ⟨machine, faithful, rfl⟩,
    { same := rfl
      counter := rfl
      reported := quiet.reported machine
      faithful := (quiet.faithful machine faithful).1 }⟩

theorem tracks_depth {next : Nat → Counting Caches α} {second : Run Caches β}
    {behind : α → β → Counted Caches → Machine Caches → Prop}
    (tracks : Tracks (evaluation.At depth reported) (next depth) second behind) :
    Tracks (evaluation.At depth reported) (Counting.depth >>= next) second behind := by
  intro counted machine linked
  rw [Counting.run_depth_bind, linked.counter]
  exact tracks counted machine linked

theorem tracks_close (text : String) (node : Expr) (entered : Nat) (parts segments : List Account)
    (outcome : Except Failure Value) :
    Tracks (evaluation.At depth reported) (evaluation.close text node entered parts segments outcome)
      (evaluation.recover text node (.mk (pure outcome)))
      (fun account value counted machine => account = ⟨text, some node, entered, depth, parts, segments, outcome⟩ ∧
        account.value = value ∧
        evaluation.At depth ((account.own evaluation).reverse ++ reported) counted machine) := by
  rintro ⟨_, machine⟩ _ ⟨rfl, rfl, rfl, faithful⟩
  cases outcome with
  | ok value => exact ⟨rfl, rfl, rfl, rfl, rfl, faithful⟩
  | error failure =>
    refine ⟨rfl, rfl, rfl, rfl, ?_, ⟨faithful.kept, faithful.imported⟩⟩
    exact evaluation.settings.record_eq_append evaluation.source evaluation.context.unit text (some node)
      (failure.orAt node.span) machine.reported

variable (evaluation) (depth) (reported)

/-- The account is that of this subject with this value, and tells what was reported since. -/
structure Writes (subject : String × Option Expr) (account : Account) (value : Value) (counted : Counted Caches)
    (machine : Machine Caches) : Prop where
  subject : account.subject = subject
  value : account.value = value
  sound : account.Sound depth
  behind : evaluation.At depth ((account.told evaluation).reverse ++ reported) counted machine

/-- The accounts are those of these subjects with these values, and tell what was reported since. -/
structure WritesAll (subjects : List (String × Option Expr)) (accounts : List Account) (values : List Value)
    (counted : Counted Caches) (machine : Machine Caches) : Prop where
  subjects : accounts.map Account.subject = subjects
  values : accounts.map (·.value.unwrapped) = values
  sound : ∀ account ∈ accounts, account.Sound depth
  behind : evaluation.At depth ((accounts.flatMap (Account.told evaluation)).reverse ++ reported) counted machine

variable {evaluation} {depth} {reported}

theorem WritesAll.cons {subject : String × Option Expr} {subjects : List (String × Option Expr)} {account : Account}
    {accounts : List Account} {value : Value} {values : List Value} {between counted : Counted Caches}
    {reached machine : Machine Caches} (head : evaluation.Writes depth reported subject account value between reached)
    (tail : evaluation.WritesAll depth ((account.told evaluation).reverse ++ reported) subjects accounts values counted
      machine) :
    evaluation.WritesAll depth reported (subject :: subjects) (account :: accounts) (value.unwrapped :: values) counted
      machine where
  subjects := congrArg₂ List.cons head.subject tail.subjects
  values := congrArg₂ List.cons (congrArg Value.unwrapped head.value) tail.values
  sound := List.forall_mem_cons.2 ⟨head.sound, tail.sound⟩
  behind := by
    rw [List.flatMap_cons, List.reverse_append, List.append_assoc]
    exact tail.behind

theorem tracks_ending {text : String} {node : Expr} {parts segments : List Account} {outcome : Except Failure Value}
    (soundParts : ∀ part ∈ parts, part.Sound depth) (soundSegments : ∀ segment ∈ segments, segment.Sound (depth + 1))
    (ofNode : Account.OfNode depth ⟨text, some node, depth, depth, parts, segments, outcome⟩ node) :
    Tracks (evaluation.At depth ((parts.flatMap (Account.told evaluation) ++
        segments.flatMap (Account.told evaluation)).reverse ++ reported))
      (evaluation.close text node depth parts segments outcome) (evaluation.recover text node (.mk (pure outcome)))
      (evaluation.Writes depth reported (text, some node)) := by
  refine (tracks_close text node depth parts segments outcome).weaken fun account value counted machine closed => ?_
  obtain ⟨rfl, isValue, behind⟩ := closed
  refine ⟨rfl, isValue, .intro ⟨rfl, rfl, ?_, nofun⟩ soundParts soundSegments, ?_⟩
  · rintro _ ⟨⟩
    exact ofNode
  · rw [Account.told_eq, List.reverse_append, List.append_assoc]
    exact behind

theorem recover_eq (text : String) (node : Expr) (action : Attempt Caches Value) :
    evaluation.recover text node action =
      action.outcome >>= fun outcome => evaluation.recover text node (.mk (pure outcome)) :=
  rfl

theorem tracks_node {text : String} {node : Expr} {parts : List Account} {action : Attempt Caches Value}
    (quiet : Quiet evaluation.gate action)
    (isParts : Account.AreParts text node parts)
    (sound : ∀ part ∈ parts, part.Sound depth) (noLiteral : ∀ value span, node ≠ .literal value span)
    (absorbs : node.target?.isSome → ∀ target, parts.head? = some target → target.value.unwrapped = .null →
      action = Attempt.fail .nothing) :
    Tracks (evaluation.At depth ((parts.flatMap (Account.told evaluation)).reverse ++ reported))
      (Counting.lift action.outcome >>= evaluation.close text node depth parts []) (evaluation.recover text node action)
      (evaluation.Writes depth reported (text, some node)) := by
  rw [recover_eq]
  refine (tracks_quiet quiet).bind fun outcome _ => ?_
  rintro counted machine ⟨rfl, ⟨here, -, ended⟩, linked⟩
  refine tracks_ending sound (List.forall_mem_nil _) ⟨isParts, List.nil_prefix, ?_, ?_, ?_⟩ counted machine ?_
  · exact fun value span isLiteral => (noLiteral value span isLiteral).elim
  · intro hasTarget target isTarget isNull
    rw [absorbs hasTarget target isTarget isNull] at ended
    exact ⟨rfl, ended.symm⟩
  · intro failure limit failed deep
    have plain := quiet.plainly here failure (ended.trans failed)
    rw [deep] at plain
    exact plain.elim
  · rwa [List.flatMap_nil, List.append_nil]

/-! ## Null targets -/

theorem member_of_null {target : Value} (isNull : target.unwrapped = .null) (name : String) :
    (evaluation.member target name : Attempt Caches Value) = Attempt.fail .nothing := by
  unfold member
  rw [isNull]
  rfl

theorem callMember_of_null {target : Value} (isNull : target.unwrapped = .null) (name : String) (args : List Value) :
    (callMember evaluation.gate target name args : Attempt Caches Value) = Attempt.fail .nothing := by
  unfold callMember
  rw [isNull]
  rfl

theorem initialised_of_null {target : Value} (isNull : target.unwrapped = .null) (raw : String) :
    (evaluation.initialised target raw : Attempt Caches _) = Attempt.fail .nothing := by
  unfold initialised
  rw [isNull]

/-! ## Trees -/

variable (evaluation)

/-- What came of a text between brackets tells what was reported since: the segments are read inside one more pair than
the counter says, and none is read but the texts that belong to the brackets, from the first on. -/
structure Gathers (reported : List Report) (counter inside : Nat) (isDeep : Prop) (texts : List String)
    (filled : Filled α) (outcome : Except Failure α) (counted : Counted Caches) (machine : Machine Caches) : Prop where
  ended : filled.outcome = outcome
  subjects : filled.segments.map Account.subject <+: texts.map Expr.readIn
  sound : ∀ segment ∈ filled.segments, segment.Sound inside
  tooDeep : ∀ failure limit, outcome = .error failure → failure.cause = .initialisersTooDeep limit → isDeep
  behind : evaluation.At counter ((filled.segments.flatMap (Account.told evaluation)).reverse ++ reported) counted
    machine

/-- The two open initialisers alike where the counter says this, and neither opens one behind null. -/
def Opens (depth : Nat) (opening : Value → String → Counting Caches (Filled Value))
    (opening' : Value → String → Attempt Caches Value) : Prop :=
  ∀ reported target raw, Tracks (evaluation.At depth reported) (opening target raw) (opening' target raw).outcome
    fun filled outcome counted machine =>
      evaluation.Gathers reported depth (depth + 1) (maxInitialisers ≤ depth) (Initialiser.readTexts raw) filled outcome
        counted machine ∧
      (target.unwrapped = .null → filled.segments = [] ∧ filled.outcome = .error (.of .nothing))

variable {evaluation} {opening : Value → String → Counting Caches (Filled Value)}
  {opening' : Value → String → Attempt Caches Value}

-- By induction on the tree: the reports so far grow by those of each part, and the node is ended behind its parts.
mutual
/-- The account of a node is that of what the evaluator does. -/
theorem tracks_accountOf (opens : evaluation.Opens depth opening opening') (reported : List Report) (text : String) :
    ∀ tree : Expr, Tracks (evaluation.At depth reported) (evaluation.accountOf opening text tree)
      (evaluation.expression opening' text tree) (evaluation.Writes depth reported (text, some tree))
  | .literal value span => by
    rw [accountOf, expression]
    refine tracks_depth ?_
    have ofNode : Account.OfNode depth
        ⟨text, some (.literal value span), depth, depth, [], [], .ok (literalValue value)⟩ (.literal value span) :=
      ⟨rfl, List.nil_prefix, fun _ _ isLiteral => by cases isLiteral; rfl, nofun, nofun⟩
    exact tracks_ending (List.forall_mem_nil _) (List.forall_mem_nil _) ofNode
  | .ident name span => by
    rw [accountOf, expression]
    refine tracks_depth ?_
    have isParts : Account.AreParts text (.ident name span) [] := rfl
    exact tracks_node (evaluation.quiet_word name) isParts (List.forall_mem_nil _) nofun nofun
  | .field target name span => by
    rw [accountOf, expression]
    refine tracks_depth ?_
    refine (tracks_accountOf opens reported text target).bind fun account value => ?_
    rintro counted machine ⟨subject, rfl, sound, behind⟩
    have isParts : Account.AreParts text (.field target name span) [account] := congrArg ([·]) subject
    refine tracks_node (evaluation.quiet_member _ name) isParts (List.forall_mem_singleton.2 sound) nofun ?_ counted
      machine (by simpa using behind)
    rintro - _ ⟨⟩ isNull
    exact member_of_null isNull name
  | .call target name args span => by
    rw [accountOf, expression]
    refine tracks_depth ?_
    refine (tracks_accountOf opens reported text target).bind fun account value => ?_
    rintro counted machine ⟨subject, rfl, sound, behind⟩
    refine (tracks_accountsOf opens _ text args).bind ?_ counted machine behind
    rintro accounts _ counted machine ⟨subjects, rfl, sounds, behind⟩
    have isParts : Account.AreParts text (.call target name args span) (account :: accounts) :=
      congrArg₂ List.cons subject subjects
    refine tracks_node (quiet_callMember _ _ name _) isParts (List.forall_mem_cons.2 ⟨sound, sounds⟩) nofun ?_ counted
      machine (by simpa using behind)
    rintro - _ ⟨⟩ isNull
    exact callMember_of_null isNull name _
  | .construct typeName args span => by
    rw [accountOf, expression]
    refine tracks_depth ?_
    refine (tracks_accountsOf opens reported text args).bind ?_
    rintro accounts _ counted machine ⟨subjects, rfl, sounds, behind⟩
    have isParts : Account.AreParts text (.construct typeName args span) accounts := subjects
    have noTarget : (Expr.construct typeName args span).target?.isSome → False := nofun
    refine tracks_node (evaluation.quiet_constructed typeName _) isParts sounds nofun ?_ counted machine behind
    exact fun hasTarget => (noTarget hasTarget).elim
  | .initialise target raw span => by
    rw [accountOf, expression]
    refine tracks_depth ?_
    refine (tracks_accountOf opens reported text target).bind fun account value => ?_
    rintro counted machine ⟨subject, rfl, sound, behind⟩
    rw [recover_eq]
    refine (opens _ account.value raw).bind ?_ counted machine behind
    rintro filled _ counted machine ⟨⟨rfl, subjects, sounds, tooDeep, behind⟩, absorbed⟩
    have ofNode : Account.OfNode depth ⟨text, some (.initialise target raw span), depth, depth, [account],
        filled.segments, filled.outcome⟩ (.initialise target raw span) := by
      refine ⟨congrArg ([·]) subject, subjects, nofun, ?_, ?_⟩
      · rintro - _ ⟨⟩ isNull
        exact absorbed isNull
      · exact fun failure limit failed deep => ⟨tooDeep failure limit failed deep, target, raw, span, rfl⟩
    exact tracks_ending (List.forall_mem_singleton.2 sound) sounds ofNode counted machine (by simpa using behind)

theorem tracks_accountsOf (opens : evaluation.Opens depth opening opening') (reported : List Report) (text : String) :
    ∀ args : List Expr, Tracks (evaluation.At depth reported) (evaluation.accountsOf opening text args)
      (evaluation.arguments opening' text args)
      (evaluation.WritesAll depth reported (args.map fun arg => (text, some arg)))
  | [] => by
    rw [accountsOf, arguments]
    exact .pure fun counted machine linked => ⟨rfl, rfl, List.forall_mem_nil _, linked⟩
  | arg :: args => by
    rw [accountsOf, arguments]
    refine (tracks_accountOf opens reported text arg).bind fun account value counted machine head => ?_
    refine (tracks_accountsOf opens _ text args).bind (fun accounts values => ?_) counted machine head.behind
    exact .pure fun counted machine tail => WritesAll.cons head tail
end

/-! ## Texts between brackets -/

theorem tracks_parse (text : String) :
    Tracks (evaluation.At depth reported) (Counting.lift (Run.remember (Memory.parse text)))
      (Run.remember (Memory.parse text)) fun parsed parsed' counted machine =>
        parsed = Expr.parse text ∧ parsed' = Expr.parse text ∧ evaluation.At depth reported counted machine := by
  rintro ⟨counter, machine⟩ _ ⟨rfl, rfl, rfl, faithful⟩
  obtain ⟨memory, behind, read⟩ := faithful.parse text
  rw [Counting.run_lift, read]
  exact ⟨rfl, rfl, rfl, rfl, rfl, behind⟩

theorem tracks_segmentAccount (opens : evaluation.Opens depth opening opening') (reported : List Report)
    (text : List Char) :
    Tracks (evaluation.At depth reported) (evaluation.segmentAccount opening text) (evaluation.segment opening' text)
      fun account value counted machine => ∃ inner : Value, inner.unwrapped = value ∧
        evaluation.Writes depth reported (Expr.readIn (trimmed text)) account inner counted machine := by
  refine tracks_depth ?_
  refine (tracks_parse (trimmed text)).bind fun parsed parsed' counted machine => ?_
  rintro ⟨rfl, rfl, linked⟩
  have isSubject : Expr.readIn (trimmed text) = (trimmed text, (Expr.parse (trimmed text)).toOption) := rfl
  rw [isSubject]
  cases Expr.parse (trimmed text) with
  | ok tree =>
    have tracked := (tracks_accountOf opens reported (trimmed text) tree) counted machine linked
    exact ⟨_, rfl, tracked⟩
  | error error =>
    refine ⟨_, rfl, rfl, rfl, ?_, ?_⟩
    · have regular : Account.Regular depth
          ⟨trimmed text, none, depth, counted.depth, [], [], .ok (.str (trimmed text))⟩ :=
        ⟨rfl, linked.counter, nofun, fun _ => ⟨rfl, rfl, rfl⟩⟩
      exact .intro regular (List.forall_mem_nil _) (List.forall_mem_nil _)
    · rw [Account.told_eq]
      exact linked

theorem tracks_segments (opens : evaluation.Opens depth opening opening') (reported : List Report) :
    ∀ texts : List (List Char),
      Tracks (evaluation.At depth reported) (texts.mapM (evaluation.segmentAccount opening))
        (texts.mapM (evaluation.segment opening'))
        (evaluation.WritesAll depth reported (texts.map fun text => Expr.readIn (trimmed text)))
  | [] => .pure fun counted machine linked => ⟨rfl, rfl, List.forall_mem_nil _, linked⟩
  | text :: texts => by
    rw [List.mapM_cons, List.mapM_cons]
    refine (tracks_segmentAccount opens reported text).bind ?_
    rintro account _ counted machine ⟨inner, rfl, head⟩
    refine (tracks_segments opens _ texts).bind (fun accounts values => ?_) counted machine head.behind
    exact .pure fun counted machine tail => WritesAll.cons head tail

namespace Gathers

variable {counter inside : Nat} {isDeep : Prop} {texts : List String} {outcome : Except Failure α}
  {between counted : Counted Caches} {reached machine : Machine Caches}

theorem none (tooDeep : ∀ failure limit, outcome = .error failure → failure.cause = .initialisersTooDeep limit → isDeep)
    (behind : evaluation.At counter reported counted machine) :
    evaluation.Gathers reported counter inside isDeep texts ⟨[], outcome⟩ outcome counted machine :=
  ⟨rfl, List.nil_prefix, List.forall_mem_nil _, tooDeep, behind⟩

theorem cons {text : String} {account : Account} {value : Value} {filled : Filled α}
    (head : evaluation.Writes depth reported (Expr.readIn text) account value between reached)
    (tail : evaluation.Gathers ((account.told evaluation).reverse ++ reported) depth depth isDeep texts filled outcome
      counted machine) :
    evaluation.Gathers reported depth depth isDeep (text :: texts) ⟨account :: filled.segments, filled.outcome⟩ outcome
      counted machine where
  ended := tail.ended
  subjects := by
    rw [List.map_cons, List.map_cons, head.subject]
    exact (List.prefix_cons_inj _).2 tail.subjects
  sound := List.forall_mem_cons.2 ⟨head.sound, tail.sound⟩
  tooDeep := tail.tooDeep
  behind := by
    rw [List.flatMap_cons, List.reverse_append, List.append_assoc]
    exact tail.behind

/-- Segments are read, all of them, and then something is done that reports nothing. -/
theorem all {texts : List (List Char)} {accounts : List Account} {values : List Value} {told : Except Failure α}
    (read : evaluation.WritesAll depth reported (texts.map fun text => Expr.readIn (trimmed text)) accounts values
      between reached)
    (same : told = outcome)
    (tooDeep : ∀ failure limit, outcome = .error failure → failure.cause = .initialisersTooDeep limit → isDeep)
    (behind : evaluation.At depth ((accounts.flatMap (Account.told evaluation)).reverse ++ reported) counted machine) :
    evaluation.Gathers reported depth depth isDeep (texts.map trimmed) ⟨accounts, told⟩ outcome counted machine where
  ended := same
  subjects := by
    rw [read.subjects, List.map_map]
    exact List.prefix_rfl
  sound := read.sound
  tooDeep := tooDeep
  behind := behind

end Gathers

theorem shallow_of_quiet {action : Attempt Caches α} (quiet : Quiet evaluation.gate action) {machine : Machine Caches}
    {outcome : Except Failure α} (ended : (action.outcome.run machine).1 = outcome) (failure : Failure) (limit : Nat)
    (failed : outcome = .error failure) (deep : failure.cause = .initialisersTooDeep limit) : False := by
  have plain := quiet.plainly machine failure (ended.trans failed)
  rwa [deep] at plain

abbrev assignedTexts (texts : List (List Char)) : List String :=
  texts.filterMap fun text => (assignment? text).map fun sides => trimmed sides.2

theorem tracks_assignmentAccounts (opens : evaluation.Opens depth opening opening') (object : Value) (raw : String)
    (reported : List Report) : ∀ texts : List (List Char),
      Tracks (evaluation.At depth reported) (evaluation.assignmentAccounts opening object raw texts)
        (evaluation.assignAll opening' object raw texts).outcome
        (evaluation.Gathers reported depth depth False (assignedTexts texts))
  | [] => .pure fun counted machine linked => .none nofun linked
  | text :: texts => by
    rw [assignmentAccounts, assignAll]
    cases cut : assignment? text with
    | none =>
      refine .pure fun counted machine linked => .none ?_ linked
      rintro _ limit ⟨⟩ deep
      cases deep
    | some sides =>
      obtain ⟨name, value⟩ := sides
      have isFirst : assignedTexts (text :: texts) = trimmed value :: assignedTexts texts :=
        List.filterMap_cons_some (by rw [cut]; rfl)
      rw [isFirst]
      dsimp only
      rw [Attempt.outcome_lift_bind]
      refine (tracks_segmentAccount opens reported value).bind ?_
      rintro account _ counted machine ⟨inner, rfl, head⟩
      obtain rfl := head.value
      rw [Attempt.outcome_bind]
      refine (tracks_quiet (quiet_writeField _ object (trimmed name) account.value.unwrapped)).bind ?_ counted machine
        head.behind
      rintro outcome _ counted machine ⟨rfl, ⟨here, -, ended⟩, linked⟩
      cases outcome with
      | error failure => exact .cons head (.none (shallow_of_quiet (quiet_writeField ..) ended) linked)
      | ok _ => exact .cons head (tracks_assignmentAccounts opens object raw _ texts counted machine linked)

theorem tracks_fillAccounts (opens : evaluation.Opens depth opening opening') {type : HostType}
    (peers : Peers evaluation.gate.admits evaluation.gate.Has type type) (raw : String) (reported : List Report) :
    Tracks (evaluation.At depth reported) (evaluation.fillAccounts opening type raw)
      (evaluation.fill opening' type raw).outcome
      (evaluation.Gathers reported depth depth False (Initialiser.readTexts raw)) := by
  unfold fillAccounts fill Initialiser.readTexts
  dsimp only
  split
  · rw [Attempt.outcome_bind]
    refine (tracks_quiet (quiet_construct peers [])).bind ?_
    rintro outcome _ counted machine ⟨rfl, ⟨here, -, ended⟩, linked⟩
    cases outcome with
    | error failure => exact .none (shallow_of_quiet (quiet_construct peers []) ended) linked
    | ok object =>
      dsimp only
      rw [Attempt.outcome_bind]
      refine (tracks_assignmentAccounts opens object raw reported _).bind ?_ counted machine linked
      rintro filled _ counted machine ⟨rfl, subjects, sounds, tooDeep, behind⟩
      obtain ⟨accounts, outcome⟩ := filled
      cases outcome with
      | error failure =>
        refine ⟨rfl, subjects, sounds, fun _ limit failed deep => ?_, behind⟩
        cases failed
        exact tooDeep failure limit rfl deep
      | ok _ => exact ⟨rfl, subjects, sounds, nofun, behind⟩
  · rw [Attempt.outcome_lift_bind]
    refine (tracks_segments opens reported _).bind ?_
    rintro accounts _ counted machine read
    obtain rfl := read.values
    have quiet := quiet_construct peers (accounts.map (·.value.unwrapped))
    obtain ⟨same, ⟨here, -, ended⟩, linked⟩ := tracks_quiet quiet counted machine read.behind
    exact .all read same (shallow_of_quiet quiet (ended.trans same)) linked

/-! ## Initialisers -/

theorem tracks_opened {opened : HostType → Counting Caches (Filled Value)} {opened' : HostType → Attempt Caches Value}
    {inside : Nat} {isDeep : Prop} {texts : List String} (target : Value) (raw : String)
    (opens : ∀ type, Peers evaluation.gate.admits evaluation.gate.Has type type →
      Tracks (evaluation.At depth reported) (opened type) (opened' type).outcome
        (evaluation.Gathers reported depth inside isDeep texts)) :
    Tracks (evaluation.At depth reported)
      (do match ← Counting.lift (evaluation.initialised target raw).outcome with
        | .error failure => return ⟨[], .error failure⟩
        | .ok (.inr value) => return ⟨[], .ok value⟩
        | .ok (.inl type) => opened type)
      (do match ← evaluation.initialised target raw with
        | .inr value => return value
        | .inl type => opened' type : Attempt Caches Value).outcome
      fun filled outcome counted machine =>
        evaluation.Gathers reported depth inside isDeep texts filled outcome counted machine ∧
          (target.unwrapped = .null → filled.segments = [] ∧ filled.outcome = .error (.of .nothing)) := by
  have quiet := evaluation.quiet_initialised target raw
  rw [Attempt.outcome_bind]
  refine (tracks_quiet quiet).bind ?_
  rintro outcome _ counted machine ⟨rfl, ⟨here, faithful, ended⟩, linked⟩
  have absorbed : target.unwrapped = .null → outcome = .error (.of .nothing) := fun isNull => by
    rw [initialised_of_null isNull raw] at ended
    exact ended.symm
  rcases outcome with failure | type | value
  · refine ⟨.none (fun inner limit failed deep => ?_) linked, fun isNull => ?_⟩
    · cases failed
      exact (shallow_of_quiet quiet ended failure limit rfl deep).elim
    · exact ⟨rfl, congrArg Except.error (Except.error.inj (absorbed isNull))⟩
  · have peers := evaluation.peers_of_initialised faithful (Prod.ext ended rfl)
    exact ⟨opens type peers counted machine linked, fun isNull => nomatch absorbed isNull⟩
  · exact ⟨.none nofun linked, fun isNull => nomatch absorbed isNull⟩

/-- An initialiser that may open so many more than are open comes to what the evaluator makes of it. The counter is
behind it what it was in front of it. -/
theorem opens_countedInitialise {room fuel depth : Nat} (isRoom : depth + room = maxInitialisers)
    (enough : room ≤ fuel) : evaluation.Opens depth (evaluation.countedInitialise fuel) (evaluation.initialise room) := by
  -- Each initialiser that is opened takes one from the room and adds one to the counter.
  induction room generalizing fuel depth with
  | zero =>
    intro reported target raw
    have isDeep : maxInitialisers ≤ depth := Nat.le_of_eq isRoom.symm
    rw [countedInitialise.eq_def, initialise]
    refine tracks_opened target raw fun type _ counted machine linked => ?_
    rw [Counting.run_depth_bind, linked.counter, if_pos isDeep]
    exact .none (fun _ _ _ _ => isDeep) linked
  | succ room inductionHypothesis =>
    intro reported target raw
    rw [countedInitialise.eq_def, initialise]
    obtain ⟨fuel, rfl⟩ : ∃ fewer, fuel = fewer + 1 := Nat.exists_eq_succ_of_ne_zero (by omega)
    refine tracks_opened target raw fun type peers counted machine linked => ?_
    rw [Counting.run_depth_bind, linked.counter, if_neg (by omega)]
    have inner : evaluation.Opens (depth + 1) (evaluation.countedInitialise fuel) (evaluation.initialise room) :=
      inductionHypothesis (by omega) (by omega)
    have raised : evaluation.At (depth + 1) reported { counted with depth := depth + 1 } machine :=
      { linked with counter := rfl }
    obtain ⟨ended, subjects, sounds, tooDeep, behind⟩ := tracks_fillAccounts inner peers raw reported _ _ raised
    exact ⟨ended, subjects, sounds, fun _ limit failed deep => (tooDeep _ limit failed deep).elim,
      { behind with counter := rfl }⟩

end Evaluation

end LateBound
