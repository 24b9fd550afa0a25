import OrderedChoice.Proofs.Coverage

/-!
# What a run does

A run that nothing cuts off gives the answer of an evaluation, grows its nodes and reaches as far;
what it spends is at most the cost of the evaluation, and exactly that without a memo table. This
needs a context whose memo table is coherent: each entry is what some evaluation gave. Every run,
also one that is cut off, leaves a coherent context behind (`runWithin_accounts`).
-/

namespace OrderedChoice

namespace OpenNode

/-- The node with more children at the end. -/
def grow (node : OpenNode) (nodes : List Node) : OpenNode :=
  { node with children := node.children ++ nodes.toArray }

@[simp] theorem grow_nil (node : OpenNode) : node.grow [] = node := by
  simp [grow]

@[simp] theorem target_grow (node : OpenNode) (nodes : List Node) :
    (node.grow nodes).target = node.target := rfl

@[simp] theorem grow_grow (node : OpenNode) (a b : List Node) :
    (node.grow a).grow b = node.grow (a ++ b) := by
  simp [grow]

theorem push_eq_grow (node : OpenNode) (child : Node) : node.push child = node.grow [child] := by
  simp [push, grow]

@[simp] theorem truncate_grow (node : OpenNode) (nodes : List Node) :
    (node.grow nodes).truncate node.size = node := by
  simp [grow, truncate, size]

@[simp] theorem children_grow (node : OpenNode) (nodes : List Node) :
    (node.grow nodes).children.toList = node.children.toList ++ nodes := by
  simp [grow]

theorem toNode_grow_empty (target : Structure) (nodes : List Node) :
    ((empty target).grow nodes).toNode = .branch target nodes := by
  simp [toNode, grow, empty]

end OpenNode

/-! ## Contexts during a run -/

namespace Context

variable {τ : Type} {g : Grammar}

/-- How many more structures may be entered, one inside the other. -/
def room (context : Context τ) : Nat :=
  context.limits.recursion - context.depth

/-- A later context of the same match, with the same structures open. -/
structure Follows (before after : Context τ) : Prop where
  limits : after.limits = before.limits
  depth : after.depth = before.depth
  fuel : after.fuel ≤ before.fuel
  furthest : before.furthest ≤ after.furthest

theorem Follows.refl (context : Context τ) : context.Follows context :=
  ⟨rfl, rfl, Nat.le_refl _, Nat.le_refl _⟩

theorem Follows.trans {a b c : Context τ} (hab : a.Follows b) (hbc : b.Follows c) : a.Follows c :=
  ⟨hbc.limits.trans hab.limits, hbc.depth.trans hab.depth, Nat.le_trans hbc.fuel hab.fuel,
    Nat.le_trans hab.furthest hbc.furthest⟩

theorem Follows.room {before after : Context τ} (h : before.Follows after) :
    after.room = before.room := by
  rw [Context.room, Context.room, h.limits, h.depth]

/-- Each entry of the memo table is what a structure of that name gave at that position of the
slice, and the match has got as far as that evaluation. -/
def Coherent (context : Context τ) (scope : Scope g) (slice : Slice) : Prop :=
  ∀ name position memo, context.memos[(name, position)]? = some memo →
    ∃ target ∈ scope, target.name = name ∧ ∃ input : Cursor, input.slice = slice ∧
    input.position = position ∧
    ∃ cost answer, Evaluates g scope target.name (.inside target) input cost answer ∧
    answer.reach ≤ context.furthest ∧ (answer.enclosed target).outcome = .ok memo.verdict ∧
    (answer.enclosed target).nodes = memo.node.toList

theorem coherent_fresh (limits : Limits) (tracer : τ) (scope : Scope g) (slice : Slice) :
    (fresh limits tracer).Coherent scope slice := by
  intro name position memo found
  rw [fresh, Std.HashMap.getElem?_empty] at found
  cases found

/-- Coherence looks at the memo table only, and at how far the match has got. -/
theorem Coherent.mono {before after : Context τ} {scope : Scope g} {slice : Slice}
    (h : before.Coherent scope slice) (memos : after.memos = before.memos)
    (furthest : before.furthest ≤ after.furthest) : after.Coherent scope slice := by
  intro name position memo found
  rw [memos] at found
  obtain ⟨target, known, named, input, hs, hp, cost, answer, evaluated, reach, outcome⟩ :=
    h name position memo found
  exact ⟨target, known, named, input, hs, hp, cost, answer, evaluated,
    Nat.le_trans reach furthest, outcome⟩

/-- The result of an evaluation may be kept. -/
theorem Coherent.remember {context : Context τ} {scope : Scope g}
    {target : Structure} {input : Cursor} {cost : Cost} {answer : Answer}
    {memo : Memo} (h : context.Coherent scope input.slice) (known : target ∈ scope)
    (evaluated : Evaluates g scope target.name (.inside target) input cost answer)
    (reach : answer.reach ≤ context.furthest)
    (outcome : (answer.enclosed target).outcome = .ok memo.verdict)
    (nodes : (answer.enclosed target).nodes = memo.node.toList) :
    (context.remember target input.position memo).Coherent scope input.slice := by
  unfold Context.remember
  split
  · intro name position other found
    rw [Std.HashMap.getElem?_insert] at found
    split at found
    · rename_i same
      obtain ⟨rfl, rfl⟩ := Prod.mk.inj (eq_of_beq same)
      obtain rfl := Option.some.inj found
      exact ⟨target, known, rfl, input, rfl, rfl, cost, answer, evaluated, reach, outcome, nodes⟩
    · exact h name position other found
  · exact h

@[simp] theorem furthest_remember (context : Context τ) (target : Structure) (position : Nat)
    (memo : Memo) : (context.remember target position memo).furthest = context.furthest := by
  unfold Context.remember
  split <;> rfl

@[simp] theorem fuel_remember (context : Context τ) (target : Structure) (position : Nat)
    (memo : Memo) : (context.remember target position memo).fuel = context.fuel := by
  unfold Context.remember
  split <;> rfl

theorem follows_remember (context : Context τ) (target : Structure) (position : Nat) (memo : Memo) :
    context.Follows (context.remember target position memo) := by
  unfold Context.remember
  split <;> exact ⟨rfl, rfl, Nat.le_refl _, Nat.le_refl _⟩

end Context

theorem Site.follows_record {τ : Type} [Tracer τ] (site : Site τ) (event : Event) :
    site.context.Follows (site.record event).context :=
  ⟨rfl, rfl, Nat.le_refl _, Nat.le_refl _⟩

/-! ## Results -/

/-- What running a task gives: an outcome, and the site after it. -/
abbrev Result (τ : Type) := Except Halt Verdict × Site τ

/-- The limits cut the match off. -/
def Halt.isCutOff : Halt → Bool
  | fuelExhausted => true
  | recursionLimitExceeded => true
  | emptyRepetition _ => false
  | malformedBody _ => false
  | cursorOutOfRange => false

/-- The limits cut the run off. -/
def Result.CutOff {τ : Type} (result : Result τ) : Prop :=
  ∃ halt, result.1 = .error halt ∧ halt.isCutOff = true

variable {τ : Type} {g : Grammar} {scope : Scope g} {task : Task} {input : Cursor} {base : OpenNode}
  {site : Site τ} {result : Result τ} {cost : Cost} {answer : Answer}

/-- The result is this answer at this cost. A failure leaves the node `base` behind, which the task
found when it began. -/
structure Settles (cost : Cost) (answer : Answer) (base : OpenNode) (site : Site τ)
    (result : Result τ) : Prop where
  outcome : result.1 = answer.outcome
  furthest : result.2.context.furthest = max site.context.furthest answer.reach
  node : ∀ verdict, result.1 = .ok verdict →
    result.2.node = if verdict.failed then base else site.node.grow answer.nodes
  fuel : site.context.fuel ≤ result.2.context.fuel + cost.fuel
  exact : site.context.limits.memoize = false →
    site.context.fuel = result.2.context.fuel + cost.fuel ∧ cost.depth ≤ site.context.room

/-- The result is accounted for by an evaluation, unless the run was cut off. -/
structure Accounts (scope : Scope g) (task : Task) (input : Cursor) (base : OpenNode)
    (site : Site τ) (result : Result τ) : Prop where
  follows : site.context.Follows result.2.context
  coherent : result.2.context.Coherent scope input.slice
  grown : ∃ nodes, result.2.node = base.grow nodes
  settled : result.CutOff ∨ ∃ cost answer,
    Evaluates g scope base.target.name task input cost answer ∧ Settles cost answer base site result

namespace Settles

theorem fuel_zero {outcome : Except Halt Verdict} {after : Site τ}
    (fuel : after.context.fuel = site.context.fuel) (h : outcome = answer.outcome)
    (furthest : after.context.furthest = max site.context.furthest answer.reach)
    (node : ∀ verdict, outcome = .ok verdict →
      after.node = if verdict.failed then base else site.node.grow answer.nodes) :
    Settles ⟨0, 0⟩ answer base site (outcome, after) :=
  ⟨h, furthest, node, Nat.le_of_eq fuel.symm, fun _ => ⟨fuel.symm, Nat.zero_le _⟩⟩

/-- A halt keeps nothing of the nodes. -/
theorem halt {halt : Halt} {after : Site τ} {base' : OpenNode}
    (h : Settles cost answer base site (.error halt, after)) :
    Settles cost (.bare (.error halt) answer.reach) base' site (.error halt, after) :=
  ⟨rfl, h.furthest, nofun, h.fuel, h.exact⟩

/-- After an earlier part has settled, the rest settles for both. -/
theorem after {middle : Site τ} {verdict : Verdict} {cost' : Cost} {answer' : Answer}
    {base' : OpenNode} (first : Settles cost answer base' site (.ok verdict, middle))
    (follows : site.context.Follows middle.context) {nodes : List Node}
    (node : middle.node = site.node.grow nodes) (rest : Settles cost' answer' base middle result) :
    Settles (cost.next cost') (answer'.after nodes answer.reach) base site result where
  outcome := rest.outcome
  furthest := by
    have reached : middle.context.furthest = _ := first.furthest
    rw [rest.furthest, reached, Answer.reach_after, Nat.max_assoc]
  node := by
    intro w ok
    rw [rest.node w ok, node, OpenNode.grow_grow]
    split
    · rfl
    · rename_i failed
      have succeeds : answer'.Succeeds w := ⟨rest.outcome.symm.trans ok, eq_false_of_ne_true failed⟩
      rw [Answer.after, if_pos succeeds.succeeded]
  fuel := by
    have spent : site.context.fuel ≤ middle.context.fuel + cost.fuel := first.fuel
    have := rest.fuel
    rw [Cost.fuel_next]
    omega
  exact := by
    intro off
    obtain ⟨spent, depth⟩ := first.exact off
    obtain ⟨spent', depth'⟩ := rest.exact (follows.limits ▸ off)
    have : site.context.fuel = middle.context.fuel + cost.fuel := spent
    rw [follows.room] at depth'
    rw [Cost.fuel_next]
    exact ⟨by omega, Nat.max_le.2 ⟨depth, depth'⟩⟩

/-- A matcher costs one unit of fuel on top of what it does. -/
theorem invoke {fuel : Nat} (enough : site.context.fuel = fuel + 1)
    (h : Settles cost answer base (site.withFuel fuel) result) :
    Settles cost.invoke answer base site result where
  outcome := h.outcome
  furthest := h.furthest
  node := h.node
  fuel := by
    have : fuel ≤ _ := h.fuel
    rw [enough, Cost.fuel_invoke]
    omega
  exact := by
    intro off
    obtain ⟨spent, depth⟩ := h.exact off
    have : fuel = _ := spent
    rw [enough, Cost.fuel_invoke]
    exact ⟨by omega, depth⟩

/-- The tracer does not matter. -/
theorem record [Tracer τ] {outcome : Except Halt Verdict} {after : Site τ} {event : Event}
    (h : Settles cost answer base site (outcome, after)) :
    Settles cost answer base site (outcome, after.record event) :=
  ⟨h.outcome, h.furthest, h.node, h.fuel, h.exact⟩

theorem node_success {verdict : Verdict} {after : Site τ}
    (h : Settles cost answer base site (.ok verdict, after)) (failed : verdict.failed = false) :
    after.node = site.node.grow answer.nodes := by
  have node : after.node = _ := h.node verdict rfl
  rw [node, failed]
  rfl

theorem node_failure {verdict : Verdict} {after : Site τ}
    (h : Settles cost answer base site (.ok verdict, after)) (failed : verdict.failed = true) :
    after.node = base := by
  have node : after.node = _ := h.node verdict rfl
  rw [node, if_pos failed]

end Settles

namespace Accounts

/-- The run was cut off. -/
theorem cutOff {halt : Halt} {after : Site τ} (h : halt.isCutOff = true)
    (follows : site.context.Follows after.context)
    (coherent : after.context.Coherent scope input.slice)
    (grown : ∃ nodes, after.node = base.grow nodes) :
    Accounts scope task input base site (.error halt, after) :=
  ⟨follows, coherent, grown, .inl ⟨halt, rfl, h⟩⟩

/-- The task is over, and succeeds where it stands. -/
theorem success {start : Cursor} (grown : ∃ nodes, site.node = base.grow nodes)
    (coherent : site.context.Coherent scope input.slice)
    (rule : Evaluates g scope base.target.name task input ⟨0, 0⟩
      (.bare (Verdict.success start input) 0)) :
    Accounts scope task input base site (Verdict.success start input, site) := by
  refine ⟨.refl _, coherent, grown, .inr ⟨_, _, rule, .fuel_zero rfl rfl (Nat.max_zero _).symm ?_⟩⟩
  intro verdict ok
  obtain ⟨_, _, rfl⟩ := Verdict.success_eq_ok_iff.1 ok
  exact (OpenNode.grow_nil _).symm

/-- A matcher that has its fuel does what is inside it. -/
theorem invoke {inner : Task} {m : Matcher} {fuel : Nat} (enough : site.context.fuel = fuel + 1)
    (rule : ∀ {cost answer}, Evaluates g scope base.target.name inner input cost answer →
      Evaluates g scope base.target.name (.whole m) input cost.invoke answer)
    (h : Accounts scope inner input base (site.withFuel fuel) result) :
    Accounts scope (.whole m) input base site result where
  follows := by
    have le : result.2.context.fuel ≤ fuel := h.follows.fuel
    exact ⟨h.follows.limits, h.follows.depth, by omega, h.follows.furthest⟩
  coherent := h.coherent
  grown := h.grown
  settled := h.settled.imp_right fun ⟨cost, answer, evaluated, settles⟩ =>
    ⟨cost.invoke, answer, rule evaluated, settles.invoke enough⟩

/-- A run with an answer was not cut off. -/
theorem answered {verdict : Verdict} {after : Site τ}
    (h : Accounts scope task input base site (.ok verdict, after)) :
    ∃ cost answer, Evaluates g scope base.target.name task input cost answer ∧
    answer.outcome = .ok verdict ∧ Settles cost answer base site (.ok verdict, after) := by
  rcases h.settled with ⟨_, ⟨⟩, _⟩ | ⟨cost, answer, evaluated, settles⟩
  exact ⟨cost, answer, evaluated, settles.outcome.symm, settles⟩

variable {part : Matcher} {after : Site τ} {before : List Node}

/-- What a part has grown, the task has grown. -/
theorem grown_part {outcome : Except Halt Verdict} (grown : site.node = base.grow before)
    (first : Accounts scope (.whole part) input site.node site (outcome, after)) :
    ∃ nodes, after.node = base.grow nodes := by
  obtain ⟨more, grownAfter⟩ := first.grown
  rw [grown, OpenNode.grow_grow] at grownAfter
  exact ⟨_, grownAfter⟩

/-- A part that halts ends the task. -/
theorem halt {halt : Halt} (grown : site.node = base.grow before)
    (first : Accounts scope (.whole part) input site.node site (.error halt, after))
    (rule : ∀ {cost answer}, Evaluates g scope base.target.name (.whole part) input cost answer →
      answer.outcome = .error halt →
      Evaluates g scope base.target.name task input cost (.bare (.error halt) answer.reach)) :
    Accounts scope task input base site (.error halt, after) := by
  refine ⟨first.follows, first.coherent, first.grown_part grown, ?_⟩
  rcases first.settled with cut | ⟨cost, answer, evaluated, settles⟩
  · exact .inl cut
  · rw [show site.node.target = base.target by rw [grown, OpenNode.target_grow]] at evaluated
    exact .inr ⟨_, _, rule evaluated settles.outcome.symm, settles.halt⟩

/-- A part that fails can fail the task, which drops what it has grown. -/
theorem fail {verdict failure : Verdict} (grown : site.node = base.grow before)
    (first : Accounts scope (.whole part) input site.node site (.ok verdict, after))
    (failed : failure.failed = true)
    (rule : ∀ {cost answer}, Evaluates g scope base.target.name (.whole part) input cost answer →
      answer.outcome = .ok verdict →
      Evaluates g scope base.target.name task input cost (.bare (.ok failure) answer.reach)) :
    Accounts scope task input base site (.ok failure, after.truncate base.size) := by
  have dropped : (after.truncate base.size).node = base := by
    obtain ⟨more, grownAfter⟩ := first.grown_part grown
    show after.node.truncate base.size = base
    rw [grownAfter, OpenNode.truncate_grow]
  obtain ⟨cost, answer, evaluated, outcome, settles⟩ := first.answered
  rw [show site.node.target = base.target by rw [grown, OpenNode.target_grow]] at evaluated
  refine ⟨first.follows, first.coherent, ⟨[], by rw [dropped, OpenNode.grow_nil]⟩,
    .inr ⟨_, _, rule evaluated outcome, rfl, settles.furthest, ?_, settles.fuel, settles.exact⟩⟩
  rintro _ ⟨⟩
  rw [if_pos failed, dropped]

/-- A part that fails can end the task, which keeps what it has grown before. -/
theorem keep {start : Cursor} {verdict : Verdict} (grown : site.node = base.grow before)
    (first : Accounts scope (.whole part) input site.node site (.ok verdict, after))
    (failed : verdict.failed = true)
    (rule : ∀ {cost answer}, Evaluates g scope base.target.name (.whole part) input cost answer →
      answer.outcome = .ok verdict →
      Evaluates g scope base.target.name task input cost
        (.bare (Verdict.success start input) answer.reach)) :
    Accounts scope task input base site (Verdict.success start input, after) := by
  obtain ⟨cost, answer, evaluated, outcome, settles⟩ := first.answered
  rw [show site.node.target = base.target by rw [grown, OpenNode.target_grow]] at evaluated
  refine ⟨first.follows, first.coherent, first.grown_part grown,
    .inr ⟨_, _, rule evaluated outcome, rfl, settles.furthest, ?_, settles.fuel, settles.exact⟩⟩
  intro w ok
  obtain ⟨_, _, rfl⟩ := Verdict.success_eq_ok_iff.1 ok
  exact (settles.node_failure failed).trans (OpenNode.grow_nil _).symm

/-- After a part the rest of the task is run, at a site that differs at most in the tracer. -/
theorem step {verdict : Verdict} {middle : Site τ} {inner : Task}
    {rest : Cursor} {nodes : List Node} {cost : Cost} {answer : Answer}
    (settles : Settles cost answer site.node site (.ok verdict, middle))
    (follows : site.context.Follows middle.context) (slice : rest.slice = input.slice)
    (node : middle.node = site.node.grow nodes)
    (others : Accounts scope inner rest base middle result)
    (rule : ∀ {cost' answer'}, Evaluates g scope base.target.name inner rest cost' answer' →
      Evaluates g scope base.target.name task input (cost.next cost')
        (answer'.after nodes answer.reach)) : Accounts scope task input base site result where
  follows := follows.trans others.follows
  coherent := slice ▸ others.coherent
  grown := others.grown
  settled := others.settled.imp_right fun ⟨_, _, evaluated, settlesOthers⟩ =>
    ⟨_, _, rule evaluated, settles.after follows node settlesOthers⟩

end Accounts

end OrderedChoice
