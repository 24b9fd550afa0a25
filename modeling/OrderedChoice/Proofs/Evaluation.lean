import OrderedChoice.Engine

/-!
# Evaluation

What a matcher answers at a cursor when nothing cuts it off, as rules without limits, memo table or
tracer. Each answer comes with what it costs: the matchers invoked, and how deep structures nest.

A scope is a set of structures that their bodies do not lead out of. A reference may be answered by
any structure of the scope that has the name referred to, for that is all a memo table can tell;
where names are distinct, it is the structure itself and evaluation is deterministic
(`Evaluates.only`).
-/

namespace OrderedChoice

/-! ## Scopes -/

/-- Structures whose bodies refer to each other only. -/
structure Scope (g : Grammar) where
  holds : Structure → Prop
  closed : ∀ {s t : Structure}, holds s → t ∈ g.successors s → holds t

namespace Scope

variable {g : Grammar}

instance : Membership Structure (Scope g) :=
  ⟨fun scope s => scope.holds s⟩

/-- Every structure. -/
def all : Scope g :=
  ⟨fun _ => True, fun _ _ => trivial⟩

/-- The structures that a root reaches. -/
def below (root : Structure) : Scope g :=
  ⟨g.Reaches root, .step⟩

/-- No two structures of the scope have one name. -/
def Named (scope : Scope g) : Prop :=
  ∀ s ∈ scope, ∀ t ∈ scope, s.name = t.name → s = t

theorem mem_all (s : Structure) : s ∈ (all : Scope g) := trivial

theorem root_mem_below (root : Structure) : root ∈ (below root : Scope g) := .refl

theorem references_subset {scope : Scope g} {s : Structure} {m : Matcher} (hs : s ∈ scope)
    (hm : g.body s = .ok m) : ∀ t ∈ m.references, t ∈ scope := by
  intro t ht
  refine scope.closed hs ?_
  rw [Grammar.successors, hm]
  exact ht

end Scope

/-! ## Tasks, costs and answers -/

/-- What there is to evaluate: a matcher, or what is left of one that is under way. -/
inductive Task where
  /-- A whole matcher. -/
  | whole (m : Matcher)
  /-- The remaining parts of a sequence that began at a cursor. -/
  | inTurn (start : Cursor) (parts : List Matcher)
  /-- The remaining branches of a choice, and the best failure so far. -/
  | firstOf (all branches : List Matcher) (description : String) (progress : Nat)
  /-- The remaining rounds of a repetition that began at a cursor. -/
  | rounds (start : Cursor) (body : Matcher)
  /-- The body of a structure. -/
  | inside (target : Structure)

namespace Task

/-- The structures that a task may enter next. -/
def references : Task → List Structure
  | whole m => m.references
  | inTurn _ parts => parts.flatMap Matcher.references
  | firstOf _ branches _ _ => branches.flatMap Matcher.references
  | rounds _ body => body.references
  | inside target => [target]

/-- The task refers to structures of the scope only. -/
def Within {g : Grammar} (scope : Scope g) (task : Task) : Prop :=
  ∀ t ∈ task.references, t ∈ scope

/-- Where the task began. -/
def origin : Task → Cursor → Cursor
  | inTurn start _, _ => start
  | rounds start _, _ => start
  | whole _, input => input
  | firstOf .., input => input
  | inside _, input => input

variable {g : Grammar} {scope : Scope g}

theorem within_inside {s : Structure} (hs : s ∈ scope) : (inside s).Within scope := by
  intro t ht
  rw [references, List.mem_singleton] at ht
  rwa [ht]

theorem Within.mem {s : Structure} (h : (whole (.sub s)).Within scope) : s ∈ scope :=
  h s (List.mem_singleton.2 rfl)

theorem Within.body {s : Structure} {m : Matcher} (h : (inside s).Within scope)
    (hm : g.body s = .ok m) : (whole m).Within scope :=
  Scope.references_subset (h s (List.mem_singleton.2 rfl)) hm

theorem Within.sequence {a b : Matcher} {rest : List Matcher} {start : Cursor}
    (h : (whole (.sequence a b rest)).Within scope) :
    (inTurn start (a :: b :: rest)).Within scope := by
  rwa [Within, references, Matcher.references_sequence] at h

theorem Within.choice {a b : Matcher} {rest all : List Matcher} {description : String}
    {progress : Nat} (h : (whole (.choice a b rest)).Within scope) :
    (firstOf all (a :: b :: rest) description progress).Within scope := by
  rwa [Within, references, Matcher.references_choice] at h

theorem Within.part {m : Matcher} {ms : List Matcher} {start : Cursor}
    (h : (inTurn start (m :: ms)).Within scope) : (whole m).Within scope :=
  fun t ht => h t (List.mem_flatMap.2 ⟨m, List.mem_cons_self, ht⟩)

theorem Within.parts {m : Matcher} {ms : List Matcher} {start : Cursor}
    (h : (inTurn start (m :: ms)).Within scope) : (inTurn start ms).Within scope := by
  intro t ht
  obtain ⟨p, hp, htp⟩ := List.mem_flatMap.1 ht
  exact h t (List.mem_flatMap.2 ⟨p, List.mem_cons_of_mem _ hp, htp⟩)

theorem Within.branch {m : Matcher} {ms all : List Matcher} {description : String} {progress : Nat}
    (h : (firstOf all (m :: ms) description progress).Within scope) : (whole m).Within scope :=
  fun t ht => h t (List.mem_flatMap.2 ⟨m, List.mem_cons_self, ht⟩)

theorem Within.branches {m : Matcher} {ms all : List Matcher} {description description' : String}
    {progress progress' : Nat} (h : (firstOf all (m :: ms) description progress).Within scope) :
    (firstOf all ms description' progress').Within scope := by
  intro t ht
  obtain ⟨p, hp, htp⟩ := List.mem_flatMap.1 ht
  exact h t (List.mem_flatMap.2 ⟨p, List.mem_cons_of_mem _ hp, htp⟩)

end Task

/-- What an evaluation takes: the matchers it invokes, and the structures that are open at once. -/
structure Cost where
  fuel : Nat
  depth : Nat

namespace Cost

/-- One matcher more. -/
def invoke (cost : Cost) : Cost :=
  ⟨cost.fuel + 1, cost.depth⟩

/-- One structure around it. -/
def enter (cost : Cost) : Cost :=
  ⟨cost.fuel, cost.depth + 1⟩

/-- One evaluation after the other. -/
def next (a b : Cost) : Cost :=
  ⟨a.fuel + b.fuel, max a.depth b.depth⟩

@[simp] theorem fuel_invoke (cost : Cost) : cost.invoke.fuel = cost.fuel + 1 := rfl
@[simp] theorem depth_enter (cost : Cost) : cost.enter.depth = cost.depth + 1 := rfl
@[simp] theorem fuel_next (a b : Cost) : (a.next b).fuel = a.fuel + b.fuel := rfl

end Cost

/-- The answer of an evaluation, the nodes it grew, and one past the furthest statement it consumed
on any path. -/
structure Answer where
  outcome : Except Halt Verdict
  nodes : List Node
  reach : Nat

namespace Answer

/-- The answer is a success with this verdict. -/
def Succeeds (answer : Answer) (verdict : Verdict) : Prop :=
  answer.outcome = .ok verdict ∧ verdict.failed = false

/-- The answer is an ordinary failure with this verdict. -/
def Fails (answer : Answer) (verdict : Verdict) : Prop :=
  answer.outcome = .ok verdict ∧ verdict.failed = true

/-- Whether the answer is a success. -/
def succeeded (answer : Answer) : Bool :=
  match answer.outcome with
  | .ok verdict => !verdict.failed
  | .error _ => false

/-- An answer that grows nothing. -/
def bare (outcome : Except Halt Verdict) (reach : Nat) : Answer :=
  ⟨outcome, [], reach⟩

/-- The answer of what follows earlier parts, which grew some nodes and reached so far. What the
earlier parts grew stays only if the whole succeeds. -/
def after (answer : Answer) (nodes : List Node) (reach : Nat) : Answer :=
  ⟨answer.outcome, if answer.succeeded then nodes ++ answer.nodes else [], max reach answer.reach⟩

/-- The answer with its failure forgiven. -/
def forgiven (answer : Answer) : Answer :=
  match answer.outcome with
  | .ok verdict => { answer with outcome := .ok { verdict with failed := false } }
  | .error _ => answer

/-- The answer of a reference to a structure whose body gives this answer. -/
def enclosed (answer : Answer) (target : Structure) : Answer :=
  match answer.outcome with
  | .ok verdict =>
    let verdict := verdict.refuseEmpty target
    ⟨.ok verdict, if verdict.failed then [] else [.branch target answer.nodes], answer.reach⟩
  | .error halt => bare (.error halt) answer.reach

theorem Succeeds.succeeded {answer : Answer} {verdict : Verdict} (h : answer.Succeeds verdict) :
    answer.succeeded = true := by
  rw [Answer.succeeded, h.1]
  simp [h.2]

theorem Fails.succeeded {answer : Answer} {verdict : Verdict} (h : answer.Fails verdict) :
    answer.succeeded = false := by
  rw [Answer.succeeded, h.1]
  simp [h.2]

theorem Succeeds.unique {answer : Answer} {v w : Verdict} (hv : answer.Succeeds v)
    (hw : answer.Succeeds w) : v = w :=
  Except.ok.inj (hv.1.symm.trans hw.1)

theorem Fails.unique {answer : Answer} {v w : Verdict} (hv : answer.Fails v)
    (hw : answer.Fails w) : v = w :=
  Except.ok.inj (hv.1.symm.trans hw.1)

theorem Succeeds.not_fails {answer : Answer} {v w : Verdict} (hv : answer.Succeeds v) :
    ¬ answer.Fails w := by
  rintro ⟨hw, failed⟩
  obtain rfl := Except.ok.inj (hv.1.symm.trans hw)
  rw [hv.2] at failed
  cases failed

theorem Succeeds.ne_error {answer : Answer} {v : Verdict} (hv : answer.Succeeds v) (halt : Halt) :
    answer.outcome ≠ .error halt := by
  rw [hv.1]
  exact nofun

theorem Fails.ne_error {answer : Answer} {v : Verdict} (hv : answer.Fails v) (halt : Halt) :
    answer.outcome ≠ .error halt := by
  rw [hv.1]
  exact nofun

@[simp] theorem reach_after (answer : Answer) (nodes : List Node) (reach : Nat) :
    (answer.after nodes reach).reach = max reach answer.reach := rfl

theorem forgiven_of_ok {answer : Answer} {verdict : Verdict} (h : answer.outcome = .ok verdict) :
    answer.forgiven = { answer with outcome := .ok { verdict with failed := false } } := by
  rw [forgiven, h]

theorem forgiven_of_error {answer : Answer} {halt : Halt} (h : answer.outcome = .error halt) :
    answer.forgiven = answer := by
  rw [forgiven, h]

theorem enclosed_of_ok {answer : Answer} {verdict : Verdict} (h : answer.outcome = .ok verdict)
    (target : Structure) : answer.enclosed target = ⟨.ok (verdict.refuseEmpty target),
      if (verdict.refuseEmpty target).failed then []
      else [.branch target answer.nodes], answer.reach⟩ := by
  rw [enclosed, h]

theorem enclosed_of_error {answer : Answer} {halt : Halt} (h : answer.outcome = .error halt)
    (target : Structure) : answer.enclosed target = bare (.error halt) answer.reach := by
  rw [enclosed, h]

@[simp] theorem reach_forgiven (answer : Answer) : answer.forgiven.reach = answer.reach := by
  unfold forgiven
  split <;> rfl

@[simp] theorem nodes_forgiven (answer : Answer) : answer.forgiven.nodes = answer.nodes := by
  unfold forgiven
  split <;> rfl

@[simp] theorem reach_enclosed (answer : Answer) (target : Structure) :
    (answer.enclosed target).reach = answer.reach := by
  unfold enclosed
  split <;> rfl

end Answer

/-! ## The rules -/

/-- The task, under way for a structure of the name `host`, gives the answer at the cursor. -/
inductive Evaluates (g : Grammar) (scope : Scope g) :
    String → Task → Cursor → Cost → Answer → Prop where
  /-- The statement at the cursor is of the kind, and becomes a leaf. -/
  | matched {host : String} {kind : Kind} {input : Cursor} {statement : Statement}
      (found : input.first? = some statement) (same : statement.kind = kind) :
      Evaluates g scope host (.whole (.statement kind)) input ⟨1, 0⟩
        ⟨Verdict.success input input.next, [.leaf statement input.position], input.position + 1⟩
  /-- There is no statement left, or one of another kind. -/
  | mismatched {host : String} {kind : Kind} {input : Cursor}
      (other : ∀ statement, input.first? = some statement → statement.kind ≠ kind) :
      Evaluates g scope host (.whole (.statement kind)) input ⟨1, 0⟩
        (.bare (.ok (.failure input ("Expected " ++ kind.expectedName) 0)) 0)
  | sub {host : String} {target actual : Structure} {input : Cursor} {cost : Cost} {answer : Answer}
      (known : actual ∈ scope) (name : actual.name = target.name)
      (entered : Evaluates g scope actual.name (.inside actual) input cost answer) :
      Evaluates g scope host (.whole (.sub target)) input cost.invoke (answer.enclosed actual)
  | optional {host : String} {body : Matcher} {input : Cursor} {cost : Cost} {answer : Answer}
      (tried : Evaluates g scope host (.whole body) input cost answer) :
      Evaluates g scope host (.whole (.optional body)) input cost.invoke answer.forgiven
  | star {host : String} {body : Matcher} {input : Cursor} {cost : Cost} {answer : Answer}
      (repeated : Evaluates g scope host (.rounds input body) input cost answer) :
      Evaluates g scope host (.whole (.star body)) input cost.invoke answer
  | sequence {host : String} {a b : Matcher} {rest : List Matcher} {input : Cursor} {cost : Cost}
      {answer : Answer}
      (parts : Evaluates g scope host (.inTurn input (a :: b :: rest)) input cost answer) :
      Evaluates g scope host (.whole (.sequence a b rest)) input cost.invoke answer
  | choice {host : String} {a b : Matcher} {rest : List Matcher} {input : Cursor} {cost : Cost}
      {answer : Answer}
      (branches :
        Evaluates g scope host (.firstOf (a :: b :: rest) (a :: b :: rest) "" 0) input
          cost answer) :
      Evaluates g scope host (.whole (.choice a b rest)) input cost.invoke answer
  | malformed {host : String} {target : Structure} {input : Cursor} {fault : TooFewParts}
      (body : g.body target = .error fault) :
      Evaluates g scope host (.inside target) input ⟨0, 1⟩ (.bare (.error (.malformedBody fault)) 0)
  | entered {host : String} {target : Structure} {m : Matcher} {input : Cursor} {cost : Cost}
      {answer : Answer}
      (body : g.body target = .ok m)
      (grown : Evaluates g scope target.name (.whole m) input cost answer) :
      Evaluates g scope host (.inside target) input cost.enter answer
  | noPartLeft {host : String} {start rest : Cursor} :
      Evaluates g scope host (.inTurn start []) rest ⟨0, 0⟩ (.bare (Verdict.success start rest) 0)
  | partHalted {host : String} {start rest : Cursor} {part : Matcher} {parts : List Matcher}
      {cost : Cost}
      {answer : Answer} {halt : Halt}
      (first : Evaluates g scope host (.whole part) rest cost answer)
      (halted : answer.outcome = .error halt) :
      Evaluates g scope host (.inTurn start (part :: parts)) rest cost
        (.bare (.error halt) answer.reach)
  | partFailed {host : String} {start rest : Cursor} {part : Matcher} {parts : List Matcher}
      {cost : Cost}
      {answer : Answer} {verdict : Verdict}
      (first : Evaluates g scope host (.whole part) rest cost answer)
      (fails : answer.Fails verdict) :
      Evaluates g scope host (.inTurn start (part :: parts)) rest cost
        (.bare (.ok (.failure start verdict.description (rest.position - start.position)))
          answer.reach)
  | partSucceeded {host : String} {start rest : Cursor} {part : Matcher} {parts : List Matcher}
      {cost cost' : Cost} {answer answer' : Answer} {verdict : Verdict}
      (first : Evaluates g scope host (.whole part) rest cost answer)
      (succeeds : answer.Succeeds verdict)
      (others : Evaluates g scope host (.inTurn start parts) verdict.rest cost' answer') :
      Evaluates g scope host (.inTurn start (part :: parts)) rest (cost.next cost')
        (answer'.after answer.nodes answer.reach)
  | noBranchLeft {host : String} {input : Cursor} {all : List Matcher} {description : String}
      {progress : Nat} :
      Evaluates g scope host (.firstOf all [] description progress) input ⟨0, 0⟩
        (.bare (.ok (choiceFailure all input description progress)) 0)
  | branchHalted {host : String} {input : Cursor} {all : List Matcher} {branch : Matcher}
      {branches : List Matcher} {description : String} {progress : Nat} {cost : Cost}
      {answer : Answer}
      {halt : Halt} (first : Evaluates g scope host (.whole branch) input cost answer)
      (halted : answer.outcome = .error halt) :
      Evaluates g scope host (.firstOf all (branch :: branches) description progress) input cost
        (.bare (.error halt) answer.reach)
  | branchTaken {host : String} {input : Cursor} {all : List Matcher} {branch : Matcher}
      {branches : List Matcher} {description : String} {progress : Nat} {cost : Cost}
      {answer : Answer}
      {verdict : Verdict} (first : Evaluates g scope host (.whole branch) input cost answer)
      (succeeds : answer.Succeeds verdict) :
      Evaluates g scope host
        (.firstOf all (branch :: branches) description progress) input cost answer
  | branchFailed {host : String} {input : Cursor} {all : List Matcher} {branch : Matcher}
      {branches : List Matcher} {description : String} {progress : Nat} {cost cost' : Cost}
      {answer answer' : Answer} {verdict : Verdict}
      (first : Evaluates g scope host (.whole branch) input cost answer)
      (fails : answer.Fails verdict)
      (others : Evaluates g scope host (.firstOf all branches
        (if progress < verdict.progress then verdict.description else description)
        (if progress < verdict.progress then verdict.progress else progress)) input cost' answer') :
      Evaluates g scope host (.firstOf all (branch :: branches) description progress) input
        (cost.next cost') (answer'.after [] answer.reach)
  /-- No statement is left for another round. -/
  | roundsOver {host : String} {start rest : Cursor} {body : Matcher}
      (atEnd : rest.isAtEnd = true) :
      Evaluates g scope host (.rounds start body) rest ⟨0, 0⟩ (.bare (Verdict.success start rest) 0)
  | roundHalted {host : String} {start rest : Cursor} {body : Matcher} {cost : Cost}
      {answer : Answer}
      {halt : Halt} (more : rest.isAtEnd = false)
      (first : Evaluates g scope host (.whole body) rest cost answer)
      (halted : answer.outcome = .error halt) :
      Evaluates g scope host (.rounds start body) rest cost (.bare (.error halt) answer.reach)
  /-- The body fails after it has consumed something. -/
  | roundMalformed {host : String} {start rest : Cursor} {body : Matcher} {cost : Cost}
      {answer : Answer}
      {verdict : Verdict} (more : rest.isAtEnd = false)
      (first : Evaluates g scope host (.whole body) rest cost answer) (fails : answer.Fails verdict)
      (progress : 0 < verdict.progress) :
      Evaluates g scope host (.rounds start body) rest cost
        (.bare (.ok (.failure start verdict.description verdict.progress)) answer.reach)
  /-- The body does not match any more. -/
  | roundRefused {host : String} {start rest : Cursor} {body : Matcher} {cost : Cost}
      {answer : Answer}
      {verdict : Verdict} (more : rest.isAtEnd = false)
      (first : Evaluates g scope host (.whole body) rest cost answer) (fails : answer.Fails verdict)
      (noProgress : verdict.progress = 0) :
      Evaluates g scope host (.rounds start body) rest cost
        (.bare (Verdict.success start rest) answer.reach)
  /-- The body succeeds on nothing. -/
  | roundStuck {host : String} {start rest : Cursor} {body : Matcher} {cost : Cost}
      {answer : Answer}
      {verdict : Verdict} (more : rest.isAtEnd = false)
      (first : Evaluates g scope host (.whole body) rest cost answer)
      (succeeds : answer.Succeeds verdict)
      (stuck : verdict.rest.position = rest.position) :
      Evaluates g scope host (.rounds start body) rest cost
        (.bare (.error (.emptyRepetition host)) answer.reach)
  | roundGained {host : String} {start rest : Cursor} {body : Matcher} {cost cost' : Cost}
      {answer answer' : Answer} {verdict : Verdict} (more : rest.isAtEnd = false)
      (first : Evaluates g scope host (.whole body) rest cost answer)
      (succeeds : answer.Succeeds verdict)
      (gained : verdict.rest.position ≠ rest.position)
      (others : Evaluates g scope host (.rounds start body) verdict.rest cost' answer') :
      Evaluates g scope host (.rounds start body) rest (cost.next cost')
        (answer'.after answer.nodes answer.reach)

namespace Evaluates

variable {g : Grammar} {scope : Scope g} {host : String} {task : Task} {input : Cursor}

/-- A whole matcher costs at least its own invocation. -/
theorem one_le_fuel {m : Matcher} {cost : Cost} {answer : Answer}
    (h : Evaluates g scope host (.whole m) input cost answer) : 1 ≤ cost.fuel := by
  cases h <;> simp

/-- The task has this cost and this answer, if any. -/
def Only (g : Grammar) (scope : Scope g) (host : String) (task : Task) (input : Cursor)
    (cost : Cost) (answer : Answer) : Prop :=
  ∀ cost' answer', Evaluates g scope host task input cost' answer' → cost' = cost ∧ answer' = answer

namespace Only

variable {start rest : Cursor} {part body branch : Matcher} {parts all branches : List Matcher}
  {description : String} {progress : Nat} {cost cost' : Cost} {answer answer' : Answer}
  {verdict : Verdict}
  {halt : Halt}

theorem partHalted (only : Only g scope host (.whole part) rest cost answer)
    (halted : answer.outcome = .error halt) :
    Only g scope host (.inTurn start (part :: parts)) rest cost
      (.bare (.error halt) answer.reach) := by
  intro c a h
  cases h with
  | partHalted first halted' =>
    obtain ⟨rfl, rfl⟩ := only _ _ first
    obtain rfl := Except.error.inj (halted.symm.trans halted')
    exact ⟨rfl, rfl⟩
  | partFailed first fails =>
    obtain ⟨rfl, rfl⟩ := only _ _ first
    exact absurd halted (fails.ne_error _)
  | partSucceeded first succeeds _ =>
    obtain ⟨rfl, rfl⟩ := only _ _ first
    exact absurd halted (succeeds.ne_error _)

theorem partFailed (only : Only g scope host (.whole part) rest cost answer)
    (fails : answer.Fails verdict) :
    Only g scope host (.inTurn start (part :: parts)) rest cost
      (.bare (.ok (.failure start verdict.description (rest.position - start.position)))
        answer.reach) := by
  intro c a h
  cases h with
  | partHalted first halted =>
    obtain ⟨rfl, rfl⟩ := only _ _ first
    exact absurd halted (fails.ne_error _)
  | partFailed first fails' =>
    obtain ⟨rfl, rfl⟩ := only _ _ first
    obtain rfl := fails.unique fails'
    exact ⟨rfl, rfl⟩
  | partSucceeded first succeeds _ =>
    obtain ⟨rfl, rfl⟩ := only _ _ first
    exact absurd fails succeeds.not_fails

theorem partSucceeded (only : Only g scope host (.whole part) rest cost answer)
    (succeeds : answer.Succeeds verdict)
    (others : Only g scope host (.inTurn start parts) verdict.rest cost' answer') :
    Only g scope host (.inTurn start (part :: parts)) rest (cost.next cost')
      (answer'.after answer.nodes answer.reach) := by
  intro c a h
  cases h with
  | partHalted first halted =>
    obtain ⟨rfl, rfl⟩ := only _ _ first
    exact absurd halted (succeeds.ne_error _)
  | partFailed first fails =>
    obtain ⟨rfl, rfl⟩ := only _ _ first
    exact absurd fails succeeds.not_fails
  | partSucceeded first succeeds' others' =>
    obtain ⟨rfl, rfl⟩ := only _ _ first
    obtain rfl := succeeds.unique succeeds'
    obtain ⟨rfl, rfl⟩ := others _ _ others'
    exact ⟨rfl, rfl⟩

theorem branchHalted (only : Only g scope host (.whole branch) input cost answer)
    (halted : answer.outcome = .error halt) :
    Only g scope host (.firstOf all (branch :: branches) description progress) input cost
      (.bare (.error halt) answer.reach) := by
  intro c a h
  cases h with
  | branchHalted first halted' =>
    obtain ⟨rfl, rfl⟩ := only _ _ first
    obtain rfl := Except.error.inj (halted.symm.trans halted')
    exact ⟨rfl, rfl⟩
  | branchTaken first succeeds =>
    obtain ⟨rfl, rfl⟩ := only _ _ first
    exact absurd halted (succeeds.ne_error _)
  | branchFailed first fails _ =>
    obtain ⟨rfl, rfl⟩ := only _ _ first
    exact absurd halted (fails.ne_error _)

theorem branchTaken (only : Only g scope host (.whole branch) input cost answer)
    (succeeds : answer.Succeeds verdict) :
    Only g scope host
      (.firstOf all (branch :: branches) description progress) input cost answer := by
  intro c a h
  cases h with
  | branchHalted first halted =>
    obtain ⟨rfl, rfl⟩ := only _ _ first
    exact absurd halted (succeeds.ne_error _)
  | branchTaken first _ => exact only _ _ first
  | branchFailed first fails _ =>
    obtain ⟨rfl, rfl⟩ := only _ _ first
    exact absurd fails succeeds.not_fails

theorem branchFailed (only : Only g scope host (.whole branch) input cost answer)
    (fails : answer.Fails verdict) (others : Only g scope host (.firstOf all branches
      (if progress < verdict.progress then verdict.description else description)
      (if progress < verdict.progress then verdict.progress else progress)) input cost' answer') :
    Only g scope host (.firstOf all (branch :: branches) description progress) input
      (cost.next cost') (answer'.after [] answer.reach) := by
  intro c a h
  cases h with
  | branchHalted first halted =>
    obtain ⟨rfl, rfl⟩ := only _ _ first
    exact absurd halted (fails.ne_error _)
  | branchTaken first succeeds =>
    obtain ⟨rfl, rfl⟩ := only _ _ first
    exact absurd fails succeeds.not_fails
  | branchFailed first fails' others' =>
    obtain ⟨rfl, rfl⟩ := only _ _ first
    obtain rfl := fails.unique fails'
    obtain ⟨rfl, rfl⟩ := others _ _ others'
    exact ⟨rfl, rfl⟩

theorem roundHalted (more : rest.isAtEnd = false)
    (only : Only g scope host (.whole body) rest cost answer)
    (halted : answer.outcome = .error halt) :
    Only g scope host (.rounds start body) rest cost (.bare (.error halt) answer.reach) := by
  intro c a h
  cases h with
  | roundsOver atEnd => cases atEnd.symm.trans more
  | roundHalted _ first halted' =>
    obtain ⟨rfl, rfl⟩ := only _ _ first
    obtain rfl := Except.error.inj (halted.symm.trans halted')
    exact ⟨rfl, rfl⟩
  | roundMalformed _ first fails | roundRefused _ first fails =>
    obtain ⟨rfl, rfl⟩ := only _ _ first
    exact absurd halted (fails.ne_error _)
  | roundStuck _ first succeeds | roundGained _ first succeeds =>
    obtain ⟨rfl, rfl⟩ := only _ _ first
    exact absurd halted (succeeds.ne_error _)

theorem roundMalformed (more : rest.isAtEnd = false)
    (only : Only g scope host (.whole body) rest cost answer) (fails : answer.Fails verdict)
    (progress : 0 < verdict.progress) :
    Only g scope host (.rounds start body) rest cost
      (.bare (.ok (.failure start verdict.description verdict.progress)) answer.reach) := by
  intro c a h
  cases h with
  | roundsOver atEnd => cases atEnd.symm.trans more
  | roundHalted _ first halted =>
    obtain ⟨rfl, rfl⟩ := only _ _ first
    exact absurd halted (fails.ne_error _)
  | roundMalformed _ first fails' _ =>
    obtain ⟨rfl, rfl⟩ := only _ _ first
    obtain rfl := fails.unique fails'
    exact ⟨rfl, rfl⟩
  | roundRefused _ first fails' noProgress =>
    obtain ⟨rfl, rfl⟩ := only _ _ first
    obtain rfl := fails.unique fails'
    omega
  | roundStuck _ first succeeds | roundGained _ first succeeds =>
    obtain ⟨rfl, rfl⟩ := only _ _ first
    exact absurd fails succeeds.not_fails

theorem roundRefused (more : rest.isAtEnd = false)
    (only : Only g scope host (.whole body) rest cost answer) (fails : answer.Fails verdict)
    (noProgress : verdict.progress = 0) :
    Only g scope host (.rounds start body) rest cost
      (.bare (Verdict.success start rest) answer.reach) := by
  intro c a h
  cases h with
  | roundsOver atEnd => cases atEnd.symm.trans more
  | roundHalted _ first halted =>
    obtain ⟨rfl, rfl⟩ := only _ _ first
    exact absurd halted (fails.ne_error _)
  | roundMalformed _ first fails' progress =>
    obtain ⟨rfl, rfl⟩ := only _ _ first
    obtain rfl := fails.unique fails'
    omega
  | roundRefused _ first _ _ =>
    obtain ⟨rfl, rfl⟩ := only _ _ first
    exact ⟨rfl, rfl⟩
  | roundStuck _ first succeeds | roundGained _ first succeeds =>
    obtain ⟨rfl, rfl⟩ := only _ _ first
    exact absurd fails succeeds.not_fails

theorem roundStuck (more : rest.isAtEnd = false)
    (only : Only g scope host (.whole body) rest cost answer) (succeeds : answer.Succeeds verdict)
    (stuck : verdict.rest.position = rest.position) :
    Only g scope host (.rounds start body) rest cost
      (.bare (.error (.emptyRepetition host)) answer.reach) := by
  intro c a h
  cases h with
  | roundsOver atEnd => cases atEnd.symm.trans more
  | roundHalted _ first halted =>
    obtain ⟨rfl, rfl⟩ := only _ _ first
    exact absurd halted (succeeds.ne_error _)
  | roundMalformed _ first fails | roundRefused _ first fails =>
    obtain ⟨rfl, rfl⟩ := only _ _ first
    exact absurd fails succeeds.not_fails
  | roundStuck _ first _ _ =>
    obtain ⟨rfl, rfl⟩ := only _ _ first
    exact ⟨rfl, rfl⟩
  | roundGained _ first succeeds' gained =>
    obtain ⟨rfl, rfl⟩ := only _ _ first
    obtain rfl := succeeds.unique succeeds'
    exact absurd stuck gained

theorem roundGained (more : rest.isAtEnd = false)
    (only : Only g scope host (.whole body) rest cost answer)
    (succeeds : answer.Succeeds verdict) (gained : verdict.rest.position ≠ rest.position)
    (others : Only g scope host (.rounds start body) verdict.rest cost' answer') :
    Only g scope host (.rounds start body) rest (cost.next cost')
      (answer'.after answer.nodes answer.reach) := by
  intro c a h
  cases h with
  | roundsOver atEnd => cases atEnd.symm.trans more
  | roundHalted _ first halted =>
    obtain ⟨rfl, rfl⟩ := only _ _ first
    exact absurd halted (succeeds.ne_error _)
  | roundMalformed _ first fails | roundRefused _ first fails =>
    obtain ⟨rfl, rfl⟩ := only _ _ first
    exact absurd fails succeeds.not_fails
  | roundStuck _ first succeeds' stuck =>
    obtain ⟨rfl, rfl⟩ := only _ _ first
    obtain rfl := succeeds.unique succeeds'
    exact absurd stuck gained
  | roundGained _ first succeeds' _ others' =>
    obtain ⟨rfl, rfl⟩ := only _ _ first
    obtain rfl := succeeds.unique succeeds'
    obtain ⟨rfl, rfl⟩ := others _ _ others'
    exact ⟨rfl, rfl⟩

end Only

/-- Where names are distinct, a task has one cost and one answer. -/
theorem only (named : scope.Named) {cost : Cost} {answer : Answer}
    (h : Evaluates g scope host task input cost answer) (within : task.Within scope) :
    Only g scope host task input cost answer := by
  induction h with
  | matched found same =>
    intro c a h
    cases h with
    | matched found' _ =>
      obtain rfl := Option.some.inj (found.symm.trans found')
      exact ⟨rfl, rfl⟩
    | mismatched other => exact absurd same (other _ found)
  | mismatched other =>
    intro c a h
    cases h with
    | matched found same => exact absurd same (other _ found)
    | mismatched _ => exact ⟨rfl, rfl⟩
  | sub known name _ ih =>
    intro c a h
    cases h with
    | sub known' name' entered =>
      -- both structures have the name of the target, and so are the target
      obtain rfl := named _ known' _ known (name'.trans name.symm)
      obtain ⟨rfl, rfl⟩ := ih (Task.within_inside known) _ _ entered
      exact ⟨rfl, rfl⟩
  | optional _ ih =>
    intro c a h
    cases h with
    | optional tried =>
      obtain ⟨rfl, rfl⟩ := ih within _ _ tried
      exact ⟨rfl, rfl⟩
  | star _ ih =>
    intro c a h
    cases h with
    | star repeated =>
      obtain ⟨rfl, rfl⟩ := ih within _ _ repeated
      exact ⟨rfl, rfl⟩
  | sequence _ ih =>
    intro c a h
    cases h with
    | sequence parts =>
      obtain ⟨rfl, rfl⟩ := ih within.sequence _ _ parts
      exact ⟨rfl, rfl⟩
  | choice _ ih =>
    intro c a h
    cases h with
    | choice branches =>
      obtain ⟨rfl, rfl⟩ := ih within.choice _ _ branches
      exact ⟨rfl, rfl⟩
  | malformed body =>
    intro c a h
    cases h with
    | malformed body' =>
      obtain rfl := Except.error.inj (body.symm.trans body')
      exact ⟨rfl, rfl⟩
    | entered body' _ => cases body.symm.trans body'
  | entered body _ ih =>
    intro c a h
    cases h with
    | malformed body' => cases body.symm.trans body'
    | entered body' grown =>
      obtain rfl := Except.ok.inj (body.symm.trans body')
      obtain ⟨rfl, rfl⟩ := ih (within.body body) _ _ grown
      exact ⟨rfl, rfl⟩
  | noPartLeft | noBranchLeft =>
    intro c a h
    cases h
    exact ⟨rfl, rfl⟩
  | partHalted _ halted ih => exact (ih within.part).partHalted halted
  | partFailed _ fails ih => exact (ih within.part).partFailed fails
  | partSucceeded _ succeeds _ ih ihOthers =>
    exact (ih within.part).partSucceeded succeeds (ihOthers within.parts)
  | branchHalted _ halted ih => exact (ih within.branch).branchHalted halted
  | branchTaken _ succeeds ih => exact (ih within.branch).branchTaken succeeds
  | branchFailed _ fails _ ih ihOthers =>
    exact (ih within.branch).branchFailed fails (ihOthers within.branches)
  | roundsOver atEnd =>
    intro c a h
    cases h with
    | roundsOver _ => exact ⟨rfl, rfl⟩
    | roundHalted more | roundMalformed more | roundRefused more | roundStuck more
    | roundGained more =>
      cases atEnd.symm.trans more
  | roundHalted more _ halted ih => exact (ih within).roundHalted more halted
  | roundMalformed more _ fails progress ih => exact (ih within).roundMalformed more fails progress
  | roundRefused more _ fails noProgress ih => exact (ih within).roundRefused more fails noProgress
  | roundStuck more _ succeeds stuck ih => exact (ih within).roundStuck more succeeds stuck
  | roundGained more _ succeeds gained _ ih ihOthers =>
    exact (ih within).roundGained more succeeds gained (ihOthers within)

end Evaluates

end OrderedChoice
