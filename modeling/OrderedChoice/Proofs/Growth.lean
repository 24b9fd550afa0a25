import OrderedChoice.Proofs.Running

/-!
# What a run leaves of the forest

A run adds to the children of its node and never touches those that were there. A failure adds
nothing and consumes nothing. A success adds exactly the statements it consumed, as leaves in order.
-/

namespace OrderedChoice

variable {τ : Type} [Tracer τ] {g : Grammar} {scope : Scope g} {slice : Slice} {context : Context τ}
  {m : Matcher} {input : Cursor}

/-- Contexts in which matchers over the structures of a scope were run, all on one slice. -/
inductive Used (scope : Scope g) (slice : Slice) : Context τ → Prop where
  | fresh (limits : Limits) (tracer : τ) : Used scope slice (.fresh limits tracer)
  | ran {context : Context τ} (before : Used scope slice context) {m : Matcher}
      (within : (Task.whole m).Within scope) {input : Cursor} (on : input.slice = slice)
      (node : OpenNode) :
      Used scope slice (run g m input ⟨context, node⟩).2.context

/-- Whatever was run on the slice, each remembered result is one that an evaluation gives. -/
theorem Used.coherent (used : Used scope slice context) : context.Coherent scope slice := by
  induction used with
  | fresh limits tracer => exact Context.coherent_fresh _ _ _ _
  | ran _ within on node ih =>
    subst on
    exact (run_accounts scope _ _ ⟨_, node⟩ within ih).coherent

/-- A run in a used context is accounted for. -/
theorem Used.accounts (used : Used scope slice context) (within : (Task.whole m).Within scope)
    (on : input.slice = slice) (node : OpenNode) :
    Accounts scope (.whole m) input node ⟨context, node⟩ (run g m input ⟨context, node⟩) :=
  run_accounts scope m input ⟨context, node⟩ within (on ▸ used.coherent)

/-- Every matcher is over the structures there are. -/
theorem Task.within_all (task : Task) : task.Within (Scope.all : Scope g) :=
  fun t _ => Scope.mem_all t

/-! ## A grammar of blocks -/

/-- Statements between an opening and a closing one, among them blocks again. -/
def block : Structure :=
  ⟨"block", "Block"⟩

def blocks : Grammar :=
  ⟨[⟨block, .ok (.enclosed (.statement ⟨"begin"⟩)
    (.star (.choice (.statement ⟨"do"⟩) (.sub block) [])) (.statement ⟨"end"⟩))⟩]⟩

/-- A block reaches nothing but blocks. -/
theorem eq_block_of_reaches {s : Structure} (h : blocks.Reaches block s) : s = block := by
  induction h with
  | refl => rfl
  | step _ member ih =>
    subst ih
    exact List.mem_singleton.1 member

/-- Statements of the given kinds. -/
def statementsOfKinds (kinds : List String) : Array Statement :=
  (kinds.map fun kind => .unplaced ⟨kind⟩ kind).toArray

/-- A context for small runs, without a memo table. -/
def smallContext : Context Unit :=
  .fresh ⟨30, 5, false⟩ ()

/-! ## Backtracking -/

/-- A failure consumes nothing and leaves the node as it was; whatever a run does, the children that
the node had are still there. -/
theorem run_backtracks (used : Used (Scope.all : Scope g) slice context) (m : Matcher)
    (on : input.slice = slice) (node : OpenNode) :
    (∀ verdict, (run g m input ⟨context, node⟩).1 = .ok verdict → verdict.failed = true →
      verdict.matched = #[] ∧ verdict.rest = input ∧
      (run g m input ⟨context, node⟩).2.node = node) ∧
    node.children.toList <+: (run g m input ⟨context, node⟩).2.node.children.toList := by
  have accounts := used.accounts (Task.within_all (.whole m)) on node
  constructor
  · intro verdict ok failed
    generalize run g m input ⟨context, node⟩ = result at accounts ok ⊢
    obtain ⟨outcome, after⟩ := result
    obtain rfl : outcome = .ok verdict := ok
    obtain ⟨cost, answer, evaluated, outcome, settles⟩ := accounts.answered
    obtain ⟨matched, rest⟩ := (evaluated.covers input.le_refl).failure verdict ⟨outcome, failed⟩
    exact ⟨matched, rest, settles.node_failure failed⟩
  · obtain ⟨nodes, grown⟩ := accounts.grown
    rw [grown, OpenNode.children_grow]
    exact List.prefix_append _ _

/-- An open block, in which a block was closed. -/
def unclosed : Slice :=
  ⟨0, statementsOfKinds ["begin", "do", "begin", "end"]⟩

/-- A block that is not closed leaves nothing of the statements and the block inside it. -/
theorem run_backtracks_unclosed :
    ∃ verdict, (run blocks (.sub block) (.start unclosed) ⟨smallContext, .empty block⟩).1 =
      .ok verdict ∧ verdict.failed = true ∧ verdict.matched = #[] ∧ verdict.rest = .start unclosed ∧
    (run blocks (.sub block) (.start unclosed) ⟨smallContext, .empty block⟩).2.node =
      .empty block := by
  have used : Used (Scope.all : Scope blocks) unclosed smallContext := .fresh _ _
  have on : (Cursor.start unclosed).slice = unclosed := rfl
  obtain ⟨verdict, ok, failed⟩ : ∃ verdict, (run blocks (.sub block) (.start unclosed)
      ⟨smallContext, .empty block⟩).1 = .ok verdict ∧ verdict.failed = true := ⟨_, rfl, rfl⟩
  exact ⟨verdict, ok, failed, (run_backtracks used (.sub block) on (.empty block)).1
    verdict ok failed⟩

/-! ## Leaves -/

/-- A success grows the statements between the two cursors, as leaves in order. -/
theorem Used.success (used : Used scope slice context) (within : (Task.whole m).Within scope)
    (on : input.slice = slice) (node : OpenNode) {verdict : Verdict}
    (ok : (run g m input ⟨context, node⟩).1 = .ok verdict) (succeeds : verdict.failed = false) :
    verdict.Spans input ∧ ∃ nodes, (run g m input ⟨context, node⟩).2.node = node.grow nodes ∧
      Node.leavesOf nodes = slice.window input.position verdict.rest.position ∧
      Node.AllFilled nodes := by
  have accounts := used.accounts within on node
  generalize run g m input ⟨context, node⟩ = result at accounts ok ⊢
  obtain ⟨outcome, after⟩ := result
  obtain rfl : outcome = .ok verdict := ok
  obtain ⟨cost, answer, evaluated, outcome, settles⟩ := accounts.answered
  have covers := evaluated.covers input.le_refl
  have answered : answer.Succeeds verdict := ⟨outcome, succeeds⟩
  exact ⟨covers.spans verdict answered, answer.nodes, settles.node_success succeeds,
    on ▸ covers.leaves verdict answered, covers.filled⟩

/-- The root of a parse holds the statements that it consumed, and nothing if it failed. -/
theorem parseWith_statements {root : Structure} {limits : Limits}
    {tracer : τ} {statements : Array Statement} {result : Parse}
    (ok : (parseWith g root limits tracer statements).1 = .ok result) :
    (result.verdict.failed = false →
      result.root.statements = statements.toList.take result.consumed) ∧
    (result.verdict.failed = true → result.root.children = []) := by
  have accounts :=
    matchRoot_accounts (Scope.mem_all root : root ∈ (Scope.all : Scope g)) limits tracer statements
  unfold parseWith at ok
  generalize matchRoot g root limits tracer statements = matched at accounts ok
  obtain ⟨_ | verdict, after⟩ := matched
  · cases ok
  · obtain rfl := Except.ok.inj ok
    obtain ⟨cost, answer, evaluated, outcome, settles⟩ := accounts.answered
    have covers := evaluated.covers (Cursor.le_refl _)
    constructor
    · intro succeeds
      have spans := covers.spans verdict ⟨outcome, succeeds⟩
      have leaves := covers.leaves verdict ⟨outcome, succeeds⟩
      have node : after.node = (OpenNode.empty root).grow answer.nodes :=
        settles.node_success succeeds
      have size : verdict.matched.size = verdict.rest.position := by
        rw [spans.matched, Array.size_extract_of_le (spans.le_rest.1 ▸ verdict.rest.position_le)]
        rfl
      show Node.statementsOf after.node.children.toList =
        statements.toList.take verdict.matched.size
      rw [node, OpenNode.children_grow, Node.statementsOf_append,
        Node.statementsOf_eq_map_leavesOf answer.nodes, leaves, Slice.map_fst_window, size]
      exact Array.toList_extract
    · intro failed
      have node : after.node = OpenNode.empty root := settles.node_failure failed
      show after.node.children.toList = []
      rw [node]
      rfl

/-- A success consumes the statements up to its last cursor, and the nodes it grows hold exactly
these, in order and with their indices; no branch among them is without a leaf. So the forest of a
parse holds what it consumed. -/
theorem run_keeps_statements (used : Used (Scope.all : Scope g) slice context) (m : Matcher)
    (on : input.slice = slice) (node : OpenNode) :
    (∀ verdict, (run g m input ⟨context, node⟩).1 = .ok verdict → verdict.failed = false →
      verdict.rest.slice = slice ∧
      input.position ≤ verdict.rest.position ∧ verdict.rest.position ≤ slice.size ∧
      verdict.matched = slice.statements.extract input.position verdict.rest.position ∧
      ∃ nodes, (run g m input ⟨context, node⟩).2.node = node.grow nodes ∧
      Node.leavesOf nodes = slice.window input.position verdict.rest.position ∧
      Node.AllFilled nodes) ∧
    ∀ (root : Structure) (limits : Limits) (tracer : τ) (statements : Array Statement)
      (result : Parse), (parseWith g root limits tracer statements).1 = .ok result →
    (result.verdict.failed = false →
      result.root.statements = statements.toList.take result.consumed) ∧
    (result.verdict.failed = true → result.root.children = []) := by
  constructor
  · intro verdict ok succeeds
    obtain ⟨⟨le, matched⟩, grown⟩ := used.success (Task.within_all (.whole m)) on node ok succeeds
    have same : verdict.rest.slice = slice := le.1.symm.trans on
    exact ⟨same, le.2, same ▸ verdict.rest.position_le, on ▸ matched, grown⟩
  · intro root limits tracer statements result ok
    exact parseWith_statements ok

/-- A closed block, in which a block was closed, and a statement after it. -/
def nested : Slice :=
  ⟨0, statementsOfKinds ["begin", "begin", "end", "do", "end", "do"]⟩

/-- Two blocks, one inside the other, keep their statements. -/
theorem run_keeps_statements_nested :
    ∃ verdict nodes, (run blocks (.sub block) (.start nested) ⟨smallContext, .empty block⟩).1 =
      .ok verdict ∧ verdict.failed = false ∧
    (run blocks (.sub block) (.start nested) ⟨smallContext, .empty block⟩).2.node =
      (OpenNode.empty block).grow nodes ∧
    Node.leavesOf nodes = nested.window 0 verdict.rest.position ∧ Node.AllFilled nodes := by
  have used : Used (Scope.all : Scope blocks) nested smallContext := .fresh _ _
  have on : (Cursor.start nested).slice = nested := rfl
  obtain ⟨verdict, ok, succeeds⟩ : ∃ verdict, (run blocks (.sub block) (.start nested)
      ⟨smallContext, .empty block⟩).1 = .ok verdict ∧ verdict.failed = false := ⟨_, rfl, rfl⟩
  obtain ⟨_, _, _, _, nodes, grown⟩ :=
    (run_keeps_statements used (.sub block) on (.empty block)).1 verdict ok succeeds
  exact ⟨verdict, nodes, ok, succeeds, grown⟩

end OrderedChoice
