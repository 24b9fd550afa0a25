import OrderedChoice.Proofs.Evaluation

/-!
# What an evaluation covers

A success covers a window of the input: the leaves of the nodes it grew are the statements between
the cursor it began at and the cursor it ends at, in order and with their indices, and no branch is
without a leaf. Any other answer grows nothing, and a failure gives its first cursor back
(`Evaluates.covers`).
-/

namespace OrderedChoice

/-! ## Leaves -/

namespace Node

mutual

/-- The leaves of a node, in input order, with their indices. -/
def leaves : Node → List (Statement × Nat)
  | .leaf statement index => [(statement, index)]
  | .branch _ children => leavesOf children

/-- The leaves of a forest, in input order, with their indices. -/
def leavesOf : List Node → List (Statement × Nat)
  | [] => []
  | node :: nodes => node.leaves ++ leavesOf nodes

end

mutual

/-- Every branch of the node, at any depth, has a leaf below it. -/
def Filled : Node → Prop
  | .leaf _ _ => True
  | .branch _ children => leavesOf children ≠ [] ∧ AllFilled children

/-- Every branch of the forest, at any depth, has a leaf below it. -/
def AllFilled : List Node → Prop
  | [] => True
  | node :: nodes => node.Filled ∧ AllFilled nodes

end

theorem leavesOf_append (a b : List Node) : leavesOf (a ++ b) = leavesOf a ++ leavesOf b := by
  induction a with
  | nil => rfl
  | cons node nodes ih => rw [List.cons_append, leavesOf, leavesOf, ih, List.append_assoc]

theorem allFilled_iff {nodes : List Node} : AllFilled nodes ↔ ∀ node ∈ nodes, node.Filled := by
  induction nodes with
  | nil => simp [AllFilled]
  | cons node nodes ih => rw [AllFilled, ih, List.forall_mem_cons]

theorem allFilled_append {a b : List Node} : AllFilled (a ++ b) ↔ AllFilled a ∧ AllFilled b := by
  simp only [allFilled_iff, List.forall_mem_append]

mutual

/-- The statements of a node are those of its leaves. -/
theorem statements_eq_map_leaves : ∀ node : Node, node.statements = node.leaves.map Prod.fst
  | .leaf _ _ => rfl
  | .branch _ children => statementsOf_eq_map_leavesOf children

theorem statementsOf_eq_map_leavesOf :
    ∀ nodes : List Node, statementsOf nodes = (leavesOf nodes).map Prod.fst
  | [] => rfl
  | node :: nodes => by
    rw [statementsOf, leavesOf, List.map_append, statements_eq_map_leaves node,
      statementsOf_eq_map_leavesOf nodes]

end

end Node

/-! ## Cursors and windows -/

/-- A cursor comes before another if they are places of one slice in this order. -/
instance : LE Cursor :=
  ⟨fun a b => a.slice = b.slice ∧ a.position ≤ b.position⟩

namespace Cursor

theorem le_refl (a : Cursor) : a ≤ a := ⟨rfl, Nat.le_refl _⟩

theorem le_trans {a b c : Cursor} (hab : a ≤ b) (hbc : b ≤ c) : a ≤ c :=
  ⟨hab.1.trans hbc.1, Nat.le_trans hab.2 hbc.2⟩

theorem eq_of_position_eq {a b : Cursor} (hs : a.slice = b.slice) (hp : a.position = b.position) :
    a = b := by
  cases a
  cases b
  cases hs
  cases hp
  rfl

theorem le_next (a : Cursor) : a ≤ a.next :=
  ⟨rfl, Nat.le_min.2 ⟨Nat.le_succ _, a.position_le⟩⟩

theorem isAtEnd_eq_false {a : Cursor} {statement : Statement} (h : a.first? = some statement) :
    a.isAtEnd = false := by
  rw [← Bool.not_eq_true, ← first?_eq_none_iff, h]
  exact nofun

end Cursor

namespace Slice

/-- The statements of a slice between two positions, with their indices. -/
def window (slice : Slice) (first last : Nat) : List (Statement × Nat) :=
  (slice.statements.extract first last).toList.zipIdx first

theorem map_fst_window (slice : Slice) (p q : Nat) :
    (slice.window p q).map Prod.fst = (slice.statements.extract p q).toList :=
  List.zipIdx_map_fst _ _

theorem window_self (slice : Slice) (p : Nat) : slice.window p p = [] := by
  rw [window, Array.extract_empty_of_stop_le_start (Nat.le_refl p)]
  rfl

theorem window_append (slice : Slice) {p q r : Nat} (hpq : p ≤ q) (hqr : q ≤ r)
    (hr : q ≤ slice.size) : slice.window p q ++ slice.window q r = slice.window p r := by
  have size : (slice.statements.extract p q).toList.length = q - p := by
    rw [Array.length_toList, Array.size_extract_of_le hr]
  have split : slice.statements.extract p r =
      slice.statements.extract p q ++ slice.statements.extract q r := by
    rw [Array.extract_append_extract, Nat.min_eq_left hpq, Nat.max_eq_right hqr]
  rw [window, window, window, split, Array.toList_append, List.zipIdx_append, size,
    Nat.add_sub_cancel' hpq]

theorem window_next {cursor : Cursor} {statement : Statement} (h : cursor.first? = some statement) :
    cursor.slice.window cursor.position cursor.next.position = [(statement, cursor.position)] := by
  obtain ⟨lt, get⟩ := Array.getElem?_eq_some_iff.1 h
  rw [Cursor.position_next (Cursor.isAtEnd_eq_false h), window]
  have one :
      cursor.slice.statements.extract cursor.position (cursor.position + 1) = #[statement] := by
    rw [Array.extract_succ_right (Nat.lt_succ_self _) lt,
      Array.extract_empty_of_stop_le_start (Nat.le_refl _), get]
    rfl
  rw [one]
  rfl

/-- Between different positions of a slice there is a statement. -/
theorem window_ne_nil (slice : Slice) {p q : Nat} (h : p < q) (hq : q ≤ slice.size) :
    slice.window p q ≠ [] := by
  intro nil
  have length := congrArg List.length nil
  rw [window, List.length_zipIdx, Array.length_toList, Array.size_extract_of_le hq,
    List.length_nil] at length
  omega

end Slice

namespace Verdict

/-- The verdict is a success from a cursor on. -/
structure Spans (verdict : Verdict) (start : Cursor) : Prop where
  le_rest : start ≤ verdict.rest
  matched : verdict.matched = start.slice.statements.extract start.position verdict.rest.position

theorem success_of_le {start rest : Cursor} (h : start ≤ rest) :
    success start rest =
      .ok ⟨start.slice.statements.extract start.position rest.position, rest, false, "", 0⟩ := by
  rw [success, Cursor.until?, if_pos ⟨h.2, h.1 ▸ rest.position_le⟩]

@[simp] theorem matched_refuseEmpty (verdict : Verdict) (target : Structure) :
    (verdict.refuseEmpty target).matched = verdict.matched := by
  unfold refuseEmpty
  split <;> rfl

@[simp] theorem rest_refuseEmpty (verdict : Verdict) (target : Structure) :
    (verdict.refuseEmpty target).rest = verdict.rest := by
  unfold refuseEmpty
  split <;> rfl

theorem refuseEmpty_of_failed {verdict : Verdict} (h : verdict.failed = true) (target : Structure) :
    verdict.refuseEmpty target = verdict := by
  simp [refuseEmpty, h]

theorem refuseEmpty_of_matched {verdict : Verdict} (h : verdict.matched.isEmpty = false)
    (target : Structure) : verdict.refuseEmpty target = verdict := by
  simp [refuseEmpty, h]

theorem failed_refuseEmpty {verdict : Verdict} (h : verdict.matched.isEmpty = true)
    (target : Structure) : (verdict.refuseEmpty target).failed = true := by
  cases failed : verdict.failed with
  | true => rw [refuseEmpty_of_failed failed, failed]
  | false => simp [refuseEmpty, h, failed]

/-- A success matches nothing exactly if it ends where it began. -/
theorem Spans.matched_isEmpty_iff {verdict : Verdict} {start : Cursor} (h : verdict.Spans start) :
    verdict.matched.isEmpty = true ↔ verdict.rest = start := by
  have le := h.le_rest.2
  have bound : verdict.rest.position ≤ start.slice.size := h.le_rest.1 ▸ verdict.rest.position_le
  rw [Array.isEmpty_iff_size_eq_zero, h.matched, Array.size_extract_of_le bound]
  constructor
  · intro zero
    exact Cursor.eq_of_position_eq h.le_rest.1.symm (by omega)
  · rintro same
    rw [same]
    exact Nat.sub_self _

end Verdict

theorem failed_choiceFailure (all : List Matcher) (input : Cursor) (description : String)
    (progress : Nat) : (choiceFailure all input description progress).failed = true := by
  unfold choiceFailure
  split <;> rfl

/-! ## Coverage -/

/-- An answer to a task that began at `origin` and is evaluated at `input` covers what it
consumed. -/
structure Answer.Covers (answer : Answer) (origin input : Cursor) : Prop where
  inRange : answer.outcome ≠ .error .cursorOutOfRange
  bare : answer.succeeded = false → answer.nodes = []
  failure : ∀ verdict, answer.Fails verdict → verdict.matched = #[] ∧ verdict.rest = origin
  spans : ∀ verdict, answer.Succeeds verdict → verdict.Spans origin
  le_rest : ∀ verdict, answer.Succeeds verdict → input ≤ verdict.rest
  leaves : ∀ verdict, answer.Succeeds verdict →
    Node.leavesOf answer.nodes = input.slice.window input.position verdict.rest.position
  filled : Node.AllFilled answer.nodes

namespace Answer

variable {origin input : Cursor} {answer : Answer}

theorem covers_halt {halt : Halt} (h : halt ≠ .cursorOutOfRange) (reach : Nat) :
    (bare (.error halt) reach).Covers origin input where
  inRange := fun same => h (Except.error.inj same)
  bare _ := rfl
  failure := by rintro _ ⟨⟨⟩, _⟩
  spans := by rintro _ ⟨⟨⟩, _⟩
  le_rest := by rintro _ ⟨⟨⟩, _⟩
  leaves := by rintro _ ⟨⟨⟩, _⟩
  filled := trivial

/-- A failure that gives its first cursor back, whatever it says. -/
theorem covers_refusal {verdict : Verdict} {reach : Nat} (failed : verdict.failed = true)
    (matched : verdict.matched = #[]) (rest : verdict.rest = origin) :
    (bare (.ok verdict) reach).Covers origin input where
  inRange := nofun
  bare _ := rfl
  failure := by
    rintro _ ⟨⟨⟩, _⟩
    exact ⟨matched, rest⟩
  spans := by
    rintro _ ⟨⟨⟩, succeeded⟩
    rw [failed] at succeeded
    cases succeeded
  le_rest := by
    rintro _ ⟨⟨⟩, succeeded⟩
    rw [failed] at succeeded
    cases succeeded
  leaves := by
    rintro _ ⟨⟨⟩, succeeded⟩
    rw [failed] at succeeded
    cases succeeded
  filled := trivial

theorem covers_failure (description : String) (progress reach : Nat) :
    (bare (.ok (.failure origin description progress)) reach).Covers origin input :=
  covers_refusal rfl rfl rfl

/-- A success that ends at the cursor it is evaluated at. -/
theorem covers_success (h : origin ≤ input) (reach : Nat) :
    (bare (Verdict.success origin input) reach).Covers origin input := by
  rw [Verdict.success_of_le h]
  exact {
    inRange := nofun
    bare := fun _ => rfl
    failure := by rintro _ ⟨⟨⟩, ⟨⟩⟩
    spans := by
      rintro _ ⟨⟨⟩, _⟩
      exact ⟨h, rfl⟩
    le_rest := by
      rintro _ ⟨⟨⟩, _⟩
      exact input.le_refl
    leaves := by
      rintro _ ⟨⟨⟩, _⟩
      exact (Slice.window_self _ _).symm
    filled := trivial }

/-- What an earlier success covered and what the rest covers join. -/
theorem Covers.after {middle : Cursor} {nodes : List Node} {reach : Nat}
    (h : answer.Covers origin middle) (le : input ≤ middle)
    (leaves : Node.leavesOf nodes = input.slice.window input.position middle.position)
    (filled : Node.AllFilled nodes) : (answer.after nodes reach).Covers origin input where
  inRange := h.inRange
  bare := fun fails => if_neg (ne_true_of_eq_false fails)
  failure := h.failure
  spans := h.spans
  le_rest verdict succeeds := Cursor.le_trans le (h.le_rest verdict succeeds)
  leaves := by
    intro verdict succeeds
    have succeeds' : answer.Succeeds verdict := succeeds
    show Node.leavesOf (if answer.succeeded then nodes ++ answer.nodes else []) = _
    rw [if_pos succeeds'.succeeded, Node.leavesOf_append, leaves,
      h.leaves verdict succeeds', ← le.1]
    exact Slice.window_append _ le.2 (h.le_rest verdict succeeds').2 (le.1 ▸ middle.position_le)
  filled := by
    show Node.AllFilled (if answer.succeeded then nodes ++ answer.nodes else [])
    split
    · exact Node.allFilled_append.2 ⟨filled, h.filled⟩
    · trivial

/-- A forgiven failure is a success on nothing. -/
theorem Covers.forgiven (h : answer.Covers input input) : answer.forgiven.Covers input input := by
  cases outcome : answer.outcome with
  | error halt => rwa [forgiven_of_error outcome]
  | ok verdict =>
    rw [forgiven_of_ok outcome]
    cases failed : verdict.failed with
    | false =>
      have succeeds : answer.Succeeds verdict := ⟨outcome, failed⟩
      exact {
        inRange := nofun
        bare := nofun
        failure := by rintro _ ⟨⟨⟩, ⟨⟩⟩
        spans := by
          rintro _ ⟨⟨⟩, _⟩
          exact ⟨(h.spans verdict succeeds).le_rest, (h.spans verdict succeeds).matched⟩
        le_rest := by
          rintro _ ⟨⟨⟩, _⟩
          exact h.le_rest verdict succeeds
        leaves := by
          rintro _ ⟨⟨⟩, _⟩
          exact h.leaves verdict succeeds
        filled := h.filled }
    | true =>
      have fails : answer.Fails verdict := ⟨outcome, failed⟩
      obtain ⟨matched, rest⟩ := h.failure verdict fails
      have noNodes : answer.nodes = [] := h.bare fails.succeeded
      exact {
        inRange := nofun
        bare := nofun
        failure := by rintro _ ⟨⟨⟩, ⟨⟩⟩
        spans := by
          rintro _ ⟨⟨⟩, _⟩
          refine ⟨rest ▸ input.le_refl, ?_⟩
          rw [matched, rest, Array.extract_empty_of_stop_le_start (Nat.le_refl _)]
        le_rest := by
          rintro _ ⟨⟨⟩, _⟩
          exact rest ▸ input.le_refl
        leaves := by
          rintro _ ⟨⟨⟩, _⟩
          rw [noNodes, rest]
          exact (Slice.window_self _ _).symm
        filled := h.filled }

/-- A success on something becomes a branch that covers it. -/
theorem Covers.branch {verdict : Verdict} (h : answer.Covers input input)
    (succeeds : answer.Succeeds verdict) (matched : verdict.matched.isEmpty = false)
    (target : Structure) :
    (⟨.ok verdict, [.branch target answer.nodes], answer.reach⟩ : Answer).Covers input input := by
  have spans := h.spans verdict succeeds
  have leaves := h.leaves verdict succeeds
  have moved : input.position < verdict.rest.position := by
    refine Nat.lt_of_le_of_ne spans.le_rest.2 fun same => ?_
    rw [spans.matched_isEmpty_iff.2 (Cursor.eq_of_position_eq spans.le_rest.1.symm same.symm)]
      at matched
    cases matched
  have bound : verdict.rest.position ≤ input.slice.size :=
    spans.le_rest.1 ▸ verdict.rest.position_le
  exact {
    inRange := nofun
    bare := fun fails => by simp [Answer.succeeded, succeeds.2] at fails
    failure := by
      rintro _ ⟨⟨⟩, failed⟩
      cases succeeds.2.symm.trans failed
    spans := by
      rintro _ ⟨⟨⟩, _⟩
      exact spans
    le_rest := by
      rintro _ ⟨⟨⟩, _⟩
      exact spans.le_rest
    leaves := by
      rintro _ ⟨⟨⟩, _⟩
      show Node.leavesOf answer.nodes ++ [] = _
      rw [List.append_nil, leaves]
    filled := by
      refine ⟨⟨?_, h.filled⟩, trivial⟩
      rw [leaves]
      exact Slice.window_ne_nil _ moved bound }

/-- The node of a structure covers what its body covered, unless that is nothing. -/
theorem Covers.enclosed (h : answer.Covers input input) (target : Structure) :
    (answer.enclosed target).Covers input input := by
  cases outcome : answer.outcome with
  | error halt =>
    rw [enclosed_of_error outcome]
    exact covers_halt (fun eq => h.inRange (outcome.trans (congrArg _ eq))) _
  | ok verdict =>
    rw [enclosed_of_ok outcome]
    cases failed : verdict.failed with
    | true =>
      obtain ⟨matched, rest⟩ := h.failure verdict ⟨outcome, failed⟩
      rw [Verdict.refuseEmpty_of_failed failed, if_pos failed]
      exact covers_refusal failed matched rest
    | false =>
      have succeeds : answer.Succeeds verdict := ⟨outcome, failed⟩
      cases nothing : verdict.matched.isEmpty with
      | true =>
        have refused := Verdict.failed_refuseEmpty nothing target
        rw [if_pos refused]
        refine covers_refusal refused ?_ ?_
        · rw [Verdict.matched_refuseEmpty, Array.isEmpty_iff.1 nothing]
        · rw [Verdict.rest_refuseEmpty, (h.spans verdict succeeds).matched_isEmpty_iff.1 nothing]
      | false =>
        rw [Verdict.refuseEmpty_of_matched nothing, if_neg (ne_true_of_eq_false failed)]
        exact h.branch succeeds nothing target

end Answer

namespace Evaluates

variable {g : Grammar} {scope : Scope g} {host : String} {task : Task} {input : Cursor}
    {cost : Cost}
  {answer : Answer}

/-- Every answer covers what it consumed. -/
theorem covers (h : Evaluates g scope host task input cost answer)
    (le : task.origin input ≤ input) : answer.Covers (task.origin input) input := by
  induction h with
  | @matched _ _ input statement found _ =>
    have success := Verdict.success_of_le input.le_next
    rw [success]
    exact {
      inRange := nofun
      bare := nofun
      failure := by rintro _ ⟨⟨⟩, ⟨⟩⟩
      spans := by
        rintro _ ⟨⟨⟩, _⟩
        exact ⟨input.le_next, rfl⟩
      le_rest := by
        rintro _ ⟨⟨⟩, _⟩
        exact input.le_next
      leaves := by
        rintro _ ⟨⟨⟩, _⟩
        exact (Slice.window_next found).symm
      filled := ⟨trivial, trivial⟩ }
  | mismatched _ => exact Answer.covers_failure _ _ _
  | sub _ _ _ ih => exact (ih le).enclosed _
  | optional _ ih => exact (ih le).forgiven
  | star _ ih => exact ih le
  | sequence _ ih => exact ih le
  | choice _ ih => exact ih le
  | malformed _ => exact Answer.covers_halt (by nofun) _
  | entered _ _ ih => exact ih le
  | noPartLeft => exact Answer.covers_success le _
  | partHalted _ halted ih =>
    exact Answer.covers_halt (fun eq =>
      (ih (Cursor.le_refl _)).inRange (halted.trans (congrArg _ eq))) _
  | partFailed _ _ _ => exact Answer.covers_failure _ _ _
  | partSucceeded _ succeeds _ ih ihOthers =>
    have first := ih (Cursor.le_refl _)
    have moved := first.le_rest _ succeeds
    exact (ihOthers (Cursor.le_trans le moved)).after moved (first.leaves _ succeeds) first.filled
  | noBranchLeft =>
    unfold choiceFailure
    split
    · exact Answer.covers_failure _ _ _
    · exact Answer.covers_failure _ _ _
  | branchHalted _ halted ih =>
    exact Answer.covers_halt (fun eq => (ih le).inRange (halted.trans (congrArg _ eq))) _
  | branchTaken _ _ ih => exact ih le
  | branchFailed _ _ _ _ ihOthers =>
    exact (ihOthers le).after (Cursor.le_refl _) (Slice.window_self _ _).symm trivial
  | roundsOver _ => exact Answer.covers_success le _
  | roundHalted _ _ halted ih =>
    exact Answer.covers_halt (fun eq =>
      (ih (Cursor.le_refl _)).inRange (halted.trans (congrArg _ eq))) _
  | roundMalformed _ _ _ _ _ => exact Answer.covers_failure _ _ _
  | roundRefused _ _ _ _ _ => exact Answer.covers_success le _
  | roundStuck _ _ _ _ _ => exact Answer.covers_halt (by nofun) _
  | roundGained _ _ succeeds _ _ ih ihOthers =>
    have first := ih (Cursor.le_refl _)
    have moved := first.le_rest _ succeeds
    exact (ihOthers (Cursor.le_trans le moved)).after moved (first.leaves _ succeeds) first.filled

end Evaluates

end OrderedChoice
