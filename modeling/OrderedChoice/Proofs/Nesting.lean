import OrderedChoice.Proofs.Totality

/-!
# Nesting

A bound on how many structures are open at once, in the number of statements that are left. How deep
a matcher nests at one place depends on whether a statement is left there; later on, each statement
that was consumed takes the bound down by a slope.

Bounds of matchers follow from those of structures. Where the bound of each structure is above the
one of its body, every evaluation stays within its bound (`Evaluates.depth_le`).
-/

namespace OrderedChoice

/-- How many structures may be open: at the end of the input, and where one statement is left. -/
structure Nesting where
  atEnd : Nat
  ahead : Nat

namespace Nesting

/-- The bound for some statements that are left. -/
def bound (slope : Nat) (n : Nesting) : Nat → Nat
  | 0 => n.atEnd
  | left + 1 => slope * left + n.ahead

/-- A repetition ends where no statement is left. -/
def rounds (n : Nesting) : Nesting :=
  ⟨0, n.ahead⟩

/-- A part of a sequence, which may be nullable, and the parts after it. -/
def next (slope : Nat) (nullable : Bool) (n o : Nesting) : Nesting :=
  ⟨max n.atEnd (if nullable then o.atEnd else 0),
    max (max n.ahead (if nullable then o.ahead else 0)) (max o.atEnd (o.ahead - slope))⟩

/-- A branch of a choice, and the branches after it. -/
def orElse (n o : Nesting) : Nesting :=
  ⟨max n.atEnd o.atEnd, max n.ahead o.ahead⟩

variable {slope : Nat} {nullable : Bool} {n o : Nesting} {left later depth : Nat}

theorem bound_mono (atEnd : n.atEnd ≤ o.atEnd) (ahead : n.ahead ≤ o.ahead) (left : Nat) :
    n.bound slope left ≤ o.bound slope left := by
  cases left with
  | zero => exact atEnd
  | succ left => exact Nat.add_le_add_left ahead _

theorem bound_lt (atEnd : n.atEnd < o.atEnd) (ahead : n.ahead < o.ahead) (left : Nat) :
    n.bound slope left < o.bound slope left := by
  cases left with
  | zero => exact atEnd
  | succ left => exact Nat.add_lt_add_left ahead _

theorem bound_le_next (left : Nat) :
    n.bound slope left ≤ (next slope nullable n o).bound slope left :=
  bound_mono (Nat.le_max_left _ _) (Nat.le_trans (Nat.le_max_left _ _) (Nat.le_max_left _ _)) left

/-- After a part that was nullable, the others are where it was. -/
theorem bound_le_next_of_nullable (null : nullable = true) (left : Nat) :
    o.bound slope left ≤ (next slope nullable n o).bound slope left := by
  subst null
  exact bound_mono (Nat.le_max_right _ _)
    (Nat.le_trans (Nat.le_max_right _ _) (Nat.le_max_left _ _)) left

/-- After a part that has consumed a statement, the others have fewer left. -/
theorem bound_le_next_of_lt (fewer : later < left) :
    o.bound slope later ≤ (next slope nullable n o).bound slope left := by
  have atEnd : o.atEnd ≤ (next slope nullable n o).ahead :=
    Nat.le_trans (Nat.le_max_left _ _) (Nat.le_max_right _ _)
  have ahead : o.ahead - slope ≤ (next slope nullable n o).ahead :=
    Nat.le_trans (Nat.le_max_right _ _) (Nat.le_max_right _ _)
  obtain ⟨left, rfl⟩ := Nat.exists_eq_add_one_of_ne_zero (Nat.ne_zero_of_lt fewer)
  cases later with
  | zero => exact Nat.le_trans atEnd (Nat.le_add_left _ _)
  | succ later =>
    have paid : slope * (later + 1) ≤ slope * left :=
      Nat.mul_le_mul_left _ (Nat.le_of_lt_succ fewer)
    rw [Nat.mul_succ] at paid
    show slope * later + o.ahead ≤ slope * left + (next slope nullable n o).ahead
    omega

/-- Every round has fewer statements left than the one before. -/
theorem bound_rounds_mono (fewer : later ≤ left) :
    n.rounds.bound slope later ≤ n.rounds.bound slope left := by
  cases later with
  | zero => exact Nat.zero_le _
  | succ later =>
    obtain ⟨left, rfl⟩ := Nat.exists_eq_add_one_of_ne_zero (Nat.ne_zero_of_lt fewer)
    exact Nat.add_le_add_right (Nat.mul_le_mul_left _ (Nat.le_of_succ_le_succ fewer)) _

theorem bound_le_rounds (more : 0 < left) : n.bound slope left ≤ n.rounds.bound slope left := by
  obtain ⟨left, rfl⟩ := Nat.exists_eq_add_one_of_ne_zero (Nat.ne_zero_of_lt more)
  exact Nat.le_refl _

end Nesting

namespace Matcher

variable (slope : Nat) (of : Structure → Nesting)

mutual

/-- How deep a matcher nests, by how deep the structures do. -/
def nesting : Matcher → Nesting
  | .statement _ => ⟨0, 0⟩
  | .sub target => of target
  | .optional body => body.nesting
  | .star body => body.nesting.rounds
  | .sequence first second rest =>
    .next slope first.nullable first.nesting
      (.next slope second.nullable second.nesting (nestingInTurn rest))
  | .choice first second rest => first.nesting.orElse (second.nesting.orElse (nestingOfAny rest))

def nestingInTurn : List Matcher → Nesting
  | [] => ⟨0, 0⟩
  | m :: ms => .next slope m.nullable m.nesting (nestingInTurn ms)

def nestingOfAny : List Matcher → Nesting
  | [] => ⟨0, 0⟩
  | m :: ms => m.nesting.orElse (nestingOfAny ms)

end

variable {slope of} (a b : Matcher) (rest : List Matcher)

theorem nesting_sequence :
    (sequence a b rest).nesting slope of = nestingInTurn slope of (a :: b :: rest) := by
  rw [nesting, nestingInTurn, nestingInTurn]

theorem nesting_choice :
    (choice a b rest).nesting slope of = nestingOfAny slope of (a :: b :: rest) := by
  rw [nesting, nestingOfAny, nestingOfAny]

end Matcher

def Task.nesting (slope : Nat) (of : Structure → Nesting) : Task → Nesting
  | whole m => m.nesting slope of
  | inTurn _ parts => Matcher.nestingInTurn slope of parts
  | firstOf _ branches _ _ => Matcher.nestingOfAny slope of branches
  | rounds _ body => (body.nesting slope of).rounds
  | inside target => of target

/-- Structures are well formed and nest deeper than their bodies. -/
structure Nested {g : Grammar} (scope : Scope g) (slope : Nat) (of : Structure → Nesting) :
    Prop where
  wellFormed : ∀ s ∈ scope, ∃ m, g.body s = .ok m
  atEnd : ∀ s ∈ scope, ∀ m, g.body s = .ok m → (m.nesting slope of).atEnd < (of s).atEnd
  ahead : ∀ s ∈ scope, ∀ m, g.body s = .ok m → (m.nesting slope of).ahead < (of s).ahead

/-! ## Evaluations nest within their bounds -/

theorem Cursor.remaining_pos {cursor : Cursor} (more : cursor.isAtEnd = false) :
    0 < cursor.remaining :=
  Nat.sub_pos_of_lt (Nat.lt_of_not_le (of_decide_eq_false more))

variable {g : Grammar} {scope : Scope g} {host : String} {task : Task} {input : Cursor}
    {cost : Cost}
  {answer : Answer} {slope : Nat} {of : Structure → Nesting}

/-- Every evaluation of a task opens no more structures than its bound allows. -/
theorem Evaluates.depth_le (named : scope.Named) (nested : Nested scope slope of)
    (h : Evaluates g scope host task input cost answer) (within : task.Within scope) :
    cost.depth ≤ (task.nesting slope of).bound slope input.remaining := by
  induction h with
  | matched _ _ | mismatched _ => exact Nat.zero_le _
  | sub known name _ ih =>
    obtain rfl := named _ known _ within.mem name
    exact ih (Task.within_inside known)
  | optional _ ih | star _ ih => exact ih within
  | sequence _ ih =>
    rw [Task.nesting, Matcher.nesting_sequence]
    exact ih within.sequence
  | choice _ ih =>
    rw [Task.nesting, Matcher.nesting_choice]
    exact ih within.choice
  | malformed body =>
    obtain ⟨_, body'⟩ := nested.wellFormed _ (within _ (List.mem_singleton.2 rfl))
    cases body.symm.trans body'
  | entered body _ ih =>
    have known := within _ (List.mem_singleton.2 rfl)
    exact Nat.lt_of_le_of_lt (ih (within.body body))
      (Nesting.bound_lt (nested.atEnd _ known _ body) (nested.ahead _ known _ body) _)
  | noPartLeft | noBranchLeft | roundsOver _ => exact Nat.zero_le _
  | partHalted _ _ ih | partFailed _ _ ih =>
    exact Nat.le_trans (ih within.part) (Nesting.bound_le_next _)
  | @partSucceeded _ _ rest _ _ _ _ _ _ verdict first succeeds _ ih ihOthers =>
    have moved := (first.covers (Cursor.le_refl _)).le_rest verdict succeeds
    refine Nat.max_le.2 ⟨Nat.le_trans (ih within.part) (Nesting.bound_le_next _), ?_⟩
    refine Nat.le_trans (ihOthers within.parts) ?_
    rcases Cursor.lt_or_eq_of_le moved with further | stays
    · exact Nesting.bound_le_next_of_lt (Cursor.remaining_lt further)
    · rw [stays]
      exact Nesting.bound_le_next_of_nullable (first.nullable (Cursor.le_refl _) succeeds stays) _
  | branchHalted _ _ ih | branchTaken _ _ ih =>
    exact Nat.le_trans (ih within.branch)
      (Nesting.bound_mono (Nat.le_max_left _ _) (Nat.le_max_left _ _) _)
  | branchFailed _ _ _ ih ihOthers =>
    exact Nat.max_le.2 ⟨
      Nat.le_trans (ih within.branch)
        (Nesting.bound_mono (Nat.le_max_left _ _) (Nat.le_max_left _ _) _),
      Nat.le_trans (ihOthers within.branches)
        (Nesting.bound_mono (Nat.le_max_right _ _) (Nat.le_max_right _ _) _)⟩
  | roundHalted more _ _ ih | roundMalformed more _ _ _ ih | roundRefused more _ _ _ ih
  | roundStuck more _ _ _ ih =>
    exact Nat.le_trans (ih within) (Nesting.bound_le_rounds (Cursor.remaining_pos more))
  | @roundGained _ _ rest _ _ _ _ _ verdict more first succeeds gained _ ih ihOthers =>
    have moved := (first.covers (Cursor.le_refl _)).le_rest verdict succeeds
    have further : rest < verdict.rest := ⟨moved.1, Nat.lt_of_le_of_ne moved.2 (Ne.symm gained)⟩
    exact Nat.max_le.2
      ⟨Nat.le_trans (ih within) (Nesting.bound_le_rounds (Cursor.remaining_pos more)),
        Nat.le_trans (ihOthers within)
          (Nesting.bound_rounds_mono (Nat.le_of_lt (Cursor.remaining_lt further)))⟩

end OrderedChoice
