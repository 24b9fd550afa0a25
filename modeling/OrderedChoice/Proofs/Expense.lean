import OrderedChoice.Proofs.Nesting
import OrderedChoice.Proofs.Tariff
import OrderedChoice.Proofs.Validity
import OrderedChoice.Proofs.WellNested

/-!
# What an ABAP program takes

The sample grammar is matched in linear fuel and linear depth, whether or not a program is well
nested (`parse_of_linear_limits`). Both bounds are certified block by block. A statement that opens
a block opens at most three structures: the block, its body and a normal statement in the body. And
64 invocations pay for a statement, most of which try it as one kind of normal statement after the
other.
-/

namespace OrderedChoice.Abap

/-- A table of the blocks, as one of structures. -/
def ofBlocks {α : Type} (table : Block → α) (s : Structure) : α :=
  table ((Block.all.find? (·.target = s)).getD .any)

theorem ofBlocks_target {α : Type} (table : Block → α) (block : Block) :
    ofBlocks table block.target = table block := by
  cases block <;> rfl

/-! ## Depth -/

/-- How many structures a block opens, itself included. -/
def Block.nesting : Block → Nesting
  | .any | .body => ⟨1, 4⟩
  | .normal => ⟨2, 3⟩
  | _ => ⟨1, 2⟩

theorem Block.nesting_matcher_lt (block : Block) :
    (block.matcher.nesting 3 (ofBlocks nesting)).atEnd < block.nesting.atEnd ∧
    (block.matcher.nesting 3 (ofBlocks nesting)).ahead < block.nesting.ahead := by
  cases block <;> decide +kernel

theorem nested_registered : Nested registered 3 (ofBlocks Block.nesting) where
  wellFormed s known := by
    obtain ⟨block, -, body⟩ := exists_body_of_mem known
    exact ⟨block.matcher, body⟩
  atEnd := forall_registered fun block => by
    rw [ofBlocks_target]
    exact block.nesting_matcher_lt.1
  ahead := forall_registered fun block => by
    rw [ofBlocks_target]
    exact block.nesting_matcher_lt.2

theorem Block.leading_lt (block : Block) :
    ∀ s ∈ block.matcher.leading, (ofBlocks nesting s).ahead < block.nesting.ahead := by
  cases block <;> decide +kernel

theorem Block.nesting_ahead_lt (block : Block) : block.nesting.ahead < 5 := by
  cases block <;> decide

/-- What a block enters first nests less deep than the block. -/
theorem ranked_registered : Ranked registered (fun s => (ofBlocks Block.nesting s).ahead) 5 where
  wellFormed := nested_registered.wellFormed
  bounded s known := by
    obtain ⟨block, rfl, -⟩ := exists_body_of_mem known
    rw [ofBlocks_target]
    exact block.nesting_ahead_lt
  descends := forall_registered fun block t leads => by
    rw [ofBlocks_target]
    exact block.leading_lt t leads

/-! ## Fuel -/

/-- What a block is charged beside 64 invocations for each statement. The blocks that are opened by
a statement leave some of these over for what is tried before them. -/
def Block.tariff : Block → Tariff
  | .any => ⟨34, 38, 38⟩
  | .body => ⟨24, 18, 18⟩
  | .normal => ⟨22, -7, -7⟩
  | .classDefinition | .classImplementation => ⟨2, -54, -54⟩
  | _ => ⟨2, -27, -27⟩

theorem Block.tariff_matcher_le (block : Block) :
    block.matcher.tariff 64 (ofBlocks tariff) ≤ block.tariff := by
  cases block <;> decide +kernel

theorem Block.steady_matcher (block : Block) :
    block.matcher.steady 64 (ofBlocks tariff) = true := by
  cases block <;> decide +kernel

theorem priced_registered : Priced registered 64 (ofBlocks Block.tariff) where
  le := forall_registered fun block => by
    rw [ofBlocks_target]
    exact block.tariff_matcher_le
  steady := forall_registered Block.steady_matcher

/-! ## Programs -/

/-- A program has an answer, at an expense that is linear in its statements. -/
theorem exists_evaluation (statements : Array Statement) :
    ∃ cost answer verdict,
      Evaluates grammar registered root.name (.inside root) (.start ⟨0, statements⟩) cost answer ∧
    answer.outcome = .ok verdict ∧ cost.fuel ≤ 64 * (statements.size + 1) ∧
    cost.depth ≤ 3 * statements.size + 1 := by
  obtain ⟨cost, answer, verdict, evaluated, outcome, -⟩ :=
    ranked_registered.answers root_mem_registered not_caused statements
  have within := Task.within_inside root_mem_registered
  refine ⟨cost, answer, verdict, evaluated, outcome, ?_, ?_⟩
  · have keeps : Block.any.tariff.Keeps 64 (.start ⟨0, statements⟩) cost.fuel answer :=
      evaluated.keepsTo fits_grammar registered_named priced_registered within rfl rfl
    have reached : answer.reach ≤ statements.size := (evaluated.reaches (Cursor.le_refl _)).within
    have charge : Block.any.tariff.busy answer.succeeded ≤ 38 := Tariff.busy_le_max _ _
    by_cases tried : 0 < answer.reach
    · have paid := keeps.busy tried
      rw [Cursor.position_start] at paid
      omega
    · have idle : cost.fuel ≤ 34 := keeps.idle (Nat.le_of_not_lt tried)
      omega
  · have depth : cost.depth ≤ Block.any.nesting.bound 3 statements.size :=
      evaluated.depth_le registered_named nested_registered within
    refine Nat.le_trans depth ?_
    cases statements.size with
    | zero => exact Nat.le_refl _
    | succ left =>
      show 3 * left + 4 ≤ _
      omega

variable {τ : Type} [Tracer τ]

/-- Every list of statements is parsed to an answer, well nested or not, if the limits grow with it:
by three nested structures and 64 matchers for each statement. -/
theorem parse_of_linear_limits {limits : Limits} {statements : Array Statement}
    (room : 3 * statements.size + 1 ≤ limits.recursion)
    (fed : 64 * (statements.size + 1) ≤ limits.fuel) (tracer : τ) :
    ∃ result, (parseWith grammar root limits tracer statements).1 = .ok result := by
  obtain ⟨cost, answer, verdict, evaluated, outcome, fuel, depth⟩ := exists_evaluation statements
  have settles := matchRoot_settles registered_named root_mem_registered evaluated tracer
    (Nat.le_trans fuel fed) (Nat.le_trans depth room)
  rw [settles.parse, Answer.parse, outcome]
  exact ⟨_, rfl⟩

/-- Conditions that are never closed. -/
def openConditions : Array Statement :=
  statementsOfKinds ["If", "If", "Data", "Else", "If"]

/-- Five statements of open conditions are parsed to an answer with the least limits that this asks
for. -/
theorem parse_of_linear_limits_openConditions :
    (∃ result, (parseWith grammar root ⟨384, 16, false⟩ () openConditions).1 = .ok result) ∧
      ∃ result, (parseWith grammar root ⟨384, 16, true⟩ () openConditions).1 = .ok result :=
  ⟨parse_of_linear_limits (by decide +kernel) (by decide +kernel) (),
    parse_of_linear_limits (by decide +kernel) (by decide +kernel) ()⟩

end OrderedChoice.Abap
