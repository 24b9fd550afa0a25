import Mathlib.Data.List.Nodup
import OrderedChoice.Abap.Grammar
import OrderedChoice.Proofs.Completion
import OrderedChoice.Proofs.Halting
import OrderedChoice.Proofs.Reachability

/-!
# The blocks of the sample grammar

Blocks refer to blocks only and have names of their own, their bodies are well formed, and none of
them repeats something nullable. So a match of a block is halted by its limits or not at all
(`isCutOff_of_parse`).
-/

namespace OrderedChoice.Abap

theorem references_subset_registry (block : Block) :
    block.matcher.references ⊆ registry.structures := by
  cases block <;> decide +kernel

theorem exists_block_of_body {s : Structure} {m : Matcher} (h : grammar.body s = .ok m) :
    ∃ block, Block.all.find? (·.name = s.id) = some block ∧ m = block.matcher := by
  have rule : grammar.rule? s.id =
      (Block.all.find? (·.name = s.id)).map fun block => ⟨block.target, .ok block.matcher⟩ :=
      List.find?_map
  rw [Grammar.body, rule] at h
  cases found : Block.all.find? (·.name = s.id) with
  | none =>
    rw [found] at h
    cases h
  | some block =>
    rw [found] at h
    exact ⟨block, rfl, (Except.ok.inj h).symm⟩

/-- The blocks, as a scope: they refer to each other only. -/
def registered : Scope grammar where
  holds s := s ∈ registry.structures
  closed := by
    intro s t known member
    obtain ⟨block, _, rfl⟩ := List.mem_map.1 known
    rw [Grammar.successors_eq_of_body (body_target block)] at member
    exact references_subset_registry block member

theorem registered_named : registered.Named :=
  fun _ hs _ ht => List.inj_on_of_nodup_map registry.names_nodup hs ht

theorem root_mem_registered : root ∈ registered :=
  List.mem_cons_self

theorem mem_registered_of_get? {name : String} {s : Structure}
    (found : registry.get? name = some s) : s ∈ registered :=
  List.mem_of_find?_eq_some found

theorem mem_registered_of_reaches {s : Structure} (h : grammar.Reaches root s) :
    s ∈ registered := by
  induction h with
  | refl => exact root_mem_registered
  | step _ member ih => exact registered.closed ih member

theorem named_grammar : (Scope.below root : Scope grammar).Named :=
  fun s hs t ht =>
    registered_named s (mem_registered_of_reaches hs) t (mem_registered_of_reaches ht)

/-- Every registered structure is a block with its body. -/
theorem exists_body_of_mem {s : Structure} (known : s ∈ registered) :
    ∃ block : Block, s = block.target ∧ grammar.body s = .ok block.matcher := by
  obtain ⟨block, _, rfl⟩ := List.mem_map.1 known
  exact ⟨block, rfl, body_target block⟩

/-- What holds of every block and its body holds of every registered structure. -/
theorem forall_registered {P : Structure → Matcher → Prop}
    (h : ∀ block : Block, P block.target block.matcher) :
    ∀ s ∈ registered, ∀ m, grammar.body s = .ok m → P s m := by
  intro s known m body
  obtain ⟨block, rfl, body'⟩ := exists_body_of_mem known
  obtain rfl := Except.ok.inj (body'.symm.trans body)
  exact h block

theorem hasNullableRepetition_matcher (block : Block) :
    block.matcher.hasNullableRepetition = false := by
  cases block <;> rfl

/-- Nothing about the blocks halts a match. -/
theorem not_caused (halt : Halt) : ¬ halt.Caused registered false := by
  intro caused
  cases halt with
  | malformedBody fault =>
    obtain ⟨s, known, malformed⟩ := caused
    obtain ⟨block, _, body⟩ := exists_body_of_mem known
    cases malformed.symm.trans body
  | emptyRepetition name =>
    obtain ⟨⟨⟩⟩ | ⟨s, known, m, body, repeats⟩ := caused
    have consumes := forall_registered
      (P := fun _ m => m.hasNullableRepetition = false) hasNullableRepetition_matcher
    cases repeats.symm.trans (consumes s known m body)
  | fuelExhausted | recursionLimitExceeded | cursorOutOfRange => exact caused

/-- A parse from a block that is halted was cut off. -/
theorem isCutOff_of_parse {s : Structure} (known : s ∈ registered)
    {limits : Limits} {statements : Array Statement} {halt : Halt}
    (halted : parse grammar s limits statements = .error halt) : halt.isCutOff = true := by
  have matched := parseWith_eq_error_iff.1 halted
  rcases (matchRoot_accounts known limits () statements).settled with
    ⟨halt', isHalt, cut⟩ | ⟨cost, answer, evaluated, settles⟩
  · obtain rfl := Except.error.inj (matched.symm.trans isHalt)
    exact cut
  · have outcome := settles.outcome.symm.trans matched
    exact absurd (evaluated.halt_cause (Task.within_inside known) (Cursor.le_refl _) outcome)
      (not_caused halt)

end OrderedChoice.Abap
