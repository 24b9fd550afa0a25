import OrderedChoice.Matcher.Nullable
import OrderedChoice.Proofs.Coverage

/-!
# Why an evaluation halts

An evaluation that succeeds where it stands is one of a nullable task (`Evaluates.nullable`), so
only a repetition with a nullable body can get stuck. An evaluation halts because of such a
repetition or because of a malformed body, and for no other reason (`Evaluates.halt_cause`).
-/

namespace OrderedChoice

theorem Cursor.le_antisymm {a b : Cursor} (hab : a ≤ b) (hba : b ≤ a) : a = b :=
  eq_of_position_eq hab.1 (Nat.le_antisymm hab.2 hba.2)

variable {g : Grammar} {scope : Scope g} {host : String} {task : Task} {input : Cursor}
    {cost : Cost}
  {answer : Answer} {verdict : Verdict} {halt : Halt}

/-! ## Success on nothing -/

/-- Whether the task can succeed where it stands. -/
def Task.nullable : Task → Bool
  | whole m => m.nullable
  | inTurn _ parts => parts.all Matcher.nullable
  | firstOf _ branches _ _ => branches.any Matcher.nullable
  | rounds _ _ => true
  | inside _ => true

/-- A structure that succeeds has moved. -/
theorem Answer.rest_enclosed_ne {target : Structure} (h : answer.Covers input input)
    (succeeds : (answer.enclosed target).Succeeds verdict) : verdict.rest ≠ input := by
  intro stays
  have covers := h.enclosed target
  have leaves := covers.leaves verdict succeeds
  have filled := covers.filled
  rw [stays, Slice.window_self] at leaves
  cases outcome : answer.outcome with
  | error halt =>
    rw [enclosed_of_error outcome] at succeeds
    cases succeeds.1
  | ok inner =>
    rw [enclosed_of_ok outcome] at succeeds leaves filled
    obtain rfl := Except.ok.inj succeeds.1
    simp only [succeeds.2, Bool.false_eq_true, if_false] at leaves filled
    rw [Node.leavesOf, Node.leaves, Node.leavesOf, List.append_nil] at leaves
    exact filled.1.1 leaves

theorem Answer.not_succeeds_failed {failure : Verdict} (failed : failure.failed = true)
    (reach : Nat) : ¬ (bare (.ok failure) reach).Succeeds verdict := by
  rintro ⟨⟨⟩, succeeds⟩
  rw [failed] at succeeds
  cases succeeds

theorem Answer.not_succeeds_halt (reach : Nat) : ¬ (bare (.error halt) reach).Succeeds verdict := by
  rintro ⟨⟨⟩, _⟩

/-- A task that succeeds where it stands is nullable. -/
theorem Evaluates.nullable (h : Evaluates g scope host task input cost answer)
    (le : task.origin input ≤ input) (succeeds : answer.Succeeds verdict)
    (stays : verdict.rest = input) : task.nullable = true := by
  induction h generalizing verdict with
  | @matched _ _ input _ found _ =>
    rw [Answer.Succeeds, Verdict.success_of_le input.le_next] at succeeds
    obtain ⟨⟨⟩, _⟩ := succeeds
    have moved := Cursor.position_next (Cursor.isAtEnd_eq_false found)
    rw [show input.next = input from stays] at moved
    omega
  | mismatched _ => exact absurd succeeds (Answer.not_succeeds_failed rfl _)
  | sub _ _ entered _ => exact absurd stays (Answer.rest_enclosed_ne (entered.covers le) succeeds)
  | optional _ _ => rfl
  | star _ _ => rfl
  | sequence _ ih => exact (Matcher.nullable_sequence _ _ _).trans (ih le succeeds stays)
  | choice _ ih => exact (Matcher.nullable_choice _ _ _).trans (ih le succeeds stays)
  | malformed _ | entered _ _ _ => rfl
  | noPartLeft => rfl
  | partHalted _ _ _ => exact absurd succeeds (Answer.not_succeeds_halt _)
  | partFailed _ _ _ => exact absurd succeeds (Answer.not_succeeds_failed rfl _)
  | partSucceeded first succeeds' others ih ihOthers =>
    have moved := (first.covers (Cursor.le_refl _)).le_rest _ succeeds'
    have le' := Cursor.le_trans le moved
    have back := (others.covers le').le_rest verdict succeeds
    rw [stays] at back
    have same := Cursor.le_antisymm back moved
    exact List.all_cons.trans (Bool.and_eq_true_iff.2
      ⟨ih (Cursor.le_refl _) succeeds' same, ihOthers le' succeeds (stays.trans same.symm)⟩)
  | noBranchLeft =>
    exact absurd succeeds (Answer.not_succeeds_failed (failed_choiceFailure _ _ _ _) _)
  | branchHalted _ _ _ => exact absurd succeeds (Answer.not_succeeds_halt _)
  | branchTaken _ _ ih =>
    exact List.any_cons.trans (Bool.or_eq_true_iff.2 (.inl (ih le succeeds stays)))
  | branchFailed _ _ _ _ ihOthers =>
    exact List.any_cons.trans (Bool.or_eq_true_iff.2 (.inr (ihOthers le succeeds stays)))
  | roundsOver _ | roundHalted _ _ _ _ | roundMalformed _ _ _ _ _ | roundRefused _ _ _ _ _
  | roundStuck _ _ _ _ _
  | roundGained _ _ _ _ _ _ _ => rfl

/-! ## Causes of halts -/

/-- Whether a repetition in the task has a nullable body. -/
def Task.hasNullableRepetition : Task → Bool
  | whole m => m.hasNullableRepetition
  | inTurn _ parts => parts.any Matcher.hasNullableRepetition
  | firstOf _ branches _ _ => branches.any Matcher.hasNullableRepetition
  | rounds _ body => body.nullable || body.hasNullableRepetition
  | inside _ => false

/-- What the structures of the scope, or a repetition of the task itself, have to do with the
halt. -/
def Halt.Caused (scope : Scope g) (repeats : Bool) : Halt → Prop
  | malformedBody fault => ∃ s ∈ scope, g.body s = .error fault
  | emptyRepetition _ =>
    repeats = true ∨ ∃ s ∈ scope, ∃ m, g.body s = .ok m ∧ m.hasNullableRepetition = true
  | _ => False

theorem Halt.Caused.mono {a b : Bool} (h : halt.Caused scope a) (le : a = true → b = true) :
    halt.Caused scope b := by
  cases halt with
  | emptyRepetition name => exact Or.imp_left le h
  | malformedBody fault => exact h
  | fuelExhausted | recursionLimitExceeded | cursorOutOfRange => exact h

/-- What a body causes, its structure causes. -/
theorem Halt.Caused.inside {s : Structure} {m : Matcher} (known : s ∈ scope)
    (body : g.body s = .ok m) (h : halt.Caused scope m.hasNullableRepetition) :
    halt.Caused scope false := by
  cases halt with
  | emptyRepetition name =>
    rcases h with repeats | elsewhere
    · exact .inr ⟨s, known, m, body, repeats⟩
    · exact .inr elsewhere
  | malformedBody fault => exact h
  | fuelExhausted | recursionLimitExceeded | cursorOutOfRange => exact h

theorem Verdict.success_ne_error {start rest : Cursor} (le : start ≤ rest) :
    success start rest ≠ .error halt := by
  rw [success_of_le le]
  exact nofun

theorem Answer.outcome_forgiven_eq_error_iff :
    answer.forgiven.outcome = .error halt ↔ answer.outcome = .error halt := by
  cases outcome : answer.outcome with
  | error _ => rw [forgiven_of_error outcome, outcome]
  | ok _ =>
    rw [forgiven_of_ok outcome]
    exact ⟨nofun, nofun⟩

theorem Answer.outcome_enclosed_eq_error_iff {target : Structure} :
    (answer.enclosed target).outcome = .error halt ↔ answer.outcome = .error halt := by
  cases outcome : answer.outcome with
  | error _ =>
    rw [enclosed_of_error outcome]
    rfl
  | ok _ =>
    rw [enclosed_of_ok outcome]
    exact ⟨nofun, nofun⟩

/-- An evaluation halts because of a malformed body or of a repetition whose body is nullable. -/
theorem Evaluates.halt_cause (h : Evaluates g scope host task input cost answer)
    (within : task.Within scope) (le : task.origin input ≤ input)
    (halted : answer.outcome = .error halt) : halt.Caused scope task.hasNullableRepetition := by
  induction h with
  | @matched _ _ input _ _ _ => exact absurd halted (Verdict.success_ne_error input.le_next)
  | mismatched _ => cases halted
  | sub known _ _ ih =>
    exact ih (Task.within_inside known) le (Answer.outcome_enclosed_eq_error_iff.1 halted)
  | optional _ ih => exact ih within le (Answer.outcome_forgiven_eq_error_iff.1 halted)
  | star _ ih => exact ih within le halted
  | sequence _ ih =>
    refine (ih within.sequence le halted).mono fun repeats => ?_
    exact (Matcher.hasNullableRepetition_sequence _ _ _).trans repeats
  | choice _ ih =>
    refine (ih within.choice le halted).mono fun repeats => ?_
    exact (Matcher.hasNullableRepetition_choice _ _ _).trans repeats
  | malformed body =>
    obtain rfl := Except.error.inj halted
    exact ⟨_, within _ (List.mem_singleton.2 rfl), body⟩
  | entered body _ ih =>
    exact (ih (within.body body) le halted).inside (within _ (List.mem_singleton.2 rfl)) body
  | noPartLeft => exact absurd halted (Verdict.success_ne_error le)
  | partHalted _ isError ih =>
    refine (ih within.part (Cursor.le_refl _) (isError.trans halted)).mono fun repeats => ?_
    exact List.any_cons.trans (Bool.or_eq_true_iff.2 (.inl repeats))
  | partFailed _ _ _ => cases halted
  | partSucceeded first succeeds _ _ ihOthers =>
    have moved := (first.covers (Cursor.le_refl _)).le_rest _ succeeds
    refine (ihOthers within.parts (Cursor.le_trans le moved) halted).mono fun repeats => ?_
    exact List.any_cons.trans (Bool.or_eq_true_iff.2 (.inr repeats))
  | noBranchLeft => cases halted
  | branchHalted _ isError ih =>
    refine (ih within.branch le (isError.trans halted)).mono fun repeats => ?_
    exact List.any_cons.trans (Bool.or_eq_true_iff.2 (.inl repeats))
  | branchTaken _ succeeds _ => exact absurd halted (succeeds.ne_error _)
  | branchFailed _ _ _ _ ihOthers =>
    refine (ihOthers within.branches le halted).mono fun repeats => ?_
    exact List.any_cons.trans (Bool.or_eq_true_iff.2 (.inr repeats))
  | roundsOver _ => exact absurd halted (Verdict.success_ne_error le)
  | roundHalted _ _ isError ih =>
    refine (ih within (Cursor.le_refl _) (isError.trans halted)).mono fun repeats => ?_
    exact Bool.or_eq_true_iff.2 (.inr repeats)
  | roundMalformed _ _ _ _ _ => cases halted
  | roundRefused _ _ _ _ _ => exact absurd halted (Verdict.success_ne_error le)
  | roundStuck _ first succeeds stuck _ =>
    obtain rfl := Except.error.inj halted
    have moved := (first.covers (Cursor.le_refl _)).le_rest _ succeeds
    have stays := Cursor.eq_of_position_eq moved.1.symm stuck
    exact .inl (Bool.or_eq_true_iff.2 (.inl (first.nullable (Cursor.le_refl _) succeeds stays)))
  | roundGained _ first succeeds _ _ _ ihOthers =>
    have moved := (first.covers (Cursor.le_refl _)).le_rest _ succeeds
    exact ihOthers within (Cursor.le_trans le moved) halted

end OrderedChoice
