import OrderedChoice.Proofs.Explanation
import OrderedChoice.Proofs.Prediction

/-!
# How far a predictive match tries

A match may consume statements that it gives back. In a predictive grammar it does so only for a
reason: it consumes nothing at all where the input does not begin as its words do
(`Evaluates.reach_le_input`), and where it succeeds it has consumed nothing beyond what it keeps,
unless the next statement is of a kind that a longer word goes on with (`Evaluates.reach_le_rest`).
Then whatever comes next consumes nothing, for it does not begin with such a kind. So of two matches
in a row one does not reach beyond the place where they meet (`Evaluates.meet`).
-/

namespace OrderedChoice

variable {g : Grammar} {scope : Scope g} {look : Lookahead} {host : String} {task : Task}
    {input : Cursor}
  {cost : Cost} {answer : Answer} {verdict : Verdict} {word : List Kind}

/-- A word avoids one of two lists that are apart. -/
theorem avoids_or_of_apart {a b : List Kind} (h : apart a b = true) (word : List Kind) :
    Avoids word a ∨ Avoids word b := by
  by_cases first : Avoids word a
  · exact .inl first
  · refine .inr fun kind head member => first fun kind' head' member' => ?_
    obtain rfl := Option.mem_unique head head'
    exact not_mem_of_apart h member' member

theorem Answer.exists_succeeds (h : answer.succeeded = true) :
    ∃ verdict, answer.Succeeds verdict := by
  unfold Answer.succeeded at h
  split at h
  · next verdict isOk => exact ⟨verdict, isOk, (Bool.not_eq_true' _).mp h⟩
  · cases h

theorem Answer.succeeded_of_error {halt : Halt} (h : answer.outcome = .error halt) :
    answer.succeeded = false := by
  rw [Answer.succeeded, h]

/-- Where a structure succeeds its body does, and ends there. -/
theorem Answer.Succeeds.of_enclosed {target : Structure}
    (h : (answer.enclosed target).Succeeds verdict) :
    ∃ inner, answer.Succeeds inner ∧ verdict.rest = inner.rest := by
  obtain ⟨inner, isOk, rfl⟩ := Answer.outcome_enclosed_eq_ok_iff.1 h.1
  cases failed : inner.failed with
  | false => exact ⟨inner, ⟨isOk, failed⟩, Verdict.rest_refuseEmpty _ _⟩
  | true =>
    have refused := h.2
    rw [Verdict.refuseEmpty_of_failed failed, failed] at refused
    cases refused

namespace Evaluates

/-- Where the input does not begin as the words of a task do, the task consumes nothing, not even in
vain. -/
theorem reach_le_input (fits : look.Fits g) (named : scope.Named)
    (h : Evaluates g scope host task input cost answer) (within : task.Within scope)
    (ahead : Avoids input.kinds (task.starts look)) : answer.reach ≤ input.position := by
  induction h with
  | matched found same =>
    rw [Cursor.kinds_of_first? found, same] at ahead
    exact absurd (List.mem_singleton.2 rfl) (ahead _ rfl)
  | mismatched _ => exact Nat.zero_le _
  | sub known name _ ih =>
    obtain rfl := named _ known _ within.mem name
    rw [Answer.reach_enclosed]
    exact ih (Task.within_inside known) ahead
  | optional _ ih =>
    rw [Answer.reach_forgiven]
    exact ih within ahead
  | star _ ih => exact ih within ahead
  | sequence _ ih =>
    rw [Task.starts, Matcher.starts_sequence] at ahead
    exact ih within.sequence ahead
  | choice _ ih =>
    rw [Task.starts, Matcher.starts_choice] at ahead
    exact ih within.choice ahead
  | malformed _ => exact Nat.zero_le _
  | entered body _ ih => exact ih (within.body body) (ahead.mono (fits.starts body))
  | noPartLeft => exact Nat.zero_le _
  | partHalted _ _ ih => exact ih within.part (ahead.mono (List.subset_append_left _ _))
  | partFailed _ _ ih => exact ih within.part (ahead.mono (List.subset_append_left _ _))
  | partSucceeded first succeeds _ ih ihOthers =>
    have ahead' := ahead.mono (List.subset_append_left _ _)
    obtain ⟨same, _⟩ := first.stays fits named within.part trivial ahead' succeeds.1
    -- the part has succeeded on nothing, so that the next one begins here
    have null : Matcher.nullable _ = true := first.nullable (Cursor.le_refl _) succeeds same
    rw [Task.starts, Matcher.startsInTurn, if_pos null, ← same] at ahead
    have others := ihOthers within.parts (ahead.mono (List.subset_append_right _ _))
    rw [same] at others
    exact Nat.max_le.2 ⟨ih within.part ahead', others⟩
  | noBranchLeft => exact Nat.zero_le _
  | branchHalted _ _ ih => exact ih within.branch (ahead.mono (List.subset_append_left _ _))
  | branchTaken _ _ ih => exact ih within.branch (ahead.mono (List.subset_append_left _ _))
  | branchFailed _ _ _ ih ihOthers =>
    exact Nat.max_le.2 ⟨ih within.branch (ahead.mono (List.subset_append_left _ _)),
      ihOthers within.branches (ahead.mono (List.subset_append_right _ _))⟩
  | roundsOver _ => exact Nat.zero_le _
  | roundHalted _ _ _ ih => exact ih within ahead
  | roundMalformed _ _ _ _ ih => exact ih within ahead
  | roundRefused _ _ _ _ ih => exact ih within ahead
  | roundStuck _ _ _ _ ih => exact ih within ahead
  | roundGained _ first succeeds gained _ _ _ =>
    obtain ⟨same, _⟩ := first.stays fits named within trivial ahead succeeds.1
    exact absurd (congrArg Cursor.position same) gained

/-- A task that consumes nothing and succeeds ends where it stands. -/
theorem rest_eq_of_reach_le (h : Evaluates g scope host task input cost answer)
    (le : task.origin input ≤ input) (idle : answer.reach ≤ input.position)
    (succeeds : answer.Succeeds verdict) : verdict.rest = input := by
  have moved := (h.covers le).le_rest verdict succeeds
  have reached := (h.reaches le).rest verdict succeeds
  exact Cursor.eq_of_position_eq moved.1.symm (Nat.le_antisymm (by omega) moved.2)

/-- Where a task succeeds, the input avoids kinds that the task does not begin with, if it does so
in case that the task stays. -/
theorem avoids_of_stays (fits : look.Fits g) (named : scope.Named)
    (h : Evaluates g scope host task input cost answer) (within : task.Within scope)
    (le : task.origin input ≤ input) (succeeds : answer.Succeeds verdict)
    {kinds : List Kind} (distinct : apart kinds (task.starts look) = true)
    (staying : verdict.rest = input → Avoids input.kinds kinds) : Avoids input.kinds kinds := by
  rcases avoids_or_of_apart distinct input.kinds with ahead | ahead
  · exact ahead
  · exact staying (h.rest_eq_of_reach_le le (h.reach_le_input fits named within ahead) succeeds)

/-- Where a branch has consumed something, no later branch succeeds, or consumes anything. -/
theorem branches_idle (fits : look.Fits g) (named : scope.Named)
    {branch : Matcher} {all branches : List Matcher}
    {description description' : String} {progress progress' : Nat} {cost' : Cost} {answer' : Answer}
    (predictive :
      (Task.firstOf all (branch :: branches) description' progress').predictive look = true)
    (within : (Task.firstOf all (branch :: branches) description' progress').Within scope)
    (first : Evaluates g scope host (.whole branch) input cost answer)
    (tried : input.position < answer.reach)
    (others :
      Evaluates g scope host (.firstOf all branches description progress) input cost' answer') :
    answer'.reach ≤ input.position ∧ answer'.succeeded = false := by
  obtain ⟨_, distinct, _, predictive'⟩ := Matcher.predictiveOfAny_cons_iff.1 predictive
  rcases avoids_or_of_apart distinct input.kinds with ahead | ahead
  · exact absurd (first.reach_le_input fits named within.branch ahead) (Nat.not_le_of_lt tried)
  · have idle := others.reach_le_input fits named within.branches ahead
    refine ⟨idle, Bool.eq_false_iff.2 fun succeeded => ?_⟩
    obtain ⟨verdict, succeeds⟩ := Answer.exists_succeeds succeeded
    have stays := others.rest_eq_of_reach_le (Cursor.le_refl _) idle succeeds
    have null := others.nullable (Cursor.le_refl _) succeeds stays
    rw [Task.nullable, Matcher.any_nullable_eq_false predictive'] at null
    cases null

/-- Where a predictive task succeeds and the input does not go on as a longer word would, the task
has consumed nothing in vain. -/
theorem reach_le_rest (fits : look.Fits g) (named : scope.Named)
    (h : Evaluates g scope host task input cost answer) (within : task.Within scope)
    (predictive : task.predictive look = true) (le : task.origin input ≤ input)
    (succeeds : answer.Succeeds verdict) (ahead : Avoids verdict.rest.kinds (task.continues look)) :
    answer.reach ≤ verdict.rest.position := by
  induction h generalizing verdict with
  | @matched _ _ input _ found _ =>
    obtain ⟨_, _, rfl⟩ := Verdict.success_eq_ok_iff.1 succeeds.1
    exact Nat.le_of_eq (Cursor.position_next (Cursor.isAtEnd_eq_false found)).symm
  | mismatched _ => exact Nat.zero_le _
  | sub known name _ ih =>
    obtain rfl := named _ known _ within.mem name
    obtain ⟨inner, succeeds', rest⟩ := succeeds.of_enclosed
    rw [Answer.reach_enclosed, rest]
    rw [rest] at ahead
    exact ih (Task.within_inside known) rfl le succeeds' ahead
  | @optional _ body input _ answer tried ih =>
    rw [Answer.reach_forgiven]
    obtain ⟨inner, isOk, rfl⟩ := Answer.outcome_forgiven_eq_ok_iff.1 succeeds.1
    cases failed : inner.failed with
    | false =>
      have tried : answer.reach ≤ inner.rest.position :=
        ih within predictive le ⟨isOk, failed⟩ (ahead.mono (List.subset_append_right _ _))
      exact tried
    | true =>
      -- the failure is forgiven where it began, and nothing begins there as the body does
      have stays : inner.rest = input := ((tried.covers le).failure inner ⟨isOk, failed⟩).2
      have ahead : Avoids inner.rest.kinds _ := ahead
      show answer.reach ≤ inner.rest.position
      rw [stays] at ahead ⊢
      exact tried.reach_le_input fits named within (ahead.mono (List.subset_append_left _ _))
  | star _ ih => exact ih within predictive le succeeds ahead
  | sequence _ ih =>
    rw [Task.predictive, Matcher.predictive_sequence] at predictive
    rw [Task.continues, Matcher.continues_sequence] at ahead
    exact ih within.sequence predictive le succeeds ahead
  | choice _ ih =>
    rw [Task.predictive, Matcher.predictive_choice] at predictive
    rw [Task.continues, Matcher.continues_choice] at ahead
    exact ih within.choice predictive le succeeds ahead
  | malformed _ => exact Nat.zero_le _
  | entered body _ ih =>
    exact ih (within.body body) (fits.predictive body) le succeeds
      (ahead.mono (fits.continues body))
  | noPartLeft => exact Nat.zero_le _
  | partHalted _ _ _ => exact absurd succeeds (Answer.not_succeeds_halt _)
  | partFailed _ _ _ => exact absurd succeeds (Answer.not_succeeds_failed rfl _)
  | @partSucceeded _ _ rest part parts _ _ answer answer' verdict' first firstSucceeds others
      ih ihOthers =>
    have succeeds : answer'.Succeeds verdict := succeeds
    obtain ⟨distinct, predictivePart, predictiveParts⟩ :=
      Matcher.predictiveInTurn_cons_iff.1 predictive
    have le' :=
      Cursor.le_trans le ((first.covers (Cursor.le_refl _)).le_rest verdict' firstSucceeds)
    have moved := (others.covers le').le_rest verdict succeeds
    have triedOthers : answer'.reach ≤ verdict.rest.position :=
      ihOthers within.parts predictiveParts le' succeeds (ahead.mono (List.subset_append_right _ _))
    have aheadPart :=
      others.avoids_of_stays fits named within.parts le' succeeds distinct fun stays => by
      -- the others succeed on nothing, so that what continues the part continues the whole
      have null : Matcher.allNullable parts = true :=
        (Matcher.allNullable_eq_all parts).trans (others.nullable le' succeeds stays)
      rw [Task.continues, Matcher.continuesInTurn, if_pos null, stays] at ahead
      exact ahead.mono (List.subset_append_left _ _)
    have tried := ih within.part predictivePart (Cursor.le_refl _) firstSucceeds aheadPart
    exact Nat.max_le.2 ⟨Nat.le_trans tried moved.2, triedOthers⟩
  | noBranchLeft => exact Nat.zero_le _
  | branchHalted _ _ _ => exact absurd succeeds (Answer.not_succeeds_halt _)
  | branchTaken _ _ ih =>
    obtain ⟨_, _, predictiveBranch, _⟩ := Matcher.predictiveOfAny_cons_iff.1 predictive
    exact ih within.branch predictiveBranch le succeeds (ahead.mono (List.subset_append_left _ _))
  | @branchFailed _ input _ _ _ _ _ _ _ answer answer' _ first _ others _ ihOthers =>
    have succeeds : answer'.Succeeds verdict := succeeds
    obtain ⟨_, _, _, predictiveOthers⟩ := Matcher.predictiveOfAny_cons_iff.1 predictive
    have moved := (others.covers le).le_rest verdict succeeds
    have tried : answer.reach ≤ input.position := by
      refine Nat.le_of_not_lt fun tried => ?_
      obtain ⟨_, fails⟩ := first.branches_idle fits named predictive within tried others
      cases fails.symm.trans succeeds.succeeded
    have triedOthers := ihOthers within.branches predictiveOthers le succeeds
      (ahead.mono (List.subset_append_right _ _))
    exact Nat.max_le.2 ⟨Nat.le_trans tried moved.2, triedOthers⟩
  | roundsOver _ => exact Nat.zero_le _
  | roundHalted _ _ _ _ => exact absurd succeeds (Answer.not_succeeds_halt _)
  | roundMalformed _ _ _ _ _ => exact absurd succeeds (Answer.not_succeeds_failed rfl _)
  | roundRefused _ first _ _ _ =>
    obtain ⟨_, _, rfl⟩ := Verdict.success_eq_ok_iff.1 succeeds.1
    have tried := first.reach_le_input fits named within (ahead.mono (List.subset_append_left _ _))
    exact tried
  | roundStuck _ _ _ _ _ => exact absurd succeeds (Answer.not_succeeds_halt _)
  | @roundGained _ _ rest body _ _ answer answer' verdict' _ first firstSucceeds gained others
      ih ihOthers =>
    have succeeds : answer'.Succeeds verdict := succeeds
    obtain ⟨distinct, predictiveBody⟩ := Bool.and_eq_true_iff.1 predictive
    have le' :=
      Cursor.le_trans le ((first.covers (Cursor.le_refl _)).le_rest verdict' firstSucceeds)
    have moved := (others.covers le').le_rest verdict succeeds
    have triedOthers : answer'.reach ≤ verdict.rest.position :=
      ihOthers within predictive le' succeeds ahead
    have aheadBody := others.avoids_of_stays fits named within le' succeeds distinct fun stays => by
      rw [stays] at ahead
      exact ahead.mono (List.subset_append_right _ _)
    have tried := ih within predictiveBody (Cursor.le_refl _) firstSucceeds aheadBody
    exact Nat.max_le.2 ⟨Nat.le_trans tried moved.2, triedOthers⟩

/-- Where a matcher succeeds and a task comes next that begins with other kinds than those that
continue the matcher, the matcher has consumed nothing beyond, or the task consumes nothing. -/
theorem meet (fits : look.Fits g) (named : scope.Named) {m : Matcher} {cost' : Cost}
    {answer' : Answer} (first : Evaluates g scope host (.whole m) input cost answer)
    (within : (Task.whole m).Within scope)
    (predictive : m.predictive look = true) (succeeds : answer.Succeeds verdict)
    (others : Evaluates g scope host task verdict.rest cost' answer') (within' : task.Within scope)
    (distinct : apart (m.continues look) (task.starts look) = true) :
    answer.reach ≤ verdict.rest.position ∨ answer'.reach ≤ verdict.rest.position :=
  (avoids_or_of_apart distinct verdict.rest.kinds).imp
    (first.reach_le_rest fits named within predictive (Cursor.le_refl _) succeeds)
    (others.reach_le_input fits named within')

end Evaluates

end OrderedChoice
