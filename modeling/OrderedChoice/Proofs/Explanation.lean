import OrderedChoice.Proofs.Coverage

/-!
# What a failure says

A failure says how far it got and what it expected there. What it expected is never left out
(`Evaluates.explains`), and it never claims to have got further than statements were consumed, nor
did anything get past the end of the input (`Evaluates.reaches`).
-/

namespace OrderedChoice

variable {g : Grammar} {scope : Scope g} {host : String} {task : Task} {origin input : Cursor}
    {cost : Cost}
  {answer : Answer}

/-! ## What was expected -/

theorem Verdict.expected_ne_empty (expected : String) : "Expected " ++ expected ≠ "" := by
  rw [Ne, String.append_eq_empty_iff]
  exact fun both => absurd both.1 (by decide)

/-- A structure that is refused says what was expected, also if its body had succeeded. -/
theorem Verdict.description_refuseEmpty_ne_empty {verdict : Verdict} {target : Structure}
    (stated : verdict.failed = true → verdict.description ≠ "")
    (failed : (verdict.refuseEmpty target).failed = true) :
    (verdict.refuseEmpty target).description ≠ "" := by
  unfold refuseEmpty at failed ⊢
  split
  · show (if verdict.description.isEmpty then _ else _) ≠ ""
    split
    · exact expected_ne_empty _
    · rename_i nonempty
      exact fun empty => nonempty (String.isEmpty_iff.2 empty)
  · rename_i kept
    rw [if_neg kept] at failed
    exact stated failed

theorem choiceFailure_description_ne_empty {all : List Matcher} {description : String}
    {progress : Nat} (stated : 0 < progress → description ≠ "") :
    (choiceFailure all input description progress).description ≠ "" := by
  unfold choiceFailure
  split
  · exact Verdict.expected_ne_empty _
  · exact stated (by omega)

/-- A choice under way that has a best failure knows what that failure said. -/
def Task.Explained : Task → Prop
  | firstOf _ _ description progress => 0 < progress → description ≠ ""
  | _ => True

/-- A failure says what was expected. -/
theorem Evaluates.explains {verdict : Verdict} (h : Evaluates g scope host task input cost answer)
    (explained : task.Explained) (fails : answer.Fails verdict) : verdict.description ≠ "" := by
  induction h generalizing verdict with
  | @matched _ _ input _ _ _ =>
    rw [Answer.Fails, Verdict.success_of_le input.le_next] at fails
    obtain ⟨⟨⟩, ⟨⟩⟩ := fails
  | mismatched _ =>
    obtain ⟨⟨⟩, _⟩ := fails
    exact Verdict.expected_ne_empty _
  | @sub _ _ actual _ _ answer _ _ _ ih =>
    obtain ⟨outcome, failed⟩ := fails
    cases inner : answer.outcome with
    | error _ =>
      rw [Answer.enclosed_of_error inner] at outcome
      cases outcome
    | ok verdict' =>
      rw [Answer.enclosed_of_ok inner] at outcome
      obtain rfl := Except.ok.inj outcome
      exact Verdict.description_refuseEmpty_ne_empty
        (fun failed' => ih trivial ⟨inner, failed'⟩) failed
  | @optional _ _ _ _ answer _ _ =>
    obtain ⟨outcome, failed⟩ := fails
    cases inner : answer.outcome with
    | error _ =>
      rw [Answer.forgiven_of_error inner, inner] at outcome
      cases outcome
    | ok verdict' =>
      rw [Answer.forgiven_of_ok inner] at outcome
      obtain rfl := Except.ok.inj outcome
      cases failed
  | star _ ih | sequence _ ih | entered _ _ ih => exact ih trivial fails
  | choice _ ih => exact ih (fun pos => absurd pos (Nat.lt_irrefl 0)) fails
  | malformed _ | partHalted _ _ _ | branchHalted _ _ _ | roundHalted _ _ _ _
  | roundStuck _ _ _ _ _ =>
    cases fails.1
  | noPartLeft | roundsOver _ | roundRefused _ _ _ _ _ =>
    obtain ⟨_, _, rfl⟩ := Verdict.success_eq_ok_iff.1 fails.1
    cases fails.2
  | partFailed _ fails' ih | roundMalformed _ _ fails' _ ih =>
    obtain ⟨⟨⟩, _⟩ := fails
    have said := ih trivial fails'
    exact said
  | partSucceeded _ _ _ _ ihOthers | roundGained _ _ _ _ _ _ ihOthers =>
    exact ihOthers trivial fails
  | noBranchLeft =>
    obtain ⟨⟨⟩, _⟩ := fails
    exact choiceFailure_description_ne_empty explained
  | branchTaken _ succeeds _ => exact absurd fails succeeds.not_fails
  | branchFailed _ fails' _ ih ihOthers =>
    refine ihOthers ?_ fails
    show 0 < (if _ then _ else _) → (if _ then _ else _) ≠ ""
    split
    · exact fun _ => ih trivial fails'
    · exact explained

/-! ## How far it got -/

/-- The progress that a choice under way has noted. -/
def Task.noted : Task → Nat
  | firstOf _ _ _ progress => progress
  | _ => 0

/-- An answer to a task that began at `origin`, is evaluated at `input` and has noted some progress,
tells of nothing beyond what was consumed. -/
structure Answer.Reaches (answer : Answer) (origin input : Cursor) (noted : Nat) : Prop where
  progress : ∀ verdict, answer.outcome = .ok verdict →
    origin.position + verdict.progress ≤ max (origin.position + noted)
    (max input.position answer.reach)
  rest :
      ∀ verdict, answer.Succeeds verdict → verdict.rest.position ≤ max input.position answer.reach
  within : answer.reach ≤ input.slice.size

namespace Answer

theorem reaches_halt {halt : Halt} {reach noted : Nat} (within : reach ≤ input.slice.size) :
    (bare (.error halt) reach).Reaches origin input noted :=
  ⟨nofun, fun _ succeeds => (nomatch succeeds.1), within⟩

theorem reaches_failure {description : String} {progress reach noted : Nat} {start : Cursor}
    (far : origin.position + progress ≤ max (origin.position + noted) (max input.position reach))
    (within : reach ≤ input.slice.size) :
    (bare (.ok (.failure start description progress)) reach).Reaches origin input noted where
  progress := by
    rintro _ ⟨⟩
    exact far
  rest := by rintro _ ⟨⟨⟩, ⟨⟩⟩
  within := within

theorem reaches_success {reach : Nat} (le : origin ≤ input) (within : reach ≤ input.slice.size) :
    (bare (Verdict.success origin input) reach).Reaches origin input 0 := by
  rw [Verdict.success_of_le le]
  refine ⟨?_, ?_, within⟩
  · rintro _ ⟨⟩
    exact Nat.le_max_left _ _
  · rintro _ ⟨⟨⟩, _⟩
    exact Nat.le_max_left _ _

/-- What is evaluated where an earlier part has ended reaches as far for the whole. -/
theorem Reaches.after {middle : Cursor} {nodes : List Node} {reach noted noted' : Nat}
    (h : answer.Reaches origin middle noted') (same : middle.slice = input.slice)
    (far : middle.position ≤ max input.position reach)
    (more : origin.position + noted' ≤ max (origin.position + noted) (max input.position reach))
    (within : reach ≤ input.slice.size) :
    (answer.after nodes reach).Reaches origin input noted where
  progress verdict ok := by
    have := h.progress verdict ok
    rw [reach_after]
    omega
  rest verdict succeeds := by
    have := h.rest verdict succeeds
    rw [reach_after]
    omega
  within := by
    have := h.within
    rw [same] at this
    exact Nat.max_le.2 ⟨within, this⟩

theorem Reaches.enclosed (h : answer.Reaches input input 0) (target : Structure) :
    (answer.enclosed target).Reaches input input 0 := by
  cases outcome : answer.outcome with
  | error halt =>
    rw [enclosed_of_error outcome]
    exact reaches_halt h.within
  | ok verdict =>
    rw [enclosed_of_ok outcome]
    have progress : (verdict.refuseEmpty target).progress = verdict.progress := by
      unfold Verdict.refuseEmpty
      split <;> rfl
    refine ⟨?_, ?_, h.within⟩
    · rintro _ ⟨⟩
      rw [progress]
      exact h.progress verdict outcome
    · rintro _ ⟨⟨⟩, succeeds⟩
      have failed : verdict.failed = false := by
        rw [← Bool.not_eq_true]
        intro failed
        rw [Verdict.refuseEmpty_of_failed failed, failed] at succeeds
        cases succeeds
      rw [Verdict.rest_refuseEmpty]
      exact h.rest verdict ⟨outcome, failed⟩

/-- A forgiven failure keeps its progress, and stays where it began. -/
theorem Reaches.forgiven (h : answer.Reaches input input 0)
    (failure : ∀ verdict, answer.Fails verdict → verdict.rest = input) :
    answer.forgiven.Reaches input input 0 := by
  cases outcome : answer.outcome with
  | error halt => rwa [forgiven_of_error outcome]
  | ok verdict =>
    rw [forgiven_of_ok outcome]
    refine ⟨?_, ?_, h.within⟩
    · rintro _ ⟨⟩
      exact h.progress verdict outcome
    · rintro _ ⟨⟨⟩, _⟩
      cases failed : verdict.failed with
      | false => exact h.rest verdict ⟨outcome, failed⟩
      | true =>
        show verdict.rest.position ≤ _
        rw [failure verdict ⟨outcome, failed⟩]
        exact Nat.le_max_left _ _

end Answer

/-- No answer tells of more than was consumed, and nothing was consumed beyond the end. -/
theorem Evaluates.reaches (h : Evaluates g scope host task input cost answer)
    (le : task.origin input ≤ input) : answer.Reaches (task.origin input) input task.noted := by
  induction h with
  | @matched _ _ input _ found _ =>
    have next := Cursor.position_next (Cursor.isAtEnd_eq_false found)
    have within : input.position + 1 ≤ input.slice.size := next ▸ input.next.position_le
    rw [Verdict.success_of_le input.le_next]
    refine ⟨?_, ?_, within⟩
    · rintro _ ⟨⟩
      exact Nat.le_max_left _ _
    · rintro _ ⟨⟨⟩, _⟩
      exact Nat.le_trans (Nat.le_of_eq next) (Nat.le_max_right _ _)
  | mismatched _ => exact Answer.reaches_failure (Nat.le_max_left _ _) (Nat.zero_le _)
  | sub _ _ _ ih => exact (ih le).enclosed _
  | optional tried ih =>
    exact (ih le).forgiven fun verdict fails => ((tried.covers le).failure verdict fails).2
  | star _ ih | sequence _ ih | choice _ ih | entered _ _ ih => exact ih le
  | malformed _ => exact Answer.reaches_halt (Nat.zero_le _)
  | noPartLeft => exact Answer.reaches_success le (Nat.zero_le _)
  | partHalted _ _ ih | roundHalted _ _ _ ih | roundStuck _ _ _ _ ih =>
    exact Answer.reaches_halt (ih (Cursor.le_refl _)).within
  | partFailed _ _ ih =>
    have le := le.2
    refine Answer.reaches_failure ?_ (ih (Cursor.le_refl _)).within
    simp only [Task.origin] at le ⊢
    omega
  | partSucceeded first succeeds _ ih ihOthers =>
    have moved := (first.covers (Cursor.le_refl _)).le_rest _ succeeds
    have reaches := ih (Cursor.le_refl _)
    exact (ihOthers (Cursor.le_trans le moved)).after moved.1.symm (reaches.rest _ succeeds)
      (Nat.le_max_left _ _)
      reaches.within
  | noBranchLeft =>
    unfold choiceFailure
    split
    · exact Answer.reaches_failure (Nat.le_trans (Nat.le_add_right _ _) (Nat.le_max_left _ _))
        (Nat.zero_le _)
    · exact Answer.reaches_failure (Nat.le_max_left _ _) (Nat.zero_le _)
  | branchHalted _ _ ih => exact Answer.reaches_halt (ih le).within
  | branchTaken _ succeeds ih =>
    have reaches := ih le
    refine ⟨fun verdict ok => ?_, reaches.rest, reaches.within⟩
    have := reaches.progress verdict ok
    simp only [Task.noted, Task.origin] at this ⊢
    omega
  | branchFailed _ fails _ ih ihOthers =>
    have reaches := ih le
    have first := reaches.progress _ fails.1
    refine (ihOthers le).after rfl (Nat.le_max_left _ _) ?_ reaches.within
    simp only [Task.noted, Task.origin] at first ⊢
    split <;> omega
  | roundsOver _ => exact Answer.reaches_success le (Nat.zero_le _)
  | roundMalformed _ _ fails _ ih =>
    have reaches := ih (Cursor.le_refl _)
    have first := reaches.progress _ fails.1
    have le := le.2
    refine Answer.reaches_failure ?_ reaches.within
    simp only [Task.noted, Task.origin] at first le ⊢
    omega
  | roundRefused _ _ _ _ ih => exact Answer.reaches_success le (ih (Cursor.le_refl _)).within
  | roundGained _ first succeeds _ _ ih ihOthers =>
    have moved := (first.covers (Cursor.le_refl _)).le_rest _ succeeds
    have reaches := ih (Cursor.le_refl _)
    exact (ihOthers (Cursor.le_trans le moved)).after moved.1.symm (reaches.rest _ succeeds)
      (Nat.le_max_left _ _)
      reaches.within

end OrderedChoice
