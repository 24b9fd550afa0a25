import OrderedChoice.Proofs.Allowance
import OrderedChoice.Proofs.Entries
import OrderedChoice.Proofs.Growth
import OrderedChoice.Proofs.Restoring

/-!
# Which branch a choice takes

A choice runs its branches one after the other on the same input, each in the context that the one
before has left. The first that succeeds answers for it. If all are refused, the choice reports the
first of those that got furthest, or names all of them if none got anywhere (`run_choice_selects`).
-/

namespace OrderedChoice

variable {τ : Type} [Tracer τ] {g : Grammar}

/-! ## What is noted of failures -/

/-- The description and the progress that a choice has noted after failures, where it had noted the
given ones before them: a failure is noted if it got further than all that came before. -/
def noted (description : String) (progress : Nat) : List Verdict → String × Nat
  | [] => (description, progress)
  | verdict :: verdicts =>
    noted (if progress < verdict.progress then verdict.description else description)
      (if progress < verdict.progress then verdict.progress else progress) verdicts

section Noted

variable {description : String} {progress : Nat} {verdict : Verdict} {verdicts : List Verdict}

theorem noted_of_lt (further : progress < verdict.progress) :
    noted description progress (verdict :: verdicts) =
      noted verdict.description verdict.progress verdicts := by
  rw [noted, if_pos further, if_pos further]

theorem noted_of_le (le : verdict.progress ≤ progress) :
    noted description progress (verdict :: verdicts) = noted description progress verdicts := by
  rw [noted, if_neg (Nat.not_lt.2 le), if_neg (Nat.not_lt.2 le)]

theorem le_noted (verdicts : List Verdict) : ∀ (description : String) (progress : Nat),
    progress ≤ (noted description progress verdicts).2 := by
  induction verdicts with
  | nil => exact fun _ _ => Nat.le_refl _
  | cons verdict verdicts ih =>
    intro description progress
    by_cases further : progress < verdict.progress
    · rw [noted_of_lt further]
      exact Nat.le_trans (Nat.le_of_lt further) (ih _ _)
    · rw [noted_of_le (Nat.not_lt.1 further)]
      exact ih _ _

/-- No failure got further than what is noted. -/
theorem progress_le_noted : ∀ (description : String) (progress : Nat), ∀ verdict ∈ verdicts,
    verdict.progress ≤ (noted description progress verdicts).2 := by
  induction verdicts with
  | nil => exact fun _ _ => nofun
  | cons first verdicts ih =>
    intro description progress verdict member
    by_cases further : progress < first.progress
    · rw [noted_of_lt further]
      rcases List.mem_cons.1 member with rfl | member
      · exact le_noted verdicts _ _
      · exact ih _ _ verdict member
    · rw [noted_of_le (Nat.not_lt.1 further)]
      rcases List.mem_cons.1 member with rfl | member
      · exact Nat.le_trans (Nat.not_lt.1 further) (le_noted verdicts _ _)
      · exact ih _ _ verdict member

/-- What is noted was noted before, or is of the first failure that got as far as any. -/
theorem noted_eq_or (verdicts : List Verdict) : ∀ (description : String) (progress : Nat),
    noted description progress verdicts = (description, progress) ∨
      progress < (noted description progress verdicts).2 ∧
        ∃ first,
          verdicts.find? (·.progress = (noted description progress verdicts).2) = some first ∧
          first.description = (noted description progress verdicts).1 := by
  induction verdicts with
  | nil => exact fun _ _ => .inl rfl
  | cons verdict verdicts ih =>
    intro description progress
    by_cases further : progress < verdict.progress
    · rw [noted_of_lt further]
      right
      rcases ih verdict.description verdict.progress with same | ⟨beyond, first, found, described⟩
      · rw [same]
        exact ⟨further, verdict, List.find?_cons_of_pos (decide_eq_true rfl), rfl⟩
      · refine ⟨Nat.lt_trans further beyond, first, ?_, described⟩
        rw [List.find?_cons_of_neg (by simpa using Nat.ne_of_lt beyond), found]
    · rw [noted_of_le (Nat.not_lt.1 further)]
      refine (ih description progress).imp_right fun ⟨beyond, first, found, described⟩ => ?_
      have short : verdict.progress ≠ (noted description progress verdicts).2 := by omega
      refine ⟨beyond, first, ?_, described⟩
      rw [List.find?_cons_of_neg (by simpa using short), found]

end Noted

/-- What a choice answers that was refused by all of its branches: it got as far as the furthest of
them, and says what the first of these says, or names the branches if none got anywhere. -/
structure Verdict.SumsUp (verdict : Verdict) (branches : List Matcher) (input : Cursor)
    (refused : List Verdict) : Prop where
  failed : verdict.failed = true
  matched : verdict.matched = #[]
  rest : verdict.rest = input
  furthest : (refused.map Verdict.progress).max? = some verdict.progress
  first : 0 < verdict.progress →
    (refused.find? (·.progress = verdict.progress)).map Verdict.description =
      some verdict.description
  nowhere : verdict.progress = 0 →
    verdict.description = "Expected " ++ " or ".intercalate (branches.map Matcher.expectedName)

namespace Verdict.SumsUp

variable {verdict other : Verdict} {branches : List Matcher} {input : Cursor}
    {refused : List Verdict}

theorem eq (h : verdict.SumsUp branches input refused) (h' : other.SumsUp branches input refused) :
    verdict = other := by
  have progress : verdict.progress = other.progress :=
    Option.some.inj (h.furthest.symm.trans h'.furthest)
  have description : verdict.description = other.description := by
    by_cases nowhere : verdict.progress = 0
    · rw [h.nowhere nowhere, h'.nowhere (progress ▸ nowhere)]
    · have first := h.first (Nat.pos_of_ne_zero nowhere)
      have first' := h'.first (Nat.pos_of_ne_zero (progress ▸ nowhere))
      rw [← progress] at first'
      exact Option.some.inj (first.symm.trans first')
  obtain ⟨_, _, _, _, _⟩ := verdict
  obtain ⟨_, _, _, _, _⟩ := other
  simp only [Verdict.mk.injEq]
  exact ⟨h.matched.trans h'.matched.symm, h.rest.trans h'.rest.symm, h.failed.trans h'.failed.symm,
    description, progress⟩

end Verdict.SumsUp

theorem progress_choiceFailure (all : List Matcher) (input : Cursor) (description : String)
    (progress : Nat) : (choiceFailure all input description progress).progress = progress := by
  unfold choiceFailure
  split
  · rename_i nowhere
    exact nowhere.symm
  · rfl

/-- What a choice has noted in the end sums up its branches. -/
theorem choiceFailure_sumsUp (branches : List Matcher) (input : Cursor) {refused : List Verdict}
    (nonempty : refused ≠ []) :
    (choiceFailure branches input (noted "" 0 refused).1 (noted "" 0 refused).2).SumsUp
      branches input refused := by
  have shape : ∀ description progress,
      (choiceFailure branches input description progress).matched = #[] ∧
      (choiceFailure branches input description progress).rest = input := by
    intro description progress
    unfold choiceFailure
    split <;> exact ⟨rfl, rfl⟩
  refine ⟨failed_choiceFailure _ _ _ _, (shape _ _).1, (shape _ _).2, ?_, ?_, ?_⟩
  · rw [progress_choiceFailure, List.max?_eq_some_iff]
    refine ⟨?_, List.forall_mem_map.2 (progress_le_noted "" 0)⟩
    rcases noted_eq_or refused "" 0 with same | ⟨_, first, found, _⟩
    · obtain ⟨verdict, member⟩ := List.exists_mem_of_ne_nil refused nonempty
      have nowhere : verdict.progress = 0 := by
        have le := progress_le_noted "" 0 verdict member
        rw [same] at le
        exact Nat.eq_zero_of_le_zero le
      rw [same]
      exact List.mem_map.2 ⟨verdict, member, nowhere⟩
    · exact List.mem_map.2
        ⟨first, List.mem_of_find?_eq_some found, by simpa using List.find?_some found⟩
  · rw [progress_choiceFailure]
    intro somewhere
    rcases noted_eq_or refused "" 0 with same | ⟨_, first, found, described⟩
    · rw [same] at somewhere
      cases somewhere
    · rw [found, choiceFailure, if_neg (Nat.ne_of_gt somewhere)]
      exact congrArg Option.some described
  · rw [progress_choiceFailure]
    intro nowhere
    rw [choiceFailure, if_pos nowhere]
    rfl

/-! ## Branches in turn -/

/-- The branches are refused on the input, one after the other, each in the context that the one
before has left. The verdicts are what they answer. -/
inductive Refused (run : Runner τ) (input : Cursor) :
    List Matcher → List Verdict → Site τ → Site τ → Prop where
  | none (site : Site τ) : Refused run input [] [] site site
  | next {branch : Matcher} {branches : List Matcher} {verdict : Verdict} {verdicts : List Verdict}
      {site middle after : Site τ} (ran : run branch input site = (.ok verdict, middle))
      (failed : verdict.failed = true)
      (others : Refused run input branches verdicts
        (middle.record (.backtracked input.position)) after) :
      Refused run input (branch :: branches) (verdict :: verdicts) site after

/-- One of the branches succeeds with the verdict, and those before it are refused. -/
def Selected (run : Runner τ) (input : Cursor) (branches : List Matcher) (site : Site τ)
    (verdict : Verdict) (after : Site τ) : Prop :=
  ∃ before branch later refused middle, branches = before ++ branch :: later ∧
    Refused run input before refused site middle ∧ run branch input middle = (.ok verdict, after) ∧
    verdict.failed = false

section Branches

variable {run : Runner τ} {input : Cursor} {branches : List Matcher} {verdict : Verdict}
    {verdicts : List Verdict}
  {site middle after : Site τ}

theorem Selected.succeeds (selected : Selected run input branches site verdict after) :
    verdict.failed = false := by
  obtain ⟨_, _, _, _, _, _, _, _, succeeds⟩ := selected
  exact succeeds

theorem Refused.length_eq (refused : Refused run input branches verdicts site after) :
    verdicts.length = branches.length := by
  induction refused with
  | none => rfl
  | next _ _ _ ih => rw [List.length_cons, List.length_cons, ih]

/-- Branches that are refused leave nothing behind. -/
theorem Refused.restores (refused : Refused run input branches verdicts site after)
    (restoring : Restoring run) (bare : site.context.Bare) :
    after.context.Bare ∧ after.node = site.node := by
  induction refused with
  | none => exact ⟨bare, rfl⟩
  | @next branch _ verdict _ site middle _ ran failed _ ih =>
    have restored := restoring branch input site bare
    rw [ran] at restored
    obtain ⟨bare, same⟩ := ih restored.bare
    exact ⟨bare, same.trans (restored.failure verdict rfl failed)⟩

/-- Behind branches that are refused, a choice goes on with what it has noted of them. -/
theorem matchChoice_refused (refused : Refused run input branches verdicts site middle)
    (all others : List Matcher) :
    ∀ (description : String) (progress : Nat),
      matchChoice run all input (branches ++ others) description progress site =
        matchChoice run all input others (noted description progress verdicts).1
          (noted description progress verdicts).2 middle := by
  induction refused with
  | none => exact fun _ _ => rfl
  | next ran failed _ ih =>
    intro description progress
    rw [List.cons_append, matchChoice_andThen, ran]
    show (if _ then _ else _) = _
    rw [if_pos failed, ih]
    rfl

/-- Whatever was noted before and whatever branches are left, a choice takes a branch that
succeeds. -/
theorem matchChoice_selected (selected : Selected run input branches site verdict after)
    (all others : List Matcher) (description : String) (progress : Nat) :
    matchChoice run all input (branches ++ others) description progress site =
      (.ok verdict, after) := by
  obtain ⟨before, branch, later, refused, middle, rfl, inVain, ran, succeeds⟩ := selected
  rw [List.append_assoc, List.cons_append, matchChoice_refused inVain, matchChoice_andThen, ran]
  exact if_neg (ne_true_of_eq_false succeeds)

/-- A choice that answers has taken one of its first branches, or these are refused and it goes
on. -/
theorem matchChoice_append_eq_ok {all others : List Matcher} :
    ∀ {description : String} {progress : Nat} {site : Site τ},
    matchChoice run all input (branches ++ others) description progress site =
      (.ok verdict, after) →
    Selected run input branches site verdict after ∨
    ∃ refused middle, Refused run input branches refused site middle ∧
      matchChoice run all input others (noted description progress refused).1
        (noted description progress refused).2 middle = (.ok verdict, after) := by
  induction branches with
  | nil => exact fun ok => .inr ⟨[], _, .none _, ok⟩
  | cons branch branches ih =>
    intro description progress site ok
    rw [List.cons_append, matchChoice_andThen] at ok
    obtain ⟨first, middle, ran, ok⟩ := Result.andThen_eq_ok ok
    cases failed : first.failed with
    | false =>
      rw [if_neg (ne_true_of_eq_false failed)] at ok
      obtain ⟨⟨⟩, rfl⟩ := Prod.mk.inj ok
      exact .inl ⟨[], branch, branches, [], site, rfl, .none site, ran, failed⟩
    | true =>
      rw [if_pos failed] at ok
      rcases ih ok with ⟨before, taken, later, refused, between, rfl, inVain,
        found⟩ | ⟨refused, between, inVain, rest⟩
      · exact .inl ⟨branch :: before, taken, later, first :: refused, between, rfl,
          .next ran failed inVain, found⟩
      · exact .inr ⟨first :: refused, between, .next ran failed inVain, rest⟩

/-- A choice answers by a branch that succeeds, or by the failures that it has noted. -/
theorem matchChoice_eq_ok_iff {all : List Matcher} {description : String} {progress : Nat} :
    matchChoice run all input branches description progress site = (.ok verdict, after) ↔
      Selected run input branches site verdict after ∨
      ∃ refused, Refused run input branches refused site after ∧
        verdict = choiceFailure all input (noted description progress refused).1
          (noted description progress refused).2 := by
  constructor
  · intro ok
    rw [← List.append_nil branches] at ok
    refine (matchChoice_append_eq_ok ok).imp_right fun ⟨refused, middle, inVain, ended⟩ => ?_
    obtain ⟨⟨⟩, rfl⟩ := Prod.mk.inj ended
    exact ⟨refused, inVain, rfl⟩
  · rintro (selected | ⟨refused, inVain, rfl⟩)
    · rw [← List.append_nil branches]
      exact matchChoice_selected selected all [] description progress
    · rw [← List.append_nil branches, matchChoice_refused inVain]
      rfl

end Branches

/-! ## Choices -/

section Choices

variable {parts : List Matcher} {m : Matcher} {input : Cursor} {verdict : Verdict}
    {site after : Site τ}

/-- A choice is paid for, and then runs its branches. -/
theorem run_eq_ok_iff_matchChoice (isChoice : Matcher.ofChoice parts = .ok m) :
    run g m input site = (.ok verdict, after) ↔ ∃ fuel, site.context.fuel = fuel + 1 ∧
      matchChoice (run g) parts input parts "" 0 (site.withFuel fuel) = (.ok verdict, after) := by
  obtain ⟨a, b, rest, rfl, rfl⟩ := Matcher.ofChoice_eq_ok_iff.1 isChoice
  constructor
  · intro ok
    obtain ⟨bound, fuel, same, fed, ok⟩ := runWithin_eq_ok ok
    have enough : (site.withFuel fuel).context.fuel + 0 ≤ bound := by
      show fuel + 0 ≤ bound
      omega
    exact ⟨fuel, fed,
      matchChoice_granted (runWithin_outlasts_run g bound) _ _ "" 0 enough verdict after ok⟩
  · rintro ⟨fuel, fed, ok⟩
    rw [run, fed, runWithin_succ fed]
    exact matchChoice_granted (run_outlasts_runWithin g fuel) _ _ "" 0
      (Nat.le_refl fuel) verdict after ok

/-- A choice has an answer exactly if it is paid for and one of two things comes of its branches,
which run in order on the same input, each in the context that the one before has left. Either one
of them succeeds and those before it are refused: then its verdict and its nodes are those of the
choice, and no branch after it is run. Or all are refused: then the choice grows no nodes, and sums
up what its branches answered. The context may be any that comes of runs, since they keep it bare,
whatever was run on whatever statements. -/
theorem run_choice_selects (isChoice : Matcher.ofChoice parts = .ok m) (bare : site.context.Bare) :
    run g m input site = (.ok verdict, after) ↔ ∃ fuel, site.context.fuel = fuel + 1 ∧
      ((∃ before branch later refused middle, parts = before ++ branch :: later ∧
          Refused (run g) input before refused (site.withFuel fuel) middle ∧
          middle.node = site.node ∧
          run g branch input middle = (.ok verdict, after) ∧ verdict.failed = false) ∨
        ∃ refused, Refused (run g) input parts refused (site.withFuel fuel) after ∧
        after.node = site.node ∧ verdict.SumsUp parts input refused) := by
  have nonempty {refused : List Verdict} {fuel : Nat}
      (inVain : Refused (run g) input parts refused (site.withFuel fuel) after) : refused ≠ [] := by
    obtain ⟨a, b, rest, rfl, _⟩ := Matcher.ofChoice_eq_ok_iff.1 isChoice
    exact List.ne_nil_of_length_eq_add_one inVain.length_eq
  have kept {branches : List Matcher} {refused : List Verdict} {fuel : Nat} {middle : Site τ}
      (inVain : Refused (run g) input branches refused (site.withFuel fuel) middle) :
        middle.node = site.node :=
    (inVain.restores (run_restores g) bare).2
  rw [run_eq_ok_iff_matchChoice isChoice]
  refine exists_congr fun fuel => and_congr_right fun fed => ?_
  rw [matchChoice_eq_ok_iff]
  refine or_congr ?_ ?_
  · constructor
    · rintro ⟨before, branch, later, refused, middle, same, inVain, found⟩
      exact ⟨before, branch, later, refused, middle, same, inVain, kept inVain, found⟩
    · rintro ⟨before, branch, later, refused, middle, same, inVain, _, found⟩
      exact ⟨before, branch, later, refused, middle, same, inVain, found⟩
  · constructor
    · rintro ⟨refused, inVain, rfl⟩
      exact ⟨refused, inVain, kept inVain, choiceFailure_sumsUp parts input (nonempty inVain)⟩
    · rintro ⟨refused, inVain, _, sum⟩
      exact ⟨refused, inVain, sum.eq (choiceFailure_sumsUp parts input (nonempty inVain))⟩

/-- A block of one statement, a block of none, and a statement outside of blocks. -/
def shortBlocks : List Matcher :=
  [.sequence (.statement ⟨"begin"⟩) (.statement ⟨"do"⟩) [.statement ⟨"end"⟩],
    .sequence (.statement ⟨"begin"⟩) (.statement ⟨"end"⟩) [], .statement ⟨"do"⟩]

/-- A block that is opened, and opened again. -/
def reopened : Slice :=
  ⟨0, statementsOfKinds ["begin", "begin"]⟩

/-- Two branches get as far as the second opening. The first of them is reported, and no node is
left. -/
theorem run_choice_selects_reopened :
    ∃ m verdict after refused, Matcher.ofChoice shortBlocks = .ok m ∧
      run blocks m (.start reopened) ⟨smallContext, .empty block⟩ = (.ok verdict, after) ∧
      Refused (run blocks) (.start reopened) shortBlocks refused
        (Site.withFuel ⟨smallContext, .empty block⟩ 29) after ∧ after.node = .empty block ∧
      verdict.SumsUp shortBlocks (.start reopened) refused ∧ verdict.progress = 1 ∧
      verdict.description = "Expected " ++ Kind.expectedName ⟨"do"⟩ := by
  obtain ⟨m, isChoice⟩ : ∃ m, Matcher.ofChoice shortBlocks = .ok m := ⟨_, rfl⟩
  obtain ⟨verdict, after, ok, failed, progress, description⟩ : ∃ verdict after,
      run blocks m (.start reopened) ⟨smallContext, .empty block⟩ = (.ok verdict, after) ∧
      verdict.failed = true ∧
      verdict.progress = 1 ∧ verdict.description = "Expected " ++ Kind.expectedName ⟨"do"⟩ := by
    obtain rfl := Except.ok.inj isChoice
    exact ⟨_, _, rfl, rfl, rfl, rfl⟩
  have bare : (⟨smallContext, .empty block⟩ : Site Unit).context.Bare := Context.bare_fresh _ _
  obtain ⟨fuel, fed, ⟨_, _, _, _, _, _, _, _, _, succeeds⟩ | ⟨refused, inVain, same, sum⟩⟩ :=
    (run_choice_selects isChoice bare).1 ok
  · cases failed.symm.trans succeeds
  · obtain rfl : 29 = fuel := Nat.succ.inj fed
    exact ⟨m, verdict, after, refused, isChoice, ok, inVain, same, sum, progress, description⟩

end Choices

end OrderedChoice
