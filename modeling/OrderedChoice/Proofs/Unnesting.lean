import OrderedChoice.Proofs.Flattening
import OrderedChoice.Proofs.Selection
import OrderedChoice.Proofs.Silence

/-!
# A choice in a choice

A choice that is a part of another one may be replaced by its parts: whatever the nested choice
answers, the flat one answers too, with the same report if all branches are refused. It saves the
fuel for the inner choice (`run_choice_unnested`).
-/

namespace OrderedChoice

variable {τ : Type} {g : Grammar}

/-! ## Names -/

/-- A group of texts may be joined beforehand. -/
theorem intercalate_group (separator : String) {texts : List String} (nonempty : texts ≠ [])
    (before after : List String) :
    separator.intercalate (before ++ separator.intercalate texts :: after) =
      separator.intercalate (before ++ (texts ++ after)) := by
  induction before with
  | nil =>
    cases after with
    | nil => rw [List.nil_append, List.nil_append, List.append_nil, String.intercalate_singleton]
    | cons text after =>
      rw [List.nil_append, List.nil_append, String.intercalate_cons_cons,
        String.intercalate_append_of_ne_nil nonempty (List.cons_ne_nil text after)]
  | cons text before ih =>
    have more : before ++ separator.intercalate texts :: after ≠ [] := by simp
    have more' : before ++ (texts ++ after) ≠ [] := by simp [nonempty]
    rw [List.cons_append, List.cons_append, String.intercalate_cons_of_ne_nil more,
      String.intercalate_cons_of_ne_nil more', ih]

/-- A choice is called by the names of its parts, in a group or not. -/
theorem Matcher.expectedNames_unnested {xs ys zs : List Matcher} {inner : Matcher}
    (isInner : ofChoice ys = .ok inner) :
    " or ".intercalate ((xs ++ inner :: zs).map expectedName) =
      " or ".intercalate ((xs ++ (ys ++ zs)).map expectedName) := by
  obtain ⟨a, b, rest, rfl, rfl⟩ := ofChoice_eq_ok_iff.1 isInner
  rw [List.map_append, List.map_cons, expectedName_choice, List.map_append, List.map_append]
  exact intercalate_group " or " (List.cons_ne_nil _ _) _ _

/-! ## Reports -/

/-- What is noted of failures after some others is noted of them alone, if it got further than
these. -/
theorem noted_eq_ite (verdicts : List Verdict) :
    ∀ {description description' : String} {progress progress' : Nat},
    progress' ≤ progress → noted description progress verdicts =
      if progress < (noted description' progress' verdicts).2 then
      noted description' progress' verdicts
      else (description, progress) := by
  induction verdicts with
  | nil => exact fun le => (if_neg (Nat.not_lt.2 le)).symm
  | cons verdict verdicts ih =>
    intro description description' progress progress' le
    by_cases further : progress < verdict.progress
    · rw [noted_of_lt further, noted_of_lt (Nat.lt_of_le_of_lt le further),
        if_pos (Nat.lt_of_lt_of_le further (le_noted verdicts _ _))]
    · rw [noted_of_le (Nat.not_lt.1 further)]
      by_cases further' : progress' < verdict.progress
      · rw [noted_of_lt further']
        exact ih (Nat.not_lt.1 further)
      · rw [noted_of_le (Nat.not_lt.1 further')]
        exact ih le

/-- The failure of a choice is noted as the failures of its parts are. -/
theorem noted_choiceFailure (all : List Matcher) (input : Cursor) (verdicts : List Verdict)
    (description : String) (progress : Nat) :
    noted description progress
      [choiceFailure all input (noted "" 0 verdicts).1 (noted "" 0 verdicts).2] =
      noted description progress verdicts := by
  rw [noted_eq_ite verdicts (Nat.zero_le progress)]
  by_cases further : progress < (noted "" 0 verdicts).2
  · rw [if_pos further, noted_of_lt ((progress_choiceFailure _ _ _ _).symm ▸ further), noted,
      progress_choiceFailure, choiceFailure, if_neg (by omega)]
    rfl
  · rw [if_neg further, noted_of_le ((progress_choiceFailure _ _ _ _).symm ▸ Nat.not_lt.1 further)]
    rfl

/-! ## Choices -/

section Choices

variable {input : Cursor} {xs ys zs all all' : List Matcher} {inner nested : Matcher}
    {verdict : Verdict}

/-- Of all its branches a choice uses the names only, and only joined. -/
theorem matchChoice_renamed [Tracer τ] {run : Runner τ}
    (names : " or ".intercalate (all.map Matcher.expectedName) =
      " or ".intercalate (all'.map Matcher.expectedName)) (branches : List Matcher) :
    ∀ (description : String) (progress : Nat) (site : Site τ),
      matchChoice run all input branches description progress site =
        matchChoice run all' input branches description progress site := by
  induction branches with
  | nil =>
    intro description progress site
    rw [matchChoice, matchChoice, choiceFailure, choiceFailure, names]
  | cons branch branches ih =>
    intro description progress site
    rw [matchChoice_andThen, matchChoice_andThen]
    refine congrArg _ (funext fun verdict => funext fun after => ?_)
    rw [ih]

/-- If a choice answers, its branches do so with nothing paid for it, and leave the fuel that it
took. -/
theorem matchChoice_unpaid [Tracer τ] {site after : Site τ}
    (isInner : Matcher.ofChoice ys = .ok inner)
    (ok : run g inner input site = (.ok verdict, after)) :
    matchChoice (run g) ys input ys "" 0 site = (.ok verdict, after.grant 1) := by
  obtain ⟨fuel, fed, ok⟩ := (run_eq_ok_iff_matchChoice isInner).1 ok
  have unpaid : (site.withFuel fuel).grant 1 = site := by
    show site.withFuel (fuel + 1) = site
    rw [← fed]
    rfl
  have granted :=
    matchChoice_granted (run_outlasts g 1 (fuel + 1)) ys ys "" 0 (Nat.le_refl _) verdict after ok
  rwa [unpaid] at granted

/-- While nobody watches, the parts of a choice may stand in its place. They leave the fuel that it
would have taken. -/
theorem matchChoice_unnested (isInner : Matcher.ofChoice ys = .ok inner)
    (names : " or ".intercalate (all.map Matcher.expectedName) =
      " or ".intercalate (all'.map Matcher.expectedName))
    {description : String} {progress : Nat} {site after : Site Unit}
    (ok : matchChoice (run g) all input (xs ++ inner :: zs) description progress site =
      (.ok verdict, after)) :
    ∃ spared, matchChoice (run g) all' input (xs ++ (ys ++ zs)) description progress site =
      (.ok verdict, after.grant spared) := by
  rcases matchChoice_append_eq_ok ok with selected | ⟨refused, middle, inVain, ok⟩
  · exact ⟨0, matchChoice_selected selected all' (ys ++ zs) description progress⟩
  rw [matchChoice_andThen] at ok
  obtain ⟨tried, left, ran, ok⟩ := Result.andThen_eq_ok ok
  refine ⟨1, ?_⟩
  rw [matchChoice_refused inVain]
  rcases matchChoice_eq_ok_iff.1
    (matchChoice_unpaid isInner ran) with selected | ⟨refused', inVain', rfl⟩
  · rw [if_neg (ne_true_of_eq_false selected.succeeds)] at ok
    obtain ⟨⟨⟩, rfl⟩ := Prod.mk.inj ok
    exact matchChoice_selected selected all' zs _ _
  · -- What the inner choice reports is noted as its parts would be, so that both go on alike.
    rw [if_pos (failed_choiceFailure _ _ _ _)] at ok
    have same := noted_choiceFailure ys input refused' (noted description progress refused).1
      (noted description progress refused).2
    rw [matchChoice_refused inVain', ← same, ← matchChoice_renamed names]
    exact matchChoice_granted
      (run_outlasts g 1 (left.context.fuel + 1)) all zs _ _ (Nat.le_refl _) verdict after ok

/-- A nested choice is as good as a flat one: what it answers, with the nodes that it grows and all
that it notes in the context, the flat one answers too, and with no more fuel. -/
theorem run_choice_unnested [Tracer τ] {site after : Site τ}
    (isInner : Matcher.ofChoice ys = .ok inner)
    (isNested : Matcher.ofChoice (xs ++ inner :: zs) = .ok nested)
    (ok : run g nested input site = (.ok verdict, after)) :
    ∃ flat after', Matcher.ofChoice (xs ++ ys ++ zs) = .ok flat ∧
    run g flat input site = (.ok verdict, after') ∧
    after'.node = after.node ∧ after'.context.furthest = after.context.furthest ∧
    after'.context.memos = after.context.memos ∧ after.context.fuel ≤ after'.context.fuel := by
  obtain ⟨flat, isFlat⟩ : ∃ flat, Matcher.ofChoice (xs ++ (ys ++ zs)) = .ok flat := by
    obtain ⟨a, b, rest, rfl, _⟩ := Matcher.ofChoice_eq_ok_iff.1 isInner
    obtain _ | ⟨x, _ | ⟨x', xs⟩⟩ := xs <;> exact ⟨_, rfl⟩
  -- The inner choice tells the tracer of a step back of its own, so the two are compared with
  -- nobody watching.
  have quiet : run g nested input site.silent = (.ok verdict, after.silent) := by
    rw [← run_silent, ok]
    rfl
  obtain ⟨fuel, fed, quiet⟩ := (run_eq_ok_iff_matchChoice isNested).1 quiet
  obtain ⟨spared, flatter⟩ :=
    matchChoice_unnested isInner (Matcher.expectedNames_unnested isInner) quiet
  have flatter : run g flat input site.silent = (.ok verdict, after.silent.grant spared) :=
    (run_eq_ok_iff_matchChoice isFlat).2 ⟨fuel, fed, flatter⟩
  rw [← run_silent] at flatter
  generalize ran : run g flat input site = result at flatter
  obtain ⟨outcome, after'⟩ := result
  obtain ⟨same, left⟩ := Prod.mk.inj flatter
  obtain rfl : outcome = .ok verdict := same
  have context : after'.silent.context = (after.silent.grant spared).context :=
    congrArg Site.context left
  have node : after'.silent.node = (after.silent.grant spared).node := congrArg Site.node left
  have furthest : after'.silent.context.furthest = (after.silent.grant spared).context.furthest :=
    congrArg Context.furthest context
  have memos : after'.silent.context.memos = (after.silent.grant spared).context.memos :=
    congrArg Context.memos context
  have fuel : after'.context.fuel = after.context.fuel + spared := congrArg Context.fuel context
  exact ⟨flat, after', List.append_assoc xs ys zs ▸ isFlat, ran, node, furthest, memos,
    fuel ▸ Nat.le_add_right _ _⟩

/-- A choice between short blocks, among other branches, is refused with the same report as its
parts are. -/
theorem run_choice_unnested_shortBlocks :
    ∃ inner nested flat verdict after after', Matcher.ofChoice shortBlocks = .ok inner ∧
      Matcher.ofChoice ([.statement ⟨"do"⟩] ++ inner :: [.sub block]) = .ok nested ∧
      Matcher.ofChoice ([.statement ⟨"do"⟩] ++ shortBlocks ++ [.sub block]) = .ok flat ∧
      run blocks nested (.start reopened) ⟨smallContext, .empty block⟩ = (.ok verdict, after) ∧
      run blocks flat (.start reopened) ⟨smallContext, .empty block⟩ = (.ok verdict, after') ∧
      verdict.failed = true ∧ verdict.progress = 1 ∧
      verdict.description = "Expected " ++ Kind.expectedName ⟨"do"⟩ ∧ after'.node = after.node ∧
      after.context.fuel ≤ after'.context.fuel := by
  obtain ⟨inner, isInner⟩ : ∃ inner, Matcher.ofChoice shortBlocks = .ok inner := ⟨_, rfl⟩
  obtain ⟨nested, isNested⟩ : ∃ nested,
      Matcher.ofChoice ([.statement ⟨"do"⟩] ++ inner :: [.sub block]) = .ok nested := ⟨_, rfl⟩
  obtain ⟨verdict, after, ok, failed, progress, description⟩ : ∃ verdict after,
      run blocks nested (.start reopened) ⟨smallContext, .empty block⟩ = (.ok verdict, after) ∧
      verdict.failed = true ∧ verdict.progress = 1 ∧
      verdict.description = "Expected " ++ Kind.expectedName ⟨"do"⟩ := by
    obtain rfl := Except.ok.inj isInner
    obtain rfl := Except.ok.inj isNested
    exact ⟨_, _, rfl, rfl, rfl, rfl⟩
  obtain ⟨flat, after', isFlat, ok', node, _, _, fuel⟩ := run_choice_unnested isInner isNested ok
  exact ⟨inner, nested, flat, verdict, after, after', isInner, isNested, isFlat, ok, ok', failed,
    progress, description, node, fuel⟩

end Choices

end OrderedChoice
