import OrderedChoice.Proofs.Running

/-!
# What every run keeps

Whatever context a matcher is run in, also one that remembers what no evaluation gave: the limits
and the depth stay, fuel is only spent, the high-water mark only rises, and a matcher without fuel
does nothing (`runWithin_metered`). A combinator whose part halts, halts.
-/

namespace OrderedChoice

variable {τ : Type} {g : Grammar}

/-! ## Going on from a part -/

/-- The result of a part, and what is done next if it has a verdict. -/
def Result.andThen (result : Result τ) (next : Verdict → Site τ → Result τ) : Result τ :=
  match result with
  | (.error halt, site) => (.error halt, site)
  | (.ok verdict, site) => next verdict site

/-- The whole goes on from the result of a part, and halts where the part halts. -/
structure Result.Continues (part whole : Result τ) : Prop where
  follows : part.2.context.Follows whole.2.context
  halts : ∀ halt, part.1 = .error halt → whole.1 = .error halt

theorem Result.continues_andThen {result : Result τ} {next : Verdict → Site τ → Result τ}
    (later : ∀ verdict after, result = (.ok verdict, after) →
      after.context.Follows (next verdict after).2.context) :
    result.Continues (result.andThen next) := by
  obtain ⟨halt | verdict, after⟩ := result
  · exact ⟨.refl _, fun _ => id⟩
  · exact ⟨later verdict after rfl, nofun⟩

/-- The runner lives on fuel: without any it does nothing, and each answer takes some. -/
structure Metered (run : Runner τ) : Prop where
  follows : ∀ (m : Matcher) (input : Cursor) (site : Site τ),
    site.context.Follows (run m input site).2.context
  starved : ∀ (m : Matcher) (input : Cursor) (site : Site τ), site.context.fuel = 0 →
    run m input site = (.error .fuelExhausted, site)
  pays : ∀ {m : Matcher} {input : Cursor} {site after : Site τ} {verdict : Verdict},
    run m input site = (.ok verdict, after) → after.context.fuel < site.context.fuel

/-! ## Combinators -/

section Combinators

variable {run : Runner τ} {start input : Cursor} {mark : Nat}

/-! ### Sequences -/

theorem matchSequence_cons (run : Runner τ) (start : Cursor) (mark : Nat) (part : Matcher)
    (parts : List Matcher) (rest : Cursor) (site : Site τ) :
    matchSequence run start mark (part :: parts) rest site =
      Result.andThen (run part rest site) fun verdict after =>
        if verdict.failed then
          (.ok (.failure start verdict.description (rest.position - start.position)),
            after.truncate mark)
        else matchSequence run start mark parts verdict.rest after := by
  rw [matchSequence]
  rfl

theorem matchSequence_continues {part : Matcher} {parts : List Matcher}
    (others : ∀ (rest : Cursor) (site : Site τ),
      site.context.Follows (matchSequence run start mark parts rest site).2.context)
    (rest : Cursor) (site : Site τ) :
    Result.Continues (run part rest site)
      (matchSequence run start mark (part :: parts) rest site) := by
  rw [matchSequence_cons]
  refine Result.continues_andThen fun verdict after _ => ?_
  split
  · exact .refl _
  · exact others _ _

theorem matchSequence_follows (metered : Metered run) (parts : List Matcher) :
    ∀ (rest : Cursor) (site : Site τ),
    site.context.Follows (matchSequence run start mark parts rest site).2.context := by
  induction parts with
  | nil => exact fun rest site => .refl _
  | cons part parts ih =>
    exact fun rest site =>
      (metered.follows part rest site).trans (matchSequence_continues ih rest site).follows

/-! ### Repetitions -/

/-- With as many rounds as there is fuel, a repetition goes round until its body stops it. -/
theorem matchStar_eq (metered : Metered run) {body : Matcher} {rounds : Nat} {rest : Cursor}
    {site : Site τ} (enough : site.context.fuel ≤ rounds) (more : rest.isAtEnd = false) :
    matchStar run body start mark rounds rest site =
      Result.andThen (run body rest site) fun verdict after =>
        if verdict.failed then
          if 0 < verdict.progress then
            (.ok (.failure start verdict.description verdict.progress), after.truncate mark)
          else (Verdict.success start rest, after)
        else if verdict.rest.position = rest.position then
          (.error (.emptyRepetition after.node.target.name), after)
        else matchStar run body start mark (rounds - 1) verdict.rest after := by
  cases rounds with
  | zero =>
    rw [matchStar, more, metered.starved body rest site (Nat.eq_zero_of_le_zero enough)]
    rfl
  | succ rounds =>
    rw [matchStar, more]
    rfl

theorem matchStar_continues (metered : Metered run) {body : Matcher} {rounds : Nat} {rest : Cursor}
    {site : Site τ} (enough : site.context.fuel ≤ rounds) (more : rest.isAtEnd = false)
    (others : ∀ verdict after, run body rest site = (.ok verdict, after) →
      after.context.Follows
        (matchStar run body start mark (rounds - 1) verdict.rest after).2.context) :
    Result.Continues (run body rest site) (matchStar run body start mark rounds rest site) := by
  rw [matchStar_eq metered enough more]
  refine Result.continues_andThen fun verdict after result => ?_
  split
  · split <;> exact .refl _
  · split
    · exact .refl _
    · exact others verdict after result

theorem matchStar_atEnd (run : Runner τ) (body : Matcher) (start : Cursor) (mark rounds : Nat)
    {rest : Cursor} (site : Site τ) (atEnd : rest.isAtEnd = true) :
    matchStar run body start mark rounds rest site = (Verdict.success start rest, site) := by
  cases rounds <;> rw [matchStar, if_pos atEnd]

theorem matchStar_follows (metered : Metered run) {body : Matcher} (rounds : Nat) :
    ∀ (rest : Cursor) (site : Site τ), site.context.fuel ≤ rounds →
      site.context.Follows (matchStar run body start mark rounds rest site).2.context := by
  induction rounds with
  | zero =>
    intro rest site _
    rw [matchStar]
    split <;> exact .refl _
  | succ rounds ih =>
    intro rest site enough
    cases more : rest.isAtEnd with
    | true =>
      rw [matchStar_atEnd _ _ _ _ _ _ more]
      exact .refl _
    | false =>
      have continues : Result.Continues (run body rest site)
          (matchStar run body start mark (rounds + 1) rest site) := by
        refine matchStar_continues metered enough more fun verdict after result => ih _ _ ?_
        have := metered.pays result
        omega
      exact (metered.follows body rest site).trans continues.follows

theorem forgive_continues (result : Result τ) : result.Continues (forgive result) := by
  obtain ⟨_ | _, after⟩ := result
  · exact ⟨.refl _, fun _ => id⟩
  · exact ⟨.refl _, nofun⟩

/-! ### Choices -/

variable [Tracer τ]

theorem matchChoice_andThen (run : Runner τ) (input : Cursor) (all : List Matcher)
    (branch : Matcher) (branches : List Matcher) (description : String) (progress : Nat)
    (site : Site τ) :
    matchChoice run all input (branch :: branches) description progress site =
      Result.andThen (run branch input site) fun verdict after =>
        if verdict.failed then
          matchChoice run all input branches
            (if progress < verdict.progress then verdict.description else description)
            (if progress < verdict.progress then verdict.progress else progress)
            (after.record (.backtracked input.position))
        else (.ok verdict, after) := by
  rw [matchChoice_cons]
  rfl

theorem matchChoice_continues {all branches : List Matcher} {branch : Matcher}
    (others : ∀ (description : String) (progress : Nat) (site : Site τ),
      site.context.Follows (matchChoice run all input branches description progress site).2.context)
    (description : String) (progress : Nat) (site : Site τ) :
    Result.Continues (run branch input site)
      (matchChoice run all input (branch :: branches) description progress site) := by
  rw [matchChoice_andThen]
  refine Result.continues_andThen fun verdict after _ => ?_
  split
  · exact (Site.follows_record _ _).trans (others _ _ _)
  · exact .refl _

theorem matchChoice_follows (metered : Metered run) (all branches : List Matcher) :
    ∀ (description : String) (progress : Nat) (site : Site τ),
      site.context.Follows
        (matchChoice run all input branches description progress site).2.context := by
  induction branches with
  | nil => exact fun description progress site => .refl _
  | cons branch branches ih =>
    exact fun description progress site =>
      (metered.follows branch input site).trans
        (matchChoice_continues ih description progress site).follows

/-! ### Statements and structures -/

theorem matchStatement_follows (kind : Kind) (input : Cursor) (site : Site τ) :
    site.context.Follows (matchStatement kind input site).2.context := by
  unfold matchStatement
  split
  · split
    · exact ⟨rfl, rfl, Nat.le_refl _, Nat.le_max_left _ _⟩
    · exact Site.follows_record _ _
  · exact Site.follows_record _ _

/-- The way out of a structure. -/
def Result.leave (target : Structure) : Result τ → Result τ
  | (.error halt, site) => (.error halt, site.ascend)
  | (.ok verdict, site) => (.ok verdict, site.ascend.record (.exited target.name verdict))

@[simp] theorem Result.outcome_leave (target : Structure) (result : Result τ) :
    (result.leave target).1 = result.1 := by
  obtain ⟨_ | _, _⟩ := result <;> rfl

@[simp] theorem Result.fuel_leave (target : Structure) (result : Result τ) :
    (result.leave target).2.context.fuel = result.2.context.fuel := by
  obtain ⟨_ | _, _⟩ := result <;> rfl

@[simp] theorem Result.furthest_leave (target : Structure) (result : Result τ) :
    (result.leave target).2.context.furthest = result.2.context.furthest := by
  obtain ⟨_ | _, _⟩ := result <;> rfl

theorem enterStructure_full (run : Runner τ) (g : Grammar) (target : Structure) (input : Cursor)
    {site : Site τ} (full : site.context.limits.recursion ≤ site.context.depth) :
    enterStructure run g target input site = (.error .recursionLimitExceeded, site) := by
  rw [enterStructure, if_pos full]

theorem enterStructure_of_malformed (run : Runner τ) {target : Structure} (input : Cursor)
    {site : Site τ} (room : ¬ site.context.limits.recursion ≤ site.context.depth)
    {fault : TooFewParts} (body : g.body target = .error fault) :
    enterStructure run g target input site =
      (.error (.malformedBody fault),
        (site.descend.record (.entered target.name input.position)).ascend) := by
  rw [enterStructure, if_neg room, body]

theorem enterStructure_of_body (run : Runner τ) {target : Structure} (input : Cursor)
    {site : Site τ} (room : ¬ site.context.limits.recursion ≤ site.context.depth) {m : Matcher}
    (body : g.body target = .ok m) :
    enterStructure run g target input site =
      Result.leave target
        (run m input (site.descend.record (.entered target.name input.position))) := by
  rw [enterStructure, if_neg room, body]
  rfl

theorem enterStructure_follows (metered : Metered run) (g : Grammar) (target : Structure)
    (input : Cursor) (site : Site τ) :
    site.context.Follows (enterStructure run g target input site).2.context := by
  by_cases full : site.context.limits.recursion ≤ site.context.depth
  · rw [enterStructure_full _ _ _ _ full]
    exact .refl _
  · cases body : g.body target with
    | error fault =>
      rw [enterStructure_of_malformed _ _ full body]
      exact Context.follows_ascend (.refl _)
    | ok m =>
      have inside :=
        metered.follows m input (site.descend.record (.entered target.name input.position))
      rw [enterStructure_of_body _ _ full body]
      generalize run m input (site.descend.record (.entered target.name input.position)) =
        result at inside ⊢
      obtain ⟨_ | verdict, after⟩ := result
      · exact Context.follows_ascend inside
      · exact (Context.follows_ascend inside).trans (Site.follows_record _ _)

/-- Entering a structure and getting an answer takes room and fuel. -/
theorem enterStructure_pays (metered : Metered run) {target : Structure}
    {input : Cursor} {site after : Site τ} {verdict : Verdict}
    (result : enterStructure run g target input site = (.ok verdict, after)) :
    site.context.depth < site.context.limits.recursion ∧
    after.context.fuel < site.context.fuel := by
  by_cases full : site.context.limits.recursion ≤ site.context.depth
  · rw [enterStructure_full _ _ _ _ full] at result
    cases result
  · cases body : g.body target with
    | error fault =>
      rw [enterStructure_of_malformed _ _ full body] at result
      cases result
    | ok m =>
      rw [enterStructure_of_body _ _ full body] at result
      generalize inside :
        run m input (site.descend.record (.entered target.name input.position)) = left at result
      obtain ⟨_ | _, before⟩ := left
      · cases result
      · have spent := metered.pays inside
        obtain ⟨_, rfl⟩ := Prod.mk.inj result
        exact ⟨Nat.lt_of_not_le full, spent⟩

/-- A structure with no remembered result goes on from entering it. -/
theorem matchSub_continues (run : Runner τ) (g : Grammar) {target : Structure} {input : Cursor}
    {site : Site τ} (new : site.context.remembered? target input.position = none) :
    Result.Continues (enterStructure run g target input ⟨site.context, .empty target⟩)
      (matchSub run g target input site) := by
  unfold matchSub
  simp only [new]
  generalize enterStructure run g target input ⟨site.context, .empty target⟩ = result
  obtain ⟨halt | verdict, after⟩ := result
  · exact ⟨.refl _, fun _ => id⟩
  · have kept := Context.follows_remember after.context target input.position
      ⟨verdict.refuseEmpty target,
        if (verdict.refuseEmpty target).failed then none else some after.node.toNode⟩
    refine ⟨?_, nofun⟩
    simp only []
    split <;> exact kept

theorem matchSub_follows (metered : Metered run) (g : Grammar) (target : Structure) (input : Cursor)
    (site : Site τ) : site.context.Follows (matchSub run g target input site).2.context := by
  cases found : site.context.remembered? target input.position with
  | none =>
    have entered := enterStructure_follows metered g target input ⟨site.context, .empty target⟩
    exact entered.trans (matchSub_continues run g found).follows
  | some memo =>
    unfold matchSub
    simp only [found]
    split <;> exact Site.follows_record _ _

/-! ## Matchers -/

theorem Matcher.runInside_follows (metered : Metered run) (m : Matcher) (input : Cursor)
    {fuel : Nat} {site : Site τ} (enough : site.context.fuel ≤ fuel) :
    site.context.Follows (m.runInside run g fuel input site).2.context := by
  cases m with
  | statement kind => exact matchStatement_follows kind input site
  | sub target => exact matchSub_follows metered g target input site
  | optional body => exact (metered.follows body input site).trans (forgive_continues _).follows
  | star body => exact matchStar_follows metered fuel input site enough
  | sequence a b rest => exact matchSequence_follows metered _ input site
  | choice a b rest => exact matchChoice_follows metered _ _ "" 0 site

end Combinators

/-- A matcher that has fuel spends a unit of it before it does anything. -/
theorem runWithin_spends [Tracer τ] {bound fuel : Nat}
    (metered : Metered (runWithin g bound : Runner τ)) (m : Matcher) (input : Cursor)
    {site : Site τ} (enough : site.context.fuel = fuel + 1) :
    (site.withFuel fuel).context.Follows (runWithin g (bound + 1) m input site).2.context := by
  rw [runWithin_succ enough]
  exact m.runInside_follows metered input (Nat.le_refl _)

theorem runWithin_starved [Tracer τ] (bound : Nat) (m : Matcher) (input : Cursor) {site : Site τ}
    (empty : site.context.fuel = 0) :
    runWithin g bound m input site = (.error .fuelExhausted, site) := by
  cases bound with
  | zero => rfl
  | succ bound => rw [runWithin, empty]

theorem runWithin_metered [Tracer τ] (bound : Nat) : Metered (runWithin g bound : Runner τ) := by
  induction bound with
  | zero => exact ⟨fun _ _ _ => .refl _, fun _ _ _ _ => rfl, nofun⟩
  | succ bound ih =>
    refine ⟨fun m input site => ?_, fun m input site => runWithin_starved _ m input,
      fun {m input site after verdict} result => ?_⟩
    · cases enough : site.context.fuel with
      | zero =>
        rw [runWithin_starved _ m input enough]
        exact .refl _
      | succ fuel =>
        have spends := runWithin_spends ih m input enough
        have le : _ ≤ fuel := spends.fuel
        exact ⟨spends.limits, spends.depth, by omega, spends.furthest⟩
    · cases enough : site.context.fuel with
      | zero =>
        rw [runWithin_starved _ m input enough] at result
        cases result
      | succ fuel =>
        have le : _ ≤ fuel := (runWithin_spends ih m input enough).fuel
        rw [result] at le
        exact Nat.lt_succ_of_le le

/-- Every run that has fuel spends some, whatever becomes of it. -/
theorem runWithin_fuel_lt [Tracer τ] {bound : Nat} (m : Matcher) (input : Cursor) {site : Site τ}
    (fed : 0 < site.context.fuel) (enough : site.context.fuel ≤ bound) :
    (runWithin g bound m input site).2.context.fuel < site.context.fuel := by
  cases bound with
  | zero => omega
  | succ bound =>
    cases fuel : site.context.fuel with
    | zero => omega
    | succ fuel' =>
      exact Nat.lt_succ_of_le (runWithin_spends (runWithin_metered bound) m input fuel).fuel

theorem run_metered [Tracer τ] (g : Grammar) : Metered (run g : Runner τ) where
  follows m input _ := (runWithin_metered _).follows m input _
  starved m input _ empty := (runWithin_metered _).starved m input _ empty
  pays result := (runWithin_metered _).pays result

end OrderedChoice
