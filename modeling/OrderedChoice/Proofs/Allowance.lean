import OrderedChoice.Proofs.Metering

/-!
# More fuel

Whatever context a matcher is run in, if it has an answer then it has the same answer on more fuel,
leaves as much more of it, and does nothing else differently (`run_grant`). How deep matchers may
nest makes no difference either, as long as it is not less than the fuel (`runWithin_eq_ok_iff`).
-/

namespace OrderedChoice

variable {τ : Type} {g : Grammar} {extra : Nat}

/-- The site with more fuel. -/
def Site.grant (site : Site τ) (extra : Nat) : Site τ :=
  site.withFuel (site.context.fuel + extra)

theorem Site.grant_remember (context : Context τ) (host : OpenNode) (target : Structure)
    (position : Nat) (memo : Memo) (extra : Nat) :
    (⟨(Site.grant ⟨context, host⟩ extra).context.remember target position memo, host⟩ : Site τ) =
      Site.grant ⟨context.remember target position memo, host⟩ extra := by
  show (⟨if context.limits.memoize then _ else _, host⟩ : Site τ) =
    Site.grant ⟨if context.limits.memoize then _ else _, host⟩ extra
  split <;> rfl

/-! ## Results -/

/-- If the one result is an answer, the other one is the same answer with more fuel left. -/
def Result.Granted (extra : Nat) (r r' : Result τ) : Prop :=
  ∀ verdict after, r = (.ok verdict, after) → r' = (.ok verdict, after.grant extra)

namespace Result.Granted

variable {part part' : Result τ}

theorem settled (outcome : Except Halt Verdict) (site : Site τ) :
    Granted extra (outcome, site) (outcome, site.grant extra) := by
  rintro _ _ ⟨⟩
  rfl

theorem halted (halt : Halt) (site : Site τ) (result : Result τ) :
    Granted extra (.error halt, site) result :=
  nofun

/-- Where more fuel makes no difference to a part nor to what is done next, it makes none to the
whole. -/
theorem andThen {next next' : Verdict → Site τ → Result τ} (first : Granted extra part part')
    (later : ∀ verdict after, part = (.ok verdict, after) →
      Granted extra (next verdict after) (next' verdict (after.grant extra))) :
    Granted extra (part.andThen next) (part'.andThen next') := by
  obtain ⟨halt | verdict, after⟩ := part
  · exact halted halt after _
  · rw [first verdict after rfl]
    exact later verdict after rfl

theorem forgive (h : Granted extra part part') :
    Granted extra (OrderedChoice.forgive part) (OrderedChoice.forgive part') := by
  obtain ⟨halt | verdict, after⟩ := part
  · exact halted halt after _
  · rw [h verdict after rfl]
    exact settled _ after

theorem leave [Tracer τ] (h : Granted extra part part') (target : Structure) :
    Granted extra (part.leave target) (part'.leave target) := by
  obtain ⟨halt | verdict, after⟩ := part
  · exact halted halt after.ascend _
  · rw [h verdict after rfl]
    exact settled _ (after.ascend.record (.exited target.name verdict))

end Result.Granted

/-! ## Combinators -/

/-- Where the one runner answers, the other one does so on more fuel, up to `bound`. -/
structure Outlasts (extra bound : Nat) (run run' : Runner τ) : Prop where
  left : Metered run
  right : Metered run'
  granted : ∀ (m : Matcher) (input : Cursor) {site : Site τ}, site.context.fuel + extra ≤ bound →
    Result.Granted extra (run m input site) (run' m input (site.grant extra))

section Combinators

variable {bound : Nat} {run run' : Runner τ} {start input : Cursor} {mark : Nat}

theorem matchSequence_granted (outlasts : Outlasts extra bound run run') (parts : List Matcher) :
    ∀ (rest : Cursor) {site : Site τ}, site.context.fuel + extra ≤ bound →
      Result.Granted extra (matchSequence run start mark parts rest site)
        (matchSequence run' start mark parts rest (site.grant extra)) := by
  induction parts with
  | nil => exact fun rest site _ => .settled _ site
  | cons part parts ih =>
    intro rest site enough
    rw [matchSequence_cons, matchSequence_cons]
    refine (outlasts.granted part rest enough).andThen fun verdict after ran => ?_
    split
    · exact .settled _ (after.truncate mark)
    · have spent := outlasts.left.pays ran
      exact ih verdict.rest (by omega)

theorem matchStar_granted (outlasts : Outlasts extra bound run run') (body : Matcher)
    (rounds : Nat) :
    ∀ {rounds' : Nat} (rest : Cursor) {site : Site τ}, site.context.fuel + extra ≤ bound →
      site.context.fuel ≤ rounds → site.context.fuel + extra ≤ rounds' →
      Result.Granted extra (matchStar run body start mark rounds rest site)
        (matchStar run' body start mark rounds' rest (site.grant extra)) := by
  induction rounds using Nat.strongRecOn with
  | ind rounds ih =>
    intro rounds' rest site enough allowed allowed'
    cases more : rest.isAtEnd with
    | true =>
      rw [matchStar_atEnd _ _ _ _ _ _ more, matchStar_atEnd _ _ _ _ _ _ more]
      exact .settled _ site
    | false =>
      rw [matchStar_eq outlasts.left allowed more, matchStar_eq outlasts.right allowed' more]
      refine (outlasts.granted body rest enough).andThen fun verdict after ran => ?_
      have spent := outlasts.left.pays ran
      split
      · split
        · exact .settled _ (after.truncate mark)
        · exact .settled _ after
      · split
        · exact .halted _ after _
        · exact ih (rounds - 1) (by omega) verdict.rest (by omega) (by omega) (by omega)

variable [Tracer τ]

theorem matchChoice_granted (outlasts : Outlasts extra bound run run')
    (all branches : List Matcher) :
    ∀ (description : String) (progress : Nat) {site : Site τ}, site.context.fuel + extra ≤ bound →
      Result.Granted extra (matchChoice run all input branches description progress site)
        (matchChoice run' all input branches description progress (site.grant extra)) := by
  induction branches with
  | nil => exact fun description progress site _ => .settled _ site
  | cons branch branches ih =>
    intro description progress site enough
    rw [matchChoice_andThen, matchChoice_andThen]
    refine (outlasts.granted branch input enough).andThen fun verdict after ran => ?_
    split
    · have spent := outlasts.left.pays ran
      have enough : (after.record (.backtracked input.position)).context.fuel + extra ≤ bound := by
        show after.context.fuel + extra ≤ bound
        omega
      exact ih _ _ enough
    · exact .settled _ after

theorem matchStatement_granted (kind : Kind) (input : Cursor) (site : Site τ) :
    Result.Granted extra (matchStatement kind input site)
      (matchStatement kind input (site.grant extra)) := by
  unfold matchStatement
  cases input.first? with
  | none => exact .settled _ (site.record _)
  | some statement =>
    simp only []
    split
    · exact .settled _ (((site.record _).reach _).push _)
    · exact .settled _ (site.record _)

theorem enterStructure_granted (outlasts : Outlasts extra bound run run') (target : Structure)
    (input : Cursor) {site : Site τ} (enough : site.context.fuel + extra ≤ bound) :
    Result.Granted extra (enterStructure run g target input site)
      (enterStructure run' g target input (site.grant extra)) := by
  by_cases full : site.context.limits.recursion ≤ site.context.depth
  · rw [enterStructure_full _ _ _ _ full]
    exact .halted _ site _
  · have room : ¬ (site.grant extra).context.limits.recursion ≤ (site.grant extra).context.depth :=
      full
    cases body : g.body target with
    | error fault =>
      rw [enterStructure_of_malformed _ _ full body]
      exact .halted _ _ _
    | ok m =>
      rw [enterStructure_of_body _ _ full body, enterStructure_of_body _ _ room body]
      have enough :
        (site.descend.record (.entered target.name input.position)).context.fuel + extra ≤ bound :=
        enough
      exact (outlasts.granted m input enough).leave target

theorem matchSub_granted (outlasts : Outlasts extra bound run run') (target : Structure)
    (input : Cursor) {site : Site τ} (enough : site.context.fuel + extra ≤ bound) :
    Result.Granted extra (matchSub run g target input site)
      (matchSub run' g target input (site.grant extra)) := by
  have same : (site.grant extra).context.remembered? target input.position =
      site.context.remembered? target input.position := rfl
  unfold matchSub
  rw [same]
  cases site.context.remembered? target input.position with
  | some memo =>
    obtain ⟨verdict, _ | node⟩ := memo
    · exact .settled _ (site.record _)
    · exact .settled _ ((site.record _).push node)
  | none =>
    have entered := enterStructure_granted (g := g) outlasts target input
      (show (⟨site.context, .empty target⟩ : Site τ).context.fuel + extra ≤ bound from enough)
    simp only []
    generalize enterStructure run g target input ⟨site.context, .empty target⟩ = result at entered ⊢
    obtain ⟨halt | verdict, ⟨context, grown⟩⟩ := result
    · exact .halted halt _ _
    · have entered' :
          enterStructure run' g target input ⟨(site.grant extra).context, .empty target⟩ =
            (.ok verdict, Site.grant ⟨context, grown⟩ extra) := entered verdict ⟨context, grown⟩ rfl
      rw [entered']
      simp only []
      rw [show (Site.grant ⟨context, grown⟩ extra).context =
        (Site.grant ⟨context, site.node⟩ extra).context from rfl,
        show (Site.grant ⟨context, grown⟩ extra).node = grown from rfl,
        show (site.grant extra).node = site.node from rfl, Site.grant_remember]
      split
      · exact .settled _ (Site.push ⟨_, site.node⟩ _)
      · exact .settled _ ⟨_, site.node⟩

/-! ## Matchers -/

theorem Matcher.runInside_granted (outlasts : Outlasts extra bound run run') (m : Matcher)
    (input : Cursor) {fuel : Nat} {site : Site τ} (allowed : site.context.fuel ≤ fuel)
    (enough : fuel + extra ≤ bound) :
    Result.Granted extra (m.runInside run g fuel input site)
      (m.runInside run' g (fuel + extra) input (site.grant extra)) := by
  have enough' : site.context.fuel + extra ≤ bound := by omega
  cases m with
  | statement kind => exact matchStatement_granted kind input site
  | sub target => exact matchSub_granted outlasts target input enough'
  | optional body => exact (outlasts.granted body input enough').forgive
  | star body => exact matchStar_granted outlasts body fuel input enough' allowed (by omega)
  | sequence a b rest => exact matchSequence_granted outlasts _ input enough'
  | choice a b rest => exact matchChoice_granted outlasts _ _ "" 0 enough'

end Combinators

variable [Tracer τ]

theorem runWithin_outlasts (g : Grammar) (extra bound : Nat) : ∀ bound' : Nat,
    Outlasts extra bound' (runWithin g bound : Runner τ) (runWithin g bound') := by
  induction bound with
  | zero => exact fun bound' =>
      ⟨runWithin_metered 0, runWithin_metered bound', fun _ _ site _ => .halted _ site _⟩
  | succ bound ih =>
    refine fun bound' =>
      ⟨runWithin_metered _, runWithin_metered bound', fun m input site enough => ?_⟩
    cases fed : site.context.fuel with
    | zero =>
      rw [runWithin_starved _ m input fed]
      exact .halted _ site _
    | succ fuel =>
      obtain ⟨k, rfl⟩ := Nat.exists_eq_succ_of_ne_zero (show bound' ≠ 0 by omega)
      have fed' : (site.grant extra).context.fuel = fuel + extra + 1 := by
        show site.context.fuel + extra = _
        omega
      rw [runWithin_succ fed, runWithin_succ fed']
      have allowed : (site.withFuel fuel).context.fuel ≤ fuel := Nat.le_refl fuel
      exact m.runInside_granted (ih k) input allowed (by omega)

variable {m : Matcher} {input : Cursor} {site after : Site τ} {verdict : Verdict} {bound : Nat}

/-- What has an answer has the same answer on more fuel, and leaves as much more of it. -/
theorem run_grant (ok : run g m input site = (.ok verdict, after)) (extra : Nat) :
    run g m input (site.grant extra) = (.ok verdict, after.grant extra) :=
  (runWithin_outlasts g extra _ _).granted m input (Nat.le_refl _) verdict after ok

/-- Matchers that may nest as deep as there is fuel answer as a run does. -/
theorem runWithin_eq_ok_iff (enough : site.context.fuel ≤ bound) :
    runWithin g bound m input site = (.ok verdict, after) ↔
    run g m input site = (.ok verdict, after) :=
  ⟨(runWithin_outlasts g 0 bound site.context.fuel).granted m input (Nat.le_refl _) verdict after,
    (runWithin_outlasts g 0 site.context.fuel bound).granted m input enough verdict after⟩

/-- A run answers as one on more fuel does. -/
theorem run_outlasts (g : Grammar) (extra bound : Nat) :
    Outlasts extra bound (run g : Runner τ) (run g) :=
  ⟨run_metered g, run_metered g, fun _ _ _ _ _ _ ok => run_grant ok extra⟩

theorem run_outlasts_runWithin (g : Grammar) (bound : Nat) :
    Outlasts 0 bound (run g : Runner τ) (runWithin g bound) :=
  ⟨run_metered g, runWithin_metered bound, fun _ _ _ enough _ _ => (runWithin_eq_ok_iff enough).2⟩

theorem runWithin_outlasts_run (g : Grammar) (bound : Nat) :
    Outlasts 0 bound (runWithin g bound : Runner τ) (run g) :=
  ⟨runWithin_metered bound, run_metered g, fun _ _ _ enough _ _ => (runWithin_eq_ok_iff enough).1⟩

end OrderedChoice
