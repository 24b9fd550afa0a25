import Mathlib.Logic.Relation
import OrderedChoice.Proofs.Metering

/-!
# A match step by step

Whatever is matched, the context changes by small steps of a few kinds only (`run_steps`), so that a
property of contexts which each step keeps holds at the end of every run if it held at the
beginning. The first such property: the high-water mark is the furthest that the recorded events
tell of (`Context.Step.furthest_eq`).
-/

namespace OrderedChoice

variable {τ : Type} [Tracer τ] {g : Grammar}

namespace Context

/-- What a match does to its context at a time. -/
inductive Step : Context τ → Context τ → Prop where
  /-- A matcher is paid for. -/
  | spend (context : Context τ) (fuel : Nat) (less : fuel < context.fuel) :
      Step context { context with fuel }
  | enter (context : Context τ) (target : Structure) (position : Nat) :
      Step context { context with
        depth := context.depth + 1
        tracer := Tracer.record context.tracer (.entered target.name position) }
  | leave (context : Context τ) : Step context { context with depth := context.depth - 1 }
  | exit (context : Context τ) (target : Structure) (verdict : Verdict) :
      Step context
        { context with tracer := Tracer.record context.tracer (.exited target.name verdict) }
  | consume (context : Context τ) (statement : Statement) (position : Nat) :
      Step context { context with
        furthest := max context.furthest (position + 1)
        tracer := Tracer.record context.tracer (.consumed statement position) }
  | mismatch (context : Context τ) (kind : Kind) (found : Option Statement) (position : Nat) :
      Step context
        { context with tracer := Tracer.record context.tracer (.mismatched kind found position) }
  | backtrack (context : Context τ) (position : Nat) :
      Step context { context with tracer := Tracer.record context.tracer (.backtracked position) }
  | replay (context : Context τ) (target : Structure) (position : Nat) :
      Step context
        { context with tracer := Tracer.record context.tracer (.replayed target.name position) }
  | remember (context : Context τ) (target : Structure) (position : Nat) (memo : Memo) :
      Step context (context.remember target position memo)

/-- Any number of steps. -/
abbrev Steps : Context τ → Context τ → Prop :=
  Relation.ReflTransGen Step

/-- What each step keeps, any number of steps keeps. -/
theorem Steps.keep {P : Context τ → Prop} (step : ∀ {a b : Context τ}, a.Step b → P a → P b)
    {a b : Context τ} (steps : a.Steps b) (h : P a) : P b := by
  induction steps with
  | refl => exact h
  | tail _ last ih => exact step last ih

end Context

/-! ## Combinators -/

/-- Whatever the runner runs, the context changes by steps. -/
def Stepwise (run : Runner τ) : Prop :=
  ∀ (m : Matcher) (input : Cursor) (site : Site τ), site.context.Steps (run m input site).2.context

theorem Result.steps_andThen {context : Context τ} {result : Result τ}
    {next : Verdict → Site τ → Result τ} (first : context.Steps result.2.context)
    (later : ∀ (verdict : Verdict) (after : Site τ),
      after.context.Steps (next verdict after).2.context) :
    context.Steps (result.andThen next).2.context := by
  obtain ⟨_ | verdict, after⟩ := result
  · exact first
  · exact first.trans (later verdict after)

section Combinators

variable {run : Runner τ} {start input : Cursor} {mark : Nat}

theorem matchStatement_steps (kind : Kind) (input : Cursor) (site : Site τ) :
    site.context.Steps (matchStatement kind input site).2.context := by
  unfold matchStatement
  split
  · split
    · exact .single (.consume _ _ _)
    · exact .single (.mismatch _ _ _ _)
  · exact .single (.mismatch _ _ _ _)

theorem matchSequence_steps (steps : Stepwise run) (parts : List Matcher) :
    ∀ (rest : Cursor) (site : Site τ),
    site.context.Steps (matchSequence run start mark parts rest site).2.context := by
  induction parts with
  | nil => exact fun _ _ => .refl
  | cons part parts ih =>
    intro rest site
    rw [matchSequence_cons]
    refine Result.steps_andThen (steps part rest site) fun verdict after => ?_
    split
    · exact .refl
    · exact ih verdict.rest after

theorem matchChoice_steps (steps : Stepwise run) (all branches : List Matcher) :
    ∀ (description : String) (progress : Nat) (site : Site τ),
      site.context.Steps
        (matchChoice run all input branches description progress site).2.context := by
  induction branches with
  | nil => exact fun _ _ _ => .refl
  | cons branch branches ih =>
    intro description progress site
    rw [matchChoice_andThen]
    refine Result.steps_andThen (steps branch input site) fun verdict after => ?_
    split
    · exact (Relation.ReflTransGen.single (.backtrack _ _)).trans (ih _ _ _)
    · exact .refl

theorem matchStar_steps (steps : Stepwise run) (body : Matcher) (rounds : Nat) :
    ∀ (rest : Cursor) (site : Site τ),
      site.context.Steps (matchStar run body start mark rounds rest site).2.context := by
  induction rounds with
  | zero =>
    intro rest site
    rw [matchStar]
    split <;> exact .refl
  | succ rounds ih =>
    intro rest site
    rw [matchStar]
    split
    · exact .refl
    · refine Result.steps_andThen (steps body rest site) fun verdict after => ?_
      split
      · split <;> exact .refl
      · split
        · exact .refl
        · exact ih verdict.rest after

omit [Tracer τ] in
theorem context_forgive (result : Result τ) : (forgive result).2.context = result.2.context := by
  obtain ⟨_ | _, _⟩ := result <;> rfl

theorem Result.leave_steps (target : Structure) (result : Result τ) :
    result.2.context.Steps (result.leave target).2.context := by
  obtain ⟨_ | verdict, after⟩ := result
  · exact .single (.leave _)
  · exact (Relation.ReflTransGen.single (.leave _)).tail (.exit _ target verdict)

theorem enterStructure_steps (steps : Stepwise run) (target : Structure) (input : Cursor)
    (site : Site τ) : site.context.Steps (enterStructure run g target input site).2.context := by
  have enter :
      site.context.Step (site.descend.record (.entered target.name input.position)).context :=
    .enter _ target input.position
  by_cases full : site.context.limits.recursion ≤ site.context.depth
  · rw [enterStructure_full _ _ _ _ full]
  · cases body : g.body target with
    | error fault =>
      rw [enterStructure_of_malformed _ _ full body]
      exact (Relation.ReflTransGen.single enter).tail (.leave _)
    | ok m =>
      rw [enterStructure_of_body _ _ full body]
      exact ((Relation.ReflTransGen.single enter).trans (steps m input _)).trans
        (Result.leave_steps target _)

theorem matchSub_steps (steps : Stepwise run) (target : Structure) (input : Cursor)
    (site : Site τ) : site.context.Steps (matchSub run g target input site).2.context := by
  unfold matchSub
  cases site.context.remembered? target input.position with
  | some memo =>
    simp only []
    split <;> exact .single (.replay _ target _)
  | none =>
    have entered := enterStructure_steps (g := g) steps target input ⟨site.context, .empty target⟩
    simp only []
    generalize enterStructure run g target input ⟨site.context, .empty target⟩ = result at entered ⊢
    obtain ⟨_ | verdict, after⟩ := result
    · exact entered
    · simp only []
      split <;> exact entered.tail (.remember _ _ _ _)

/-! ## Matchers -/

theorem Matcher.runInside_steps (steps : Stepwise run) (m : Matcher) (fuel : Nat) (input : Cursor)
    (site : Site τ) : site.context.Steps (m.runInside run g fuel input site).2.context := by
  cases m with
  | statement kind => exact matchStatement_steps kind input site
  | sub target => exact matchSub_steps steps target input site
  | optional body =>
    rw [runInside, context_forgive]
    exact steps body input site
  | star body => exact matchStar_steps steps body fuel input site
  | sequence a b rest => exact matchSequence_steps steps _ input site
  | choice a b rest => exact matchChoice_steps steps _ _ "" 0 site

end Combinators

theorem runWithin_steps (bound : Nat) : Stepwise (runWithin g bound : Runner τ) := by
  induction bound with
  | zero => exact fun _ _ _ => .refl
  | succ bound ih =>
    intro m input site
    cases enough : site.context.fuel with
    | zero =>
      rw [runWithin_starved _ m input enough]
    | succ fuel =>
      have spend : site.context.Step (site.withFuel fuel).context := .spend _ fuel (by omega)
      rw [runWithin_succ enough]
      exact (Relation.ReflTransGen.single spend).trans (m.runInside_steps ih fuel input _)

/-- Every run changes its context step by step. -/
theorem run_steps (g : Grammar) : Stepwise (run g : Runner τ) :=
  fun m input site => runWithin_steps site.context.fuel m input site

/-! ## The high-water mark -/

/-- One past the statement that was consumed, for such an event. -/
def Event.reach : Event → Nat
  | consumed _ position => position + 1
  | _ => 0

/-- One past the last of the statements whose consumption the events tell of, or zero if there is
none. -/
def reachOf (events : List Event) : Nat :=
  events.foldr (fun event reach => max reach event.reach) 0

/-- The high-water mark is as far as the recorded events go. -/
theorem Context.Step.furthest_eq {a b : Context (List Event)} (step : a.Step b)
    (h : a.furthest = reachOf a.tracer) : b.furthest = reachOf b.tracer := by
  cases step with
  | spend _ _ | leave => exact h
  | consume statement position => exact congrArg (max · (position + 1)) h
  | enter | exit | mismatch | backtrack | replay => exact h.trans (Nat.max_zero _).symm
  | remember target position memo =>
    unfold Context.remember
    split <;> exact h

end OrderedChoice
