import OrderedChoice.Proofs.Metering

/-!
# Failures leave nothing behind

Whatever context a matcher is run in, the run only adds to the children of its node, and a failure
adds none (`run_restores`). All that this asks of the memo table is that it keeps no node with a
failure, and no run ever puts one there. Which structures and statements the entries come from does
not matter.
-/

namespace OrderedChoice

variable {τ : Type} {g : Grammar}

namespace Context

variable {context : Context τ} {target : Structure} {position : Nat} {memo : Memo}

/-- No failure is remembered with a node. A fresh context is bare, and whatever is run in a bare
context leaves a bare one. -/
def Bare (context : Context τ) : Prop :=
  ∀ (entry : String × Nat) (memo : Memo), context.memos[entry]? = some memo →
  memo.verdict.failed = true → memo.node = none

theorem bare_fresh (limits : Limits) (tracer : τ) : (fresh limits tracer).Bare := by
  intro entry memo found
  rw [fresh, Std.HashMap.getElem?_empty] at found
  cases found

theorem Bare.remember (bare : context.Bare)
    (bareMemo : memo.verdict.failed = true → memo.node = none) :
    (context.remember target position memo).Bare := by
  unfold Context.remember
  split
  · intro entry other found
    rw [Std.HashMap.getElem?_insert] at found
    split at found
    · obtain rfl := Option.some.inj found
      exact bareMemo
    · exact bare entry other found
  · exact bare

theorem Bare.node_eq_none (bare : context.Bare)
    (found : context.remembered? target position = some memo)
    (failed : memo.verdict.failed = true) : memo.node = none := by
  unfold remembered? at found
  split at found
  · exact bare _ memo found failed
  · cases found

end Context

theorem OpenNode.exists_eq_grow (node : OpenNode) : ∃ nodes, node = node.grow nodes :=
  ⟨[], node.grow_nil.symm⟩

/-! ## Results -/

/-- The result has kept the children of the node, and a failure has added none to them. -/
structure Result.Restores (base : OpenNode) (result : Result τ) : Prop where
  bare : result.2.context.Bare
  grown : ∃ nodes, result.2.node = base.grow nodes
  failure : ∀ verdict, result.1 = .ok verdict → verdict.failed = true → result.2.node = base

namespace Result.Restores

variable {base node : OpenNode} {site : Site τ} {part : Result τ}

theorem halted (bare : site.context.Bare) (grown : ∃ nodes, site.node = base.grow nodes)
    (halt : Halt) : Restores base (.error halt, site) :=
  ⟨bare, grown, nofun⟩

theorem unchanged (site : Site τ) (bare : site.context.Bare) (outcome : Except Halt Verdict) :
    Restores site.node (outcome, site) :=
  ⟨bare, site.node.exists_eq_grow, fun _ _ _ => rfl⟩

theorem success (site : Site τ) (bare : site.context.Bare)
    (grown : ∃ nodes, site.node = base.grow nodes) (start rest : Cursor) :
    Restores base (Verdict.success start rest, site) := by
  refine ⟨bare, grown, fun verdict ok failed => ?_⟩
  obtain ⟨_, _, rfl⟩ := Verdict.success_eq_ok_iff.1 ok
  cases failed

theorem truncated (bare : site.context.Bare) (grown : ∃ nodes, site.node = base.grow nodes)
    (outcome : Except Halt Verdict) : Restores base (outcome, site.truncate base.size) := by
  obtain ⟨nodes, grown⟩ := grown
  have dropped : (site.truncate base.size).node = base := by
    show site.node.truncate base.size = base
    rw [grown, OpenNode.truncate_grow]
  exact ⟨bare, ⟨[], dropped.trans (OpenNode.grow_nil _).symm⟩, fun _ _ _ => dropped⟩

/-- What is done after a part adds to what the part has grown. -/
theorem andThen {next : Verdict → Site τ → Result τ} (first : part.Restores node)
    (grown : ∃ nodes, node = base.grow nodes)
    (later : ∀ verdict after, part = (.ok verdict, after) → after.context.Bare →
      (∃ nodes, after.node = base.grow nodes) → Restores base (next verdict after)) :
    Restores base (part.andThen next) := by
  have grown : ∃ nodes, part.2.node = base.grow nodes := by
    obtain ⟨before, rfl⟩ := grown
    obtain ⟨nodes, grown⟩ := first.grown
    exact ⟨before ++ nodes, by rw [grown, OpenNode.grow_grow]⟩
  obtain ⟨halt | verdict, after⟩ := part
  · exact halted first.bare grown halt
  · exact later verdict after rfl first.bare grown

theorem forgive (h : part.Restores base) : Restores base (OrderedChoice.forgive part) := by
  obtain ⟨halt | verdict, after⟩ := part
  · exact h
  · exact ⟨h.bare, h.grown, by rintro _ ⟨⟩ ⟨⟩⟩

theorem leave [Tracer τ] (h : part.Restores base) (target : Structure) :
    Restores base (part.leave target) := by
  obtain ⟨halt | verdict, after⟩ := part
  · exact ⟨h.bare, h.grown, nofun⟩
  · exact ⟨h.bare, h.grown, h.failure⟩

end Result.Restores

/-! ## Combinators -/

/-- Whatever the runner runs, a failure leaves nothing behind. -/
def Restoring (run : Runner τ) : Prop :=
  ∀ (m : Matcher) (input : Cursor) (site : Site τ), site.context.Bare →
  Result.Restores site.node (run m input site)

section Combinators

variable {run : Runner τ} {start input : Cursor} {base : OpenNode}

theorem matchSequence_restores (restoring : Restoring run) (parts : List Matcher) :
    ∀ (rest : Cursor) {site : Site τ}, site.context.Bare → (∃ nodes, site.node = base.grow nodes) →
      Result.Restores base (matchSequence run start base.size parts rest site) := by
  induction parts with
  | nil => exact fun rest site bare grown => .success site bare grown start rest
  | cons part parts ih =>
    intro rest site bare grown
    rw [matchSequence_cons]
    refine (restoring part rest site bare).andThen grown fun verdict after _ bare grown => ?_
    split
    · exact .truncated bare grown _
    · exact ih verdict.rest bare grown

theorem matchStar_restores (restoring : Restoring run) (body : Matcher) (rounds : Nat) :
    ∀ (rest : Cursor) {site : Site τ}, site.context.Bare → (∃ nodes, site.node = base.grow nodes) →
      Result.Restores base (matchStar run body start base.size rounds rest site) := by
  induction rounds with
  | zero =>
    intro rest site bare grown
    rw [matchStar]
    split
    · exact .success _ bare grown start rest
    · exact .halted bare grown _
  | succ rounds ih =>
    intro rest site bare grown
    rw [matchStar]
    split
    · exact .success _ bare grown start rest
    · refine (restoring body rest site bare).andThen grown fun verdict after _ bare grown => ?_
      split
      · split
        · exact .truncated bare grown _
        · exact .success _ bare grown start rest
      · split
        · exact .halted bare grown _
        · exact ih verdict.rest bare grown

variable [Tracer τ]

/-- Each branch that is refused leaves the node as the next one finds it. -/
theorem matchChoice_restores (restoring : Restoring run) (all branches : List Matcher) :
    ∀ (description : String) (progress : Nat) {site : Site τ}, site.context.Bare →
      Result.Restores site.node (matchChoice run all input branches description progress site) := by
  induction branches with
  | nil => exact fun _ _ _ bare => .unchanged _ bare _
  | cons branch branches ih =>
    intro description progress site bare
    have first := restoring branch input site bare
    rw [matchChoice_andThen]
    refine first.andThen site.node.exists_eq_grow fun verdict after ran bare grown => ?_
    rw [ran] at first
    split
    · rename_i failed
      have bare : (after.record (.backtracked input.position)).context.Bare := bare
      rw [← first.failure verdict rfl failed]
      exact ih _ _ bare
    · exact ⟨bare, grown, first.failure⟩

theorem matchStatement_restores (kind : Kind) (input : Cursor) {site : Site τ}
    (bare : site.context.Bare) : Result.Restores site.node (matchStatement kind input site) := by
  unfold matchStatement
  cases input.first? with
  | none => exact .unchanged (site.record _) bare _
  | some statement =>
    have grown : ∃ nodes, site.node.push (.leaf statement input.position) = site.node.grow nodes :=
      ⟨_, OpenNode.push_eq_grow _ _⟩
    simp only []
    split
    · exact .success (((site.record _).reach _).push _) bare grown input input.next
    · exact .unchanged (site.record _) bare _

theorem enterStructure_restores (restoring : Restoring run) (target : Structure) (input : Cursor)
    {site : Site τ} (bare : site.context.Bare) :
    Result.Restores site.node (enterStructure run g target input site) := by
  by_cases full : site.context.limits.recursion ≤ site.context.depth
  · rw [enterStructure_full _ _ _ _ full]
    exact .unchanged _ bare _
  · cases body : g.body target with
    | error fault =>
      rw [enterStructure_of_malformed _ _ full body]
      exact .unchanged (site.descend.record _).ascend bare _
    | ok m =>
      rw [enterStructure_of_body _ _ full body]
      exact (restoring m input
        (site.descend.record (.entered target.name input.position)) bare).leave target

/-- A failure that is replayed has no node, and one that is remembered is kept without one. -/
theorem matchSub_restores (restoring : Restoring run) (target : Structure) (input : Cursor)
    {site : Site τ} (bare : site.context.Bare) :
    Result.Restores site.node (matchSub run g target input site) := by
  unfold matchSub
  cases found : site.context.remembered? target input.position with
  | some memo =>
    have noNode := bare.node_eq_none found
    obtain ⟨verdict, _ | node⟩ := memo
    · exact .unchanged (site.record _) bare _
    · exact ⟨bare, ⟨[node], OpenNode.push_eq_grow _ _⟩, by
        rintro _ ⟨⟩ failed
        cases noNode failed⟩
  | none =>
    have entered := enterStructure_restores (g := g) restoring target input
      (show (⟨site.context, .empty target⟩ : Site τ).context.Bare from bare)
    simp only []
    generalize enterStructure run g target input ⟨site.context, .empty target⟩ = result at entered ⊢
    obtain ⟨halt | verdict, ⟨context, grown⟩⟩ := result
    · exact .unchanged ⟨context, site.node⟩ entered.bare _
    · simp only []
      cases failed : (verdict.refuseEmpty target).failed with
      | true => exact .unchanged ⟨_, site.node⟩ (entered.bare.remember fun _ => rfl) _
      | false =>
        refine ⟨entered.bare.remember fun refused => ?_, ⟨[_], OpenNode.push_eq_grow _ _⟩, ?_⟩
        · cases failed.symm.trans refused
        · rintro _ ⟨⟩ refused
          cases failed.symm.trans refused

/-! ## Matchers -/

theorem Matcher.runInside_restores (restoring : Restoring run) (m : Matcher) (input : Cursor)
    (fuel : Nat) {site : Site τ} (bare : site.context.Bare) :
    Result.Restores site.node (m.runInside run g fuel input site) := by
  cases m with
  | statement kind => exact matchStatement_restores kind input bare
  | sub target => exact matchSub_restores restoring target input bare
  | optional body => exact (restoring body input site bare).forgive
  | star body => exact matchStar_restores restoring body fuel input bare site.node.exists_eq_grow
  | sequence a b rest =>
    exact matchSequence_restores restoring _ input bare site.node.exists_eq_grow
  | choice a b rest => exact matchChoice_restores restoring _ _ "" 0 bare

end Combinators

variable [Tracer τ]

theorem runWithin_restores (bound : Nat) : Restoring (runWithin g bound : Runner τ) := by
  induction bound with
  | zero => exact fun _ _ site bare => .unchanged _ bare _
  | succ bound ih =>
    intro m input site bare
    cases fed : site.context.fuel with
    | zero =>
      rw [runWithin_starved _ m input fed]
      exact .unchanged _ bare _
    | succ fuel =>
      rw [runWithin_succ fed]
      have bare : (site.withFuel fuel).context.Bare := bare
      exact m.runInside_restores ih input fuel bare

/-- A run adds to the children of its node, a failure adds none, and none is remembered with a
node. -/
theorem run_restores (g : Grammar) : Restoring (run g : Runner τ) :=
  fun m input site bare => runWithin_restores site.context.fuel m input site bare

end OrderedChoice
