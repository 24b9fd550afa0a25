import OrderedChoice.Proofs.Course

/-!
# Tracers that can be told from others

A run does the same whoever watches it, so that a tracer which can be told from another one, event
by event, can be told from it at the end of a run (`run_retold`) and of a parse
(`parseWith_retold`).
-/

namespace OrderedChoice

variable {τ υ : Type} {g : Grammar}

/-! ## Other tracers for a site -/

/-- The context with what is told of its tracer. -/
def Context.retold (f : τ → υ) (context : Context τ) : Context υ :=
  { context with tracer := f context.tracer }

def Site.retold (f : τ → υ) (site : Site τ) : Site υ :=
  ⟨site.context.retold f, site.node⟩

def Result.retold (f : τ → υ) (result : Result τ) : Result υ :=
  (result.1, result.2.retold f)

/-- What `f` tells of a tracer is a tracer of the same events. -/
def Retells [Tracer τ] [Tracer υ] (f : τ → υ) : Prop :=
  ∀ (tracer : τ) (event : Event), f (Tracer.record tracer event) = Tracer.record (f tracer) event

section Retold

variable {f : τ → υ}

theorem Site.retold_record [Tracer τ] [Tracer υ] (retells : Retells f) (site : Site τ)
    (event : Event) : (site.record event).retold f = (site.retold f).record event := by
  obtain ⟨context, node⟩ := site
  show Site.mk { context with tracer := f (Tracer.record context.tracer event) } node = _
  rw [retells]
  rfl

theorem Context.retold_remember (context : Context τ) (target : Structure) (position : Nat)
    (memo : Memo) :
    (context.remember target position memo).retold f =
      (context.retold f).remember target position memo := by
  show Context.retold f (if context.limits.memoize then _ else _) =
    if context.limits.memoize then _ else _
  split <;> rfl

theorem Site.retold_attach (site : Site τ) (node : Option Node) :
    (site.attach node).retold f = (site.retold f).attach node := by
  cases node <;> rfl

theorem Result.retold_returned (target : Structure) (position : Nat) (host : OpenNode)
    (result : Result τ) :
    (result.returned target position host).retold f =
      (result.retold f).returned target position host := by
  obtain ⟨_ | verdict, after⟩ := result
  · rfl
  · refine Prod.ext rfl ?_
    refine (Site.retold_attach _ _).trans ?_
    rw [Site.retold, Context.retold_remember]
    rfl

theorem forgive_retold (result : Result τ) :
    Result.retold f (forgive result) = forgive (result.retold f) := by
  obtain ⟨_ | _, _⟩ := result <;> rfl

end Retold

/-! ## Courses and runs -/

variable [Tracer τ] [Tracer υ] {f : τ → υ}

/-- A course may be watched by another tracer. -/
theorem Proceeds.retold {mark : Nat} {task : Task} {input : Cursor} {site : Site τ}
    {chain : List Structure} {result : Result τ} (h : Proceeds g mark task input site chain result)
    (retells : Retells f) : Proceeds g mark task input (site.retold f) chain (result.retold f) := by
  induction h with
  | starved empty => exact .starved empty
  | @matched mark fuel kind input site statement fed found same =>
    show Proceeds g mark _ input _ []
      (_, ((((site.withFuel fuel).record _).retold f).reach _).push _)
    rw [Site.retold_record retells]
    exact .matched fed found same
  | mismatched fed other =>
    rw [Result.retold, Site.retold_record retells]
    exact .mismatched fed other
  | replayed fed known =>
    rw [Result.retold, Site.retold_attach, Site.retold_record retells]
    exact .replayed fed known
  | sub fed new entered ih =>
    rw [Result.retold_returned]
    exact .sub fed new ih
  | optional fed tried ih =>
    rw [forgive_retold]
    exact .optional fed ih
  | star fed repeated ih => exact .star fed ih
  | sequence fed parts ih => exact .sequence fed ih
  | choice fed branches ih => exact .choice fed ih
  | full full => exact .full full
  | @malformed mark target input site fault room body =>
    show Proceeds g mark _ input _ _ (_, ((site.descend.record _).retold f).ascend)
    rw [Site.retold_record retells]
    exact .malformed room body
  | @answered mark target m input site after verdict room body inside ih =>
    have room : ¬ (site.retold f).context.limits.recursion ≤ (site.retold f).context.depth := room
    rw [Site.retold_record retells] at ih
    rw [Result.retold, Site.retold_record retells]
    exact .answered room body ih
  | @halted mark target m input site after chain halt room body inside ih =>
    have room : ¬ (site.retold f).context.limits.recursion ≤ (site.retold f).context.depth := room
    rw [Site.retold_record retells] at ih
    exact .halted room body ih
  | noPartLeft => exact .noPartLeft
  | partHalted first ih => exact .partHalted ih
  | partFailed first failed ih => exact .partFailed ih failed
  | partSucceeded first succeeded others ih ihOthers => exact .partSucceeded ih succeeded ihOthers
  | noBranchLeft => exact .noBranchLeft
  | branchHalted first ih => exact .branchHalted ih
  | branchTaken first succeeded ih => exact .branchTaken ih succeeded
  | branchFailed first failed others ih ihOthers =>
    rw [Site.retold_record retells] at ihOthers
    exact .branchFailed ih failed ihOthers
  | roundsOver atEnd => exact .roundsOver atEnd
  | roundHalted more first ih => exact .roundHalted more ih
  | roundMalformed more first failed progress ih => exact .roundMalformed more ih failed progress
  | roundRefused more first failed noProgress ih => exact .roundRefused more ih failed noProgress
  | roundStuck more first succeeded stuck ih => exact .roundStuck more ih succeeded stuck
  | roundGained more first succeeded gained others ih ihOthers =>
    exact .roundGained more ih succeeded gained ihOthers

/-- A run of a task does the same under another tracer. -/
theorem Task.runWithin_retold (retells : Retells f) (mark : Nat) (task : Task) (input : Cursor)
    (site : Site τ) :
    Result.retold f (task.runWithin g site.context.fuel site.context.fuel mark input site) =
      task.runWithin g site.context.fuel site.context.fuel mark input (site.retold f) := by
  obtain ⟨chain, course⟩ :=
    exists_proceeds g mark task input (Nat.le_refl site.context.fuel) (Nat.le_refl _)
  exact ((course.retold retells).runWithin_eq (Nat.le_refl _) (Nat.le_refl _)).symm

theorem run_retold (retells : Retells f) (m : Matcher) (input : Cursor) (site : Site τ) :
    Result.retold f (run g m input site) = run g m input (site.retold f) :=
  Task.runWithin_retold retells 0 (.whole m) input site

variable (root : Structure) (limits : Limits) (statements : Array Statement)

theorem matchRoot_retold (retells : Retells f) (tracer : τ) :
    Result.retold f (matchRoot g root limits tracer statements) =
      matchRoot g root limits (f tracer) statements := by
  exact Task.runWithin_retold retells 0 (.inside root) _ ⟨.fresh limits tracer, .empty root⟩

theorem parseWith_retold (retells : Retells f) (tracer : τ) :
    parseWith g root limits (f tracer) statements =
      ((parseWith g root limits tracer statements).1,
        f (parseWith g root limits tracer statements).2) := by
  unfold parseWith
  rw [← matchRoot_retold root limits statements retells tracer]
  generalize matchRoot g root limits tracer statements = result
  obtain ⟨_ | _, _⟩ := result <;> rfl

end OrderedChoice
