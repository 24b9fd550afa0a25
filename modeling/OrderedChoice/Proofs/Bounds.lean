import OrderedChoice.Proofs.Course
import OrderedChoice.Proofs.Growth

/-!
# How far cursors get

On one slice no cursor goes back behind the beginning of the matcher that it comes from, nor beyond
the furthest statement that was consumed, and no failure tells of more statements than that. One
invariant over verdicts, memo table and high-water mark carries this through every run, also where
structures of one name share what is remembered (`Proceeds.bounded`).
-/

namespace OrderedChoice

variable {τ : Type} {g : Grammar} {start input rest : Cursor} {verdict : Verdict} {furthest : Nat}

/-! ## Verdicts -/

/-- A verdict on what begins at a cursor, in a match that has got so far. -/
structure Verdict.Bounded (verdict : Verdict) (start : Cursor) (furthest : Nat) : Prop where
  le_rest : start ≤ verdict.rest
  rest_le : verdict.rest.position ≤ max start.position furthest
  progress_le : 0 < verdict.progress → start.position + verdict.progress ≤ furthest

namespace Verdict.Bounded

theorem mono {later : Nat} (h : verdict.Bounded start furthest) (le : furthest ≤ later) :
    verdict.Bounded start later where
  le_rest := h.le_rest
  rest_le := by
    have := h.rest_le
    omega
  progress_le pos := Nat.le_trans (h.progress_le pos) le

theorem failure {description : String} {progress : Nat}
    (le : 0 < progress → start.position + progress ≤ furthest) :
    (Verdict.failure start description progress).Bounded start furthest :=
  ⟨start.le_refl, Nat.le_max_left _ _, le⟩

theorem choiceFailure {all : List Matcher} {description : String} {progress : Nat}
    (le : 0 < progress → input.position + progress ≤ furthest) :
    (choiceFailure all input description progress).Bounded input furthest := by
  unfold OrderedChoice.choiceFailure
  split
  · exact failure fun pos => absurd pos (Nat.lt_irrefl 0)
  · exact failure le

theorem refuseEmpty (h : verdict.Bounded start furthest) (target : Structure) :
    (verdict.refuseEmpty target).Bounded start furthest := by
  unfold Verdict.refuseEmpty
  split
  · exact ⟨h.le_rest, h.rest_le, h.progress_le⟩
  · exact h

end Verdict.Bounded

/-! ## Contexts -/

/-- A context of a match on a slice: it has got no further than the slice, and remembers nothing
that goes further than it has got. -/
structure Context.Bounded (context : Context τ) (slice : Slice) : Prop where
  furthest_le : context.furthest ≤ slice.size
  memos : ∀ (name : String) (position : Nat) (memo : Memo),
      context.memos[(name, position)]? = some memo →
      ∃ input : Cursor, input.slice = slice ∧ input.position = position ∧
      memo.verdict.Bounded input context.furthest

namespace Context.Bounded

variable {context after : Context τ} {slice : Slice}

theorem fresh (limits : Limits) (tracer : τ) (slice : Slice) :
    (Context.fresh limits tracer).Bounded slice where
  furthest_le := Nat.zero_le _
  memos := by
    intro name position memo found
    rw [Context.fresh, Std.HashMap.getElem?_empty] at found
    cases found

/-- Only the memo table and the high-water mark matter. -/
theorem next (h : context.Bounded slice) (memos : after.memos = context.memos)
    (le : context.furthest ≤ after.furthest) (furthest_le : after.furthest ≤ slice.size) :
    after.Bounded slice where
  furthest_le := furthest_le
  memos := by
    intro name position memo found
    rw [memos] at found
    obtain ⟨input, hs, hp, bounded⟩ := h.memos name position memo found
    exact ⟨input, hs, hp, bounded.mono le⟩

theorem same (h : context.Bounded slice) (memos : after.memos = context.memos)
    (furthest : after.furthest = context.furthest) : after.Bounded slice :=
  h.next memos (Nat.le_of_eq furthest.symm) (furthest ▸ h.furthest_le)

theorem remembered (h : context.Bounded input.slice) {target : Structure} {memo : Memo}
    (found : context.remembered? target input.position = some memo) :
    memo.verdict.Bounded input context.furthest := by
  unfold Context.remembered? at found
  split at found
  · obtain ⟨input', hs, hp, bounded⟩ := h.memos _ _ _ found
    rwa [Cursor.eq_of_position_eq hs hp] at bounded
  · cases found

theorem remember (h : context.Bounded input.slice) {memo : Memo}
    (bounded : memo.verdict.Bounded input context.furthest) (target : Structure) :
    (context.remember target input.position memo).Bounded input.slice := by
  refine ⟨(Context.furthest_remember context target _ memo).symm ▸ h.furthest_le, ?_⟩
  rw [Context.furthest_remember]
  intro name position other found
  unfold Context.remember at found
  split at found
  · rw [Std.HashMap.getElem?_insert] at found
    split at found
    · rename_i same
      obtain ⟨rfl, rfl⟩ := Prod.mk.inj (eq_of_beq same)
      obtain rfl := Option.some.inj found
      exact ⟨input, rfl, rfl, bounded⟩
    · exact h.memos name position other found
  · exact h.memos name position other found

end Context.Bounded

/-! ## Results and tasks -/

/-- The result of what begins at a cursor. -/
structure Result.Bounded (result : Result τ) (start : Cursor) : Prop where
  context : result.2.context.Bounded start.slice
  inRange : result.1 ≠ .error .cursorOutOfRange
  verdict : ∀ verdict, result.1 = .ok verdict → verdict.Bounded start result.2.context.furthest

namespace Result.Bounded

variable {after : Site τ}

theorem halt {halt : Halt} (context : after.context.Bounded start.slice)
    (inRange : halt ≠ .cursorOutOfRange) : Result.Bounded (.error halt, after) start :=
  ⟨context, fun same => inRange (Except.error.inj same), nofun⟩

theorem answer (context : after.context.Bounded start.slice)
    (bounded : verdict.Bounded start after.context.furthest) :
    Result.Bounded (.ok verdict, after) start := by
  refine ⟨context, nofun, ?_⟩
  rintro _ ⟨⟩
  exact bounded

theorem success (context : after.context.Bounded start.slice) (le : start ≤ rest)
    (rest_le : rest.position ≤ max start.position after.context.furthest) :
    Result.Bounded (Verdict.success start rest, after) start := by
  rw [Verdict.success_of_le le]
  exact .answer context ⟨le, rest_le, fun pos => absurd pos (Nat.lt_irrefl 0)⟩

end Result.Bounded

/-- The statements before the best failure of a choice. -/
def Task.progress : Task → Nat
  | firstOf _ _ _ progress => progress
  | _ => 0

/-- A task that has come to a cursor, with a context of a match on its slice. -/
structure Task.Bounded (task : Task) (input : Cursor) (context : Context τ) : Prop where
  origin_le : task.origin input ≤ input
  le_furthest : input.position ≤ max (task.origin input).position context.furthest
  progress_le : 0 < task.progress → input.position + task.progress ≤ context.furthest
  context : context.Bounded input.slice

namespace Task.Bounded

variable {task : Task} {context : Context τ} {after : Site τ}

theorem begin (bounded : context.Bounded input.slice) (origin : task.origin input = input)
    (fresh : task.progress = 0) : task.Bounded input context where
  context := bounded
  origin_le := origin.symm ▸ input.le_refl
  le_furthest := by
    rw [origin]
    exact Nat.le_max_left _ _
  progress_le pos := absurd fresh (Nat.ne_of_gt pos)

/-- A part of a task begins where the task has come to. -/
theorem part (underWay : task.Bounded input context) (m : Matcher) :
    (whole m).Bounded input context :=
  .begin underWay.context rfl rfl

/-- What is left of a task after a part. -/
theorem further {others : Task} (underWay : task.Bounded rest context)
    (part : Result.Bounded (.ok verdict, after) rest) (follows : context.Follows after.context)
    (origin : others.origin verdict.rest = task.origin rest) (fresh : others.progress = 0) :
    others.Bounded verdict.rest after.context := by
  have passed := part.verdict verdict rfl
  refine ⟨origin ▸ Cursor.le_trans underWay.origin_le passed.le_rest, ?_,
    fun pos => absurd fresh (Nat.ne_of_gt pos), passed.le_rest.1 ▸ part.context⟩
  have before := underWay.le_furthest
  have later := follows.furthest
  have reached : verdict.rest.position ≤ max rest.position after.context.furthest := passed.rest_le
  rw [origin]
  omega

/-- What is left of a choice after a branch that has failed. -/
theorem nextBranch [Tracer τ] {all branches : List Matcher}
    {branch : Matcher} {description other : String} {progress : Nat}
    (underWay : (firstOf all (branch :: branches) description progress).Bounded input context)
    (failed : Result.Bounded (.ok verdict, after) input) (follows : context.Follows after.context)
    (event : Event) :
    (firstOf all branches other
      (if progress < verdict.progress then verdict.progress else progress)).Bounded
      input (after.record event).context := by
  refine ⟨input.le_refl, Nat.le_max_left _ _, ?_, failed.context.same rfl rfl⟩
  show 0 < ite _ _ _ → input.position + ite _ _ _ ≤ after.context.furthest
  split
  · exact (failed.verdict verdict rfl).progress_le
  · exact fun pos => Nat.le_trans (underWay.progress_le pos) follows.furthest

end Task.Bounded

/-! ## Runs -/

variable [Tracer τ] {mark : Nat} {task : Task} {site : Site τ} {chain : List Structure}
    {result : Result τ}

/-- Every run keeps to the bounds, whatever becomes of it. -/
theorem Proceeds.bounded (h : Proceeds g mark task input site chain result)
    (underWay : task.Bounded input site.context) : result.Bounded (task.origin input) := by
  induction h with
  | starved _ => exact .halt underWay.context nofun
  | @matched _ _ _ input site statement _ found _ =>
    have here := Cursor.position_next (Cursor.isAtEnd_eq_false found)
    have within : input.position + 1 ≤ input.slice.size := here ▸ input.next.position_le
    have furthest := Nat.max_le.2 ⟨underWay.context.furthest_le, within⟩
    refine .success (underWay.context.next rfl (Nat.le_max_left _ _) furthest) input.le_next ?_
    rw [here]
    exact Nat.le_trans (Nat.le_max_right site.context.furthest _) (Nat.le_max_right _ _)
  | mismatched _ _ =>
    exact .answer (underWay.context.same rfl rfl) (.failure fun pos => absurd pos (Nat.lt_irrefl 0))
  | replayed _ known =>
    refine .answer ?_ ?_
    · rw [Site.context_attach]
      exact underWay.context.same rfl rfl
    · rw [Site.context_attach]
      exact underWay.context.remembered known
  | @sub _ _ target _ _ _ result _ _ _ ih =>
    have inside := ih (.begin (underWay.context.same rfl rfl) rfl rfl)
    obtain ⟨halt | verdict, after⟩ := result
    · exact .halt inside.context fun same => inside.inRange (congrArg _ same)
    · have bounded := (inside.verdict verdict rfl).refuseEmpty target
      refine .answer ?_ ?_
      · rw [Site.context_attach]
        exact inside.context.remember bounded target
      · rw [Site.context_attach, Context.furthest_remember]
        exact bounded
  | @optional _ _ _ _ _ _ result _ _ ih =>
    have tried := ih (.begin (underWay.context.same rfl rfl) rfl rfl)
    obtain ⟨halt | verdict, after⟩ := result
    · exact tried
    · have bounded := tried.verdict verdict rfl
      exact .answer tried.context ⟨bounded.le_rest, bounded.rest_le, bounded.progress_le⟩
  | star _ _ ih | sequence _ _ ih | choice _ _ ih =>
    exact ih (.begin (underWay.context.same rfl rfl) rfl rfl)
  | full _ => exact .halt underWay.context nofun
  | malformed _ _ => exact .halt (underWay.context.same rfl rfl) nofun
  | answered _ _ _ ih =>
    have inside := ih (.begin (underWay.context.same rfl rfl) rfl rfl)
    exact .answer (inside.context.same rfl rfl) (inside.verdict _ rfl)
  | halted _ _ _ ih =>
    have inside := ih (.begin (underWay.context.same rfl rfl) rfl rfl)
    exact .halt (inside.context.same rfl rfl) fun same => inside.inRange (congrArg _ same)
  | noPartLeft =>
    exact .success (underWay.origin_le.1 ▸ underWay.context) underWay.origin_le underWay.le_furthest
  | partHalted _ ih =>
    have part := ih (underWay.part _)
    exact .halt (underWay.origin_le.1 ▸ part.context) fun same => part.inRange (congrArg _ same)
  | @partFailed _ start rest _ _ site after verdict first _ ih =>
    have part := ih (underWay.part _)
    refine .answer (underWay.origin_le.1 ▸ part.context.same rfl rfl) (.failure fun _ => ?_)
    have before : rest.position ≤ max start.position site.context.furthest := underWay.le_furthest
    have behind : start.position ≤ rest.position := underWay.origin_le.2
    have later : site.context.furthest ≤ after.context.furthest := first.follows.furthest
    show start.position + (rest.position - start.position) ≤ after.context.furthest
    omega
  | partSucceeded first _ _ ih ihOthers =>
    exact ihOthers (underWay.further (ih (underWay.part _)) first.follows rfl rfl)
  | noBranchLeft => exact .answer underWay.context (.choiceFailure underWay.progress_le)
  | branchHalted _ ih | branchTaken _ _ ih => exact ih (underWay.part _)
  | branchFailed first _ _ ih ihOthers =>
    exact ihOthers (underWay.nextBranch (ih (underWay.part _)) first.follows _)
  | roundsOver _ =>
    exact .success (underWay.origin_le.1 ▸ underWay.context) underWay.origin_le underWay.le_furthest
  | roundHalted _ _ ih =>
    have round := ih (underWay.part _)
    exact .halt (underWay.origin_le.1 ▸ round.context) fun same => round.inRange (congrArg _ same)
  | @roundMalformed _ start rest _ site after verdict _ first _ pos ih =>
    -- the statements are counted from the round on, which begins no earlier than the repetition
    have round := ih (underWay.part _)
    refine .answer (underWay.origin_le.1 ▸ round.context.same rfl rfl) (.failure fun _ => ?_)
    have behind : start.position ≤ rest.position := underWay.origin_le.2
    have reached : rest.position + verdict.progress ≤ after.context.furthest :=
      (round.verdict _ rfl).progress_le pos
    show start.position + verdict.progress ≤ after.context.furthest
    omega
  | @roundRefused _ start rest _ site after _ _ first _ _ ih =>
    have round := ih (underWay.part _)
    have before : rest.position ≤ max start.position site.context.furthest := underWay.le_furthest
    have later : site.context.furthest ≤ after.context.furthest := first.follows.furthest
    refine .success (underWay.origin_le.1 ▸ round.context) underWay.origin_le ?_
    show rest.position ≤ max start.position after.context.furthest
    omega
  | roundStuck _ _ _ _ ih =>
    exact .halt (underWay.origin_le.1 ▸ (ih (underWay.part _)).context) nofun
  | roundGained _ first _ _ _ ih ihOthers =>
    exact ihOthers (underWay.further (ih (underWay.part _)) first.follows rfl rfl)

/-- Whatever was run on the slice, the context keeps to the bounds. -/
theorem Used.bounded {scope : Scope g} {slice : Slice} {context : Context τ}
    (used : Used scope slice context) : context.Bounded slice := by
  induction used with
  | fresh limits tracer => exact .fresh limits tracer slice
  | @ran context _ m _ input on node ih =>
    subst on
    obtain ⟨chain, course⟩ := run_proceeds g 0 m input ⟨context, node⟩
    exact (course.bounded (.begin ih rfl rfl)).context

end OrderedChoice
