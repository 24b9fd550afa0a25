import OrderedChoice.Proofs.Completion
import OrderedChoice.Proofs.Growth
import OrderedChoice.Proofs.Metering

/-!
# Sessions

A session runs matchers one after the other in one context, on one slice. Whatever became of the
earlier runs, the next one is as good as a run in a context of its own (`session_keeps`): no
structure is left open, and what is remembered saves fuel but changes no answer.
-/

namespace OrderedChoice

variable {τ υ : Type} [Tracer τ] [Tracer υ] {g : Grammar} {scope : Scope g} {slice : Slice}
  {context later : Context τ} {m : Matcher} {input : Cursor} {cost : Cost} {answer : Answer}

/-- The second context is the first one after runs of matchers over the structures of a scope, all
on one slice. -/
inductive Session (scope : Scope g) (slice : Slice) (context : Context τ) : Context τ → Prop where
  | begun : Session scope slice context context
  | ran {later : Context τ} (before : Session scope slice context later) {m : Matcher}
      (within : (Task.whole m).Within scope) {input : Cursor} (on : input.slice = slice)
      (node : OpenNode) :
      Session scope slice context (run g m input ⟨later, node⟩).2.context

namespace Session

/-- A session only adds runs. -/
theorem used (session : Session scope slice context later) (used : Used scope slice context) :
    Used scope slice later := by
  induction session with
  | begun => exact used
  | ran _ within on node ih => exact .ran ih within on node

/-- Limits and depth stay as they are, fuel is only spent, and the high-water mark only rises. -/
theorem follows (session : Session scope slice context later) : context.Follows later := by
  induction session with
  | begun => exact .refl _
  | @ran later _ m _ input _ node ih =>
    exact ih.trans ((run_metered g).follows m input ⟨later, node⟩)

end Session

/-- Where names are distinct, a matcher that is given the fuel and the room of its evaluation
settles on the answer. -/
theorem Used.settles (used : Used scope slice context) (named : scope.Named)
    (within : (Task.whole m).Within scope) (on : input.slice = slice) (node : OpenNode)
    (h : Evaluates g scope node.target.name (.whole m) input cost answer)
    (fuel : cost.fuel ≤ context.fuel) (room : cost.depth ≤ context.room) :
    Settles cost answer node ⟨context, node⟩ (run g m input ⟨context, node⟩) := by
  refine (used.accounts within on node).settles named within h ?_
  rintro ⟨halt, halted, cut⟩
  have ready : Ready scope node.target.name input.slice context.fuel context.fuel context.fuel
      ⟨context, node⟩ :=
    ⟨rfl, on ▸ used.coherent, Nat.le_refl _, Nat.le_refl _, Nat.le_refl _⟩
  have lacks := h.lacks named cut 0 ready within halted
  cases halt with
  | fuelExhausted => exact Nat.not_lt.2 fuel lacks
  | recursionLimitExceeded => exact Nat.not_lt.2 room lacks
  | emptyRepetition | malformedBody | cursorOutOfRange => exact lacks

/-- A session over structures of distinct names leaves no structure open and never forgets how far
it has got, whatever its runs came to. If then a matcher has an answer in a fresh context without a
memo table that has the fuel the session has left, it has the same answer in the session, and grows
the same nodes. -/
theorem session_keeps (named : scope.Named) {limits : Limits} {tracer : τ}
    (first : Session scope slice (.fresh limits tracer) context)
    (rest : Session scope slice context later) :
    later.depth = 0 ∧ context.furthest ≤ later.furthest ∧
    ∀ (m : Matcher) (input : Cursor) (tracer' : υ) (host host' : OpenNode) (verdict : Verdict)
      (after : Site υ),
    (Task.whole m).Within scope → input.slice = slice → host'.target = host.target →
    run g m input ⟨.fresh ⟨later.fuel, limits.recursion, false⟩ tracer', host'⟩ =
      (.ok verdict, after) →
    (run g m input ⟨later, host⟩).1 = .ok verdict ∧
      ∃ nodes, after.node = host'.grow nodes ∧
        (run g m input ⟨later, host⟩).2.node = host.grow nodes := by
  have follows := first.follows.trans rest.follows
  refine ⟨follows.depth, rest.follows.furthest, ?_⟩
  intro m input tracer' host host' verdict after within on same ok
  have alone := Used.accounts (.fresh ⟨later.fuel, limits.recursion, false⟩ tracer') within on host'
  rw [ok] at alone
  obtain ⟨cost, answer, evaluated, outcome, settles⟩ := alone.answered
  rw [same] at evaluated
  -- without a memo table the run has spent exactly the cost of its evaluation
  obtain ⟨spent, depth⟩ := settles.exact rfl
  have fuel : cost.fuel ≤ later.fuel := by
    have spent : later.fuel = after.context.fuel + cost.fuel := spent
    omega
  have room : later.room = limits.recursion := by
    rw [follows.room]
    rfl
  have shared :=
    (rest.used (first.used (.fresh _ _))).settles named within on host evaluated fuel (room ▸ depth)
  have answered : (run g m input ⟨later, host⟩).1 = .ok verdict := shared.outcome.trans outcome
  refine ⟨answered, if verdict.failed then [] else answer.nodes, ?_, ?_⟩
  · have node : after.node = _ := settles.node verdict rfl
    rw [node]
    split
    · exact (OpenNode.grow_nil _).symm
    · rfl
  · rw [shared.node verdict answered]
    split
    · exact (OpenNode.grow_nil _).symm
    · rfl

/-- A context with a memo table in which a repetition got stuck. -/
def stuckContext : Context Unit :=
  (run blocks (.star (.optional (.statement ⟨"do"⟩))) (.start nested)
    ⟨.fresh ⟨60, 5, true⟩ (), .empty block⟩).2.context

/-- After a repetition that got stuck, a block is matched as if nothing had happened. -/
theorem session_keeps_stuck :
    (run blocks (.star (.optional (.statement ⟨"do"⟩))) (.start nested)
      ⟨.fresh ⟨60, 5, true⟩ (), .empty block⟩).1 = .error (.emptyRepetition "Block") ∧
    stuckContext.depth = 0 ∧
    ∃ verdict, (run blocks (.sub block) (.start nested) ⟨stuckContext, .empty block⟩).1 =
      .ok verdict ∧ verdict.failed = false ∧ verdict.consumed = 5 := by
  have named : (Scope.below block : Scope blocks).Named :=
    fun s hs t ht _ => (eq_block_of_reaches hs).trans (eq_block_of_reaches ht).symm
  have on : (Cursor.start nested).slice = nested := rfl
  have first :
      Session (Scope.below block : Scope blocks) nested (.fresh ⟨60, 5, true⟩ ()) stuckContext :=
    .ran .begun (fun _ earlier => absurd earlier List.not_mem_nil) on _
  obtain ⟨depth, _, same⟩ := session_keeps (υ := Unit) named first .begun
  obtain ⟨verdict, after, ok, failed, consumed⟩ :
    ∃ verdict after, run blocks (.sub block) (.start nested)
      ⟨.fresh ⟨stuckContext.fuel, 5, false⟩ (), .empty block⟩ = (.ok verdict, after) ∧
        verdict.failed = false ∧ verdict.consumed = 5 := ⟨_, _, rfl, rfl, rfl⟩
  have within : (Task.whole (.sub block)).Within (Scope.below block : Scope blocks) :=
    Task.within_inside (Scope.root_mem_below block)
  obtain ⟨answered, _⟩ := same _ _ () (.empty block) (.empty block) verdict after within on rfl ok
  exact ⟨rfl, depth, verdict, answered, failed, consumed⟩

end OrderedChoice
