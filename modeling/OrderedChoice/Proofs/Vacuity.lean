import OrderedChoice.Proofs.Growth
import OrderedChoice.Proofs.Halting

/-!
# Matching nothing

Whether a matcher is nullable decides what it can do with nothing. A match that succeeds without
consuming a statement is one of a nullable matcher, and where no statement is left, a match that
comes to an answer succeeds exactly if its matcher is nullable (`run_nullable`).
-/

namespace OrderedChoice

/-- No cursor comes after the end. -/
theorem Cursor.eq_of_isAtEnd {a b : Cursor} (atEnd : a.isAtEnd = true) (le : a ≤ b) : b = a := by
  obtain ⟨slice, position⟩ := le
  have last := isAtEnd_iff.1 atEnd
  have bound := b.position_le
  apply eq_of_position_eq slice.symm
  rw [← slice] at bound
  omega

variable {g : Grammar} {scope : Scope g} {host : String} {cost : Cost} {answer : Answer}
    {verdict : Verdict}

/-! ## The end of the input -/

theorem Answer.not_fails_success {start rest : Cursor} (le : start ≤ rest) (reach : Nat) :
    ¬ (bare (Verdict.success start rest) reach).Fails verdict := by
  rw [Verdict.success_of_le le]
  rintro ⟨⟨⟩, ⟨⟩⟩

theorem Answer.fails_after_iff (nodes : List Node) (reach : Nat) :
    (answer.after nodes reach).Fails verdict ↔ answer.Fails verdict := Iff.rfl

/-- Where no statement is left, the matcher does not fail. -/
def Matcher.HoldsAtEnd (scope : Scope g) (m : Matcher) : Prop :=
  ∀ host input cost answer verdict, input.isAtEnd = true →
    Evaluates g scope host (.whole m) input cost answer → ¬ answer.Fails verdict

/-- Parts that do not fail at the end make a sequence that does not. -/
theorem Matcher.holdsAtEnd_inTurn {parts : List Matcher} (each : ∀ m ∈ parts, m.HoldsAtEnd scope)
    {start rest : Cursor} (le : start ≤ rest) (atEnd : rest.isAtEnd = true)
    (evaluated : Evaluates g scope host (.inTurn start parts) rest cost answer) :
    ¬ answer.Fails verdict := by
  induction parts generalizing rest cost answer with
  | nil =>
    cases evaluated with
    | noPartLeft => exact Answer.not_fails_success le 0
  | cons part parts ih =>
    obtain ⟨holds, others⟩ := List.forall_mem_cons.1 each
    cases evaluated with
    | partHalted first halted => exact fun fails => fails.ne_error _ rfl
    | partFailed first fails => exact absurd fails (holds _ _ _ _ _ atEnd first)
    | partSucceeded first succeeds later =>
      -- the part has nowhere to go
      have moved := (first.covers (Cursor.le_refl _)).le_rest _ succeeds
      have stays := Cursor.eq_of_isAtEnd atEnd moved
      rw [stays] at later
      rw [Answer.fails_after_iff]
      exact ih others le atEnd later

/-- One branch that does not fail at the end is enough for a choice. -/
theorem Matcher.holdsAtEnd_firstOf {all branches : List Matcher} {description : String}
    {progress : Nat} (holds : ∃ m ∈ branches, m.HoldsAtEnd scope) {input : Cursor}
    (atEnd : input.isAtEnd = true)
    (evaluated :
      Evaluates g scope host (.firstOf all branches description progress) input cost answer) :
    ¬ answer.Fails verdict := by
  induction branches generalizing description progress cost answer with
  | nil =>
    obtain ⟨_, member, _⟩ := holds
    cases member
  | cons branch branches ih =>
    cases evaluated with
    | branchHalted first halted => exact fun fails => fails.ne_error _ rfl
    | branchTaken first succeeds => exact succeeds.not_fails
    | branchFailed first fails later =>
      obtain ⟨m, member, holds⟩ := holds
      rcases List.mem_cons.1 member with rfl | member
      · exact absurd fails (holds _ _ _ _ _ atEnd first)
      · rw [Answer.fails_after_iff]
        exact ih ⟨m, member, holds⟩ later

/-- A nullable matcher does not fail where no statement is left. -/
theorem Matcher.holdsAtEnd_of_nullable {m : Matcher} (null : m.nullable = true) :
    m.HoldsAtEnd scope := by
  induction m with
  | statement kind => cases null
  | sub target => cases null
  | optional body ih =>
    intro host input cost answer verdict atEnd evaluated
    cases evaluated with
    | @optional _ _ _ _ answer tried =>
      rintro ⟨ok, failed⟩
      cases outcome : answer.outcome with
      | error halt =>
        rw [Answer.forgiven_of_error outcome, outcome] at ok
        cases ok
      | ok verdict =>
        rw [Answer.forgiven_of_ok outcome] at ok
        obtain rfl := Except.ok.inj ok
        cases failed
  | star body ih =>
    intro host input cost answer verdict atEnd evaluated
    cases evaluated with
    | star repeated =>
      cases repeated with
      | roundsOver _ => exact Answer.not_fails_success input.le_refl 0
      | roundHalted more | roundMalformed more | roundRefused more | roundStuck more
      | roundGained more =>
        cases atEnd.symm.trans more
  | sequence a b rest ih =>
    intro host input cost answer verdict atEnd evaluated
    rw [nullable_sequence, List.all_eq_true] at null
    cases evaluated with
    | sequence parts =>
      exact holdsAtEnd_inTurn
        (fun m member => ih m member (null m member)) input.le_refl atEnd parts
  | choice a b rest ih =>
    intro host input cost answer verdict atEnd evaluated
    rw [nullable_choice, List.any_eq_true] at null
    obtain ⟨m, member, null⟩ := null
    cases evaluated with
    | choice branches => exact holdsAtEnd_firstOf ⟨m, member, ih m member null⟩ atEnd branches

/-! ## Runs -/

variable {τ : Type} [Tracer τ] {slice : Slice} {context : Context τ} {m : Matcher} {input : Cursor}

/-- A match that succeeds on nothing is one of a nullable matcher, and at the end of the input a
match succeeds if its matcher is nullable and fails otherwise. -/
theorem run_nullable (used : Used (Scope.all : Scope g) slice context)
    (m : Matcher) (on : input.slice = slice) (node : OpenNode)
    (ok : (run g m input ⟨context, node⟩).1 = .ok verdict) :
    (verdict.failed = false → verdict.consumed = 0 → m.nullable = true) ∧
      (input.isAtEnd = true → (verdict.failed = false ↔ m.nullable = true)) := by
  have accounts := used.accounts (Task.within_all (.whole m)) on node
  generalize run g m input ⟨context, node⟩ = result at accounts ok
  obtain ⟨outcome, after⟩ := result
  obtain rfl : outcome = .ok verdict := ok
  obtain ⟨cost, answer, evaluated, outcome, _⟩ := accounts.answered
  have covers := evaluated.covers input.le_refl
  have onNothing (succeeds : verdict.failed = false) (stays : verdict.rest = input) :
      m.nullable = true :=
    evaluated.nullable input.le_refl ⟨outcome, succeeds⟩ stays
  refine ⟨fun succeeds nothing => ?_, fun atEnd => ⟨fun succeeds => ?_, fun null => ?_⟩⟩
  · apply onNothing succeeds
    exact (covers.spans verdict ⟨outcome, succeeds⟩).matched_isEmpty_iff.1
      (Array.isEmpty_iff_size_eq_zero.2 nothing)
  · apply onNothing succeeds
    exact Cursor.eq_of_isAtEnd atEnd (covers.le_rest verdict ⟨outcome, succeeds⟩)
  · rw [← Bool.not_eq_true]
    intro failed
    exact Matcher.holdsAtEnd_of_nullable null _ _ _ _ _ atEnd evaluated ⟨outcome, failed⟩

/-- The context that is left when nested blocks were matched. -/
def afterBlock : Context Unit :=
  (run blocks (.sub block) (.start nested) ⟨.fresh ⟨60, 5, false⟩ (), .empty block⟩).2.context

/-- The end of the nested blocks and of the statement after them. -/
def nestedEnd : Cursor :=
  ⟨nested, 6, Nat.le_refl 6⟩

/-- A block that may be missing, and then any number of statements and blocks. -/
def looseBlocks : Matcher :=
  .sequence (.optional (.sub block)) (.star (.choice (.statement ⟨"do"⟩) (.sub block) [])) []

/-- After the last statement there may be loose blocks, but no block. -/
theorem run_nullable_looseBlocks :
    (∃ verdict, (run blocks looseBlocks nestedEnd ⟨afterBlock, .empty block⟩).1 = .ok verdict ∧
      verdict.consumed = 0 ∧ verdict.failed = false) ∧
    ∃ verdict, (run blocks (.sub block) nestedEnd ⟨afterBlock, .empty block⟩).1 = .ok verdict ∧
      verdict.failed ≠ false := by
  have used : Used (Scope.all : Scope blocks) nested afterBlock :=
    .ran (.fresh ⟨60, 5, false⟩ ()) (Task.within_all (.whole (.sub block)))
      (rfl : (Cursor.start nested).slice = nested) (.empty block)
  have on : nestedEnd.slice = nested := rfl
  constructor
  · obtain ⟨verdict, ok, nothing⟩ : ∃ verdict, (run blocks looseBlocks nestedEnd
        ⟨afterBlock, .empty block⟩).1 = .ok verdict ∧ verdict.consumed = 0 := ⟨_, rfl, rfl⟩
    exact ⟨verdict, ok, nothing, ((run_nullable used looseBlocks on (.empty block) ok).2 rfl).2 rfl⟩
  · obtain ⟨verdict, ok⟩ : ∃ verdict, (run blocks (.sub block) nestedEnd
        ⟨afterBlock, .empty block⟩).1 = .ok verdict := ⟨_, rfl⟩
    refine ⟨verdict, ok, fun succeeds => ?_⟩
    cases ((run_nullable used (.sub block) on (.empty block) ok).2 rfl).1 succeeds

end OrderedChoice
