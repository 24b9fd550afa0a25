import OrderedChoice.Proofs.Halting
import OrderedChoice.Proofs.Lookahead

/-!
# Matching predictive grammars

A predictive grammar is matched without regret. Where the input does not begin as a matcher's words
do, a match stays where it is (`Evaluates.stays`); where it begins with a word, and does not go on
as a longer word would, a match consumes this word and nothing else (`Evaluates.consumes`). So a
parse is complete exactly if the statements are a word of the root's body
(`parseWith_isComplete_iff`).
-/

namespace OrderedChoice

open scoped Computability

variable {g : Grammar} {scope : Scope g} {look : Lookahead} {host : String} {task : Task}
    {input : Cursor}
  {cost : Cost} {answer : Answer} {verdict : Verdict} {word rest : List Kind}

/-! ## The kinds ahead -/

namespace Cursor

/-- The kinds of the statements that are left. -/
def kinds (cursor : Cursor) : List Kind :=
  (cursor.slice.statements.toList.drop cursor.position).map (·.kind)

theorem kinds_of_first? {cursor : Cursor} {statement : Statement}
    (h : cursor.first? = some statement) : cursor.kinds = statement.kind :: cursor.next.kinds := by
  obtain ⟨lt, get⟩ := Array.getElem?_eq_some_iff.1 h
  rw [kinds, kinds, slice_next, position_next (isAtEnd_eq_false h),
    List.drop_eq_getElem_cons (by rwa [Array.length_toList]), List.map_cons,
    Array.getElem_toList, get]

theorem kinds_eq_nil_iff {cursor : Cursor} : cursor.kinds = [] ↔ cursor.isAtEnd = true := by
  rw [kinds, List.map_eq_nil_iff, List.drop_eq_nil_iff, Array.length_toList, isAtEnd,
    decide_eq_true_iff]
  rfl

end Cursor

/-- The word does not begin with any of the kinds. -/
def Avoids (word kinds : List Kind) : Prop :=
  ∀ kind ∈ word.head?, kind ∉ kinds

theorem Avoids.mono {kinds kinds' : List Kind} (h : Avoids word kinds) (subset : kinds' ⊆ kinds) :
    Avoids word kinds' :=
  fun kind head member => h kind head (subset member)

theorem avoids_nil (kinds : List Kind) : Avoids [] kinds := nofun

theorem avoids_append {kinds : List Kind} (ofWord : word ≠ [] → Avoids word kinds)
    (ofRest : word = [] → Avoids rest kinds) : Avoids (word ++ rest) kinds := by
  cases word with
  | nil => exact ofRest rfl
  | cons kind word => exact ofWord nofun

/-- A word that begins with kinds that are apart from others avoids those. -/
theorem avoids_of_opening {nullable : Bool} {kinds starts : List Kind}
    (opens : word ∈ opening nullable starts) (h : apart kinds starts = true) : Avoids word kinds :=
  fun kind head member => not_mem_of_apart h member (opens.2 kind head)

/-! ## Tasks -/

namespace Task

/-- Nothing of the task has been done yet. -/
def Fresh : Task → Cursor → Prop
  | whole _, _ => True
  | inTurn start _, input => start = input
  | firstOf _ _ _ progress, _ => progress = 0
  | rounds start _, input => start = input
  | inside _, _ => True

def starts (look : Lookahead) : Task → List Kind
  | whole m => m.starts look
  | inTurn _ parts => Matcher.startsInTurn look parts
  | firstOf _ branches _ _ => Matcher.startsOfAny look branches
  | rounds _ body => body.starts look
  | inside target => look.starts target

def continues (look : Lookahead) : Task → List Kind
  | whole m => m.continues look
  | inTurn _ parts => Matcher.continuesInTurn look parts
  | firstOf _ branches _ _ => Matcher.continuesOfAny look branches
  | rounds _ body => body.starts look ++ body.continues look
  | inside target => look.continues target

def predictive (look : Lookahead) : Task → Bool
  | whole m => m.predictive look
  | inTurn _ parts => Matcher.predictiveInTurn look parts
  | firstOf _ branches _ _ => Matcher.predictiveOfAny look branches
  | rounds _ body => apart (body.continues look) (body.starts look) && body.predictive look
  | inside _ => true

/-- The words that the task can consume. -/
def words (g : Grammar) : Task → FormalLanguage Kind
  | whole m => g.words m
  | inTurn _ parts => (parts.map g.words).prod
  | firstOf _ branches _ _ => (branches.map g.words).sum
  | rounds _ body => (g.words body)∗
  | inside target => {word | ∃ m, g.body target = .ok m ∧ word ∈ g.words m}

end Task

/-! ## Matches that stay -/

theorem Verdict.progress_refuseEmpty (verdict : Verdict) (target : Structure) :
    (verdict.refuseEmpty target).progress = verdict.progress := by
  unfold refuseEmpty
  split <;> rfl

theorem Answer.outcome_forgiven_eq_ok_iff : answer.forgiven.outcome = .ok verdict ↔
    ∃ inner, answer.outcome = .ok inner ∧ verdict = { inner with failed := false } := by
  cases outcome : answer.outcome with
  | error _ =>
    rw [forgiven_of_error outcome, outcome]
    simp
  | ok inner =>
    rw [forgiven_of_ok outcome]
    simp [eq_comm]

theorem Answer.outcome_enclosed_eq_ok_iff {target : Structure} :
    (answer.enclosed target).outcome = .ok verdict ↔
    ∃ inner, answer.outcome = .ok inner ∧ verdict = inner.refuseEmpty target := by
  cases outcome : answer.outcome with
  | error _ =>
    rw [enclosed_of_error outcome]
    simp [bare]
  | ok inner =>
    rw [enclosed_of_ok outcome]
    simp [eq_comm]

/-- Where the input does not begin as the words of a task do, the task ends where it began and has
not tried anything further on. -/
theorem Evaluates.stays (fits : look.Fits g) (named : scope.Named)
    (h : Evaluates g scope host task input cost answer) (within : task.Within scope)
    (fresh : task.Fresh input) (ahead : Avoids input.kinds (task.starts look))
    (ok : answer.outcome = .ok verdict) : verdict.rest = input ∧ verdict.progress = 0 := by
  induction h generalizing verdict with
  | matched found same =>
    rw [Cursor.kinds_of_first? found, same] at ahead
    exact absurd (List.mem_singleton.2 rfl) (ahead _ rfl)
  | mismatched _ =>
    obtain rfl := Except.ok.inj ok
    exact ⟨rfl, rfl⟩
  | sub known name _ ih =>
    obtain rfl := named _ known _ within.mem name
    obtain ⟨inner, isOk, rfl⟩ := Answer.outcome_enclosed_eq_ok_iff.1 ok
    rw [Verdict.rest_refuseEmpty, Verdict.progress_refuseEmpty]
    exact ih (Task.within_inside known) trivial ahead isOk
  | optional _ ih =>
    obtain ⟨inner, isOk, rfl⟩ := Answer.outcome_forgiven_eq_ok_iff.1 ok
    have stays := ih within trivial ahead isOk
    exact stays
  | star _ ih => exact ih within rfl ahead ok
  | sequence _ ih =>
    rw [Task.starts, Matcher.starts_sequence] at ahead
    exact ih within.sequence rfl ahead ok
  | choice _ ih =>
    rw [Task.starts, Matcher.starts_choice] at ahead
    exact ih within.choice rfl ahead ok
  | malformed _ => cases ok
  | entered body _ ih => exact ih (within.body body) trivial (ahead.mono (fits.starts body)) ok
  | noPartLeft =>
    obtain ⟨_, _, rfl⟩ := Verdict.success_eq_ok_iff.1 ok
    exact ⟨rfl, rfl⟩
  | partHalted _ _ _ => cases ok
  | partFailed _ _ _ =>
    obtain rfl := Except.ok.inj ok
    cases fresh
    exact ⟨rfl, Nat.sub_self _⟩
  | partSucceeded first succeeds _ ih ihOthers =>
    obtain ⟨same, _⟩ := ih within.part trivial (ahead.mono (List.subset_append_left _ _)) succeeds.1
    -- the part has succeeded on nothing, so that the next one begins here
    have null : Matcher.nullable _ = true := first.nullable (Cursor.le_refl _) succeeds same
    rw [Task.starts, Matcher.startsInTurn, if_pos null, ← same] at ahead
    rw [← same]
    exact ihOthers within.parts (fresh.trans same.symm)
      (ahead.mono (List.subset_append_right _ _)) ok
  | noBranchLeft =>
    cases fresh
    obtain rfl := Except.ok.inj ok
    exact ⟨rfl, rfl⟩
  | branchHalted _ _ _ => cases ok
  | branchTaken _ _ ih =>
    exact ih within.branch trivial (ahead.mono (List.subset_append_left _ _)) ok
  | branchFailed _ fails _ ih ihOthers =>
    obtain ⟨_, noProgress⟩ :=
      ih within.branch trivial (ahead.mono (List.subset_append_left _ _)) fails.1
    cases fresh
    refine ihOthers within.branches ?_ (ahead.mono (List.subset_append_right _ _)) ok
    rw [noProgress]
    rfl
  | roundsOver _ =>
    cases fresh
    obtain ⟨_, _, rfl⟩ := Verdict.success_eq_ok_iff.1 ok
    exact ⟨rfl, rfl⟩
  | roundHalted _ _ _ _ => cases ok
  | roundMalformed _ _ fails progress ih =>
    obtain ⟨_, noProgress⟩ := ih within trivial ahead fails.1
    omega
  | roundRefused _ _ _ _ _ =>
    obtain ⟨_, _, rfl⟩ := Verdict.success_eq_ok_iff.1 ok
    exact ⟨rfl, rfl⟩
  | roundStuck _ _ _ _ _ => cases ok
  | roundGained _ _ succeeds gained _ ih _ =>
    obtain ⟨same, _⟩ := ih within trivial ahead succeeds.1
    exact absurd (congrArg Cursor.position same) gained

/-! ## Words ahead -/

/-- The input begins with a word of the task, and does not go on as a longer word would. -/
structure Ahead (g : Grammar) (look : Lookahead) (task : Task) (input : Cursor)
    (word rest : List Kind) : Prop where
  member : word ∈ task.words g
  kinds : input.kinds = word ++ rest
  stops : Avoids rest (task.continues look)

namespace Ahead

variable {start : Cursor} {part branch body : Matcher} {parts all branches : List Matcher}
  {description : String} {progress : Nat}

theorem statement {kind : Kind} (h : Ahead g look (.whole (.statement kind)) input word rest) :
    input.kinds = kind :: rest := by
  have member := h.member
  rw [Task.words, Grammar.words_statement] at member
  obtain rfl : word = [kind] := member
  exact h.kinds

theorem sub {target : Structure} (h : Ahead g look (.whole (.sub target)) input word rest) :
    Ahead g look (.inside target) input word rest ∧ word ≠ [] := by
  obtain ⟨_, conforms, rfl⟩ := h.member
  cases conforms with
  | @sub _ m children body grown filled =>
    rw [Node.kindsOf_branch] at h ⊢
    exact ⟨⟨⟨m, body, children, grown, rfl⟩, h.kinds, h.stops⟩,
      fun empty => filled (Node.kindsOf_eq_nil_iff.1 empty)⟩

theorem optional (h : Ahead g look (.whole (.optional body)) input word rest) :
    Ahead g look (.whole body) input word rest ∨ input.kinds = rest ∧
    Avoids input.kinds (body.starts look) := by
  have member := h.member
  rw [Task.words, Grammar.words_optional] at member
  rcases member with rfl | given
  · exact .inr ⟨h.kinds, h.kinds ▸ h.stops.mono (List.subset_append_left _ _)⟩
  · exact .inl ⟨given, h.kinds, h.stops.mono (List.subset_append_right _ _)⟩

theorem star (h : Ahead g look (.whole (.star body)) input word rest) :
    Ahead g look (.rounds start body) input word rest := by
  have member := h.member
  rw [Task.words, Grammar.words_star] at member
  exact ⟨member, h.kinds, h.stops⟩

theorem sequence {a b : Matcher} (h : Ahead g look (.whole (.sequence a b parts)) input word rest) :
    Ahead g look (.inTurn start (a :: b :: parts)) input word rest := by
  obtain ⟨member, kinds, stops⟩ := h
  rw [Task.words, Grammar.words_sequence] at member
  rw [Task.continues, Matcher.continues_sequence] at stops
  exact ⟨member, kinds, stops⟩

theorem choice {a b : Matcher} (h : Ahead g look (.whole (.choice a b branches)) input word rest) :
    Ahead g look (.firstOf all (a :: b :: branches) description progress) input word rest := by
  obtain ⟨member, kinds, stops⟩ := h
  rw [Task.words, Grammar.words_choice] at member
  rw [Task.continues, Matcher.continues_choice] at stops
  exact ⟨member, kinds, stops⟩

/-- A word of a sequence is one of the first part, where the words of the others go on. -/
theorem inTurn (fits : look.Fits g)
    (h : Ahead g look (.inTurn start (part :: parts)) input word rest)
    (predictive : (Task.inTurn start (part :: parts)).predictive look = true) :
    ∃ first others, Ahead g look (.whole part) input first (others ++ rest) ∧
      ∀ middle : Cursor, middle.kinds = others ++ rest →
      Ahead g look (.inTurn start parts) middle others rest := by
  obtain ⟨first, isFirst, others, areOthers, rfl⟩ := mem_prod_map_cons.1 h.member
  have opens := prod_le_opening (fun m _ => fits.words_le_opening m) areOthers
  have disjoint := (Matcher.predictiveInTurn_cons_iff.1 predictive).1
  refine ⟨first, others, ⟨isFirst, by rw [h.kinds, List.append_assoc], ?_⟩,
    fun middle kinds => ⟨areOthers, kinds, h.stops.mono (List.subset_append_right _ _)⟩⟩
  refine avoids_append (fun _ => avoids_of_opening opens disjoint) fun empty => ?_
  -- the other parts consume nothing here, so what stops the sequence stops its first part
  have stops := h.stops
  rw [Task.continues, Matcher.continuesInTurn, Matcher.allNullable_eq_all, if_pos (opens.1 empty)]
    at stops
  exact stops.mono (List.subset_append_left _ _)

/-- A word of a choice is one of the first branch, or one of the others that the first cannot
begin. -/
theorem firstOf (fits : look.Fits g)
    (h : Ahead g look (.firstOf all (branch :: branches) description progress) input word rest)
    (predictive :
      (Task.firstOf all (branch :: branches) description progress).predictive look = true) :
    Ahead g look (.whole branch) input word rest ∨ Avoids input.kinds (branch.starts look) ∧
      ∀ description' progress', Ahead g look
        (.firstOf all branches description' progress') input word rest := by
  obtain ⟨_, disjoint, _, others⟩ := Matcher.predictiveOfAny_cons_iff.1 predictive
  have member := h.member
  rw [Task.words, List.map_cons, List.sum_cons] at member
  rcases member with ofFirst | ofOthers
  · exact .inl ⟨ofFirst, h.kinds, h.stops.mono (List.subset_append_left _ _)⟩
  · refine .inr ⟨?_, fun _ _ => ⟨ofOthers, h.kinds, h.stops.mono (List.subset_append_right _ _)⟩⟩
    have opens := sum_le_opening (fun m _ => fits.words_le_opening m) ofOthers
    rw [h.kinds]
    refine avoids_append (fun _ => avoids_of_opening opens disjoint) fun empty => ?_
    cases (opens.1 empty).symm.trans (Matcher.any_nullable_eq_false others)

/-- A word of a repetition is empty, or begins with a round. -/
theorem rounds (fits : look.Fits g) (h : Ahead g look (.rounds start body) input word rest)
    (predictive : (Task.rounds start body).predictive look = true) :
    (word = [] ∧ Avoids input.kinds (body.starts look)) ∨
    ∃ first others, first ≠ [] ∧ Ahead g look (.whole body) input first (others ++ rest) ∧
      ∀ middle : Cursor, middle.kinds = others ++ rest →
      Ahead g look (.rounds start body) middle others rest := by
  rcases eq_nil_or_of_mem_kstar h.member with rfl | ⟨first, isFirst, nonempty, others,
    areOthers, rfl⟩
  · exact .inl ⟨rfl, h.kinds ▸ h.stops.mono (List.subset_append_left _ _)⟩
  · refine .inr ⟨first, others, nonempty, ⟨isFirst, by rw [h.kinds, List.append_assoc], ?_⟩,
      fun middle kinds => ⟨areOthers, kinds, h.stops⟩⟩
    refine avoids_append (fun _ => ?_) fun _ => h.stops.mono (List.subset_append_right _ _)
    have opens : others ∈ opening true (body.starts look) :=
      fits.words_le_opening (.star body) (Grammar.words_star body ▸ areOthers)
    exact avoids_of_opening opens (Bool.and_eq_true_iff.1 predictive).1

end Ahead

/-- Where the input begins with a word of a predictive task and does not go on as a longer word
would, the task consumes the word and nothing else. -/
theorem Evaluates.consumes (fits : look.Fits g) (named : scope.Named)
    (h : Evaluates g scope host task input cost answer) (within : task.Within scope)
    (predictive : task.predictive look = true) (ahead : Ahead g look task input word rest)
    (ok : answer.outcome = .ok verdict) : verdict.failed = false ∧ verdict.rest.kinds = rest := by
  -- each part consumes its own share of the word, and the shares of the others are ahead of it
  induction h generalizing word rest verdict with
  | matched found _ =>
    obtain ⟨_, _, rfl⟩ := Verdict.success_eq_ok_iff.1 ok
    exact ⟨rfl, (List.cons.inj ((Cursor.kinds_of_first? found).symm.trans ahead.statement)).2⟩
  | @mismatched _ _ input other =>
    cases found : input.first? with
    | none =>
      have empty := Cursor.kinds_eq_nil_iff.2 (Cursor.first?_eq_none_iff.1 found)
      cases empty.symm.trans ahead.statement
    | some statement =>
      have same := (List.cons.inj ((Cursor.kinds_of_first? found).symm.trans ahead.statement)).1
      exact absurd same (other statement found)
  | @sub _ target actual input _ answer known name entered ih =>
    obtain rfl := named _ known _ within.mem name
    obtain ⟨inner, isOk, rfl⟩ := Answer.outcome_enclosed_eq_ok_iff.1 ok
    obtain ⟨inside, nonempty⟩ := ahead.sub
    obtain ⟨succeeds, kinds⟩ := ih within rfl inside isOk
    have spans : inner.Spans input :=
      (entered.covers (Cursor.le_refl _)).spans inner ⟨isOk, succeeds⟩
    have moved : inner.matched.isEmpty = false := by
      rw [← Bool.not_eq_true, spans.matched_isEmpty_iff]
      rintro same
      rw [same, ahead.kinds] at kinds
      exact nonempty (List.append_left_eq_self.1 kinds)
    rw [Verdict.refuseEmpty_of_matched moved]
    exact ⟨succeeds, kinds⟩
  | optional tried ih =>
    obtain ⟨inner, isOk, rfl⟩ := Answer.outcome_forgiven_eq_ok_iff.1 ok
    rcases ahead.optional with given | ⟨kinds, avoids⟩
    · obtain ⟨_, kinds⟩ := ih within predictive given isOk
      exact ⟨rfl, kinds⟩
    · obtain ⟨same, _⟩ := tried.stays fits named within trivial avoids isOk
      exact ⟨rfl, (congrArg Cursor.kinds same).trans kinds⟩
  | star _ ih => exact ih within predictive ahead.star ok
  | sequence _ ih =>
    rw [Task.predictive, Matcher.predictive_sequence] at predictive
    exact ih within.sequence predictive ahead.sequence ok
  | choice _ ih =>
    rw [Task.predictive, Matcher.predictive_choice] at predictive
    exact ih within.choice predictive ahead.choice ok
  | malformed _ => cases ok
  | entered body _ ih =>
    obtain ⟨m, body', member⟩ := ahead.member
    obtain rfl := Except.ok.inj (body.symm.trans body')
    have stops := ahead.stops.mono (fits.continues body)
    exact ih (within.body body) (fits.predictive body) ⟨member, ahead.kinds, stops⟩ ok
  | noPartLeft =>
    obtain ⟨_, _, rfl⟩ := Verdict.success_eq_ok_iff.1 ok
    have kinds := ahead.kinds
    rw [show word = [] from ahead.member] at kinds
    exact ⟨rfl, kinds⟩
  | partHalted _ _ _ => cases ok
  | partFailed _ fails ih =>
    obtain ⟨_, _, first, _⟩ := ahead.inTurn fits predictive
    obtain ⟨succeeds, _⟩ :=
      ih within.part (Matcher.predictiveInTurn_cons_iff.1 predictive).2.1 first fails.1
    cases fails.2.symm.trans succeeds
  | partSucceeded _ succeeds _ ih ihOthers =>
    obtain ⟨_, _, first, others⟩ := ahead.inTurn fits predictive
    obtain ⟨_, predictivePart, predictiveParts⟩ := Matcher.predictiveInTurn_cons_iff.1 predictive
    obtain ⟨_, kinds⟩ := ih within.part predictivePart first succeeds.1
    exact ihOthers within.parts predictiveParts (others _ kinds) ok
  | noBranchLeft => cases ahead.member
  | branchHalted _ _ _ => cases ok
  | branchTaken first succeeds ih =>
    obtain ⟨nonempty, _, predictiveBranch, _⟩ := Matcher.predictiveOfAny_cons_iff.1 predictive
    rcases ahead.firstOf fits predictive with taken | ⟨avoids, _⟩
    · exact ih within.branch predictiveBranch taken ok
    · -- the branch would have succeeded on nothing
      obtain ⟨same, _⟩ := first.stays fits named within.branch trivial avoids succeeds.1
      cases nonempty.symm.trans (first.nullable (Cursor.le_refl _) succeeds same)
  | branchFailed _ fails _ ih ihOthers =>
    obtain ⟨_, _, predictiveBranch, predictiveOthers⟩ :=
      Matcher.predictiveOfAny_cons_iff.1 predictive
    rcases ahead.firstOf fits predictive with taken | ⟨_, others⟩
    · obtain ⟨succeeds, _⟩ := ih within.branch predictiveBranch taken fails.1
      cases fails.2.symm.trans succeeds
    · exact ihOthers within.branches predictiveOthers (others _ _) ok
  | roundsOver atEnd =>
    obtain ⟨_, _, rfl⟩ := Verdict.success_eq_ok_iff.1 ok
    have kinds := ahead.kinds
    rw [Cursor.kinds_eq_nil_iff.2 atEnd] at kinds
    obtain ⟨_, rfl⟩ := List.append_eq_nil_iff.1 kinds.symm
    exact ⟨rfl, Cursor.kinds_eq_nil_iff.2 atEnd⟩
  | roundHalted _ _ _ _ => cases ok
  | roundMalformed _ first fails progress ih =>
    have predictiveBody := (Bool.and_eq_true_iff.1 predictive).2
    rcases ahead.rounds fits predictive with ⟨_, avoids⟩ | ⟨_, _, _, round, _⟩
    · obtain ⟨_, noProgress⟩ := first.stays fits named within trivial avoids fails.1
      omega
    · obtain ⟨succeeds, _⟩ := ih within predictiveBody round fails.1
      cases fails.2.symm.trans succeeds
  | roundRefused _ _ fails _ ih =>
    obtain ⟨_, _, rfl⟩ := Verdict.success_eq_ok_iff.1 ok
    have predictiveBody := (Bool.and_eq_true_iff.1 predictive).2
    rcases ahead.rounds fits predictive with ⟨rfl, _⟩ | ⟨_, _, _, round, _⟩
    · exact ⟨rfl, ahead.kinds⟩
    · obtain ⟨succeeds, _⟩ := ih within predictiveBody round fails.1
      cases fails.2.symm.trans succeeds
  | roundStuck _ _ _ _ _ => cases ok
  | roundGained _ first succeeds gained _ ih ihOthers =>
    have predictiveBody := (Bool.and_eq_true_iff.1 predictive).2
    rcases ahead.rounds fits predictive with ⟨_, avoids⟩ | ⟨_, _, _, round, others⟩
    · obtain ⟨same, _⟩ := first.stays fits named within trivial avoids succeeds.1
      exact absurd (congrArg Cursor.position same) gained
    · obtain ⟨_, kinds⟩ := ih within predictiveBody round succeeds.1
      exact ihOthers within predictive (others _ kinds) ok

/-! ## Complete parses -/

/-- A failure is reported as an error, whatever is known of it. -/
theorem severity_failureDiagnostic (statements : Array Statement) (furthest : Nat)
    (verdict : Verdict) : (failureDiagnostic statements furthest verdict).severity = .error := by
  have finding : (failureDiagnostic statements furthest verdict).finding = .syntaxError := by
    unfold failureDiagnostic
    simp only []
    repeat' split
    all_goals rfl
  rw [Diagnostic.severity, finding]
  rfl

theorem Diagnostics.has_ofOne {diagnostic : Diagnostic} {severity : Severity}
    (h : diagnostic.severity = severity) : (ofOne diagnostic).has severity = true := by
  rw [has, ofOne, List.any_cons, decide_eq_true h, Bool.true_or]

/-- There is nothing to complain about exactly if the root structure has consumed every
statement. -/
theorem Verdict.has_error_diagnostics_iff (verdict : Verdict) (statements : Array Statement)
    (furthest : Nat) :
    (verdict.diagnostics statements furthest).has .error = false ↔
      verdict.failed = false ∧ verdict.rest.isAtEnd = true := by
  rw [diagnostics, ← Cursor.first?_eq_none_iff]
  cases verdict.failed with
  | true =>
    rw [if_pos rfl, Diagnostics.has_ofOne (severity_failureDiagnostic _ _ _)]
    exact ⟨nofun, fun h => nomatch h.1⟩
  | false =>
    rw [if_neg Bool.false_ne_true]
    cases verdict.rest.first? with
    | none => exact ⟨fun _ => ⟨rfl, rfl⟩, fun _ => rfl⟩
    | some next =>
      have reported :
          ((Diagnostic.about .unexpectedStatement (some next.span)).withDetail
            next.kind.name).severity =
          .error := rfl
      simp only [Diagnostics.has_ofOne reported]
      exact ⟨nofun, fun h => nomatch h.2⟩

variable {τ : Type} [Tracer τ]

/-- A predictive grammar with structures of distinct names accepts the words of the root's body, and
nothing else: whatever the limits, a parse that comes to an answer is complete exactly for those. -/
theorem parseWith_isComplete_iff {root : Structure} {m : Matcher} (fits : look.Fits g)
    (named : (Scope.below root : Scope g).Named) (body : g.body root = .ok m)
    {limits : Limits} {tracer : τ} {statements : Array Statement} {result : Parse}
    (ok : (parseWith g root limits tracer statements).1 = .ok result) :
    result.isComplete = true ↔ statements.toList.map (·.kind) ∈ g.words m := by
  have known : root ∈ (Scope.below root : Scope g) := Scope.root_mem_below root
  have accounts := matchRoot_accounts known limits tracer statements
  have consumed := parseWith_statements ok
  have conforms := parseWith_conforms (.inr named) ok
  unfold parseWith at ok
  generalize matchRoot g root limits tracer statements = matched at accounts ok
  obtain ⟨_ | verdict, after⟩ := matched
  · cases ok
  obtain rfl := Except.ok.inj ok
  obtain ⟨cost, answer, evaluated, outcome, settles⟩ := accounts.answered
  rw [Parse.isComplete, Bool.not_eq_true', Verdict.has_error_diagnostics_iff]
  constructor
  · rintro ⟨succeeds, atEnd⟩
    obtain ⟨m', body', derivation⟩ := conforms succeeds
    obtain rfl := Except.ok.inj (body.symm.trans body')
    refine ⟨_, derivation, ?_⟩
    have spans := (evaluated.covers (Cursor.le_refl _)).spans verdict ⟨outcome, succeeds⟩
    have all : statements.toList.length ≤ verdict.matched.size := by
      rw [spans.matched, Array.size_extract_of_le (spans.le_rest.1 ▸ verdict.rest.position_le),
        Cursor.isAtEnd_iff.1 atEnd, ← spans.le_rest.1]
      exact Nat.le_refl _
    have whole : Node.statementsOf after.node.children.toList = statements.toList :=
      (consumed.1 succeeds).trans (List.take_of_length_le all)
    rw [Node.kindsOf_eq_map_statementsOf]
    exact congrArg _ whole
  · intro member
    have ahead :
        Ahead g look (.inside root) (.start ⟨0, statements⟩) (statements.toList.map (·.kind)) [] :=
      ⟨⟨m, body, member⟩, (List.append_nil _).symm, avoids_nil _⟩
    obtain ⟨succeeds, kinds⟩ :=
      evaluated.consumes fits named (Task.within_inside known) rfl ahead outcome
    exact ⟨succeeds, Cursor.kinds_eq_nil_iff.1 kinds⟩

end OrderedChoice
