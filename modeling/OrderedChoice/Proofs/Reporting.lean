import OrderedChoice.Proofs.Explanation
import OrderedChoice.Proofs.Prediction
import OrderedChoice.Proofs.Steps
import OrderedChoice.Proofs.Sufficiency

/-!
# What a parse reports

A parse complains exactly if its root structure has not consumed every statement, and then of one
thing: of the first statement that is left over, or of a failure, which stands at the furthest
statement that was consumed on any path (`parse_reports`).
-/

namespace OrderedChoice

variable {g : Grammar} {root : Structure} {limits : Limits} {statements : Array Statement}
    {result : Parse}

/-! ## Diagnostics -/

/-- The diagnostic is about this statement, which was left over. -/
structure Diagnostic.IsLeftover (diagnostic : Diagnostic) (statement : Statement) : Prop where
  finding : diagnostic.finding = .unexpectedStatement
  span : diagnostic.span = some statement.span
  related : diagnostic.related = []

/-- The diagnostic is about a failure of a match that consumed statements up to `reach`. It stands
at the last of them, or at the first statement there is, and points at the statement after the last
one. -/
structure Diagnostic.IsFailure (diagnostic : Diagnostic) (verdict : Verdict)
    (statements : Array Statement) (reach : Nat) : Prop where
  finding : diagnostic.finding = .syntaxError
  message : diagnostic.message = verdict.description
  atLast : ∀ last, 0 < reach → statements[reach - 1]? = some last → diagnostic.span = some last.span
  atFirst : ∀ first, reach = 0 → statements[0]? = some first → diagnostic.span = some first.span
  nowhere : statements = #[] → diagnostic.span = some ⟨0, 0⟩
  related : ∀ found, 0 < reach → statements[reach]? = some found →
      diagnostic.related.map (·.span) = [found.span]
  unrelated : reach = 0 ∨ statements.size ≤ reach → diagnostic.related = []

theorem Finding.message_syntaxError (detail : String) :
    syntaxError.message (some detail) = detail := by
  show "" ++ detail ++ "" = detail
  rw [String.empty_append, String.append_empty]

/-- The place of a failure. -/
theorem span_failureDiagnostic (statements : Array Statement) (reach : Nat) (verdict : Verdict) :
    (failureDiagnostic statements reach verdict).span =
      some ((((if reach = 0 then none else statements[reach - 1]?).or statements[0]?).map
        (·.span)).getD .none) := by
  unfold failureDiagnostic
  simp only []
  repeat' split
  all_goals rfl

/-- What a failure points at. -/
theorem related_failureDiagnostic (statements : Array Statement) (reach : Nat) (verdict : Verdict) :
    (failureDiagnostic statements reach verdict).related.map (·.span) =
      if reach = 0 then [] else (statements[reach]?.map (·.span)).toList := by
  unfold failureDiagnostic
  simp only []
  repeat' split
  all_goals simp_all [Diagnostic.about, Diagnostic.withDetail, Diagnostic.withRelated]

/-- A failure points at a statement only. -/
theorem mem_of_related_failureDiagnostic {statements : Array Statement}
    {reach : Nat} {verdict : Verdict} {r : Related}
    (pointed : r ∈ (failureDiagnostic statements reach verdict).related) :
    ∃ statement ∈ statements, r.span = statement.span := by
  have span := List.mem_map_of_mem (f := (·.span)) pointed
  rw [related_failureDiagnostic] at span
  split at span
  · cases span
  · obtain ⟨found, there, same⟩ := Option.map_eq_some_iff.1 (Option.mem_toList.1 span)
    exact ⟨found, Array.mem_of_getElem? there, same.symm⟩

/-- A failure stands at a statement if there is one. -/
theorem mem_or_span_failureDiagnostic (statements : Array Statement) (reach : Nat)
    (verdict : Verdict) :
    (∃ statement ∈ statements,
      (failureDiagnostic statements reach verdict).span = some statement.span) ∨
      statements = #[] ∧ (failureDiagnostic statements reach verdict).span = some .none := by
  rw [span_failureDiagnostic]
  cases anchor : (if reach = 0 then none else statements[reach - 1]?).or statements[0]? with
  | none =>
    have first := (Option.or_eq_none_iff.1 anchor).2
    exact .inr ⟨Array.eq_empty_of_size_eq_zero (Nat.le_zero.1 (Array.getElem?_eq_none_iff.1 first)),
      rfl⟩
  | some statement =>
    refine .inl ⟨statement, ?_, rfl⟩
    rcases Option.or_eq_some_iff.1 anchor with last | ⟨-, first⟩
    · split at last
      · cases last
      · exact Array.mem_of_getElem? last
    · exact Array.mem_of_getElem? first

/-- A failure is reported by what it says, where the match got furthest. -/
theorem isFailure_failureDiagnostic {verdict : Verdict} (stated : verdict.description ≠ "")
    (statements : Array Statement) (reach : Nat) :
    (failureDiagnostic statements reach verdict).IsFailure verdict statements reach where
  finding := by
    unfold failureDiagnostic
    simp only []
    repeat' split
    all_goals rfl
  message := by
    have nonempty : ¬ verdict.description.isEmpty = true :=
      fun empty => stated (String.isEmpty_iff.1 empty)
    unfold failureDiagnostic
    simp only [if_neg nonempty]
    repeat' split
    all_goals exact Finding.message_syntaxError _
  atLast last reached found := by
    rw [span_failureDiagnostic, if_neg (by omega), found]
    rfl
  atFirst first unreached found := by
    rw [span_failureDiagnostic, if_pos unreached, found]
    rfl
  nowhere empty := by
    subst empty
    rw [span_failureDiagnostic]
    split <;> rfl
  related found progressed next := by
    rw [related_failureDiagnostic, if_neg (Nat.ne_of_gt progressed), next]
    rfl
  unrelated far := by
    refine List.map_eq_nil_iff.1 ((related_failureDiagnostic statements reach verdict).trans ?_)
    rcases far with zero | far
    · exact if_pos zero
    · rw [Array.getElem?_eq_none far]
      split <;> rfl

theorem isLeftover_unexpected (next : Statement) :
    ((Diagnostic.about .unexpectedStatement (some next.span)).withDetail
      next.kind.name).IsLeftover next :=
  ⟨rfl, rfl, rfl⟩

/-- There is one complaint unless every statement was consumed, and what it is about depends on
whether the root structure failed. -/
theorem Verdict.diagnostics_eq (verdict : Verdict) (statements : Array Statement) (reach : Nat) :
    ((verdict.diagnostics statements reach).has .error = false →
      verdict.diagnostics statements reach = .empty) ∧
    ((verdict.diagnostics statements reach).has .error = true →
      (verdict.failed = true ∧ verdict.diagnostics statements reach =
        .ofOne (failureDiagnostic statements reach verdict)) ∨
      verdict.failed = false ∧ ∃ next diagnostic, verdict.rest.first? = some next ∧
        verdict.diagnostics statements reach = .ofOne diagnostic ∧ diagnostic.IsLeftover next) := by
  constructor
  · intro clean
    obtain ⟨succeeds, atEnd⟩ := (verdict.has_error_diagnostics_iff statements reach).1 clean
    rw [diagnostics, if_neg (ne_true_of_eq_false succeeds), Cursor.first?_eq_none_iff.2 atEnd]
  · intro complains
    cases failed : verdict.failed with
    | true =>
      left
      rw [diagnostics, if_pos failed]
      exact ⟨rfl, rfl⟩
    | false =>
      right
      cases next : verdict.rest.first? with
      | none =>
        have clean := (verdict.has_error_diagnostics_iff statements reach).2
          ⟨failed, Cursor.first?_eq_none_iff.1 next⟩
        cases clean.symm.trans complains
      | some leftover =>
        refine ⟨rfl, leftover, _, rfl, ?_, isLeftover_unexpected leftover⟩
        rw [diagnostics, if_neg (ne_true_of_eq_false failed), next]

/-! ## Parses -/

/-- A match of a root structure gets as far as the events of its consumptions tell. -/
theorem furthest_matchRoot (g : Grammar) (root : Structure) (limits : Limits)
    (statements : Array Statement) :
    (matchRoot g root limits ([] : List Event) statements).2.context.furthest =
      reachOf (matchRoot g root limits ([] : List Event) statements).2.context.tracer :=
  (enterStructure_steps (run_steps g) root (.start ⟨0, statements⟩)
    ⟨.fresh limits ([] : List Event), .empty root⟩).keep Context.Step.furthest_eq rfl

/-- What a parse consumed are the statements before the cursor it ended at. -/
theorem Verdict.Spans.consumed_eq {verdict : Verdict}
    (spans : verdict.Spans (.start ⟨0, statements⟩)) :
    verdict.consumed = verdict.rest.position := by
  rw [consumed, spans.matched]
  exact Array.size_extract_of_le (spans.le_rest.1 ▸ verdict.rest.position_le)

/-- A root structure that succeeds has consumed statements from the first one on. -/
theorem parse_spans (ok : parse g root limits statements = .ok result)
    (succeeds : result.verdict.failed = false) : result.verdict.Spans (.start ⟨0, statements⟩) := by
  obtain ⟨verdict, after, matched, rfl⟩ := parseWith_eq_ok_iff.1 ok
  have accounts :=
    matchRoot_accounts (Scope.mem_all root : root ∈ (Scope.all : Scope g)) limits () statements
  rw [matched] at accounts
  obtain ⟨cost, answer, evaluated, outcome, -⟩ := accounts.answered
  exact (evaluated.covers (Cursor.le_refl _)).spans verdict ⟨outcome, succeeds⟩

/-- A parse has nothing to complain about exactly if its root structure holds all statements. -/
theorem parse_complete_iff (ok : parse g root limits statements = .ok result) :
    result.isComplete = true ↔ result.verdict.failed = false ∧
    result.root.statements = statements.toList := by
  obtain ⟨verdict, after, matched, rfl⟩ := parseWith_eq_ok_iff.1 ok
  rw [Parse.isComplete, Bool.not_eq_true', Verdict.has_error_diagnostics_iff]
  refine and_congr_right fun succeeds => ?_
  have spans := parse_spans ok succeeds
  have consumed := spans.consumed_eq
  have origin : statements = verdict.rest.slice.statements :=
    congrArg Slice.statements spans.le_rest.1
  have within : verdict.consumed ≤ statements.size := by
    rw [consumed, origin]
    exact verdict.rest.position_le
  rw [(parseWith_statements ok).1 succeeds, Cursor.isAtEnd_iff, ← spans.le_rest.1, ← consumed,
    List.take_eq_self_iff]
  exact ⟨fun same => Nat.le_of_eq same.symm, fun le => Nat.le_antisymm within le⟩

/-- A statement that is left over is one of those that were to be matched. -/
theorem parse_rest_mem (ok : parse g root limits statements = .ok result)
    (succeeds : result.verdict.failed = false) {next : Statement}
    (first : result.verdict.rest.first? = some next) : next ∈ statements := by
  rw [Cursor.first?, ← (parse_spans ok succeeds).le_rest.1] at first
  exact Array.mem_of_getElem? first

/-- What a parse complains of is a statement, and so is all that it points at. Only where there is
no statement, a failure stands at no place. -/
theorem parse_places (ok : parse g root limits statements = .ok result) {diagnostic : Diagnostic}
    (member : diagnostic ∈ result.diagnostics.entries) :
    (∀ r ∈ diagnostic.related, ∃ statement ∈ statements, r.span = statement.span) ∧
      ((∃ statement ∈ statements, diagnostic.span = some statement.span) ∨
        statements = #[] ∧ result.verdict.failed = true ∧ diagnostic.span = some .none) := by
  have left := @parse_rest_mem _ _ _ _ _ ok
  obtain ⟨verdict, after, matched, rfl⟩ := parseWith_eq_ok_iff.1 ok
  obtain ⟨clean, reported⟩ := verdict.diagnostics_eq statements after.context.furthest
  cases has : (verdict.diagnostics statements after.context.furthest).has .error with
  | false => cases clean has ▸ member
  | true =>
    rcases reported has with ⟨failed, one⟩ | ⟨succeeds, next, leftover, first, one, about⟩
    · obtain rfl := List.mem_singleton.1 (one ▸ member)
      refine ⟨fun r pointed => mem_of_related_failureDiagnostic pointed, ?_⟩
      exact (mem_or_span_failureDiagnostic statements after.context.furthest verdict).imp_right
        fun ⟨empty, nowhere⟩ => ⟨empty, failed, nowhere⟩
    · obtain rfl := List.mem_singleton.1 (one ▸ member)
      rw [about.related, about.span]
      exact ⟨fun r pointed => absurd pointed List.not_mem_nil,
        .inl ⟨next, left succeeds first, rfl⟩⟩

/-- Where there is no statement, a failure stands at no place. -/
theorem parse_nowhere (ok : parse g root limits #[] = .ok result)
    (failed : result.verdict.failed = true) :
    ∃ diagnostic ∈ result.diagnostics.entries, diagnostic.span = some .none := by
  obtain ⟨verdict, after, matched, rfl⟩ := parseWith_eq_ok_iff.1 ok
  refine ⟨failureDiagnostic #[] after.context.furthest verdict, ?_, ?_⟩
  · show _ ∈ (verdict.diagnostics #[] after.context.furthest).entries
    rw [Verdict.diagnostics, if_pos failed]
    exact List.mem_singleton_self _
  · rcases mem_or_span_failureDiagnostic #[] after.context.furthest verdict with
      ⟨_, there, _⟩ | ⟨_, nowhere⟩
    · exact absurd there (Array.not_mem_empty _)
    · exact nowhere

/-- A parse is complete exactly if its root structure succeeded and holds all statements, and then
there is nothing to report. Otherwise it reports one thing: the first statement that is left over,
if the root structure succeeded; or what it says of its failure, at the last statement that any leaf
consumed on any path. -/
theorem parse_reports (ok : parse g root limits statements = .ok result) :
    ∃ events, parseWith g root limits ([] : List Event) statements = (.ok result, events) ∧
      reachOf events ≤ statements.size ∧ result.verdict.progress ≤ reachOf events ∧
      (result.isComplete = true ↔
        result.verdict.failed = false ∧ result.root.statements = statements.toList) ∧
      (result.isComplete = true → result.diagnostics = .empty) ∧
      (result.isComplete = false → ∃ diagnostic, result.diagnostics = .ofOne diagnostic ∧
        (result.verdict.failed = false → ∃ next, statements[result.consumed]? = some next ∧
          diagnostic.IsLeftover next) ∧
        (result.verdict.failed = true → result.verdict.description ≠ "" ∧
          diagnostic.IsFailure result.verdict statements (reachOf events))) := by
  have complete := parse_complete_iff ok
  have spans := parse_spans ok
  obtain ⟨verdict, after, matched, rfl⟩ :=
    parseWith_eq_ok_iff.1 (parseWith_eq_ok_of_tracer ok ([] : List Event))
  have furthest := furthest_matchRoot g root limits statements
  have accounts :=
    matchRoot_accounts (Scope.mem_all root : root ∈ (Scope.all : Scope g)) limits ([] : List Event)
    statements
  rw [matched] at furthest accounts
  obtain ⟨cost, answer, evaluated, outcome, settles⟩ := accounts.answered
  have reached : after.context.furthest = max 0 answer.reach := settles.furthest
  rw [Nat.zero_max] at reached
  have reaches := evaluated.reaches (Cursor.le_refl _)
  have progress : 0 + verdict.progress ≤ max 0 (max 0 answer.reach) :=
    reaches.progress verdict outcome
  obtain ⟨clean, reported⟩ := verdict.diagnostics_eq statements after.context.furthest
  refine ⟨after.context.tracer, by rw [parseWith, matched], ?_, ?_, complete, ?_, ?_⟩
  · rw [← furthest, reached]
    exact reaches.within
  · rw [← furthest, reached]
    show verdict.progress ≤ answer.reach
    omega
  · intro complete
    rw [Parse.isComplete, Bool.not_eq_true'] at complete
    exact clean complete
  · intro incomplete
    rw [Parse.isComplete, Bool.not_eq_false'] at incomplete
    rcases reported incomplete with
      ⟨failed, one⟩ | ⟨succeeds, next, diagnostic, first, one, leftover⟩
    · have stated := evaluated.explains trivial ⟨outcome, failed⟩
      refine ⟨_, one, fun succeeds => absurd succeeds (ne_false_of_eq_true failed),
        fun _ => ⟨stated, ?_⟩⟩
      rw [← furthest]
      exact isFailure_failureDiagnostic stated statements after.context.furthest
    · refine ⟨diagnostic, one, fun _ => ⟨next, ?_, leftover⟩,
        fun failed => absurd succeeds (ne_false_of_eq_true failed)⟩
      have spans : verdict.Spans (.start ⟨0, statements⟩) := spans succeeds
      rw [Cursor.first?, ← spans.le_rest.1, ← spans.consumed_eq] at first
      exact first

/-- A block that is left before its end. -/
def unfinished : Array Statement :=
  #[⟨⟨"begin"⟩, "begin", ⟨0, 6⟩, 0⟩, ⟨⟨"do"⟩, "do", ⟨7, 10⟩, 0⟩,
    ⟨⟨"return"⟩, "return", ⟨11, 18⟩, 0⟩]

/-- An unfinished block is reported at its last statement, and what stands there instead of its end
is pointed at. -/
theorem parse_reports_unfinished :
    ∃ result diagnostic, parse blocks block ⟨60, 5, false⟩ unfinished = .ok result ∧
      result.isComplete = false ∧ result.diagnostics = .ofOne diagnostic ∧
      diagnostic.finding = .syntaxError ∧ diagnostic.span = some ⟨7, 10⟩ ∧
      diagnostic.related.map (·.span) = [⟨11, 18⟩] := by
  obtain ⟨result, ok, incomplete, failed⟩ :
      ∃ result, parse blocks block ⟨60, 5, false⟩ unfinished = .ok result ∧
        result.isComplete = false ∧ result.verdict.failed = true :=
    ⟨_, rfl, rfl, rfl⟩
  obtain ⟨events, recorded, _, _, _, _, reported⟩ := parse_reports ok
  obtain rfl : (parseWith blocks block ⟨60, 5, false⟩ ([] : List Event) unfinished).2 = events :=
    congrArg Prod.snd recorded
  have reach : reachOf (parseWith blocks block ⟨60, 5, false⟩ ([] : List Event) unfinished).2 = 2 :=
    rfl
  obtain ⟨diagnostic, one, _, failure⟩ := reported incomplete
  have about := (failure failed).2
  rw [reach] at about
  exact ⟨result, diagnostic, ok, incomplete, one, about.finding, about.atLast _ Nat.two_pos rfl,
    about.related _ Nat.two_pos rfl⟩

end OrderedChoice
