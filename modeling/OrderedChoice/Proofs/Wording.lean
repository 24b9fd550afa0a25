import OrderedChoice.Matcher.Reference
import OrderedChoice.Proofs.Course
import OrderedChoice.Proofs.Quoting

/-!
# The wording of a match

Messages are put together from names. If none of them has the escape character, with which the
sequences that colour a text begin, then no event of a match has it in a name or a message
(`Proceeds.unescaped`). The texts of statements may have it: they are quoted wherever they are shown
(`Text.unescaped_quoted`).
-/

namespace OrderedChoice

/-! ## Texts -/

namespace Text

/-- The text does not have the escape character. -/
def Unescaped (text : String) : Prop :=
  '\x1b' ∉ text.toList

instance (text : String) : Decidable (Unescaped text) :=
  inferInstanceAs (Decidable (¬ _))

theorem unescaped_append {s t : String} : Unescaped (s ++ t) ↔ Unescaped s ∧ Unescaped t := by
  simp [Unescaped, String.toList_append]

theorem unescaped_intercalate {separator : String} {texts : List String}
    (plain : Unescaped separator) (all : ∀ text ∈ texts, Unescaped text) :
    Unescaped (separator.intercalate texts) := by
  induction texts with
  | nil => exact List.not_mem_nil
  | cons first others ih =>
    obtain ⟨head, tail⟩ := List.forall_mem_cons.1 all
    cases others with
    | nil =>
      rw [String.intercalate_singleton]
      exact head
    | cons second others =>
      rw [String.intercalate_cons_cons]
      exact unescaped_append.2 ⟨unescaped_append.2 ⟨head, plain⟩, ih tail⟩

theorem unescaped_quoted (text : String) : Unescaped (quoted text) := by
  intro member
  cases isPrintable_of_mem_quoted member

theorem eq_of_ofNat_eq_escape {n : Nat} (same : Char.ofNat n = '\x1b') : n = 0x1b := by
  by_cases valid : n.isValidChar
  · rw [Char.ofNat, dif_pos valid] at same
    exact congrArg Char.toNat same
  · rw [Char.ofNat, dif_neg valid] at same
    cases same

theorem toUpper_ne_escape {c : Char} (ascii : c.toNat < 0x80) (other : c ≠ '\x1b') :
    c.toUpper ≠ '\x1b' := by
  have letters : ∀ n < 0x80, Char.ofNat n ≠ '\x1b' → (Char.ofNat n).toUpper ≠ '\x1b' := by decide
  have upper := letters c.toNat ascii
  rw [Char.ofNat_toNat] at upper
  exact upper other

set_option maxRecDepth 4000 in
theorem escape_notMem_expandedCapitals :
    ∀ entry ∈ expandedCapitals, '\x1b' ∉ entry.2.map Char.ofNat := by
  decide

set_option maxRecDepth 4000 in
theorem escape_lt_caseRuns : ∀ run ∈ caseRuns, 0x1b < run.first + run.shift := by
  decide

/-- No other character has the escape character in its capitals. -/
theorem escape_notMem_capitals {c : Char} (other : c ≠ '\x1b') : '\x1b' ∉ capitals c := by
  intro member
  unfold capitals at member
  split at member
  · rename_i ascii
    exact toUpper_ne_escape ascii other (List.mem_singleton.1 member).symm
  split at member
  · rename_i expansion found
    obtain ⟨before, after, split, -⟩ := List.lookup_eq_some_iff.1 found
    have known : (c.toNat, expansion) ∈ expandedCapitals := by
      rw [split]
      exact List.mem_append_right before List.mem_cons_self
    exact escape_notMem_expandedCapitals _ known member
  split at member
  · rename_i run found
    have far := escape_lt_caseRuns run (List.mem_of_find?_eq_some found)
    have inside := List.find?_some found
    rw [CaseRun.contains, Bool.and_eq_true_iff, Bool.and_eq_true_iff] at inside
    have first : run.first ≤ c.toNat := of_decide_eq_true inside.1.1
    have code := eq_of_ofNat_eq_escape (List.mem_singleton.1 member).symm
    omega
  · exact other (List.mem_singleton.1 member).symm

theorem Unescaped.toUpperCase {text : String} (plain : Unescaped text) :
    Unescaped (toUpperCase text) := by
  rw [Unescaped, toList_toUpperCase]
  intro member
  obtain ⟨c, inside, member⟩ := List.mem_flatMap.1 member
  refine escape_notMem_capitals ?_ member
  rintro rfl
  exact plain inside

end Text

/-! ## Names -/

namespace Matcher

/-- No name in the matcher has the escape character. -/
def Unescaped (m : Matcher) : Prop :=
  ∀ name ∈ m.mentions, Text.Unescaped name

theorem Unescaped.kind {kind : Kind} (plain : (statement kind).Unescaped) :
    Text.Unescaped kind.name :=
  (Text.unescaped_append.1 (plain _ List.mem_cons_self)).2

theorem Unescaped.target {target : Structure} (plain : (sub target).Unescaped) :
    Text.Unescaped target.name :=
  (Text.unescaped_append.1 (plain _ List.mem_cons_self)).2

theorem unescaped_sequence {a b : Matcher} {rest : List Matcher} :
    (sequence a b rest).Unescaped ↔ ∀ m ∈ a :: b :: rest, m.Unescaped := by
  simp only [Unescaped, mentions_sequence, List.forall_mem_flatMap]

theorem unescaped_choice {a b : Matcher} {rest : List Matcher} :
    (choice a b rest).Unescaped ↔ ∀ m ∈ a :: b :: rest, m.Unescaped := by
  simp only [Unescaped, mentions_choice, List.forall_mem_flatMap]

theorem Unescaped.expectedName {m : Matcher} (plain : m.Unescaped) :
    Text.Unescaped m.expectedName := by
  induction m with
  | statement kind => exact plain.kind.toUpperCase
  | sub target => exact plain.target.toUpperCase
  | optional body ih | star body ih => exact ih plain
  | sequence a b rest ih =>
    exact ih a List.mem_cons_self (unescaped_sequence.1 plain a List.mem_cons_self)
  | choice a b rest ih =>
    rw [expectedName_choice]
    refine Text.unescaped_intercalate (by decide) (List.forall_mem_map.2 fun m member => ?_)
    exact ih m member (unescaped_choice.1 plain m member)

end Matcher

/-- The kinds of all statements have names without the escape character. -/
def Cursor.Unescaped (input : Cursor) : Prop :=
  ∀ statement ∈ input.slice.statements, Text.Unescaped statement.kind.name

theorem Cursor.Unescaped.first? {input : Cursor} (plain : input.Unescaped) :
    ∀ statement ∈ input.first?, Text.Unescaped statement.kind.name :=
  fun statement found => plain statement (Array.mem_of_getElem? found)

/-- No name in the body of a structure of the scope has the escape character. -/
def Scope.Unescaped {g : Grammar} (scope : Scope g) : Prop :=
  ∀ s ∈ scope, ∀ m, g.body s = .ok m → m.Unescaped

/-- No name that the task can put into a message has the escape character. -/
def Task.Unescaped : Task → Prop
  | whole m => m.Unescaped
  | inTurn start parts => start.Unescaped ∧ ∀ m ∈ parts, m.Unescaped
  | firstOf all branches description _ =>
    (∀ m ∈ all, m.Unescaped) ∧ (∀ m ∈ branches, m.Unescaped) ∧ Text.Unescaped description
  | rounds start body => start.Unescaped ∧ body.Unescaped
  | inside target => Text.Unescaped target.name

/-! ## Verdicts -/

/-- The message of the verdict does not have the escape character, and neither have the kinds at its
cursor. -/
structure Verdict.Unescaped (verdict : Verdict) : Prop where
  description : Text.Unescaped verdict.description
  rest : verdict.rest.Unescaped

namespace Verdict

theorem Unescaped.of_success {start rest : Cursor} {verdict : Verdict} (plain : rest.Unescaped)
    (ok : success start rest = .ok verdict) : verdict.Unescaped := by
  obtain ⟨matched, -, rfl⟩ := success_eq_ok_iff.1 ok
  exact ⟨List.not_mem_nil, plain⟩

theorem unescaped_failure {input : Cursor} {description : String} (progress : Nat)
    (plain : input.Unescaped) (wording : Text.Unescaped description) :
    (failure input description progress).Unescaped :=
  ⟨wording, plain⟩

theorem unescaped_choiceFailure {all : List Matcher} {input : Cursor} {description : String}
    (progress : Nat) (names : ∀ m ∈ all, m.Unescaped) (plain : input.Unescaped)
    (best : Text.Unescaped description) :
    (choiceFailure all input description progress).Unescaped := by
  unfold choiceFailure
  split
  · refine unescaped_failure 0 plain (Text.unescaped_append.2 ⟨by decide, ?_⟩)
    exact Text.unescaped_intercalate (by decide)
      (List.forall_mem_map.2 fun m member => (names m member).expectedName)
  · exact unescaped_failure progress plain best

theorem Unescaped.refuseEmpty {verdict : Verdict} (plain : verdict.Unescaped) {target : Structure}
    (name : Text.Unescaped target.name) : (verdict.refuseEmpty target).Unescaped := by
  unfold Verdict.refuseEmpty
  split
  · refine ⟨?_, plain.rest⟩
    show Text.Unescaped (if _ then _ else _)
    split
    · exact Text.unescaped_append.2 ⟨by decide, name.toUpperCase⟩
    · exact plain.description
  · exact plain

end Verdict

/-! ## Events -/

/-- No name or message of the event has the escape character. -/
def Event.Unescaped : Event → Prop
  | entered name _ | replayed name _ => Text.Unescaped name
  | exited name verdict => Text.Unescaped name ∧ Text.Unescaped verdict.description
  | consumed statement _ => Text.Unescaped statement.kind.name
  | mismatched expected found _ =>
    Text.Unescaped expected.name ∧ ∀ statement ∈ found, Text.Unescaped statement.kind.name
  | backtracked _ => True

/-- No event so far has the escape character in a name or message, and what is remembered will bring
it into none. Nothing else in the context can. -/
structure Context.Unescaped (context : Context (List Event)) : Prop where
  events : ∀ event ∈ context.tracer, event.Unescaped
  memos :
      ∀ (key : String × Nat) (memo : Memo), context.memos[key]? = some memo → memo.verdict.Unescaped

namespace Context

variable {context : Context (List Event)} {target : Structure} {position : Nat} {memo : Memo}

theorem Unescaped.remembered (plain : context.Unescaped)
    (known : context.remembered? target position = some memo) : memo.verdict.Unescaped := by
  unfold remembered? at known
  split at known
  · exact plain.memos _ memo known
  · cases known

theorem Unescaped.remember (plain : context.Unescaped) (verdict : memo.verdict.Unescaped) :
    (context.remember target position memo).Unescaped := by
  unfold Context.remember
  split
  · refine ⟨plain.events, fun key other found => ?_⟩
    rw [Std.HashMap.getElem?_insert] at found
    split at found
    · obtain rfl := Option.some.inj found
      exact verdict
    · exact plain.memos key other found
  · exact plain

end Context

theorem Site.unescaped_record {site : Site (List Event)} {event : Event}
    (plain : site.context.Unescaped) (told : event.Unescaped) :
    (site.record event).context.Unescaped :=
  ⟨List.forall_mem_cons.2 ⟨told, plain.events⟩, plain.memos⟩

theorem Site.unescaped_enter {site : Site (List Event)} {target : Structure}
    (plain : site.context.Unescaped) (name : Text.Unescaped target.name) (position : Nat) :
    (site.descend.record (.entered target.name position)).context.Unescaped :=
  unescaped_record ⟨plain.events, plain.memos⟩ name

/-- Neither the events of the run nor its verdict have the escape character in a name or message. -/
structure Result.Unescaped (result : Result (List Event)) : Prop where
  context : result.2.context.Unescaped
  verdict : ∀ verdict, result.1 = .ok verdict → verdict.Unescaped

namespace Result

variable {site : Site (List Event)} {result : Result (List Event)} {verdict : Verdict}

theorem unescaped_error (halt : Halt) (context : site.context.Unescaped) :
    Result.Unescaped (.error halt, site) :=
  ⟨context, nofun⟩

theorem unescaped_ok (context : site.context.Unescaped) (answer : verdict.Unescaped) :
    Result.Unescaped (.ok verdict, site) := by
  refine ⟨context, ?_⟩
  rintro _ ⟨⟩
  exact answer

theorem unescaped_success {start rest : Cursor} (context : site.context.Unescaped)
    (plain : rest.Unescaped) : Result.Unescaped (Verdict.success start rest, site) :=
  ⟨context, fun _ ok => .of_success plain ok⟩

theorem Unescaped.forgive (plain : result.Unescaped) : Result.Unescaped (forgive result) := by
  obtain ⟨halt | verdict, after⟩ := result
  · exact plain
  · obtain ⟨description, rest⟩ := plain.verdict verdict rfl
    exact unescaped_ok plain.context ⟨description, rest⟩

theorem Unescaped.returned (plain : result.Unescaped) {target : Structure}
    (name : Text.Unescaped target.name) (position : Nat) (host : OpenNode) :
    (result.returned target position host).Unescaped := by
  obtain ⟨halt | verdict, after⟩ := result
  · exact unescaped_error halt plain.context
  · have refused := (plain.verdict verdict rfl).refuseEmpty name
    refine unescaped_ok ?_ refused
    rw [Site.context_attach]
    exact plain.context.remember refused

end Result

/-! ## Runs -/

/-- A run over names without the escape character has it neither in its events nor in its
verdict. -/
theorem Proceeds.unescaped {g : Grammar} {scope : Scope g} {mark : Nat}
    {task : Task} {input : Cursor} {site : Site (List Event)}
    {chain : List Structure} {result : Result (List Event)} (names : scope.Unescaped)
    (h : Proceeds g mark task input site chain result) (within : task.Within scope)
    (wording : task.Unescaped) (plain : input.Unescaped) (context : site.context.Unescaped) :
    result.Unescaped := by
  -- a task goes on where the one before it has stopped, so its verdict must lead to a cursor over
  -- the same kinds
  induction h with
  | starved | full => exact Result.unescaped_error _ context
  | @matched _ fuel _ input site statement _ found =>
    have recorded :
        ((site.withFuel fuel).record (.consumed statement input.position)).context.Unescaped :=
      Site.unescaped_record ⟨context.events, context.memos⟩ (plain.first? statement found)
    exact Result.unescaped_success ⟨recorded.events, recorded.memos⟩ plain
  | @mismatched _ fuel kind input site =>
    have recorded :
        ((site.withFuel fuel).record
          (.mismatched kind input.first? input.position)).context.Unescaped :=
      Site.unescaped_record ⟨context.events, context.memos⟩ ⟨wording.kind, plain.first?⟩
    have expected : Text.Unescaped ("Expected " ++ kind.expectedName) :=
      Text.unescaped_append.2 ⟨by decide, wording.kind.toUpperCase⟩
    exact Result.unescaped_ok recorded (Verdict.unescaped_failure 0 plain expected)
  | @replayed _ fuel target input site memo _ known =>
    have recorded :
        ((site.withFuel fuel).record (.replayed target.name input.position)).context.Unescaped :=
      Site.unescaped_record ⟨context.events, context.memos⟩ wording.target
    refine Result.unescaped_ok ?_ (context.remembered known)
    rw [Site.context_attach]
    exact recorded
  | sub _ _ _ ih =>
    have inside :=
      ih (Task.within_inside within.mem) wording.target plain ⟨context.events, context.memos⟩
    exact inside.returned wording.target _ _
  | optional _ _ ih => exact (ih within wording plain ⟨context.events, context.memos⟩).forgive
  | star _ _ ih => exact ih within ⟨plain, wording⟩ plain ⟨context.events, context.memos⟩
  | sequence _ _ ih =>
    exact ih within.sequence ⟨plain, Matcher.unescaped_sequence.1 wording⟩ plain
      ⟨context.events, context.memos⟩
  | choice _ _ ih =>
    have branches := Matcher.unescaped_choice.1 wording
    exact ih within.choice ⟨branches, branches, List.not_mem_nil⟩ plain
      ⟨context.events, context.memos⟩
  | @malformed _ _ input =>
    have entered := Site.unescaped_enter context wording input.position
    exact Result.unescaped_error _ ⟨entered.events, entered.memos⟩
  | @answered _ target m input _ after verdict _ body _ ih =>
    have entered := Site.unescaped_enter context wording input.position
    have inside :=
      ih (within.body body) (names target (within _ List.mem_cons_self) m body) plain entered
    have answer := inside.verdict verdict rfl
    have left : after.ascend.context.Unescaped := ⟨inside.context.events, inside.context.memos⟩
    have exited : (after.ascend.record (.exited target.name verdict)).context.Unescaped :=
      Site.unescaped_record left ⟨wording, answer.description⟩
    exact Result.unescaped_ok exited answer
  | @halted _ target m input _ _ _ _ _ body _ ih =>
    have entered := Site.unescaped_enter context wording input.position
    have inside :=
      ih (within.body body) (names target (within _ List.mem_cons_self) m body) plain entered
    exact Result.unescaped_error _ ⟨inside.context.events, inside.context.memos⟩
  | noPartLeft => exact Result.unescaped_success context plain
  | partHalted _ ih =>
    have first := ih within.part (wording.2 _ List.mem_cons_self) plain context
    exact Result.unescaped_error _ first.context
  | partFailed _ _ ih =>
    have first := ih within.part (wording.2 _ List.mem_cons_self) plain context
    have description := (first.verdict _ rfl).description
    refine Result.unescaped_ok ⟨first.context.events, first.context.memos⟩ ?_
    exact Verdict.unescaped_failure _ wording.1 description
  | partSucceeded _ _ _ ih ihOthers =>
    obtain ⟨head, tail⟩ := List.forall_mem_cons.1 wording.2
    have first := ih within.part head plain context
    exact ihOthers within.parts ⟨wording.1, tail⟩ (first.verdict _ rfl).rest first.context
  | noBranchLeft =>
    obtain ⟨all, _, best⟩ := wording
    exact Result.unescaped_ok context (Verdict.unescaped_choiceFailure _ all plain best)
  | branchHalted _ ih =>
    have first := ih within.branch (wording.2.1 _ List.mem_cons_self) plain context
    exact Result.unescaped_error _ first.context
  | branchTaken _ _ ih => exact ih within.branch (wording.2.1 _ List.mem_cons_self) plain context
  | @branchFailed _ _ _ _ _ description progress _ _ verdict _ _ _ _ _ ih ihOthers =>
    obtain ⟨all, branches, best⟩ := wording
    obtain ⟨head, tail⟩ := List.forall_mem_cons.1 branches
    have first := ih within.branch head plain context
    have better : Text.Unescaped
        (if progress < verdict.progress then verdict.description else description) := by
      split
      · exact (first.verdict _ rfl).description
      · exact best
    exact ihOthers within.branches ⟨all, tail, better⟩ plain
      (Site.unescaped_record first.context trivial)
  | roundsOver => exact Result.unescaped_success context plain
  | roundHalted _ _ ih =>
    have first := ih within wording.2 plain context
    exact Result.unescaped_error _ first.context
  | roundMalformed _ _ _ _ ih =>
    have first := ih within wording.2 plain context
    have description := (first.verdict _ rfl).description
    refine Result.unescaped_ok ⟨first.context.events, first.context.memos⟩ ?_
    exact Verdict.unescaped_failure _ wording.1 description
  | roundRefused _ _ _ _ ih =>
    exact Result.unescaped_success (ih within wording.2 plain context).context plain
  | roundStuck _ _ _ _ ih =>
    exact Result.unescaped_error _ (ih within wording.2 plain context).context
  | roundGained _ _ _ _ _ ih ihOthers =>
    have first := ih within wording.2 plain context
    exact ihOthers within wording (first.verdict _ rfl).rest first.context

theorem parseWith_unescaped {g : Grammar} {root : Structure}
    {statements : Array Statement} (limits : Limits)
    (name : Text.Unescaped root.name) (names : (Scope.below root : Scope g).Unescaped)
    (kinds : ∀ statement ∈ statements, Text.Unescaped statement.kind.name) :
    ∀ event ∈ (parseWith g root limits ([] : List Event) statements).2, event.Unescaped := by
  obtain ⟨chain, course⟩ := matchRoot_proceeds g root limits ([] : List Event) statements
  have fresh : (Context.fresh limits ([] : List Event)).Unescaped := by
    refine ⟨nofun, fun key memo found => ?_⟩
    rw [Context.fresh, Std.HashMap.getElem?_empty] at found
    cases found
  have result :=
    course.unescaped names (Task.within_inside (Scope.root_mem_below root)) name kinds fresh
  rw [← tracer_matchRoot]
  exact result.context.events

end OrderedChoice
