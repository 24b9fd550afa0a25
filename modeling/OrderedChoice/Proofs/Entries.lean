import OrderedChoice.Proofs.Completion
import OrderedChoice.Proofs.Memoization
import OrderedChoice.Proofs.Metering
import OrderedChoice.Proofs.Sufficiency

/-!
# Structures are entered once

With a memo table, a match that has an answer has entered no structure twice at one position
(`parseWith_entries_nodup`). A structure that was left is remembered. One that is still open is not,
but no answer comes of entering it again: its evaluation would nest deeper than itself.
-/

namespace OrderedChoice

variable {g : Grammar} {scope : Scope g} {slice : Slice} {host : String} {task : Task}
    {input : Cursor}
  {target : Structure} {cost : Cost} {answer : Answer} {verdict : Verdict}

/-! ## Entries -/

/-- The name and the position of the structure that the event enters. -/
def Event.entry? : Event → Option (String × Nat)
  | entered name position => some (name, position)
  | _ => none

/-- The structures that the events enter, by name and position. -/
def entriesOf (events : List Event) : List (String × Nat) :=
  events.filterMap Event.entry?

/-- The entry is one of a structure of the scope that has an answer there, nested at most that
deep. -/
def Scope.Nests (scope : Scope g) (slice : Slice) (depth : Nat) (entry : String × Nat) : Prop :=
  ∃ target ∈ scope, ∃ (input : Cursor) (cost : Cost) (answer : Answer),
    entry = (target.name, input.position) ∧ input.slice = slice ∧
      Evaluates g scope target.name (.inside target) input cost answer ∧ cost.depth ≤ depth

theorem Scope.Nests.mono {depth depth' : Nat} {entry : String × Nat}
    (h : scope.Nests slice depth entry) (le : depth ≤ depth') : scope.Nests slice depth' entry := by
  obtain ⟨target, known, input, cost, answer, same, on, evaluated, nested⟩ := h
  exact ⟨target, known, input, cost, answer, same, on, evaluated, Nat.le_trans nested le⟩

/-- Where names are distinct, an entry nests as deep as its structure. -/
theorem Scope.Nests.depth_le {depth : Nat} (named : scope.Named) (known : target ∈ scope)
    (h : Evaluates g scope target.name (.inside target) input cost answer)
    (nests : scope.Nests input.slice depth (target.name, input.position)) : cost.depth ≤ depth := by
  obtain ⟨target', known', ⟨slice, position, within⟩, cost', answer', same, rfl, evaluated,
    nested⟩ := nests
  obtain ⟨name, rfl⟩ := Prod.mk.inj same
  obtain rfl := named _ known _ known' name
  rw [(h.only named (Task.within_inside known) _ _ evaluated).1] at nested
  exact nested

namespace Context

/-- From one context to the other, structures are entered that were not remembered, each once, and
then are remembered, apart from those that stay open. -/
structure Enters (scope : Scope g) (slice : Slice) (opened : List (String × Nat)) (depth : Nat)
    (entries : List (String × Nat)) (a b : Context (List Event)) : Prop where
  limits : b.limits = a.limits
  trace : entriesOf b.tracer = entries ++ opened ++ entriesOf a.tracer
  nodup : (entries ++ opened).Nodup
  unknown : ∀ entry ∈ entries, entry ∉ a.memos
  kept : ∀ entry ∈ entries, entry ∈ b.memos
  remembers : ∀ entry ∈ a.memos, entry ∈ b.memos
  nests : ∀ entry ∈ entries, scope.Nests slice depth entry

/-- With a memo table, structures are entered once from one context to the other. -/
def EntersOnce (scope : Scope g) (slice : Slice) (opened : List (String × Nat)) (depth : Nat)
    (a b : Context (List Event)) : Prop :=
  a.limits.memoize = true → ∃ entries, Enters scope slice opened depth entries a b

/-- Nothing is entered or remembered from one context to the other. -/
structure Quiet (a b : Context (List Event)) : Prop where
  limits : b.limits = a.limits
  trace : entriesOf b.tracer = entriesOf a.tracer
  memos : b.memos = a.memos

theorem Quiet.refl (context : Context (List Event)) : context.Quiet context :=
  ⟨rfl, rfl, rfl⟩

namespace EntersOnce

variable {opened : List (String × Nat)} {depth depth' : Nat} {a b c : Context (List Event)}

theorem of_quiet (quiet : a.Quiet b) : EntersOnce scope slice [] depth a b := by
  refine fun _ =>
    ⟨[], quiet.limits, quiet.trace, .nil, ?_, ?_, fun _ known => quiet.memos ▸ known, ?_⟩
  all_goals exact fun _ member => absurd member List.not_mem_nil

theorem preceded (h : EntersOnce scope slice opened depth b c) (quiet : a.Quiet b) :
    EntersOnce scope slice opened depth a c := by
  intro memoize
  obtain ⟨entries, h⟩ := h (quiet.limits ▸ memoize)
  exact ⟨entries, h.limits.trans quiet.limits, quiet.trace ▸ h.trace, h.nodup,
    quiet.memos ▸ h.unknown, h.kept, quiet.memos ▸ h.remembers, h.nests⟩

theorem followed (h : EntersOnce scope slice opened depth a b) (quiet : b.Quiet c) :
    EntersOnce scope slice opened depth a c := by
  intro memoize
  obtain ⟨entries, h⟩ := h memoize
  exact ⟨entries, quiet.limits.trans h.limits, quiet.trace.trans h.trace, h.nodup, h.unknown,
    quiet.memos ▸ h.kept, quiet.memos ▸ h.remembers, h.nests⟩

/-- What is entered later was not remembered, and so was not entered before. -/
theorem trans (first : EntersOnce scope slice [] depth a b)
    (later : EntersOnce scope slice [] depth' b c) :
    EntersOnce scope slice [] (max depth depth') a c := by
  intro memoize
  obtain ⟨entries, first⟩ := first memoize
  obtain ⟨entries', later⟩ := later (first.limits ▸ memoize)
  refine ⟨entries' ++ entries, later.limits.trans first.limits, ?_, ?_, ?_, ?_, ?_, ?_⟩
  · rw [later.trace, first.trace]
    simp only [List.append_nil, List.append_assoc]
  · rw [List.append_nil]
    refine List.nodup_append.2 ⟨List.append_nil entries' ▸ later.nodup,
      List.append_nil entries ▸ first.nodup, ?_⟩
    rintro entry new _ old rfl
    exact later.unknown entry new (first.kept entry old)
  · exact List.forall_mem_append.2
      ⟨fun entry new old => later.unknown entry new (first.remembers entry old), first.unknown⟩
  · exact List.forall_mem_append.2
      ⟨later.kept, fun entry new => later.remembers entry (first.kept entry new)⟩
  · exact fun entry old => later.remembers entry (first.remembers entry old)
  · exact List.forall_mem_append.2
      ⟨fun entry new => (later.nests entry new).mono (Nat.le_max_right _ _),
        fun entry new => (first.nests entry new).mono (Nat.le_max_left _ _)⟩

/-- A structure that is entered stays open, and is not entered again by what nests less deep. -/
theorem enter {entry : String × Nat}
    (h : EntersOnce scope slice [] depth b c) (limits : b.limits = a.limits)
    (memos : b.memos = a.memos) (trace : entriesOf b.tracer = entry :: entriesOf a.tracer)
    (deep : ¬ scope.Nests slice depth entry) : EntersOnce scope slice [entry] (depth + 1) a c := by
  intro memoize
  obtain ⟨entries, h⟩ := h (limits ▸ memoize)
  refine ⟨entries, h.limits.trans limits, ?_, ?_, memos ▸ h.unknown, h.kept,
    memos ▸ h.remembers, ?_⟩
  · rw [h.trace, trace]
    simp only [List.append_nil, List.append_assoc, List.singleton_append]
  · refine List.nodup_append.2 ⟨List.append_nil entries ▸ h.nodup,
      List.nodup_cons.2 ⟨List.not_mem_nil, .nil⟩, ?_⟩
    rintro _ again _ here rfl
    exact deep (List.mem_singleton.1 here ▸ h.nests _ again)
  · exact fun entry new => (h.nests entry new).mono (Nat.le_succ _)

/-- A structure that was open and is remembered now was entered once. -/
theorem remember {position : Nat} (h : EntersOnce scope slice [(target.name, position)] depth a b)
    (new : a.remembered? target position = none)
    (nests : scope.Nests slice depth (target.name, position)) (memo : Memo) :
    EntersOnce scope slice [] depth a (b.remember target position memo) := by
  intro memoize
  obtain ⟨entries, h⟩ := h memoize
  have later : b.remember target position memo =
      { b with memos := b.memos.insert (target.name, position) memo } := if_pos (h.limits ▸ memoize)
  have unknown : (target.name, position) ∉ a.memos := by
    rw [remembered?, if_pos memoize] at new
    rw [Std.HashMap.mem_iff_isSome_getElem?, new]
    exact Bool.false_ne_true
  rw [later]
  refine ⟨entries ++ [(target.name, position)], h.limits, ?_, ?_, ?_, ?_, ?_, ?_⟩
  · rw [List.append_nil]
    exact h.trace
  · rw [List.append_nil]
    exact h.nodup
  · exact List.forall_mem_append.2 ⟨h.unknown, List.forall_mem_singleton.2 unknown⟩
  · exact List.forall_mem_append.2
      ⟨fun entry new => Std.HashMap.mem_insert.2 (.inr (h.kept entry new)),
        List.forall_mem_singleton.2 Std.HashMap.mem_insert_self⟩
  · exact fun entry old => Std.HashMap.mem_insert.2 (.inr (h.remembers entry old))
  · exact List.forall_mem_append.2 ⟨h.nests, List.forall_mem_singleton.2 nests⟩

end EntersOnce

end Context

/-! ## Combinators that answer -/

section Combinators

variable {τ : Type} {run : Runner τ} {site after : Site τ} {result : Result τ} {start rest : Cursor}
    {mark : Nat}

/-- What goes on from a part answers only if the part does. -/
theorem Result.andThen_eq_ok {next : Verdict → Site τ → Result τ}
    (ok : result.andThen next = (.ok verdict, after)) :
    ∃ first middle, result = (.ok first, middle) ∧ next first middle = (.ok verdict, after) := by
  obtain ⟨_ | first, middle⟩ := result
  · cases ok
  · exact ⟨first, middle, rfl, ok⟩

theorem forgive_eq_ok (ok : forgive result = (.ok verdict, after)) :
    ∃ tried, result = (.ok tried, after) := by
  obtain ⟨_ | tried, middle⟩ := result
  · cases ok
  · obtain ⟨-, rfl⟩ := Prod.mk.inj ok
    exact ⟨tried, rfl⟩

/-- A sequence answers with the failure of its first part, or as the other parts answer. -/
theorem matchSequence_eq_ok {part : Matcher} {parts : List Matcher}
    (ok : matchSequence run start mark (part :: parts) rest site = (.ok verdict, after)) :
    ∃ first middle, run part rest site = (.ok first, middle) ∧
      (first.failed = true ∧ after.context = middle.context ∨
        first.failed = false ∧
        matchSequence run start mark parts first.rest middle = (.ok verdict, after)) := by
  rw [matchSequence_cons] at ok
  obtain ⟨first, middle, ran, ok⟩ := Result.andThen_eq_ok ok
  refine ⟨first, middle, ran, ?_⟩
  cases failed : first.failed with
  | true =>
    rw [if_pos failed] at ok
    obtain ⟨-, rfl⟩ := Prod.mk.inj ok
    exact .inl ⟨rfl, rfl⟩
  | false =>
    rw [if_neg (ne_true_of_eq_false failed)] at ok
    exact .inr ⟨rfl, ok⟩

/-- A repetition with statements left answers where its first round fails, or as the other rounds
answer. -/
theorem matchStar_eq_ok {body : Matcher} {turns : Nat} (more : rest.isAtEnd = false)
    (ok : matchStar run body start mark turns rest site = (.ok verdict, after)) :
    ∃ others first middle, turns = others + 1 ∧ run body rest site = (.ok first, middle) ∧
      (first.failed = true ∧ after.context = middle.context ∨
        first.failed = false ∧ first.rest.position ≠ rest.position ∧
          matchStar run body start mark others first.rest middle = (.ok verdict, after)) := by
  cases turns with
  | zero =>
    rw [matchStar, if_neg (ne_true_of_eq_false more)] at ok
    cases ok
  | succ others =>
    rw [matchStar, if_neg (ne_true_of_eq_false more)] at ok
    obtain ⟨first, middle, ran, ok⟩ := Result.andThen_eq_ok ok
    refine ⟨others, first, middle, rfl, ran, ?_⟩
    cases failed : first.failed with
    | true =>
      rw [if_pos failed] at ok
      refine .inl ⟨rfl, ?_⟩
      split at ok
      all_goals
        obtain ⟨-, rfl⟩ := Prod.mk.inj ok
        rfl
    | false =>
      rw [if_neg (ne_true_of_eq_false failed)] at ok
      by_cases stuck : first.rest.position = rest.position
      · rw [if_pos stuck] at ok
        cases ok
      · rw [if_neg stuck] at ok
        exact .inr ⟨rfl, stuck, ok⟩

variable [Tracer τ]

/-- A choice answers as its first branch does, if that succeeds, and otherwise as the other
branches. -/
theorem matchChoice_eq_ok {all branches : List Matcher} {branch : Matcher} {description : String}
    {progress : Nat}
    (ok : matchChoice run all input (branch :: branches) description progress site =
      (.ok verdict, after)) :
    ∃ first middle, run branch input site = (.ok first, middle) ∧
      (first.failed = false ∧ after = middle ∨ first.failed = true ∧
        matchChoice run all input branches
          (if progress < first.progress then first.description else description)
          (if progress < first.progress then first.progress else progress)
          (middle.record (.backtracked input.position)) = (.ok verdict, after)) := by
  rw [matchChoice_andThen] at ok
  obtain ⟨first, middle, ran, ok⟩ := Result.andThen_eq_ok ok
  refine ⟨first, middle, ran, ?_⟩
  cases failed : first.failed with
  | true =>
    rw [if_pos failed] at ok
    exact .inr ⟨rfl, ok⟩
  | false =>
    rw [if_neg (ne_true_of_eq_false failed)] at ok
    exact .inl ⟨rfl, (Prod.mk.inj ok).2.symm⟩

/-- Entering a structure answers as its body does. -/
theorem enterStructure_eq_ok (ok : enterStructure run g target input site = (.ok verdict, after)) :
    ∃ body middle, g.body target = .ok body ∧
      run body input (site.descend.record (.entered target.name input.position)) =
        (.ok verdict, middle) ∧ after = middle.ascend.record (.exited target.name verdict) := by
  by_cases full : site.context.limits.recursion ≤ site.context.depth
  · rw [enterStructure_full _ _ _ _ full] at ok
    cases ok
  · cases body : g.body target with
    | error fault =>
      rw [enterStructure_of_malformed _ _ full body] at ok
      cases ok
    | ok m =>
      rw [enterStructure_of_body _ _ full body] at ok
      generalize ran :
        run m input (site.descend.record (.entered target.name input.position)) = inside at ok
      obtain ⟨_ | first, middle⟩ := inside
      · cases ok
      · obtain ⟨same, rfl⟩ := Prod.mk.inj ok
        obtain rfl := Except.ok.inj same
        exact ⟨m, middle, rfl, ran, rfl⟩

/-- A reference answers from the memo table, or remembers what its structure answers. -/
theorem matchSub_eq_ok (ok : matchSub run g target input site = (.ok verdict, after)) :
    after.context = (site.record (.replayed target.name input.position)).context ∨
      site.context.remembered? target input.position = none ∧ ∃ first middle memo,
        enterStructure run g target input ⟨site.context, .empty target⟩ = (.ok first, middle) ∧
          after.context = middle.context.remember target input.position memo := by
  unfold matchSub at ok
  cases found : site.context.remembered? target input.position with
  | some memo =>
    simp only [found] at ok
    refine .inl ?_
    split at ok
    all_goals
      obtain ⟨-, rfl⟩ := Prod.mk.inj ok
      rfl
  | none =>
    simp only [found] at ok
    refine .inr ⟨rfl, ?_⟩
    generalize enterStructure run g target input ⟨site.context, .empty target⟩ = entered at ok
    obtain ⟨_ | first, middle⟩ := entered
    · cases ok
    · simp only [] at ok
      refine ⟨first, middle, ⟨first.refuseEmpty target,
        if (first.refuseEmpty target).failed then none else some middle.node.toNode⟩, rfl, ?_⟩
      split at ok
      all_goals
        obtain ⟨-, rfl⟩ := Prod.mk.inj ok
        rfl

/-- A matcher that answers was paid for. -/
theorem runWithin_eq_ok {m : Matcher} {bound : Nat}
    (ok : runWithin g bound m input site = (.ok verdict, after)) :
    ∃ bound' fuel, bound = bound' + 1 ∧ site.context.fuel = fuel + 1 ∧
      m.runInside (runWithin g bound') g fuel input (site.withFuel fuel) =
        (.ok verdict, after) := by
  cases bound with
  | zero => cases ok
  | succ bound =>
    cases enough : site.context.fuel with
    | zero =>
      rw [runWithin_starved _ m input enough] at ok
      cases ok
    | succ fuel =>
      rw [runWithin_succ enough] at ok
      exact ⟨bound, fuel, rfl, rfl, ok⟩

end Combinators

/-! ## Runs that answer -/

/-- The structure that a task opens first of all. -/
def Task.opens : Task → Cursor → List (String × Nat)
  | inside target, input => [(target.name, input.position)]
  | _, _ => []

variable {site after : Site (List Event)} {bound turns : Nat}

theorem matchStatement_quiet {kind : Kind}
    (ran : matchStatement kind input site = (.ok verdict, after)) :
    site.context.Quiet after.context := by
  unfold matchStatement at ran
  split at ran
  · split at ran
    all_goals
      obtain ⟨-, rfl⟩ := Prod.mk.inj ran
      exact ⟨rfl, rfl, rfl⟩
  · obtain ⟨-, rfl⟩ := Prod.mk.inj ran
    exact ⟨rfl, rfl, rfl⟩

/-- Paying for a matcher enters nothing. -/
theorem Context.EntersOnce.of_withFuel {opened : List (String × Nat)} {depth fuel : Nat}
    {later : Context (List Event)}
    (h : EntersOnce scope slice opened depth (site.withFuel fuel).context later) :
    EntersOnce scope slice opened depth site.context later :=
  h.preceded ⟨rfl, rfl, rfl⟩

namespace Ready

variable {part : Matcher} {stated : Verdict}

/-- After a part that has answered, the run goes on. -/
theorem answered (ready : Ready scope host input.slice 0 bound turns site) (named : scope.Named)
    (within : (Task.whole part).Within scope)
    (first : Evaluates g scope host (.whole part) input cost answer)
    (ran : runWithin g bound part input site = (.ok verdict, after)) :
    answer.outcome = .ok verdict ∧ ∀ turns', Ready scope host input.slice 0 bound turns' after := by
  obtain ⟨outcome, -, later⟩ := ready.ran named within first ran
  exact ⟨outcome, fun _ => ⟨later.isHost, later.coherent, Nat.zero_le _, Nat.zero_le _,
    Nat.zero_le _⟩⟩

/-- A part that fails by its evaluation fails so when it is run. -/
theorem failed (ready : Ready scope host input.slice 0 bound turns site) (named : scope.Named)
    (within : (Task.whole part).Within scope)
    (first : Evaluates g scope host (.whole part) input cost answer)
    (fails : answer.Fails stated) (ran : runWithin g bound part input site = (.ok verdict, after)) :
    verdict = stated ∧ ∀ turns', Ready scope host input.slice 0 bound turns' after := by
  obtain ⟨outcome, later⟩ := ready.answered named within first ran
  exact ⟨Except.ok.inj (outcome.symm.trans fails.1), later⟩

/-- A part that succeeds by its evaluation succeeds so when it is run, on the same slice. -/
theorem succeeded (ready : Ready scope host input.slice 0 bound turns site) (named : scope.Named)
    (within : (Task.whole part).Within scope)
    (first : Evaluates g scope host (.whole part) input cost answer)
    (succeeds : answer.Succeeds stated)
    (ran : runWithin g bound part input site = (.ok verdict, after)) :
    verdict = stated ∧ input.slice = stated.rest.slice ∧
      ∀ turns', Ready scope host stated.rest.slice 0 bound turns' after := by
  obtain ⟨outcome, later⟩ := ready.answered named within first ran
  have on := ((first.covers (Cursor.le_refl _)).le_rest _ succeeds).1
  exact ⟨Except.ok.inj (outcome.symm.trans succeeds.1), on, on ▸ later⟩

end Ready

/-- A run that answers, and remembers, enters each structure once, and none that nests deeper than
its evaluation does. -/
theorem Evaluates.entersOnce (h : Evaluates g scope host task input cost answer)
    (named : scope.Named) (mark : Nat)
    (ready : Ready scope (task.grows host) input.slice 0 bound turns site)
    (within : task.Within scope)
    (ok : task.runWithin g bound turns mark input site = (.ok verdict, after)) :
    Context.EntersOnce scope input.slice
      (task.opens input) cost.depth site.context after.context := by
  -- the induction is on the evaluation and not on the run, whose fuel and memo table say nothing of
  -- depth
  induction h generalizing bound turns mark site after verdict with
  | matched _ _ | mismatched _ =>
    obtain ⟨_, _, rfl, _, ran⟩ := runWithin_eq_ok ok
    exact .of_withFuel (.of_quiet (matchStatement_quiet ran))
  | @sub host target actual input cost answer known name entered ih =>
    obtain ⟨_, fuel, rfl, enough, ran⟩ := runWithin_eq_ok ok
    -- the structure that answers is the target itself
    obtain rfl := named _ known _ within.mem name
    have referred : Context.EntersOnce scope input.slice [] cost.depth
        (site.withFuel fuel).context after.context := by
      rcases matchSub_eq_ok ran with replayed | ⟨new, first, middle, memo, ran, kept⟩
      · rw [replayed]
        exact .of_quiet ⟨rfl, rfl, rfl⟩
      · have inside := ih 0 ((ready.invoke rfl enough).apart _) within ran
        rw [kept]
        exact inside.remember new ⟨_, known, _, _, _, rfl, rfl, entered, Nat.le_refl _⟩ memo
    exact referred.of_withFuel
  | optional tried ih =>
    obtain ⟨_, _, rfl, enough, ran⟩ := runWithin_eq_ok ok
    obtain ⟨tried, ran⟩ := forgive_eq_ok ran
    exact .of_withFuel (ih mark (ready.invoke rfl enough) within ran)
  | star repeated ih =>
    obtain ⟨_, _, rfl, enough, ran⟩ := runWithin_eq_ok ok
    exact .of_withFuel (ih _ (ready.invoke rfl enough) within ran)
  | sequence parts ih =>
    obtain ⟨_, _, rfl, enough, ran⟩ := runWithin_eq_ok ok
    exact .of_withFuel (ih _ (ready.invoke rfl enough) within.sequence ran)
  | choice branches ih =>
    obtain ⟨_, _, rfl, enough, ran⟩ := runWithin_eq_ok ok
    exact .of_withFuel (ih mark (ready.invoke rfl enough) within.choice ran)
  | malformed body =>
    obtain ⟨m, _, body', _, _⟩ := enterStructure_eq_ok ok
    cases body.symm.trans body'
  | @entered host target m input cost answer body grown ih =>
    obtain ⟨m, middle, body', ran, rfl⟩ := enterStructure_eq_ok ok
    obtain rfl := Except.ok.inj (body.symm.trans body')
    have inside := ih mark (ready.descend _) (within.body body) ran
    -- were the structure entered again, its evaluation would nest deeper than itself
    have deep : ¬ scope.Nests input.slice cost.depth (target.name, input.position) := fun again =>
      Nat.not_succ_le_self _ (again.depth_le named (within _ List.mem_cons_self)
        (.entered body grown))
    have opened :
        Context.EntersOnce scope input.slice [(target.name, input.position)] (cost.depth + 1)
          site.context middle.context := inside.enter rfl rfl rfl deep
    exact opened.followed ⟨rfl, rfl, rfl⟩
  | noPartLeft | noBranchLeft =>
    obtain ⟨-, rfl⟩ := Prod.mk.inj ok
    exact .of_quiet (.refl _)
  | partHalted first halted ih =>
    obtain ⟨_, _, ran, _⟩ := matchSequence_eq_ok ok
    cases halted.symm.trans (ready.answered named within.part first ran).1
  | partFailed first fails ih =>
    obtain ⟨_, _, ran, ⟨_, same⟩ | ⟨succeeded, _⟩⟩ := matchSequence_eq_ok ok
    · rw [same]
      exact ih mark ready within.part ran
    · obtain ⟨rfl, -⟩ := ready.failed named within.part first fails ran
      cases fails.2.symm.trans succeeded
  | partSucceeded first succeeds others ih ihOthers =>
    obtain ⟨_, _, ran, ⟨failed, _⟩ | ⟨_, ran'⟩⟩ := matchSequence_eq_ok ok
    · obtain ⟨rfl, -⟩ := ready.succeeded named within.part first succeeds ran
      cases failed.symm.trans succeeds.2
    · obtain ⟨rfl, on, later⟩ := ready.succeeded named within.part first succeeds ran
      exact (ih mark ready within.part ran).trans
        (on ▸ ihOthers mark (later turns) within.parts ran')
  | branchHalted first halted ih =>
    obtain ⟨_, _, ran, _⟩ := matchChoice_eq_ok ok
    cases halted.symm.trans (ready.answered named within.branch first ran).1
  | branchTaken first succeeds ih =>
    obtain ⟨_, _, ran, ⟨_, rfl⟩ | ⟨failed, _⟩⟩ := matchChoice_eq_ok ok
    · exact ih mark ready within.branch ran
    · obtain ⟨rfl, -⟩ := ready.succeeded named within.branch first succeeds ran
      cases failed.symm.trans succeeds.2
  | branchFailed first fails others ih ihOthers =>
    obtain ⟨_, _, ran, ⟨succeeded, _⟩ | ⟨_, ran'⟩⟩ := matchChoice_eq_ok ok
    · obtain ⟨rfl, -⟩ := ready.failed named within.branch first fails ran
      cases fails.2.symm.trans succeeded
    · obtain ⟨rfl, later⟩ := ready.failed named within.branch first fails ran
      have others := ihOthers mark ((later turns).record _) within.branches ran'
      exact (ih mark ready within.branch ran).trans (others.preceded ⟨rfl, rfl, rfl⟩)
  | roundsOver atEnd =>
    rw [Task.runWithin, matchStar_atEnd _ _ _ _ _ _ atEnd] at ok
    obtain ⟨-, rfl⟩ := Prod.mk.inj ok
    exact .of_quiet (.refl _)
  | roundHalted more first halted ih =>
    obtain ⟨_, _, _, _, ran, _⟩ := matchStar_eq_ok more ok
    cases halted.symm.trans (ready.answered named within first ran).1
  | roundMalformed more first fails _ ih | roundRefused more first fails _ ih =>
    obtain ⟨_, _, _, _, ran, ⟨_, same⟩ | ⟨succeeded, _⟩⟩ := matchStar_eq_ok more ok
    · rw [same]
      exact ih mark ready within ran
    · obtain ⟨rfl, -⟩ := ready.failed named within first fails ran
      cases fails.2.symm.trans succeeded
  | roundStuck more first succeeds stuck ih =>
    obtain ⟨_, _, _, _, ran, ⟨failed, _⟩ | ⟨_, gained, _⟩⟩ := matchStar_eq_ok more ok
    · obtain ⟨rfl, -⟩ := ready.succeeded named within first succeeds ran
      cases failed.symm.trans succeeds.2
    · obtain ⟨rfl, -⟩ := ready.succeeded named within first succeeds ran
      exact absurd stuck gained
  | roundGained more first succeeds gained others ih ihOthers =>
    obtain ⟨_, _, _, _, ran, ⟨failed, _⟩ | ⟨_, _, ran'⟩⟩ := matchStar_eq_ok more ok
    · obtain ⟨rfl, -⟩ := ready.succeeded named within first succeeds ran
      cases failed.symm.trans succeeds.2
    · obtain ⟨rfl, on, later⟩ := ready.succeeded named within first succeeds ran
      exact (ih mark ready within ran).trans (on ▸ ihOthers mark (later _) within ran')

/-! ## Parses -/

variable {root : Structure} {limits : Limits} {statements : Array Statement} {result : Parse}
    {events : List Event}

/-- Where the structures below the root have distinct names, and results are kept, a parse that
comes to a result has entered the root, and no structure twice at one position. -/
theorem parseWith_entries_nodup
    (named : ∀ s t, g.Reaches root s → g.Reaches root t → s.name = t.name → s = t)
    (memoize : limits.memoize = true)
    (ok : parseWith g root limits ([] : List Event) statements = (.ok result, events)) :
    (root.name, 0) ∈ entriesOf events ∧ (entriesOf events).Nodup := by
  have named : (Scope.below root : Scope g).Named := fun s hs t ht => named s t hs ht
  have known : root ∈ (Scope.below root : Scope g) := Scope.root_mem_below root
  obtain ⟨verdict, after, matched, rfl⟩ := parseWith_eq_ok_iff.1 (congrArg Prod.fst ok)
  obtain rfl : after.context.tracer = events := by
    rw [parseWith, matched] at ok
    exact (Prod.mk.inj ok).2
  have accounts := matchRoot_accounts known limits ([] : List Event) statements
  rw [matched] at accounts
  obtain ⟨cost, answer, evaluated, -, -⟩ := accounts.answered
  have ready :
      Ready (Scope.below root : Scope g) root.name ⟨0, statements⟩ 0 limits.fuel limits.fuel
        ⟨.fresh limits ([] : List Event), .empty root⟩ :=
    ⟨rfl, Context.coherent_fresh _ _ _ _, Nat.zero_le _, Nat.zero_le _, Nat.zero_le _⟩
  obtain ⟨entries, once⟩ :=
    evaluated.entersOnce named 0 ready (Task.within_inside known) matched memoize
  have trace : entriesOf after.context.tracer = entries ++ [(root.name, 0)] ++ [] := once.trace
  rw [trace, List.append_nil]
  exact ⟨List.mem_append_right _ List.mem_cons_self, once.nodup⟩

/-- A block with one of two statements after it. -/
def clause : Structure :=
  ⟨"clause", "Clause"⟩

def clauses : Grammar :=
  ⟨⟨clause, .ok (.choice (.sequence (.sub block) (.statement ⟨"do"⟩) [])
    (.sequence (.sub block) (.statement ⟨"end"⟩) []) [])⟩ :: blocks.rules⟩

theorem eq_of_clause_reaches {s : Structure} (h : clauses.Reaches clause s) :
    s = clause ∨ s = block := by
  induction h with
  | refl => exact .inl rfl
  | step _ member ih =>
    right
    rcases ih with rfl | rfl
    · rcases List.mem_cons.1 member with same | member
      · exact same
      · exact List.mem_singleton.1 member
    · exact List.mem_singleton.1 member

/-- Without a memo table, the blocks of a clause are entered for both of its branches; with one,
each is entered once. -/
theorem parseWith_entries_nodup_clause :
    entriesOf (parseWith clauses clause ⟨60, 5, false⟩ ([] : List Event)
        (statementsOfKinds ["begin", "end", "end"])).2 =
        [("Block", 1), ("Block", 0), ("Block", 1), ("Block", 0), ("Clause", 0)] ∧
      ∃ result events, parseWith clauses clause ⟨60, 5, true⟩ ([] : List Event)
        (statementsOfKinds ["begin", "end", "end"]) = (.ok result, events) ∧
          ("Clause", 0) ∈ entriesOf events ∧ (entriesOf events).Nodup := by
  have named : ∀ s t, clauses.Reaches clause s → clauses.Reaches clause t →
      s.name = t.name → s = t := by
    intro s t hs ht same
    rcases eq_of_clause_reaches hs with rfl | rfl <;> rcases eq_of_clause_reaches ht with rfl | rfl
    · rfl
    · exact absurd same (by decide)
    · exact absurd same (by decide)
    · rfl
  obtain ⟨result, ok⟩ : ∃ result, (parseWith clauses clause ⟨60, 5, false⟩ ([] : List Event)
      (statementsOfKinds ["begin", "end", "end"])).1 = .ok result := ⟨_, rfl⟩
  have kept := parseWith_memoized (fun s hs t ht => named s t hs ht) ok
  exact ⟨rfl, result, _, Prod.ext kept rfl, parseWith_entries_nodup named rfl (Prod.ext kept rfl)⟩

end OrderedChoice
