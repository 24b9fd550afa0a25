import OrderedChoice.Parse
import OrderedChoice.Proofs.Account

/-!
# Every run is accounted for

One lemma for each combinator, over any way its parts are run, and from them that a matcher with any
fuel gives what an evaluation of it gives, unless it is cut off (`runWithin_accounts`).
-/

namespace OrderedChoice

variable {τ : Type} {g : Grammar} {scope : Scope g} {task : Task} {input : Cursor} {base : OpenNode}
  {site : Site τ} {result : Result τ} {cost : Cost} {answer : Answer}

/-! ## Combinators -/

variable [Tracer τ]

/-- However a runner runs a matcher, an evaluation accounts for it. -/
def Accountable (scope : Scope g) (run : Runner τ) : Prop :=
  ∀ m input site, (Task.whole m).Within scope → site.context.Coherent scope input.slice →
    Accounts scope (.whole m) input site.node site (run m input site)

/-- A statement that is not of the kind is left where it is. -/
theorem accounts_mismatch {kind : Kind} {fuel : Nat} {found : Option Statement}
    (enough : site.context.fuel = fuel + 1) (coherent : site.context.Coherent scope input.slice)
    (other : ∀ statement, input.first? = some statement → statement.kind ≠ kind) :
    Accounts scope (.whole (.statement kind)) input site.node site
      (.ok (.failure input ("Expected " ++ kind.expectedName) 0),
        (site.withFuel fuel).record (.mismatched kind found input.position)) where
  follows := ⟨rfl, rfl, by show fuel ≤ _; omega, Nat.le_refl _⟩
  coherent := coherent.mono rfl (Nat.le_refl _)
  grown := ⟨[], (OpenNode.grow_nil _).symm⟩
  settled := by
    have settles :
      Settles ⟨0, 0⟩ (.bare (.ok (.failure input ("Expected " ++ kind.expectedName) 0)) 0) site.node
        (site.withFuel fuel) (.ok (.failure input ("Expected " ++ kind.expectedName) 0),
          (site.withFuel fuel).record (.mismatched kind found input.position)) := by
      refine .fuel_zero rfl rfl (Nat.max_zero _).symm ?_
      rintro _ ⟨⟩
      rfl
    exact .inr ⟨_, _, .mismatched other, settles.invoke enough⟩

/-- A statement of the kind becomes a leaf. -/
theorem accounts_match {kind : Kind} {fuel : Nat} {statement : Statement}
    (enough : site.context.fuel = fuel + 1) (coherent : site.context.Coherent scope input.slice)
    (found : input.first? = some statement) (same : statement.kind = kind) :
    Accounts scope (.whole (.statement kind)) input site.node site
      (Verdict.success input input.next,
        (((site.withFuel fuel).record (.consumed statement input.position)).reach
          input.position).push (.leaf statement input.position)) where
  follows := ⟨rfl, rfl, by show fuel ≤ _; omega, Nat.le_max_left _ _⟩
  coherent := coherent.mono rfl (Nat.le_max_left _ _)
  grown := ⟨_, OpenNode.push_eq_grow _ _⟩
  settled := by
    have settles : Settles ⟨0, 0⟩
        ⟨Verdict.success input input.next, [.leaf statement input.position],
          input.position + 1⟩ site.node
        (site.withFuel fuel) (Verdict.success input input.next,
          (((site.withFuel fuel).record (.consumed statement input.position)).reach
            input.position).push
            (.leaf statement input.position)) := by
      refine .fuel_zero rfl rfl rfl ?_
      rw [Verdict.success_of_le input.le_next]
      rintro _ ⟨⟩
      exact OpenNode.push_eq_grow _ _
    exact .inr ⟨_, _, .matched found same, settles.invoke enough⟩

theorem matchStatement_accounts {kind : Kind} {fuel : Nat} (enough : site.context.fuel = fuel + 1)
    (coherent : site.context.Coherent scope input.slice) :
    Accounts scope (.whole (.statement kind)) input site.node site
      (matchStatement kind input (site.withFuel fuel)) := by
  unfold matchStatement
  cases found : input.first? with
  | none =>
    refine accounts_mismatch enough coherent ?_
    rw [found]
    exact nofun
  | some statement =>
    by_cases same : statement.kind = kind
    · simp only [if_pos same]
      exact accounts_match enough coherent found same
    · simp only [if_neg same]
      refine accounts_mismatch enough coherent ?_
      rw [found]
      rintro _ ⟨⟩
      exact same

omit [Tracer τ] in
theorem forgive_accounts {body : Matcher} {fuel : Nat} (enough : site.context.fuel = fuel + 1)
    (h : Accounts scope (.whole body) input site.node (site.withFuel fuel) result) :
    Accounts scope (.whole (.optional body)) input site.node site (forgive result) := by
  obtain ⟨outcome, after⟩ := result
  have follows : site.context.Follows after.context := by
    have le : after.context.fuel ≤ fuel := h.follows.fuel
    exact ⟨h.follows.limits, h.follows.depth, by omega, h.follows.furthest⟩
  cases outcome with
  | error halt =>
    refine ⟨follows, h.coherent, h.grown, ?_⟩
    rcases h.settled with cut | ⟨cost, answer, evaluated, settles⟩
    · exact .inl cut
    · have same : answer.forgiven = answer := Answer.forgiven_of_error settles.outcome.symm
      exact .inr ⟨_, _, .optional evaluated, same.symm ▸ settles.invoke enough⟩
  | ok verdict =>
    refine ⟨follows, h.coherent, h.grown, ?_⟩
    rcases h.settled with ⟨_, ⟨⟩, _⟩ | ⟨cost, answer, evaluated, settles⟩
    refine .inr ⟨_, _, .optional evaluated, Settles.invoke enough ?_⟩
    refine ⟨?_, ?_, ?_, settles.fuel, settles.exact⟩
    · rw [Answer.forgiven_of_ok settles.outcome.symm]
      rfl
    · rw [Answer.reach_forgiven]
      exact settles.furthest
    · -- a forgiven failure has grown nothing
      rintro _ ⟨⟩
      have node : after.node = _ := settles.node verdict rfl
      show after.node = _
      rw [node, Answer.nodes_forgiven]
      cases failed : verdict.failed with
      | false => rfl
      | true =>
        have fails : answer.Fails verdict := ⟨settles.outcome.symm, failed⟩
        rw [(evaluated.covers input.le_refl).bare fails.succeeded]
        exact (OpenNode.grow_nil _).symm

/-! ### Sequences -/

omit [Tracer τ] in
theorem matchSequence_accounts {run : Runner τ} (runs : Accountable scope run) (start : Cursor)
    (base : OpenNode) :
    ∀ (parts : List Matcher) (rest : Cursor) (site : Site τ),
    (∃ nodes, site.node = base.grow nodes) →
    (Task.inTurn start parts).Within scope → site.context.Coherent scope rest.slice →
    Accounts scope (.inTurn start parts) rest base site
      (matchSequence run start base.size parts rest site) := by
  intro parts
  induction parts with
  | nil =>
    intro rest site grown _ coherent
    exact .success grown coherent .noPartLeft
  | cons part parts ih =>
    intro rest site ⟨before, grown⟩ within coherent
    have first := runs part rest site within.part coherent
    rw [matchSequence]
    generalize run part rest site = result at first ⊢
    obtain ⟨_ | verdict, after⟩ := result
    · exact first.halt grown .partHalted
    · cases failed : verdict.failed with
      | true =>
        simp only [failed, if_true]
        exact first.fail grown rfl fun evaluated outcome => .partFailed evaluated ⟨outcome, failed⟩
      | false =>
        obtain ⟨cost, answer, evaluated, outcome, settles⟩ := first.answered
        have succeeds : answer.Succeeds verdict := ⟨outcome, failed⟩
        have node := settles.node_success failed
        have moved := (evaluated.covers (Cursor.le_refl _)).le_rest verdict succeeds
        rw [show site.node.target = base.target by rw [grown, OpenNode.target_grow]] at evaluated
        simp only [failed, Bool.false_eq_true, if_false]
        refine .step settles first.follows moved.1.symm node ?_ (.partSucceeded evaluated succeeds)
        exact ih verdict.rest after (first.grown_part grown) within.parts (moved.1 ▸ first.coherent)

/-! ### Choices -/

/-- A choice goes on with the better of the two failures. -/
theorem matchChoice_cons (run : Runner τ) (all : List Matcher) (input : Cursor) (branch : Matcher)
    (branches : List Matcher) (description : String) (progress : Nat) (site : Site τ) :
    matchChoice run all input (branch :: branches) description progress site =
      match run branch input site with
      | (.error halt, site) => (.error halt, site)
      | (.ok verdict, site) =>
        if verdict.failed then
          matchChoice run all input branches
            (if progress < verdict.progress then verdict.description else description)
            (if progress < verdict.progress then verdict.progress else progress)
            (site.record (.backtracked input.position))
        else (.ok verdict, site) := by
  rw [matchChoice]
  generalize run branch input site = result
  obtain ⟨_ | verdict, after⟩ := result
  · rfl
  · by_cases better : progress < verdict.progress
    · simp only [if_pos better]
    · simp only [if_neg better]

theorem matchChoice_accounts {run : Runner τ} (runs : Accountable scope run) (all : List Matcher)
    (input : Cursor) (base : OpenNode) :
    ∀ (branches : List Matcher) (description : String) (progress : Nat) (site : Site τ),
      site.node = base → (Task.firstOf all branches description progress).Within scope →
      site.context.Coherent scope input.slice →
      Accounts scope (.firstOf all branches description progress) input base site
        (matchChoice run all input branches description progress site) := by
  intro branches
  induction branches with
  | nil =>
    intro description progress site same _ coherent
    refine ⟨.refl _, coherent, ⟨[], by rw [OpenNode.grow_nil]; exact same⟩,
      .inr ⟨_, _, .noBranchLeft, .fuel_zero rfl rfl (Nat.max_zero _).symm ?_⟩⟩
    rintro _ ⟨⟩
    rw [if_pos (failed_choiceFailure _ _ _ _)]
    exact same
  | cons branch branches ih =>
    intro description progress site same within coherent
    subst same
    have first := runs branch input site within.branch coherent
    rw [matchChoice_cons]
    generalize run branch input site = result at first ⊢
    obtain ⟨_ | verdict, after⟩ := result
    · exact first.halt (OpenNode.grow_nil _).symm .branchHalted
    · obtain ⟨cost, answer, evaluated, outcome, settles⟩ := first.answered
      cases failed : verdict.failed with
      | false =>
        simp only [failed, Bool.false_eq_true, if_false]
        exact ⟨first.follows, first.coherent, first.grown,
          .inr ⟨_, _, .branchTaken evaluated ⟨outcome, failed⟩, settles⟩⟩
      | true =>
        have node := settles.node_failure failed
        -- the branch has grown nothing, so the others begin where it began
        have others := ih (if progress < verdict.progress then verdict.description else description)
          (if progress < verdict.progress then verdict.progress else progress)
          (after.record (.backtracked input.position)) node within.branches
          (first.coherent.mono rfl (Nat.le_refl _))
        simp only [failed, if_true]
        exact .step settles.record (first.follows.trans (Site.follows_record _ _)) rfl
          (node.trans (OpenNode.grow_nil _).symm) others (.branchFailed evaluated ⟨outcome, failed⟩)

/-! ### Repetitions -/

omit [Tracer τ] in
theorem matchStar_accounts {run : Runner τ} (runs : Accountable scope run) (body : Matcher)
    (start : Cursor) (base : OpenNode) :
    ∀ (rounds : Nat) (rest : Cursor) (site : Site τ), (∃ nodes, site.node = base.grow nodes) →
    (Task.rounds start body).Within scope → site.context.Coherent scope rest.slice →
      Accounts scope (.rounds start body) rest base site
        (matchStar run body start base.size rounds rest site) := by
  intro rounds
  induction rounds with
  | zero =>
    intro rest site grown _ coherent
    rw [matchStar]
    cases atEnd : rest.isAtEnd with
    | true => exact .success grown coherent (.roundsOver atEnd)
    | false => exact .cutOff rfl (.refl _) coherent grown
  | succ rounds ih =>
    intro rest site ⟨before, grown⟩ within coherent
    rw [matchStar]
    cases more : rest.isAtEnd with
    | true => exact .success ⟨before, grown⟩ coherent (.roundsOver more)
    | false =>
      have first := runs body rest site within coherent
      simp only [Bool.false_eq_true, if_false]
      generalize run body rest site = result at first ⊢
      obtain ⟨_ | verdict, after⟩ := result
      · exact first.halt grown (.roundHalted more)
      · cases failed : verdict.failed with
        | true =>
          simp only [failed, if_true]
          by_cases progress : 0 < verdict.progress
          · rw [if_pos progress]
            exact first.fail grown rfl fun evaluated outcome =>
              .roundMalformed more evaluated ⟨outcome, failed⟩ progress
          · rw [if_neg progress]
            exact first.keep grown failed fun evaluated outcome =>
              .roundRefused more evaluated ⟨outcome, failed⟩ (Nat.eq_zero_of_not_pos progress)
        | false =>
          obtain ⟨cost, answer, evaluated, outcome, settles⟩ := first.answered
          have succeeds : answer.Succeeds verdict := ⟨outcome, failed⟩
          have moved := (evaluated.covers (Cursor.le_refl _)).le_rest verdict succeeds
          have node := settles.node_success failed
          have host : site.node.target = base.target := by rw [grown, OpenNode.target_grow]
          rw [host] at evaluated
          simp only [failed, Bool.false_eq_true, if_false]
          by_cases stuck : verdict.rest.position = rest.position
          · rw [if_pos stuck]
            have name : after.node.target.name = base.target.name := by
              rw [node, OpenNode.target_grow, host]
            rw [name]
            exact ⟨first.follows, first.coherent, first.grown_part grown,
              .inr ⟨_, _, .roundStuck more evaluated succeeds stuck,
                rfl, settles.furthest, nofun, settles.fuel, settles.exact⟩⟩
          · rw [if_neg stuck]
            refine .step settles first.follows moved.1.symm node ?_
              (.roundGained more evaluated succeeds stuck)
            exact ih verdict.rest after (first.grown_part grown) within (moved.1 ▸ first.coherent)

/-! ### Structures -/

/-- Entering a structure and leaving it again. -/
theorem Context.follows_ascend {before after : Site τ} {event : Event}
    (h : (before.descend.record event).context.Follows after.context) :
    before.context.Follows after.ascend.context where
  limits := h.limits
  depth := by
    have depth : after.context.depth = before.context.depth + 1 := h.depth
    show after.context.depth - 1 = before.context.depth
    rw [depth, Nat.add_sub_cancel]
  fuel := h.fuel
  furthest := h.furthest

/-- What settles inside a structure settles around it, one structure further out. -/
theorem Settles.ascend {outcome : Except Halt Verdict} {after : Site τ} {event : Event}
    (inRoom : site.context.depth < site.context.limits.recursion)
    (h : Settles cost answer base (site.descend.record event) (outcome, after)) :
    Settles cost.enter answer base site (outcome, after.ascend) where
  outcome := h.outcome
  furthest := h.furthest
  node := h.node
  fuel := h.fuel
  exact := by
    intro off
    obtain ⟨spent, depth⟩ := h.exact off
    have depth : cost.depth ≤ site.context.limits.recursion - (site.context.depth + 1) := depth
    refine ⟨spent, ?_⟩
    rw [Cost.depth_enter, Context.room]
    omega

theorem enterStructure_accounts {run : Runner τ} (runs : Accountable scope run) {target : Structure}
    (host : site.node.target = target) (within : (Task.inside target).Within scope)
    (coherent : site.context.Coherent scope input.slice) :
    Accounts scope (.inside target) input site.node site
      (enterStructure run g target input site) := by
  unfold enterStructure
  by_cases full : site.context.limits.recursion ≤ site.context.depth
  · rw [if_pos full]
    exact .cutOff rfl (.refl _) coherent ⟨[], (OpenNode.grow_nil _).symm⟩
  · rw [if_neg full]
    cases body : g.body target with
    | error fault =>
      simp only []
      have settles : Settles ⟨0, 0⟩ (.bare (.error (.malformedBody fault)) 0) site.node
          (site.descend.record (.entered target.name input.position))
          (.error (.malformedBody fault),
            site.descend.record (.entered target.name input.position)) :=
        .fuel_zero rfl rfl (Nat.max_zero _).symm nofun
      exact ⟨Context.follows_ascend (.refl _),
        coherent.mono rfl (Nat.le_refl _), ⟨[], (OpenNode.grow_nil _).symm⟩,
        .inr ⟨_, _, .malformed body, settles.ascend (Nat.lt_of_not_le full)⟩⟩
    | ok m =>
      have first :=
        runs m input (site.descend.record (.entered target.name input.position)) (within.body body)
        (coherent.mono rfl (Nat.le_refl _))
      simp only []
      generalize run m input (site.descend.record (.entered target.name input.position)) =
        result at first ⊢
      have rule :
          ∀ {cost answer}, Evaluates g scope site.node.target.name (.whole m) input cost answer →
          Evaluates g scope site.node.target.name (.inside target) input cost.enter answer := by
        intro cost answer evaluated
        rw [host] at evaluated
        exact .entered body evaluated
      obtain ⟨halt | verdict, after⟩ := result
      · refine ⟨Context.follows_ascend first.follows, first.coherent.mono rfl (Nat.le_refl _),
          first.grown, ?_⟩
        rcases first.settled with cut | ⟨cost, answer, evaluated, settles⟩
        · exact .inl cut
        · exact .inr ⟨_, _, rule evaluated, settles.ascend (Nat.lt_of_not_le full)⟩
      · obtain ⟨cost, answer, evaluated, _, settles⟩ := first.answered
        exact ⟨(Context.follows_ascend first.follows).trans (Site.follows_record _ _),
          first.coherent.mono rfl (Nat.le_refl _), first.grown,
          .inr ⟨_, _, rule evaluated, (settles.ascend (Nat.lt_of_not_le full)).record⟩⟩

/-- A remembered result is what an evaluation gives, and costs nothing but its invocation. -/
theorem accounts_replay {target : Structure} {memo : Memo} {fuel : Nat}
    (enough : site.context.fuel = fuel + 1) (coherent : site.context.Coherent scope input.slice)
    (found : site.context.remembered? target input.position = some memo) :
    Accounts scope (.whole (.sub target)) input site.node site
      (.ok memo.verdict,
        ⟨((site.withFuel fuel).record (.replayed target.name input.position)).context,
        site.node.grow memo.node.toList⟩) := by
  unfold Context.remembered? at found
  split at found
  case isFalse => cases found
  case isTrue memoize =>
  obtain ⟨actual, known, name, at_, slice, position, cost, answer, evaluated, reach,
    outcome, nodes⟩ :=
    coherent _ _ _ found
  obtain rfl := Cursor.eq_of_position_eq slice position
  refine ⟨⟨rfl, rfl, by show fuel ≤ _; omega, Nat.le_refl _⟩, coherent.mono rfl (Nat.le_refl _),
    ⟨_, rfl⟩, .inr ⟨_, _, .sub known name evaluated, ?_⟩⟩
  have failed_nil : memo.verdict.failed = true → memo.node.toList = [] := by
    intro failed
    have fails : (answer.enclosed actual).Fails memo.verdict := ⟨outcome, failed⟩
    rw [← nodes]
    exact ((evaluated.covers at_.le_refl).enclosed actual).bare fails.succeeded
  refine ⟨outcome.symm, ?_, ?_, ?_, ?_⟩
  · rw [Answer.reach_enclosed]
    exact (Nat.max_eq_left reach).symm
  · rintro _ ⟨⟩
    show site.node.grow memo.node.toList = _
    cases failed : memo.verdict.failed with
    | true => rw [failed_nil failed, OpenNode.grow_nil, if_pos rfl]
    | false => rw [nodes]; rfl
  · show site.context.fuel ≤ fuel + (cost.fuel + 1)
    omega
  · intro off
    rw [memoize] at off
    cases off

omit [Tracer τ] in
/-- A structure that halts leaves nothing behind. -/
theorem accounts_sub_halt {target : Structure} {halt : Halt} {fuel : Nat} {after : Context τ}
    {grown : OpenNode} (enough : site.context.fuel = fuel + 1) (known : target ∈ scope)
    (entered : Accounts scope (.inside target) input (.empty target)
      ⟨(site.withFuel fuel).context, .empty target⟩ (.error halt, ⟨after, grown⟩)) :
    Accounts scope (.whole (.sub target)) input site.node site
      (.error halt, ⟨after, site.node⟩) where
  follows := by
    have le : after.fuel ≤ fuel := entered.follows.fuel
    exact ⟨entered.follows.limits, entered.follows.depth, by show after.fuel ≤ _; omega,
      entered.follows.furthest⟩
  coherent := entered.coherent
  grown := ⟨[], (OpenNode.grow_nil _).symm⟩
  settled := by
    rcases entered.settled with cut | ⟨cost, answer, evaluated, settles⟩
    · exact .inl cut
    · have bare := Answer.enclosed_of_error settles.outcome.symm target
      refine .inr ⟨_, _, .sub known rfl evaluated, Settles.invoke enough ?_⟩
      rw [bare]
      refine ⟨rfl, settles.furthest, ?_, settles.fuel, settles.exact⟩
      rintro _ ⟨⟩

omit [Tracer τ] in
/-- The node that a structure has grown is what its answer encloses. -/
theorem Settles.nodes_enclosed {target : Structure} {verdict : Verdict} {before after : Context τ}
    {grown : OpenNode}
    (settles : Settles cost answer (.empty target) ⟨before, .empty target⟩
      (.ok verdict, ⟨after, grown⟩)) :
    (answer.enclosed target).nodes =
      (if (verdict.refuseEmpty target).failed then none else some grown.toNode).toList := by
  rw [Answer.enclosed_of_ok settles.outcome.symm]
  cases refused : (verdict.refuseEmpty target).failed with
  | true => rfl
  | false =>
    -- the structure itself has not failed either, so its node holds what it has grown
    have failed : verdict.failed = false := by
      rw [← Bool.not_eq_true]
      intro failed
      rw [Verdict.refuseEmpty_of_failed failed] at refused
      cases failed.symm.trans refused
    have node : grown = (OpenNode.empty target).grow answer.nodes := settles.node_success failed
    simp only [node, OpenNode.toNode_grow_empty]
    rfl

omit [Tracer τ] in
/-- A structure that answers becomes a child if it succeeds on something, and its result is kept. -/
theorem accounts_sub_answer {target : Structure} {verdict : Verdict} {fuel : Nat}
    {after : Context τ} {grown : OpenNode} (enough : site.context.fuel = fuel + 1)
    (known : target ∈ scope) (entered : Accounts scope (.inside target) input (.empty target)
      ⟨(site.withFuel fuel).context, .empty target⟩
        (.ok verdict, ⟨after, grown⟩)) {node : Option Node} (isNode :
      node = if (verdict.refuseEmpty target).failed then none else some grown.toNode) :
    Accounts scope (.whole (.sub target)) input site.node site
      (.ok (verdict.refuseEmpty target),
        ⟨after.remember target input.position ⟨verdict.refuseEmpty target, node⟩,
          site.node.grow node.toList⟩) := by
  obtain ⟨cost, answer, evaluated, outcome, settles⟩ := entered.answered
  have enclosed := Answer.enclosed_of_ok outcome target
  have nodes : (answer.enclosed target).nodes = node.toList := isNode ▸ settles.nodes_enclosed
  have reached : after.furthest = max site.context.furthest answer.reach := settles.furthest
  refine ⟨?_, ?_, ⟨_, rfl⟩, .inr ⟨_, _, .sub known rfl evaluated, Settles.invoke enough ?_⟩⟩
  · have le : after.fuel ≤ fuel := entered.follows.fuel
    refine Context.Follows.trans ?_ (Context.follows_remember _ _ _ _)
    exact ⟨entered.follows.limits, entered.follows.depth, by omega, entered.follows.furthest⟩
  · refine entered.coherent.remember known evaluated ?_ ?_ nodes
    · rw [reached]
      exact Nat.le_max_right _ _
    · rw [enclosed]
  · refine ⟨?_, ?_, ?_, ?_, ?_⟩
    · rw [enclosed]
    · rw [Answer.reach_enclosed]
      exact (Context.furthest_remember _ _ _ _).trans settles.furthest
    · rintro _ ⟨⟩
      show site.node.grow node.toList = _
      rw [nodes]
      split
      · rename_i refused
        rw [isNode, if_pos refused]
        exact OpenNode.grow_nil _
      · rfl
    · show _ ≤ (after.remember _ _ _).fuel + _
      rw [Context.fuel_remember]
      exact settles.fuel
    · show _ → _ = (after.remember _ _ _).fuel + _ ∧ _
      rw [Context.fuel_remember]
      exact settles.exact

theorem matchSub_accounts {run : Runner τ}
    (runs : Accountable scope run) {target : Structure} {fuel : Nat}
    (enough : site.context.fuel = fuel + 1) (within : (Task.whole (.sub target)).Within scope)
    (coherent : site.context.Coherent scope input.slice) :
    Accounts scope (.whole (.sub target)) input site.node site
      (matchSub run g target input (site.withFuel fuel)) := by
  unfold matchSub
  cases found : (site.withFuel fuel).context.remembered? target input.position with
  | some memo =>
    have replay := accounts_replay enough coherent found
    obtain ⟨verdict, node⟩ := memo
    cases node with
    | some node =>
      have pushed := OpenNode.push_eq_grow site.node node
      simp only []
      show Accounts scope _ input site.node site (.ok verdict, ⟨_, site.node.push node⟩)
      rw [pushed]
      exact replay
    | none =>
      rw [show (⟨verdict, none⟩ : Memo).node.toList = [] from rfl, OpenNode.grow_nil] at replay
      exact replay
  | none =>
    have host : (⟨(site.withFuel fuel).context, .empty target⟩ : Site τ).node.target = target := rfl
    have coherent' : (site.withFuel fuel).context.Coherent scope input.slice :=
      coherent.mono rfl (Nat.le_refl _)
    have entered : Accounts scope (.inside target) input (.empty target)
        ⟨(site.withFuel fuel).context, .empty target⟩
        (enterStructure run g target input ⟨(site.withFuel fuel).context, .empty target⟩) :=
      enterStructure_accounts runs host (Task.within_inside within.mem) coherent'
    simp only []
    generalize enterStructure run g target input ⟨(site.withFuel fuel).context, .empty target⟩ =
      result
      at entered ⊢
    obtain ⟨halt | verdict, ⟨after, grown⟩⟩ := result
    · exact accounts_sub_halt enough within.mem entered
    · have answered := accounts_sub_answer enough within.mem entered rfl
      simp only []
      cases failed : (verdict.refuseEmpty target).failed with
      | true =>
        simp only [failed, if_true] at answered ⊢
        rw [show (none : Option Node).toList = [] from rfl, OpenNode.grow_nil] at answered
        exact answered
      | false =>
        simp only [failed, Bool.false_eq_true, if_false] at answered ⊢
        rw [show (some grown.toNode).toList = [grown.toNode] from rfl, ← OpenNode.push_eq_grow]
          at answered
        exact answered

/-! ## Matchers -/

/-- What a matcher does once its invocation is paid for, with this much fuel left. -/
def Matcher.runInside (run : Runner τ) (g : Grammar) (fuel : Nat) : Runner τ
  | .statement kind, input, site => matchStatement kind input site
  | .sub target, input, site => matchSub run g target input site
  | .optional body, input, site => forgive (run body input site)
  | .star body, input, site => matchStar run body input site.node.size fuel input site
  | .sequence a b rest, input, site =>
    matchSequence run input site.node.size (a :: b :: rest) input site
  | .choice a b rest, input, site =>
    matchChoice run (a :: b :: rest) input (a :: b :: rest) "" 0 site

theorem runWithin_succ {m : Matcher} {bound fuel : Nat} (enough : site.context.fuel = fuel + 1) :
    runWithin g (bound + 1) m input site =
      m.runInside (runWithin g bound) g fuel input (site.withFuel fuel) := by
  rw [runWithin, enough]
  cases m <;> rfl

theorem runWithin_accounts (scope : Scope g) (bound : Nat) :
    Accountable scope (runWithin g bound : Runner τ) := by
  induction bound with
  | zero =>
    intro m input site _ coherent
    exact .cutOff rfl (.refl _) coherent ⟨[], (OpenNode.grow_nil _).symm⟩
  | succ bound ih =>
    intro m input site within coherent
    cases enough : site.context.fuel with
    | zero =>
      rw [runWithin, enough]
      exact .cutOff rfl (.refl _) coherent ⟨[], (OpenNode.grow_nil _).symm⟩
    | succ fuel =>
      have bare : ∃ nodes, (site.withFuel fuel).node = site.node.grow nodes :=
        ⟨[], (OpenNode.grow_nil _).symm⟩
      have coherent' : (site.withFuel fuel).context.Coherent scope input.slice :=
        coherent.mono rfl (Nat.le_refl _)
      rw [runWithin_succ enough]
      cases m with
      | statement kind => exact matchStatement_accounts enough coherent
      | sub target => exact matchSub_accounts ih enough within coherent
      | optional body =>
        exact forgive_accounts enough (ih body input (site.withFuel fuel) within coherent')
      | star body =>
        exact .invoke enough .star
          (matchStar_accounts ih body input site.node fuel input _ bare within coherent')
      | sequence a b rest =>
        exact .invoke enough .sequence
          (matchSequence_accounts ih input site.node _ input _ bare within.sequence coherent')
      | choice a b rest =>
        exact .invoke enough .choice
          (matchChoice_accounts ih _ input site.node _ "" 0 _ rfl within.choice coherent')

theorem run_accounts (scope : Scope g) : Accountable scope (run g : Runner τ) :=
  fun m input site => runWithin_accounts scope site.context.fuel m input site

/-- A match of a root structure starts with an empty table, which is coherent. -/
theorem matchRoot_accounts {root : Structure} (known : root ∈ scope) (limits : Limits) (tracer : τ)
    (statements : Array Statement) :
    Accounts scope (.inside root) (.start ⟨0, statements⟩) (.empty root)
      ⟨.fresh limits tracer, .empty root⟩ (matchRoot g root limits tracer statements) := by
  have host : (⟨.fresh limits tracer, .empty root⟩ : Site τ).node.target = root := rfl
  exact enterStructure_accounts (run_accounts scope) host (Task.within_inside known)
    (Context.coherent_fresh _ _ _ _)

end OrderedChoice
