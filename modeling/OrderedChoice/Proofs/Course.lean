import OrderedChoice.Proofs.Completion
import OrderedChoice.Proofs.Metering
import OrderedChoice.Parse

/-!
# The course of a run

What a run does, as rules over everything that it looks at and leaves behind: fuel, nesting limit,
memo table and tracer. A run that is halted is halted inside of structures, and the rules tell
which. Every run takes a course (`exists_proceeds`), and a course leads nowhere else
(`Proceeds.runWithin_eq`).
-/

namespace OrderedChoice

variable {τ : Type} {g : Grammar}

/-! ## References -/

/-- The site with one more child, if there is one. -/
def Site.attach (site : Site τ) : Option Node → Site τ
  | some node => site.push node
  | none => site

/-- The way back from a structure to the node that refers to it: an answer is remembered, and the
node of the structure becomes a child if the structure has succeeded. -/
def Result.returned (target : Structure) (position : Nat) (host : OpenNode) : Result τ → Result τ
  | (.error halt, site) => (.error halt, ⟨site.context, host⟩)
  | (.ok verdict, site) =>
    let node := if (verdict.refuseEmpty target).failed then none else some site.node.toNode
    (.ok (verdict.refuseEmpty target),
      Site.attach ⟨site.context.remember target position ⟨verdict.refuseEmpty target, node⟩,
        host⟩ node)

@[simp] theorem Site.context_attach (site : Site τ) (node : Option Node) :
    (site.attach node).context = site.context := by
  cases node <;> rfl

theorem matchSub_of_remembered [Tracer τ] (run : Runner τ) (g : Grammar)
    {target : Structure} {input : Cursor} {site : Site τ} {memo : Memo}
    (known : site.context.remembered? target input.position = some memo) :
    matchSub run g target input site =
      (.ok memo.verdict,
        (site.record (.replayed target.name input.position)).attach memo.node) := by
  unfold matchSub
  rw [known]
  obtain ⟨verdict, _ | node⟩ := memo <;> rfl

theorem matchSub_of_new [Tracer τ] (run : Runner τ) (g : Grammar) {target : Structure}
    {input : Cursor} {site : Site τ} (new : site.context.remembered? target input.position = none) :
    matchSub run g target input site =
      Result.returned target input.position site.node
        (enterStructure run g target input ⟨site.context, .empty target⟩) := by
  unfold matchSub
  rw [new]
  simp only []
  generalize enterStructure run g target input ⟨site.context, .empty target⟩ = result
  obtain ⟨_ | verdict, after⟩ := result
  · rfl
  · cases failed : (verdict.refuseEmpty target).failed <;>
      simp [Result.returned, Site.attach, failed]

/-! ## The rules -/

/-- The task, begun at the cursor and the site, comes to the result. If that is a halt, it is halted
inside of the structures, the outermost first. A sequence or repetition that fails drops the
children after the mark. -/
inductive Proceeds [Tracer τ] (g : Grammar) :
    Nat → Task → Cursor → Site τ → List Structure → Result τ → Prop where
  /-- Without fuel no matcher is invoked. -/
  | starved {mark : Nat} {m : Matcher} {input : Cursor} {site : Site τ}
      (empty : site.context.fuel = 0) :
      Proceeds g mark (.whole m) input site [] (.error .fuelExhausted, site)
  | matched {mark fuel : Nat} {kind : Kind} {input : Cursor} {site : Site τ} {statement : Statement}
      (fed : site.context.fuel = fuel + 1) (found : input.first? = some statement)
      (same : statement.kind = kind) :
      Proceeds g mark (.whole (.statement kind)) input site []
        (Verdict.success input input.next,
          (((site.withFuel fuel).record (.consumed statement input.position)).reach
            input.position).push
            (.leaf statement input.position))
  | mismatched {mark fuel : Nat} {kind : Kind} {input : Cursor} {site : Site τ}
      (fed : site.context.fuel = fuel + 1)
      (other : ∀ statement, input.first? = some statement → statement.kind ≠ kind) :
      Proceeds g mark (.whole (.statement kind)) input site []
        (.ok (.failure input ("Expected " ++ kind.expectedName) 0),
          (site.withFuel fuel).record (.mismatched kind input.first? input.position))
  | replayed {mark fuel : Nat} {target : Structure} {input : Cursor} {site : Site τ} {memo : Memo}
      (fed : site.context.fuel = fuel + 1)
      (known : site.context.remembered? target input.position = some memo) :
      Proceeds g mark (.whole (.sub target)) input site []
        (.ok memo.verdict,
          ((site.withFuel fuel).record (.replayed target.name input.position)).attach memo.node)
  | sub {mark fuel : Nat} {target : Structure} {input : Cursor} {site : Site τ}
      {chain : List Structure}
      {result : Result τ} (fed : site.context.fuel = fuel + 1)
      (new : site.context.remembered? target input.position = none)
      (entered : Proceeds g mark (.inside target) input
        ⟨(site.withFuel fuel).context, .empty target⟩ chain result) :
      Proceeds g mark (.whole (.sub target)) input site chain
        (result.returned target input.position site.node)
  | optional {mark fuel : Nat} {body : Matcher} {input : Cursor} {site : Site τ}
      {chain : List Structure}
      {result : Result τ} (fed : site.context.fuel = fuel + 1)
      (tried : Proceeds g mark (.whole body) input (site.withFuel fuel) chain result) :
      Proceeds g mark (.whole (.optional body)) input site chain (forgive result)
  | star {mark fuel : Nat} {body : Matcher} {input : Cursor} {site : Site τ}
      {chain : List Structure}
      {result : Result τ} (fed : site.context.fuel = fuel + 1)
      (repeated : Proceeds g site.node.size (.rounds input body) input
        (site.withFuel fuel) chain result) :
      Proceeds g mark (.whole (.star body)) input site chain result
  | sequence {mark fuel : Nat} {a b : Matcher} {others : List Matcher} {input : Cursor}
      {site : Site τ}
      {chain : List Structure} {result : Result τ} (fed : site.context.fuel = fuel + 1)
      (parts : Proceeds g site.node.size (.inTurn input (a :: b :: others)) input
        (site.withFuel fuel) chain result) :
      Proceeds g mark (.whole (.sequence a b others)) input site chain result
  | choice {mark fuel : Nat} {a b : Matcher} {others : List Matcher} {input : Cursor}
      {site : Site τ}
      {chain : List Structure} {result : Result τ} (fed : site.context.fuel = fuel + 1)
      (branches : Proceeds g mark (.firstOf (a :: b :: others) (a :: b :: others) "" 0) input
        (site.withFuel fuel) chain result) :
      Proceeds g mark (.whole (.choice a b others)) input site chain result
  /-- A structure that may not be entered is none of those that it is halted inside of. -/
  | full {mark : Nat} {target : Structure} {input : Cursor} {site : Site τ}
      (full : site.context.limits.recursion ≤ site.context.depth) :
      Proceeds g mark (.inside target) input site [] (.error .recursionLimitExceeded, site)
  | malformed {mark : Nat} {target : Structure} {input : Cursor} {site : Site τ}
      {fault : TooFewParts}
      (room : ¬ site.context.limits.recursion ≤ site.context.depth)
      (body : g.body target = .error fault) :
      Proceeds g mark (.inside target) input site [target]
        (.error (.malformedBody fault),
          (site.descend.record (.entered target.name input.position)).ascend)
  | answered {mark : Nat} {target : Structure} {m : Matcher} {input : Cursor} {site after : Site τ}
      {verdict : Verdict} (room : ¬ site.context.limits.recursion ≤ site.context.depth)
      (body : g.body target = .ok m)
      (inside : Proceeds g mark (.whole m) input
        (site.descend.record (.entered target.name input.position)) [] (.ok verdict, after)) :
      Proceeds g mark (.inside target) input site []
        (.ok verdict, after.ascend.record (.exited target.name verdict))
  | halted {mark : Nat} {target : Structure} {m : Matcher} {input : Cursor} {site after : Site τ}
      {chain : List Structure} {halt : Halt}
      (room : ¬ site.context.limits.recursion ≤ site.context.depth)
      (body : g.body target = .ok m)
      (inside : Proceeds g mark (.whole m) input
        (site.descend.record (.entered target.name input.position)) chain (.error halt, after)) :
      Proceeds g mark (.inside target) input site (target :: chain) (.error halt, after.ascend)
  | noPartLeft {mark : Nat} {start rest : Cursor} {site : Site τ} :
      Proceeds g mark (.inTurn start []) rest site [] (Verdict.success start rest, site)
  | partHalted {mark : Nat} {start rest : Cursor} {part : Matcher} {parts : List Matcher}
      {site after : Site τ}
      {chain : List Structure} {halt : Halt}
      (first : Proceeds g mark (.whole part) rest site chain (.error halt, after)) :
      Proceeds g mark (.inTurn start (part :: parts)) rest site chain (.error halt, after)
  | partFailed {mark : Nat} {start rest : Cursor} {part : Matcher} {parts : List Matcher}
      {site after : Site τ}
      {verdict : Verdict} (first : Proceeds g mark (.whole part) rest site [] (.ok verdict, after))
      (failed : verdict.failed = true) :
      Proceeds g mark (.inTurn start (part :: parts)) rest site []
        (.ok (.failure start verdict.description (rest.position - start.position)),
          after.truncate mark)
  | partSucceeded {mark : Nat} {start rest : Cursor} {part : Matcher} {parts : List Matcher}
      {site after : Site τ} {verdict : Verdict} {chain : List Structure} {result : Result τ}
      (first : Proceeds g mark (.whole part) rest site [] (.ok verdict, after))
      (succeeded : verdict.failed = false)
      (others : Proceeds g mark (.inTurn start parts) verdict.rest after chain result) :
      Proceeds g mark (.inTurn start (part :: parts)) rest site chain result
  | noBranchLeft {mark : Nat} {input : Cursor} {all : List Matcher} {description : String}
      {progress : Nat}
      {site : Site τ} :
      Proceeds g mark (.firstOf all [] description progress) input site []
        (.ok (choiceFailure all input description progress), site)
  | branchHalted {mark : Nat} {input : Cursor} {all : List Matcher} {branch : Matcher}
      {branches : List Matcher}
      {description : String} {progress : Nat} {site after : Site τ} {chain : List Structure}
      {halt : Halt}
      (first : Proceeds g mark (.whole branch) input site chain (.error halt, after)) :
      Proceeds g mark (.firstOf all (branch :: branches) description progress) input site chain
        (.error halt, after)
  | branchTaken {mark : Nat} {input : Cursor} {all : List Matcher} {branch : Matcher}
      {branches : List Matcher}
      {description : String} {progress : Nat} {site after : Site τ} {verdict : Verdict}
      (first : Proceeds g mark (.whole branch) input site [] (.ok verdict, after))
      (succeeded : verdict.failed = false) :
      Proceeds g mark (.firstOf all (branch :: branches) description progress) input site []
        (.ok verdict, after)
  | branchFailed {mark : Nat} {input : Cursor} {all : List Matcher} {branch : Matcher}
      {branches : List Matcher}
      {description : String} {progress : Nat} {site after : Site τ} {verdict : Verdict}
      {chain : List Structure} {result : Result τ}
      (first : Proceeds g mark (.whole branch) input site [] (.ok verdict, after))
      (failed : verdict.failed = true)
      (others : Proceeds g mark (.firstOf all branches
        (if progress < verdict.progress then verdict.description else description)
        (if progress < verdict.progress then verdict.progress else progress)) input
        (after.record (.backtracked input.position)) chain result) :
      Proceeds g mark
        (.firstOf all (branch :: branches) description progress) input site chain result
  | roundsOver {mark : Nat} {start rest : Cursor} {body : Matcher} {site : Site τ}
      (atEnd : rest.isAtEnd = true) :
      Proceeds g mark (.rounds start body) rest site [] (Verdict.success start rest, site)
  | roundHalted {mark : Nat} {start rest : Cursor} {body : Matcher} {site after : Site τ}
      {chain : List Structure} {halt : Halt} (more : rest.isAtEnd = false)
      (first : Proceeds g mark (.whole body) rest site chain (.error halt, after)) :
      Proceeds g mark (.rounds start body) rest site chain (.error halt, after)
  /-- The body fails after it has consumed something. -/
  | roundMalformed {mark : Nat} {start rest : Cursor} {body : Matcher} {site after : Site τ}
      {verdict : Verdict}
      (more : rest.isAtEnd = false)
      (first : Proceeds g mark (.whole body) rest site [] (.ok verdict, after))
      (failed : verdict.failed = true) (progress : 0 < verdict.progress) :
      Proceeds g mark (.rounds start body) rest site []
        (.ok (.failure start verdict.description verdict.progress), after.truncate mark)
  /-- The body does not match any more. -/
  | roundRefused {mark : Nat} {start rest : Cursor} {body : Matcher} {site after : Site τ}
      {verdict : Verdict}
      (more : rest.isAtEnd = false)
      (first : Proceeds g mark (.whole body) rest site [] (.ok verdict, after))
      (failed : verdict.failed = true) (noProgress : ¬ 0 < verdict.progress) :
      Proceeds g mark (.rounds start body) rest site [] (Verdict.success start rest, after)
  /-- The body succeeds on nothing. -/
  | roundStuck {mark : Nat} {start rest : Cursor} {body : Matcher} {site after : Site τ}
      {verdict : Verdict}
      (more : rest.isAtEnd = false)
      (first : Proceeds g mark (.whole body) rest site [] (.ok verdict, after))
      (succeeded : verdict.failed = false) (stuck : verdict.rest.position = rest.position) :
      Proceeds g mark (.rounds start body) rest site []
        (.error (.emptyRepetition after.node.target.name), after)
  | roundGained {mark : Nat} {start rest : Cursor} {body : Matcher} {site after : Site τ}
      {verdict : Verdict}
      {chain : List Structure} {result : Result τ} (more : rest.isAtEnd = false)
      (first : Proceeds g mark (.whole body) rest site [] (.ok verdict, after))
      (succeeded : verdict.failed = false) (gained : verdict.rest.position ≠ rest.position)
      (others : Proceeds g mark (.rounds start body) verdict.rest after chain result) :
      Proceeds g mark (.rounds start body) rest site chain result

variable [Tracer τ] {mark bound turns : Nat} {task : Task} {input : Cursor} {site after : Site τ}
  {chain : List Structure} {result : Result τ} {verdict : Verdict}

omit [Tracer τ] in
theorem Result.returned_answers {target : Structure} {position : Nat} {host : OpenNode}
    (ok : (result.returned target position host).1 = .ok verdict) :
    ∃ first, result.1 = .ok first := by
  obtain ⟨_ | first, _⟩ := result
  · cases ok
  · exact ⟨first, rfl⟩

omit [Tracer τ] in
theorem forgive_answers (ok : (forgive result).1 = .ok verdict) :
    ∃ first, result.1 = .ok first := by
  obtain ⟨_ | first, _⟩ := result
  · cases ok
  · exact ⟨first, rfl⟩

/-- A run that answers is halted nowhere. -/
theorem Proceeds.chain_eq_nil (h : Proceeds g mark task input site chain result)
    (ok : result.1 = .ok verdict) : chain = [] := by
  induction h generalizing verdict with
  | sub _ _ _ ih =>
    obtain ⟨_, ok⟩ := Result.returned_answers ok
    exact ih ok
  | optional _ _ ih =>
    obtain ⟨_, ok⟩ := forgive_answers ok
    exact ih ok
  | star _ _ ih | sequence _ _ ih | choice _ _ ih => exact ih ok
  | partSucceeded _ _ _ _ ih | branchFailed _ _ _ _ ih | roundGained _ _ _ _ _ _ ih => exact ih ok
  | malformed | halted | partHalted | branchHalted | roundHalted => cases ok
  | starved | full | matched | mismatched | replayed | answered | noPartLeft | partFailed
  | noBranchLeft
  | branchTaken | roundsOver | roundMalformed | roundRefused | roundStuck => rfl

/-! ## Every run takes a course -/

section Courses

variable {run : Runner τ} {start rest : Cursor}

/-- Whatever the runner runs on at most that much fuel takes a course. -/
def Runner.Proceeding (g : Grammar) (bound : Nat) (run : Runner τ) : Prop :=
  ∀ (mark : Nat) (m : Matcher) (input : Cursor) (site : Site τ), site.context.fuel ≤ bound →
    ∃ chain, Proceeds g mark (.whole m) input site chain (run m input site)

theorem matchStatement_proceeds (mark : Nat) (kind : Kind) (input : Cursor) {fuel : Nat}
    (fed : site.context.fuel = fuel + 1) :
    Proceeds g mark (.whole (.statement kind)) input site []
      (matchStatement kind input (site.withFuel fuel)) := by
  unfold matchStatement
  split
  · rename_i statement found
    split
    · rename_i same
      exact .matched fed found same
    · rename_i other
      rw [← found]
      refine .mismatched fed fun another found' => ?_
      obtain rfl := Option.some.inj (found.symm.trans found')
      exact other
  · rename_i atEnd
    rw [← atEnd]
    refine .mismatched fed fun another found => ?_
    cases atEnd.symm.trans found

theorem enterStructure_proceeds (proceeding : run.Proceeding g bound) (mark : Nat)
    (target : Structure) (input : Cursor) (enough : site.context.fuel ≤ bound) :
    ∃ chain, Proceeds g mark (.inside target) input site chain
      (enterStructure run g target input site) := by
  by_cases full : site.context.limits.recursion ≤ site.context.depth
  · rw [enterStructure_full _ _ _ _ full]
    exact ⟨[], .full full⟩
  · cases body : g.body target with
    | error fault =>
      rw [enterStructure_of_malformed _ _ full body]
      exact ⟨[target], .malformed full body⟩
    | ok m =>
      obtain ⟨chain, inside⟩ :=
        proceeding mark m input (site.descend.record (.entered target.name input.position)) enough
      rw [enterStructure_of_body _ _ full body]
      generalize run m input (site.descend.record (.entered target.name input.position)) =
        result at inside ⊢
      obtain ⟨halt | verdict, after⟩ := result
      · exact ⟨target :: chain, .halted full body inside⟩
      · obtain rfl := inside.chain_eq_nil rfl
        exact ⟨[], .answered full body inside⟩

theorem matchSub_proceeds (proceeding : run.Proceeding g bound) (mark : Nat) (target : Structure)
    (input : Cursor) {fuel : Nat} (fed : site.context.fuel = fuel + 1) (enough : fuel ≤ bound) :
    ∃ chain, Proceeds g mark (.whole (.sub target)) input site chain
      (matchSub run g target input (site.withFuel fuel)) := by
  cases known : (site.withFuel fuel).context.remembered? target input.position with
  | some memo =>
    rw [matchSub_of_remembered run g known]
    exact ⟨[], .replayed fed known⟩
  | none =>
    have enough : (⟨(site.withFuel fuel).context, .empty target⟩ : Site τ).context.fuel ≤ bound :=
      enough
    obtain ⟨chain, entered⟩ := enterStructure_proceeds proceeding mark target input enough
    rw [matchSub_of_new run g known]
    exact ⟨chain, .sub fed known entered⟩

omit [Tracer τ] in
/-- What is left after a part is enough for what follows. -/
theorem Metered.fuel_le (metered : Metered run) {m : Matcher}
    (ran : run m input site = (.ok verdict, after)) (enough : site.context.fuel ≤ bound) :
    after.context.fuel ≤ bound := by
  have spent := metered.pays ran
  omega

variable (proceeding : run.Proceeding g bound) (metered : Metered run)
include proceeding metered

theorem matchSequence_proceeds (start : Cursor) (mark : Nat) (parts : List Matcher) :
    ∀ (rest : Cursor) (site : Site τ), site.context.fuel ≤ bound →
      ∃ chain, Proceeds g mark (.inTurn start parts) rest site chain
        (matchSequence run start mark parts rest site) := by
  induction parts with
  | nil => exact fun _ _ _ => ⟨[], .noPartLeft⟩
  | cons part parts ih =>
    intro rest site enough
    obtain ⟨chain, first⟩ := proceeding mark part rest site enough
    rw [matchSequence_cons]
    cases ran : run part rest site with
    | mk outcome after =>
      rw [ran] at first
      cases outcome with
      | error halt => exact ⟨chain, .partHalted first⟩
      | ok verdict =>
        obtain rfl := first.chain_eq_nil rfl
        simp only [Result.andThen]
        split
        · rename_i failed
          exact ⟨[], .partFailed first failed⟩
        · rename_i succeeded
          obtain ⟨chain, others⟩ := ih verdict.rest after (metered.fuel_le ran enough)
          exact ⟨chain, .partSucceeded first (Bool.eq_false_iff.2 succeeded) others⟩

theorem matchChoice_proceeds (mark : Nat) (all : List Matcher) (input : Cursor)
    (branches : List Matcher) :
    ∀ (description : String) (progress : Nat) (site : Site τ), site.context.fuel ≤ bound →
      ∃ chain, Proceeds g mark (.firstOf all branches description progress) input site chain
        (matchChoice run all input branches description progress site) := by
  induction branches with
  | nil => exact fun _ _ _ _ => ⟨[], .noBranchLeft⟩
  | cons branch branches ih =>
    intro description progress site enough
    obtain ⟨chain, first⟩ := proceeding mark branch input site enough
    rw [matchChoice_andThen]
    cases ran : run branch input site with
    | mk outcome after =>
      rw [ran] at first
      cases outcome with
      | error halt => exact ⟨chain, .branchHalted first⟩
      | ok verdict =>
        obtain rfl := first.chain_eq_nil rfl
        simp only [Result.andThen]
        split
        · rename_i failed
          have left : after.context.fuel ≤ bound := metered.fuel_le ran enough
          obtain ⟨chain, others⟩ := ih _ _ (after.record (.backtracked input.position)) left
          exact ⟨chain, .branchFailed first failed others⟩
        · rename_i succeeded
          exact ⟨[], .branchTaken first (Bool.eq_false_iff.2 succeeded)⟩

theorem matchStar_proceeds (body : Matcher) (start : Cursor) (mark turns : Nat) :
    ∀ (rest : Cursor) (site : Site τ), site.context.fuel ≤ turns → site.context.fuel ≤ bound →
      ∃ chain, Proceeds g mark (.rounds start body) rest site chain
        (matchStar run body start mark turns rest site) := by
  induction turns with
  | zero =>
    intro rest site few enough
    cases more : rest.isAtEnd with
    | true =>
      rw [matchStar_atEnd _ _ _ _ _ _ more]
      exact ⟨[], .roundsOver more⟩
    | false =>
      rw [matchStar, more]
      exact ⟨[], .roundHalted more (.starved (Nat.eq_zero_of_le_zero few))⟩
  | succ turns ih =>
    intro rest site few enough
    cases more : rest.isAtEnd with
    | true =>
      rw [matchStar_atEnd _ _ _ _ _ _ more]
      exact ⟨[], .roundsOver more⟩
    | false =>
      obtain ⟨chain, first⟩ := proceeding mark body rest site enough
      rw [matchStar_eq metered few more]
      cases ran : run body rest site with
      | mk outcome after =>
        rw [ran] at first
        cases outcome with
        | error halt => exact ⟨chain, .roundHalted more first⟩
        | ok verdict =>
          obtain rfl := first.chain_eq_nil rfl
          simp only [Result.andThen]
          split
          · rename_i failed
            split
            · rename_i progress
              exact ⟨[], .roundMalformed more first failed progress⟩
            · rename_i noProgress
              exact ⟨[], .roundRefused more first failed noProgress⟩
          · rename_i succeeded
            have succeeded := Bool.eq_false_iff.2 succeeded
            split
            · rename_i stuck
              exact ⟨[], .roundStuck more first succeeded stuck⟩
            · rename_i gained
              have spent := metered.pays ran
              obtain ⟨chain, others⟩ :=
                ih verdict.rest after (by omega) (metered.fuel_le ran enough)
              exact ⟨chain, .roundGained more first succeeded gained others⟩

end Courses

theorem runWithin_proceeds (bound : Nat) : (runWithin g bound : Runner τ).Proceeding g bound := by
  induction bound with
  | zero => exact fun _ _ _ _ enough => ⟨[], .starved (Nat.eq_zero_of_le_zero enough)⟩
  | succ bound ih =>
    intro mark m input site enough
    cases fed : site.context.fuel with
    | zero =>
      rw [runWithin_starved _ m input fed]
      exact ⟨[], .starved fed⟩
    | succ fuel =>
      have metered : Metered (runWithin g bound : Runner τ) := runWithin_metered bound
      have enough : (site.withFuel fuel).context.fuel ≤ bound := show fuel ≤ bound by omega
      rw [runWithin_succ fed]
      cases m with
      | statement kind => exact ⟨[], matchStatement_proceeds mark kind input fed⟩
      | sub target => exact matchSub_proceeds ih mark target input fed enough
      | optional body =>
        obtain ⟨chain, tried⟩ := ih mark body input (site.withFuel fuel) enough
        exact ⟨chain, .optional fed tried⟩
      | star body =>
        obtain ⟨chain, repeated⟩ :=
          matchStar_proceeds ih metered body input site.node.size fuel input _
          (Nat.le_refl fuel) enough
        exact ⟨chain, .star fed repeated⟩
      | sequence a b others =>
        obtain ⟨chain, parts⟩ :=
          matchSequence_proceeds ih metered input site.node.size (a :: b :: others) input _
          enough
        exact ⟨chain, .sequence fed parts⟩
      | choice a b others =>
        obtain ⟨chain, branches⟩ :=
          matchChoice_proceeds ih metered mark (a :: b :: others) input (a :: b :: others)
          "" 0 _ enough
        exact ⟨chain, .choice fed branches⟩

/-- Every run that has as many matchers and rounds to go as it has fuel takes a course. -/
theorem exists_proceeds (g : Grammar) (mark : Nat) (task : Task) (input : Cursor)
    (enough : site.context.fuel ≤ bound) (many : site.context.fuel ≤ turns) :
    ∃ chain, Proceeds g mark task input site chain
      (task.runWithin g bound turns mark input site) := by
  have proceeding : (runWithin g bound : Runner τ).Proceeding g bound := runWithin_proceeds bound
  have metered : Metered (runWithin g bound : Runner τ) := runWithin_metered bound
  cases task with
  | whole m => exact proceeding mark m input site enough
  | inTurn start parts =>
    exact matchSequence_proceeds proceeding metered start mark parts input site enough
  | firstOf all branches description progress =>
    exact matchChoice_proceeds proceeding metered mark all input branches
      description progress site enough
  | rounds start body =>
    exact matchStar_proceeds proceeding metered body start mark turns input site many enough
  | inside target => exact enterStructure_proceeds proceeding mark target input enough

theorem run_proceeds (g : Grammar) (mark : Nat) (m : Matcher) (input : Cursor) (site : Site τ) :
    ∃ chain, Proceeds g mark (.whole m) input site chain (run g m input site) :=
  exists_proceeds g mark (.whole m) input (Nat.le_refl site.context.fuel)
    (Nat.le_refl site.context.fuel)

/-! ## A course leads nowhere else -/

theorem runWithin_fed {m : Matcher} {fuel : Nat} (fed : site.context.fuel = fuel + 1)
    (enough : site.context.fuel ≤ bound) : ∃ bound', fuel ≤ bound' ∧
      runWithin g bound m input site =
        m.runInside (runWithin g bound') g fuel input (site.withFuel fuel) := by
  cases bound with
  | zero => omega
  | succ bound => exact ⟨bound, by omega, runWithin_succ fed⟩

/-- With as many matchers and rounds to go as there is fuel, the run of a task comes to what its
course comes to. -/
theorem Proceeds.runWithin_eq (h : Proceeds g mark task input site chain result)
    (enough : site.context.fuel ≤ bound) (many : site.context.fuel ≤ turns) :
    task.runWithin g bound turns mark input site = result := by
  have metered (bound : Nat) : Metered (runWithin g bound : Runner τ) := runWithin_metered bound
  induction h generalizing bound turns with
  | starved empty => exact runWithin_starved bound _ _ empty
  | matched fed found same =>
    obtain ⟨bound', enough', whole⟩ := runWithin_fed fed enough
    rw [Task.runWithin, whole, Matcher.runInside, matchStatement, found]
    exact if_pos same
  | @mismatched _ _ _ input _ fed other =>
    obtain ⟨bound', enough', whole⟩ := runWithin_fed fed enough
    rw [Task.runWithin, whole, Matcher.runInside, matchStatement]
    cases found : input.first? with
    | none => rfl
    | some statement => exact if_neg (other statement found)
  | @replayed _ fuel target input site memo fed known =>
    have known : (site.withFuel fuel).context.remembered? target input.position = some memo := known
    obtain ⟨bound', enough', whole⟩ := runWithin_fed fed enough
    rw [Task.runWithin, whole]
    exact matchSub_of_remembered _ g known
  | @sub _ fuel target input site _ _ fed new entered ih =>
    have new : (site.withFuel fuel).context.remembered? target input.position = none := new
    obtain ⟨bound', enough', whole⟩ := runWithin_fed fed enough
    rw [Task.runWithin, whole]
    exact (matchSub_of_new _ g new).trans (congrArg _ (ih enough' enough'))
  | optional fed tried ih =>
    obtain ⟨bound', enough', whole⟩ := runWithin_fed fed enough
    rw [Task.runWithin, whole, Matcher.runInside]
    exact congrArg forgive (ih enough' enough')
  | star fed repeated ih | sequence fed parts ih | choice fed branches ih =>
    obtain ⟨bound', enough', whole⟩ := runWithin_fed fed enough
    rw [Task.runWithin, whole, Matcher.runInside]
    exact ih enough' (Nat.le_refl _)
  | full full => exact enterStructure_full _ _ _ _ full
  | malformed room body => exact enterStructure_of_malformed _ _ room body
  | answered room body inside ih | halted room body inside ih =>
    rw [Task.runWithin, enterStructure_of_body _ _ room body]
    exact congrArg _ (ih enough enough)
  | noPartLeft | noBranchLeft => rfl
  | partHalted first ih =>
    have ran : runWithin g bound _ _ _ = _ := ih enough enough
    rw [Task.runWithin, matchSequence_cons, ran]
    rfl
  | partFailed first failed ih =>
    have ran : runWithin g bound _ _ _ = _ := ih enough enough
    rw [Task.runWithin, matchSequence_cons, ran]
    exact if_pos failed
  | partSucceeded first succeeded others ih ihOthers =>
    have ran : runWithin g bound _ _ _ = _ := ih enough enough
    rw [Task.runWithin, matchSequence_cons, ran]
    refine (if_neg (ne_true_of_eq_false succeeded)).trans ?_
    exact ihOthers ((metered bound).fuel_le ran enough) ((metered bound).fuel_le ran many)
  | branchHalted first ih =>
    have ran : runWithin g bound _ _ _ = _ := ih enough enough
    rw [Task.runWithin, matchChoice_andThen, ran]
    rfl
  | branchTaken first succeeded ih =>
    have ran : runWithin g bound _ _ _ = _ := ih enough enough
    rw [Task.runWithin, matchChoice_andThen, ran]
    exact if_neg (ne_true_of_eq_false succeeded)
  | branchFailed first failed others ih ihOthers =>
    have ran : runWithin g bound _ _ _ = _ := ih enough enough
    rw [Task.runWithin, matchChoice_andThen, ran]
    refine (if_pos failed).trans ?_
    have left {most : Nat} (enough : _ ≤ most) := (metered bound).fuel_le ran enough
    exact ihOthers (left enough) (left many)
  | roundsOver atEnd => exact matchStar_atEnd _ _ _ _ _ _ atEnd
  | roundHalted more first ih =>
    have ran : runWithin g bound _ _ _ = _ := ih enough enough
    rw [Task.runWithin, matchStar_eq (metered bound) many more, ran]
    rfl
  | roundMalformed more first failed progress ih =>
    have ran : runWithin g bound _ _ _ = _ := ih enough enough
    rw [Task.runWithin, matchStar_eq (metered bound) many more, ran]
    exact (if_pos failed).trans (if_pos progress)
  | roundRefused more first failed noProgress ih =>
    have ran : runWithin g bound _ _ _ = _ := ih enough enough
    rw [Task.runWithin, matchStar_eq (metered bound) many more, ran]
    exact (if_pos failed).trans (if_neg noProgress)
  | roundStuck more first succeeded stuck ih =>
    have ran : runWithin g bound _ _ _ = _ := ih enough enough
    rw [Task.runWithin, matchStar_eq (metered bound) many more, ran]
    exact (if_neg (ne_true_of_eq_false succeeded)).trans (if_pos stuck)
  | roundGained more first succeeded gained others ih ihOthers =>
    have ran : runWithin g bound _ _ _ = _ := ih enough enough
    have spent := (metered bound).pays ran
    rw [Task.runWithin, matchStar_eq (metered bound) many more, ran]
    refine ((if_neg (ne_true_of_eq_false succeeded)).trans (if_neg gained)).trans ?_
    exact ihOthers ((metered bound).fuel_le ran enough) (by omega)

/-- Whatever its course, a run leaves a later context of the same match behind. -/
theorem Proceeds.follows (h : Proceeds g mark task input site chain result) :
    site.context.Follows result.2.context := by
  have metered : Metered (runWithin g site.context.fuel : Runner τ) := runWithin_metered _
  rw [← h.runWithin_eq (Nat.le_refl _) (Nat.le_refl _)]
  cases task with
  | whole m => exact metered.follows m input site
  | inTurn start parts => exact matchSequence_follows metered parts input site
  | firstOf all branches description progress =>
    exact matchChoice_follows metered all branches _ _ site
  | rounds start body => exact matchStar_follows metered _ input site (Nat.le_refl _)
  | inside target => exact enterStructure_follows metered g target input site

/-! ## Parses -/

section Parses

variable (g : Grammar) (root : Structure) (limits : Limits) (tracer : τ)
    (statements : Array Statement)

/-- A parse takes the course of its root structure. -/
theorem matchRoot_proceeds :
    ∃ chain, Proceeds g 0 (.inside root) (.start ⟨0, statements⟩)
      ⟨.fresh limits tracer, .empty root⟩ chain (matchRoot g root limits tracer statements) :=
  exists_proceeds g 0 (.inside root) (.start ⟨0, statements⟩) (Nat.le_refl limits.fuel)
    (Nat.le_refl limits.fuel)

theorem tracer_matchRoot :
    (matchRoot g root limits tracer statements).2.context.tracer =
      (parseWith g root limits tracer statements).2 := by
  unfold parseWith
  generalize matchRoot g root limits tracer statements = result
  obtain ⟨_ | _, _⟩ := result <;> rfl

end Parses

end OrderedChoice
