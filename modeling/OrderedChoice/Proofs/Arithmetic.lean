import OrderedChoice.Proofs.Bounds

/-!
# Machine arithmetic

The engine on a machine whose numbers are bounded, where a sum can overflow, a difference can
underflow and a slice can be out of bounds. As long as the machine can count the statements and the
structures that may be nested, runs on one slice meet none of these faults: they are the runs of the
engine (`run_checked`).
-/

namespace OrderedChoice

/-- What a machine can count. -/
structure Machine where
  /-- The most structures nested inside each other. -/
  depth : Nat
  /-- The most statements. -/
  size : Nat

namespace Checked

/-- What stops a machine. -/
inductive Fault where
  | overflow
  | underflow
  | outOfBounds
deriving DecidableEq

/-! ## Numbers and slices -/

def add (most a b : Nat) : Except Fault Nat :=
  if a + b ≤ most then pure (a + b) else throw .overflow

def sub (a b : Nat) : Except Fault Nat :=
  if b ≤ a then pure (a - b) else throw .underflow

/-- The statements from the first index up to the last. -/
def between (statements : Array Statement) (first last : Nat) : Except Fault (Array Statement) :=
  if first ≤ last ∧ last ≤ statements.size then pure (statements.extract first last)
  else throw .outOfBounds

theorem add_eq {most a b : Nat} (le : a + b ≤ most) : add most a b = pure (a + b) :=
  if_pos le

theorem sub_eq {a b : Nat} (le : b ≤ a) : sub a b = pure (a - b) :=
  if_pos le

theorem between_eq {statements : Array Statement} {first last : Nat} (le : first ≤ last)
    (inside : last ≤ statements.size) :
    between statements first last = pure (statements.extract first last) :=
  if_pos ⟨le, inside⟩

/-! ## Cursors and verdicts -/

/-- The cursor one statement further, or at the end. -/
def next (machine : Machine) (cursor : Cursor) : Except Fault Cursor := do
  let position ← add machine.size cursor.position 1
  return ⟨cursor.slice, min position cursor.slice.size, Nat.min_le_right _ _⟩

/-- Success from one cursor to another. -/
def success (start rest : Cursor) : Except Fault (Except Halt Verdict) := do
  let matched ← between start.slice.statements start.position rest.position
  return .ok ⟨matched, rest, false, "", 0⟩

/-- Failure at a cursor, with none of the statements that are left there. -/
def failure (input : Cursor) (description : String) (progress : Nat) :
    Except Fault (Except Halt Verdict) := do
  let remaining ← between input.slice.statements input.position input.slice.size
  let matched ← between remaining 0 0
  return .ok ⟨matched, input, true, description, progress⟩

/-- What a choice reports if none of its parts succeeds. -/
def choiceFailure (all : List Matcher) (input : Cursor) (description : String) (progress : Nat) :
    Except Fault (Except Halt Verdict) :=
  if progress = 0 then
    failure input ("Expected " ++ " or ".intercalate (all.map Matcher.expectedName)) 0
  else failure input description progress

variable {machine : Machine}

theorem next_eq {cursor : Cursor} (fits : cursor.position + 1 ≤ machine.size) :
    next machine cursor = pure cursor.next := by
  rw [next, add_eq fits, pure_bind]
  rfl

theorem success_eq {start rest : Cursor} (le : start ≤ rest) :
    success start rest = pure (Verdict.success start rest) := by
  rw [success, between_eq le.2 (le.1 ▸ rest.position_le), pure_bind, Verdict.success_of_le le]

theorem failure_eq (input : Cursor) (description : String) (progress : Nat) :
    failure input description progress = pure (.ok (.failure input description progress)) := by
  rw [failure, between_eq input.position_le (Nat.le_refl _), pure_bind,
    between_eq (Nat.le_refl 0) (Nat.zero_le _), pure_bind, Array.extract_zero]
  rfl

theorem choiceFailure_eq (all : List Matcher) (input : Cursor) (description : String)
    (progress : Nat) :
    choiceFailure all input description progress =
      pure (.ok (OrderedChoice.choiceFailure all input description progress)) := by
  unfold choiceFailure OrderedChoice.choiceFailure
  split <;> exact failure_eq _ _ _

/-! ## Sites -/

variable {τ : Type}

/-- Notes that the statement at a position was consumed. -/
def reach (machine : Machine) (site : Site τ) (position : Nat) : Except Fault (Site τ) := do
  let past ← add machine.size position 1
  return { site with context.furthest := max site.context.furthest past }

/-- One structure further in. -/
def descend (machine : Machine) (site : Site τ) : Except Fault (Site τ) := do
  let depth ← add machine.depth site.context.depth 1
  return { site with context.depth := depth }

/-- One structure further out. -/
def ascend (site : Site τ) : Except Fault (Site τ) := do
  let depth ← sub site.context.depth 1
  return { site with context.depth := depth }

theorem reach_eq (site : Site τ) {position : Nat} (fits : position + 1 ≤ machine.size) :
    reach machine site position = pure (site.reach position) := by
  rw [reach, add_eq fits, pure_bind]
  rfl

theorem descend_eq {site : Site τ} (fits : site.context.depth + 1 ≤ machine.depth) :
    descend machine site = pure site.descend := by
  rw [descend, add_eq fits, pure_bind]
  rfl

theorem ascend_eq {site : Site τ} (nested : 1 ≤ site.context.depth) :
    ascend site = pure site.ascend := by
  rw [ascend, sub_eq nested, pure_bind]
  rfl

/-! ## Combinators -/

/-- How a matcher is run on a machine. -/
abbrev Runner (τ : Type) :=
  Matcher → Cursor → Site τ → Except Fault (Result τ)

variable [Tracer τ]

def matchStatement (machine : Machine) (kind : Kind) (input : Cursor) (site : Site τ) :
    Except Fault (Result τ) :=
  let mismatch (found : Option Statement) := do
    let verdict ← failure input ("Expected " ++ kind.expectedName) 0
    return (verdict, site.record (.mismatched kind found input.position))
  match input.first? with
  | some statement =>
    if statement.kind = kind then do
      let site ← reach machine (site.record (.consumed statement input.position)) input.position
      let verdict ← success input (← next machine input)
      return (verdict, site.push (.leaf statement input.position))
    else mismatch (some statement)
  | none => mismatch none

def matchSequence (run : Runner τ) (start : Cursor) (mark : Nat) :
    List Matcher → Cursor → Site τ → Except Fault (Result τ)
  | [], rest, site => do return (← success start rest, site)
  | part :: parts, rest, site => do
    match ← run part rest site with
    | (.error halt, site) => return (.error halt, site)
    | (.ok verdict, site) =>
      if verdict.failed then
        let progress ← sub rest.position start.position
        return (← failure start verdict.description progress, site.truncate mark)
      else matchSequence run start mark parts verdict.rest site

def matchChoice (run : Runner τ) (all : List Matcher) (input : Cursor) :
    List Matcher → String → Nat → Site τ → Except Fault (Result τ)
  | [], description, progress, site => do return (← choiceFailure all input description progress,
      site)
  | part :: parts, description, progress, site => do
    match ← run part input site with
    | (.error halt, site) => return (.error halt, site)
    | (.ok verdict, site) =>
      if verdict.failed then
        let site := site.record (.backtracked input.position)
        if progress < verdict.progress then
          matchChoice run all input parts verdict.description verdict.progress site
        else matchChoice run all input parts description progress site
      else return (.ok verdict, site)

def matchStar (run : Runner τ) (body : Matcher) (start : Cursor) (mark : Nat) :
    Nat → Cursor → Site τ → Except Fault (Result τ)
  | rounds, rest, site =>
    if rest.isAtEnd then do return (← success start rest, site)
    else match rounds with
      | 0 => return (.error .fuelExhausted, site)
      | rounds + 1 => do
        match ← run body rest site with
        | (.error halt, site) => return (.error halt, site)
        | (.ok verdict, site) =>
          if verdict.failed then
            if 0 < verdict.progress then
              return (← failure start verdict.description verdict.progress, site.truncate mark)
            else return (← success start rest, site)
          else if verdict.rest.position = rest.position then
            return (.error (.emptyRepetition site.node.target.name), site)
          else matchStar run body start mark rounds verdict.rest site

/-! ## Structures -/

def enterStructure (machine : Machine) (run : Runner τ) (g : Grammar) (target : Structure)
    (input : Cursor) (site : Site τ) : Except Fault (Result τ) := do
  if site.context.limits.recursion ≤ site.context.depth then
    return (.error .recursionLimitExceeded, site)
  let site := (← descend machine site).record (.entered target.name input.position)
  match g.body target with
  | .error fault => return (.error (.malformedBody fault), ← ascend site)
  | .ok body =>
    match ← run body input site with
    | (.error halt, site) => return (.error halt, ← ascend site)
    | (.ok verdict, site) =>
      return (.ok verdict, (← ascend site).record (.exited target.name verdict))

/-- A reference does no arithmetic of its own. -/
def matchSub (machine : Machine) (run : Runner τ) (g : Grammar) (target : Structure)
    (input : Cursor) (site : Site τ) : Except Fault (Result τ) :=
  match site.context.remembered? target input.position with
  | some memo =>
    return (.ok memo.verdict, (site.record (.replayed target.name input.position)).attach memo.node)
  | none => do
    let entered ← enterStructure machine run g target input ⟨site.context, .empty target⟩
    return entered.returned target input.position site.node

/-! ## Matchers -/

/-- What a matcher does once its invocation is paid for, with this much fuel left. -/
def runInside (machine : Machine) (run : Runner τ) (g : Grammar) (fuel : Nat) : Runner τ
  | .statement kind, input, site => matchStatement machine kind input site
  | .sub target, input, site => matchSub machine run g target input site
  | .optional body, input, site => do return forgive (← run body input site)
  | .star body, input, site => matchStar run body input site.node.size fuel input site
  | .sequence a b rest, input, site =>
    matchSequence run input site.node.size (a :: b :: rest) input site
  | .choice a b rest, input, site =>
    matchChoice run (a :: b :: rest) input (a :: b :: rest) "" 0 site

/-- Runs a matcher, with matchers nested at most `bound` deep. -/
def runWithin (machine : Machine) (g : Grammar) : Nat → Runner τ
  | 0, _, _, site => return (.error .fuelExhausted, site)
  | bound + 1, m, input, site => do
    if site.context.fuel = 0 then return (.error .fuelExhausted, site)
    let fuel ← sub site.context.fuel 1
    runInside machine (runWithin machine g bound) g fuel m input (site.withFuel fuel)

/-- Runs a matcher. -/
def run (machine : Machine) (g : Grammar) : Runner τ :=
  fun m input site => runWithin machine g site.context.fuel m input site

/-- Runs a task, with matchers nested at most `bound` deep and a repetition in at most `turns`
rounds. -/
def runTask (machine : Machine) (g : Grammar) (bound turns mark : Nat) :
    Task → Cursor → Site τ → Except Fault (Result τ)
  | .whole m, input, site => runWithin machine g bound m input site
  | .inTurn start parts, rest, site =>
    matchSequence (runWithin machine g bound) start mark parts rest site
  | .firstOf all branches description progress, input, site =>
    matchChoice (runWithin machine g bound) all input branches description progress site
  | .rounds start body, rest, site =>
    matchStar (runWithin machine g bound) body start mark turns rest site
  | .inside target, input, site =>
    enterStructure machine (runWithin machine g bound) g target input site

/-! ## Without faults -/

variable {g : Grammar} {mark bound turns : Nat} {input rest : Cursor} {site : Site τ}

theorem runWithin_starved (bound : Nat) (m : Matcher) (input : Cursor) {site : Site τ}
    (empty : site.context.fuel = 0) :
    runWithin machine g bound m input site = pure (.error .fuelExhausted, site) := by
  cases bound with
  | zero => rfl
  | succ bound => exact if_pos empty

theorem runWithin_fed {m : Matcher} {fuel : Nat} (fed : site.context.fuel = fuel + 1)
    (enough : site.context.fuel ≤ bound) : ∃ bound', fuel ≤ bound' ∧
      runWithin machine g bound m input site =
        runInside machine (runWithin machine g bound') g fuel m input (site.withFuel fuel) := by
  cases bound with
  | zero => omega
  | succ bound =>
    refine ⟨bound, by omega, ?_⟩
    have hasFuel : site.context.fuel ≠ 0 := by omega
    have paid : sub site.context.fuel 1 = pure fuel := by
      rw [sub_eq (by omega), fed, Nat.add_sub_cancel]
    refine (if_neg hasFuel).trans ?_
    rw [paid, pure_bind]

omit [Tracer τ] in
theorem matchStar_atEnd (run : Runner τ) (body : Matcher) (start : Cursor) (mark turns : Nat)
    {rest : Cursor} (site : Site τ) (atEnd : rest.isAtEnd = true) :
    matchStar run body start mark turns rest site = do return (← success start rest, site) := by
  cases turns <;> rw [matchStar, if_pos atEnd]

/-- With as many rounds as there is fuel, a repetition goes round until its body stops it. -/
theorem matchStar_eq {body : Matcher} {start : Cursor} (many : site.context.fuel ≤ turns)
    (more : rest.isAtEnd = false) :
    matchStar (runWithin machine g bound) body start mark turns rest site = (do
      match ← runWithin machine g bound body rest site with
      | (.error halt, site) => return (.error halt, site)
      | (.ok verdict, site) =>
        if verdict.failed then
          if 0 < verdict.progress then
            return (← failure start verdict.description verdict.progress, site.truncate mark)
          else return (← success start rest, site)
        else if verdict.rest.position = rest.position then
          return (.error (.emptyRepetition site.node.target.name), site)
        else
          matchStar (runWithin machine g bound) body start mark (turns - 1) verdict.rest site) := by
  cases turns with
  | zero =>
    rw [matchStar, more, runWithin_starved bound body rest (Nat.eq_zero_of_le_zero many), pure_bind]
    rfl
  | succ turns =>
    rw [matchStar, more]
    rfl

theorem enterStructure_of_malformed (run : Runner τ) {target : Structure} (input : Cursor)
    (room : ¬ site.context.limits.recursion ≤ site.context.depth)
    (fits : site.context.limits.recursion ≤ machine.depth) {fault : TooFewParts}
    (body : g.body target = .error fault) :
    enterStructure machine run g target input site =
      pure (.error (.malformedBody fault),
        (site.descend.record (.entered target.name input.position)).ascend) := by
  refine (if_neg room).trans ?_
  rw [descend_eq (by omega), pure_bind, body]
  show ascend (site.descend.record _) >>= _ = _
  rw [ascend_eq (Nat.le_add_left _ _), pure_bind]

/-- A structure is left with the depth that its body leaves. -/
theorem enterStructure_of_body {run : Runner τ} {target : Structure}
    (room : ¬ site.context.limits.recursion ≤ site.context.depth)
    (fits : site.context.limits.recursion ≤ machine.depth)
    {m : Matcher} (body : g.body target = .ok m) {inside : Result τ}
    (ran : run m input (site.descend.record (.entered target.name input.position)) = pure inside)
    (nested : 1 ≤ inside.2.context.depth) :
    enterStructure machine run g target input site = pure (inside.leave target) := by
  refine (if_neg room).trans ?_
  rw [descend_eq (by omega), pure_bind, body]
  show run m input (site.descend.record _) >>= _ = _
  rw [ran, pure_bind]
  obtain ⟨halt | verdict, after⟩ := inside
  · show ascend after >>= _ = _
    rw [ascend_eq nested, pure_bind]
    rfl
  · show ascend after >>= _ = _
    rw [ascend_eq nested, pure_bind]
    rfl

end Checked

/-! ## Runs -/

/-- The machine can count the statements, and the structures that may be nested. -/
structure Machine.Fits (machine : Machine) (slice : Slice) (limits : Limits) : Prop where
  depth : limits.recursion ≤ machine.depth
  size : slice.size ≤ machine.size

theorem Machine.Fits.further {τ : Type} {machine : Machine} {rest later : Cursor}
    {context after : Context τ} (fits : machine.Fits rest.slice context.limits) (le : rest ≤ later)
    (same : after.limits = context.limits) : machine.Fits later.slice after.limits := by
  rw [← le.1, same]
  exact fits

variable {τ : Type} [Tracer τ] {machine : Machine} {g : Grammar} {mark bound turns : Nat}
    {task : Task} {input : Cursor}
  {site : Site τ} {chain : List Structure} {result : Result τ}

/-- On a machine that is large enough, a task comes to what its course comes to. -/
theorem Proceeds.runTask_eq (h : Proceeds g mark task input site chain result)
    (enough : site.context.fuel ≤ bound) (many : site.context.fuel ≤ turns)
    (underWay : task.Bounded input site.context)
    (fits : machine.Fits input.slice site.context.limits) :
    Checked.runTask machine g bound turns mark task input site = pure result := by
  induction h generalizing bound turns with
  | starved empty => exact Checked.runWithin_starved bound _ _ empty
  | @matched _ fuel kind input site statement fed found same =>
    -- the statement that was found lies before the end of the slice
    have here := Cursor.position_next (Cursor.isAtEnd_eq_false found)
    have within : input.position + 1 ≤ machine.size :=
      Nat.le_trans (here ▸ input.next.position_le) fits.size
    obtain ⟨bound', _, whole⟩ := Checked.runWithin_fed fed enough
    rw [Checked.runTask, whole, Checked.runInside, Checked.matchStatement, found]
    refine (if_pos same).trans ?_
    rw [Checked.reach_eq _ within, pure_bind, Checked.next_eq within, pure_bind,
      Checked.success_eq input.le_next, pure_bind]
  | @mismatched _ _ _ input _ fed other =>
    obtain ⟨bound', _, whole⟩ := Checked.runWithin_fed fed enough
    rw [Checked.runTask, whole, Checked.runInside, Checked.matchStatement, Checked.failure_eq]
    cases found : input.first? with
    | none => rfl
    | some statement => exact if_neg (other statement found)
  | @replayed _ fuel target input site memo fed known =>
    have known : (site.withFuel fuel).context.remembered? target input.position = some memo := known
    obtain ⟨bound', _, whole⟩ := Checked.runWithin_fed fed enough
    rw [Checked.runTask, whole, Checked.runInside, Checked.matchSub, known]
  | @sub _ fuel target input site _ _ fed new entered ih =>
    have new : (site.withFuel fuel).context.remembered? target input.position = none := new
    obtain ⟨bound', enough', whole⟩ := Checked.runWithin_fed fed enough
    have inside : Checked.enterStructure machine (Checked.runWithin machine g bound') g _ _ _ = _ :=
      ih enough' enough' (.begin (underWay.context.same rfl rfl) rfl rfl) fits
    rw [Checked.runTask, whole, Checked.runInside, Checked.matchSub, new]
    show Checked.enterStructure _ _ _ _ _ _ >>= _ = _
    rw [inside, pure_bind]
    rfl
  | optional fed tried ih =>
    obtain ⟨bound', enough', whole⟩ := Checked.runWithin_fed fed enough
    have body : Checked.runWithin machine g bound' _ _ _ = _ :=
      ih enough' enough' (.begin (underWay.context.same rfl rfl) rfl rfl) fits
    rw [Checked.runTask, whole, Checked.runInside, body, pure_bind]
  | star fed repeated ih | sequence fed parts ih | choice fed branches ih =>
    obtain ⟨bound', enough', whole⟩ := Checked.runWithin_fed fed enough
    rw [Checked.runTask, whole, Checked.runInside]
    exact ih enough' (Nat.le_refl _) (.begin (underWay.context.same rfl rfl) rfl rfl) fits
  | full full => exact if_pos full
  | malformed room body => exact Checked.enterStructure_of_malformed _ _ room fits.depth body
  | answered room body inside ih | halted room body inside ih =>
    -- the body leaves the depth that it found, at least the one place of this structure
    have ran := ih enough many (.begin (underWay.context.same rfl rfl) rfl rfl) fits
    exact Checked.enterStructure_of_body room fits.depth body ran
      (inside.follows.depth ▸ Nat.le_add_left _ _)
  | @noPartLeft _ start rest =>
    have behind : start ≤ rest := underWay.origin_le
    rw [Checked.runTask, Checked.matchSequence, Checked.success_eq behind, pure_bind]
  | partHalted first ih =>
    have ran : Checked.runWithin machine g bound _ _ _ = _ := ih enough many (underWay.part _) fits
    rw [Checked.runTask, Checked.matchSequence, ran]
    rfl
  | @partFailed _ start rest _ _ _ _ _ first failed ih =>
    have behind : start ≤ rest := underWay.origin_le
    have ran : Checked.runWithin machine g bound _ _ _ = _ := ih enough many (underWay.part _) fits
    rw [Checked.runTask, Checked.matchSequence, ran, pure_bind]
    refine (if_pos failed).trans ?_
    rw [Checked.sub_eq behind.2, pure_bind, Checked.failure_eq, pure_bind]
  | @partSucceeded _ _ _ _ _ site after _ _ _ first succeeded others ih ihOthers =>
    have ran : Checked.runWithin machine g bound _ _ _ = _ := ih enough many (underWay.part _) fits
    rw [Checked.runTask, Checked.matchSequence, ran, pure_bind]
    refine (if_neg (ne_true_of_eq_false succeeded)).trans ?_
    have part := first.bounded (underWay.part _)
    have left : after.context.fuel ≤ site.context.fuel := first.follows.fuel
    exact ihOthers (by omega) (by omega) (underWay.further part first.follows rfl rfl)
      (fits.further (part.verdict _ rfl).le_rest first.follows.limits)
  | noBranchLeft =>
    rw [Checked.runTask, Checked.matchChoice, Checked.choiceFailure_eq]
    rfl
  | branchHalted first ih =>
    have ran : Checked.runWithin machine g bound _ _ _ = _ := ih enough many (underWay.part _) fits
    rw [Checked.runTask, Checked.matchChoice, ran]
    rfl
  | branchTaken first succeeded ih =>
    have ran : Checked.runWithin machine g bound _ _ _ = _ := ih enough many (underWay.part _) fits
    rw [Checked.runTask, Checked.matchChoice, ran, pure_bind]
    exact if_neg (ne_true_of_eq_false succeeded)
  | @branchFailed _ _ _ _ _ _ progress site after verdict _ _ first failed others ih ihOthers =>
    have ran : Checked.runWithin machine g bound _ _ _ = _ := ih enough many (underWay.part _) fits
    rw [Checked.runTask, Checked.matchChoice, ran, pure_bind]
    refine (if_pos failed).trans ?_
    have branch := first.bounded (underWay.part _)
    have left : after.context.fuel ≤ site.context.fuel := first.follows.fuel
    have others := ihOthers (Nat.le_trans left enough) (Nat.le_trans left many)
      (underWay.nextBranch branch first.follows _)
        (fits.further (Cursor.le_refl _) first.follows.limits)
    rw [← others]
    split <;> rfl
  | @roundsOver _ start rest _ _ atEnd =>
    have behind : start ≤ rest := underWay.origin_le
    rw [Checked.runTask, Checked.matchStar_atEnd _ _ _ _ _ _ atEnd, Checked.success_eq behind,
      pure_bind]
  | roundHalted more first ih =>
    have ran : Checked.runWithin machine g bound _ _ _ = _ := ih enough many (underWay.part _) fits
    rw [Checked.runTask, Checked.matchStar_eq many more, ran]
    rfl
  | roundMalformed more first failed progress ih =>
    have ran : Checked.runWithin machine g bound _ _ _ = _ := ih enough many (underWay.part _) fits
    rw [Checked.runTask, Checked.matchStar_eq many more, ran, pure_bind]
    refine ((if_pos failed).trans (if_pos progress)).trans ?_
    rw [Checked.failure_eq, pure_bind]
  | @roundRefused _ start rest _ _ _ _ more first failed noProgress ih =>
    have behind : start ≤ rest := underWay.origin_le
    have ran : Checked.runWithin machine g bound _ _ _ = _ := ih enough many (underWay.part _) fits
    rw [Checked.runTask, Checked.matchStar_eq many more, ran, pure_bind]
    refine ((if_pos failed).trans (if_neg noProgress)).trans ?_
    rw [Checked.success_eq behind, pure_bind]
  | roundStuck more first succeeded stuck ih =>
    have ran : Checked.runWithin machine g bound _ _ _ = _ := ih enough many (underWay.part _) fits
    rw [Checked.runTask, Checked.matchStar_eq many more, ran, pure_bind]
    exact (if_neg (ne_true_of_eq_false succeeded)).trans (if_pos stuck)
  | @roundGained _ _ _ _ site after _ _ _ more first succeeded gained others ih ihOthers =>
    have ran : Checked.runWithin machine g bound _ _ _ = _ := ih enough many (underWay.part _) fits
    rw [Checked.runTask, Checked.matchStar_eq many more, ran, pure_bind]
    refine ((if_neg (ne_true_of_eq_false succeeded)).trans (if_neg gained)).trans ?_
    have round := first.bounded (underWay.part _)
    have spent : after.context.fuel < site.context.fuel :=
      (runWithin_metered bound).pays (first.runWithin_eq enough many)
    exact ihOthers (by omega) (by omega) (underWay.further round first.follows rfl rfl)
      (fits.further (round.verdict _ rfl).le_rest first.follows.limits)

/-- Whatever was run on the slice before, with a memo table or without: on a machine that is large
enough a run meets no fault, and is the run of the engine. It never goes back behind its own cursor,
nor beyond the slice, and no answer tells of more progress than there was. -/
theorem run_checked {slice : Slice} {context : Context τ}
    (used : Used (Scope.all : Scope g) slice context) (on : input.slice = slice)
    (fits : machine.Fits slice context.limits) (m : Matcher) (node : OpenNode) :
    Checked.run machine g m input ⟨context, node⟩ = .ok (run g m input ⟨context, node⟩) ∧
    (run g m input ⟨context, node⟩).1 ≠ .error .cursorOutOfRange ∧
    (run g m input ⟨context, node⟩).2.context.furthest ≤ slice.size ∧
    ∀ verdict, (run g m input ⟨context, node⟩).1 = .ok verdict →
      verdict.rest.slice = slice ∧
      input.position ≤ verdict.rest.position ∧ verdict.rest.position ≤ slice.size ∧
      (0 < verdict.progress →
        input.position + verdict.progress ≤
          (run g m input ⟨context, node⟩).2.context.furthest) := by
  subst on
  have begun : (Task.whole m).Bounded input context := .begin used.bounded rfl rfl
  obtain ⟨chain, course⟩ := run_proceeds g 0 m input ⟨context, node⟩
  have bounded := course.bounded begun
  refine ⟨course.runTask_eq (Nat.le_refl context.fuel) (Nat.le_refl context.fuel) begun fits,
    bounded.inRange, bounded.context.furthest_le, ?_⟩
  intro verdict ok
  obtain ⟨le_rest, _, progress⟩ := bounded.verdict verdict ok
  exact ⟨le_rest.1.symm, le_rest.2, le_rest.1 ▸ verdict.rest.position_le, progress⟩

/-- On a machine of 32-bit counters and 64-bit indices, the block inside of an open one is matched
in the context that the open one was tried in. -/
theorem run_checked_unclosed :
    let failed := run blocks (.sub block) (.start unclosed) ⟨smallContext, .empty block⟩
    let inner : Cursor := (Cursor.start unclosed).next.next
    ∃ verdict after,
      Checked.run ⟨UInt32.size - 1, UInt64.size - 1⟩ blocks (.sub block) inner failed.2 =
        .ok (.ok verdict, after) ∧ verdict.rest.position = 4 ∧ after.context.furthest = 4 := by
  intro failed inner
  have fresh : Used (Scope.all : Scope blocks) unclosed smallContext := .fresh _ _
  have used : Used (Scope.all : Scope blocks) unclosed failed.2.context :=
    fresh.ran (Task.within_all (.whole (.sub block))) rfl (.empty block)
  have fits : Machine.Fits ⟨UInt32.size - 1, UInt64.size - 1⟩ unclosed failed.2.context.limits :=
    ⟨by decide, by decide⟩
  have on : inner.slice = unclosed := rfl
  exact ⟨_, _, (run_checked used on fits (.sub block) failed.2.node).1, rfl, rfl⟩

/-- A block inside of a block is one structure too many for a machine that counts a single one. -/
example : Checked.run ⟨1, 64⟩ blocks (.sub block) (.start nested) ⟨smallContext, .empty block⟩ =
      .error .overflow := by
  rfl

end OrderedChoice
