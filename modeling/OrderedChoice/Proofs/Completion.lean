import OrderedChoice.Proofs.Running

/-!
# Runs that have what they need

Where names are distinct, a run that has the fuel and the room of an evaluation settles on its
answer, whatever the memo table already holds (`Evaluates.settles`). What remembered results save is
fuel and room, so the cost of the evaluation is always enough.
-/

namespace OrderedChoice

variable {τ : Type} {g : Grammar} {scope : Scope g} {host : String} {task : Task} {input : Cursor}
  {base : OpenNode} {site : Site τ} {result : Result τ} {cost cost' : Cost} {answer : Answer}

/-- Where names are distinct, a run that is not cut off settles on the answer of any evaluation. -/
theorem Accounts.settles (accounts : Accounts scope task input base site result)
    (named : scope.Named) (within : task.Within scope)
    (h : Evaluates g scope base.target.name task input cost answer)
    (through : ¬ result.CutOff) : Settles cost answer base site result := by
  rcases accounts.settled with cut | ⟨cost', answer', evaluated, settles⟩
  · exact absurd cut through
  · obtain ⟨rfl, rfl⟩ := h.only named within _ _ evaluated
    exact settles

/-! ## What a cut-off run lacked -/

/-- The resource that a limit ran out of is less than the cost. -/
def Halt.Lacks (halt : Halt) (cost : Cost) (fuel room : Nat) : Prop :=
  match halt with
  | fuelExhausted => fuel < cost.fuel
  | recursionLimitExceeded => room < cost.depth
  | _ => False

namespace Halt.Lacks

variable {halt : Halt} {fuel room : Nat}

theorem invoke (h : halt.Lacks cost (fuel - 1) room) : halt.Lacks cost.invoke fuel room := by
  cases halt with
  | fuelExhausted =>
    have less : fuel - 1 < cost.fuel := h
    show fuel < cost.fuel + 1
    omega
  | recursionLimitExceeded => exact h
  | emptyRepetition | malformedBody | cursorOutOfRange => exact h

theorem enter (h : halt.Lacks cost fuel (room - 1)) : halt.Lacks cost.enter fuel room := by
  cases halt with
  | fuelExhausted => exact h
  | recursionLimitExceeded =>
    have less : room - 1 < cost.depth := h
    show room < cost.depth + 1
    omega
  | emptyRepetition | malformedBody | cursorOutOfRange => exact h

theorem first (h : halt.Lacks cost fuel room) : halt.Lacks (cost.next cost') fuel room := by
  cases halt with
  | fuelExhausted => exact Nat.lt_of_lt_of_le h (Nat.le_add_right _ _)
  | recursionLimitExceeded => exact Nat.lt_of_lt_of_le h (Nat.le_max_left _ _)
  | emptyRepetition | malformedBody | cursorOutOfRange => exact h

theorem others (h : halt.Lacks cost' (fuel - cost.fuel) room) :
    halt.Lacks (cost.next cost') fuel room := by
  cases halt with
  | fuelExhausted =>
    have less : fuel - cost.fuel < cost'.fuel := h
    show fuel < cost.fuel + cost'.fuel
    omega
  | recursionLimitExceeded => exact Nat.lt_of_lt_of_le h (Nat.le_max_right _ _)
  | emptyRepetition | malformedBody | cursorOutOfRange => exact h

end Halt.Lacks

/-! ## Where a combinator is cut off -/

theorem Verdict.success_ne_cutOff {halt : Halt} {start rest : Cursor} (cut : halt.isCutOff = true) :
    success start rest ≠ .error halt := by
  unfold success
  split
  · exact nofun
  · rintro ⟨⟩
    cases cut

variable {run : Runner τ} {halt : Halt}

/-- A sequence halts in its first part or in the others. -/
theorem matchSequence_halts {start rest : Cursor}
    {mark : Nat} {part : Matcher} {parts : List Matcher}
    (h : (matchSequence run start mark (part :: parts) rest site).1 = .error halt) :
    (run part rest site).1 = .error halt ∨
    ∃ verdict after, run part rest site = (.ok verdict, after) ∧
      verdict.failed = false ∧
      (matchSequence run start mark parts verdict.rest after).1 = .error halt := by
  rw [matchSequence] at h
  generalize run part rest site = result at h ⊢
  obtain ⟨_ | verdict, after⟩ := result
  · exact .inl h
  · cases failed : verdict.failed with
    | true =>
      simp only [failed, if_true] at h
      cases h
    | false =>
      simp only [failed, Bool.false_eq_true, if_false] at h
      exact .inr ⟨verdict, after, rfl, failed, h⟩

/-- A repetition halts in its first round or in the others, unless it may not go round any more. -/
theorem matchStar_halts {start rest : Cursor} {mark turns : Nat}
    {body : Matcher} (cut : halt.isCutOff = true)
    (h : (matchStar run body start mark turns rest site).1 = .error halt) :
    rest.isAtEnd = false ∧
    ((halt = .fuelExhausted ∧ turns = 0) ∨ (run body rest site).1 = .error halt ∨
      ∃ verdict after others, run body rest site = (.ok verdict, after) ∧ turns = others + 1 ∧
      verdict.failed = false ∧ verdict.rest.position ≠ rest.position ∧
      (matchStar run body start mark others verdict.rest after).1 = .error halt) := by
  unfold matchStar at h
  cases atEnd : rest.isAtEnd with
  | true =>
    rw [if_pos atEnd] at h
    exact absurd h (Verdict.success_ne_cutOff cut)
  | false =>
    refine ⟨rfl, ?_⟩
    rw [if_neg (ne_true_of_eq_false atEnd)] at h
    cases turns with
    | zero => exact .inl ⟨(Except.error.inj h).symm, rfl⟩
    | succ others =>
      simp only [] at h
      generalize run body rest site = result at h ⊢
      obtain ⟨_ | verdict, after⟩ := result
      · exact .inr (.inl h)
      · cases failed : verdict.failed with
        | true =>
          simp only [failed, if_true] at h
          split at h
          · cases h
          · exact absurd h (Verdict.success_ne_cutOff cut)
        | false =>
          simp only [failed, Bool.false_eq_true, if_false] at h
          by_cases stuck : verdict.rest.position = rest.position
          · rw [if_pos stuck] at h
            cases h
            cases cut
          · rw [if_neg stuck] at h
            exact .inr (.inr ⟨verdict, after, others, rfl, rfl, failed, stuck, h⟩)

theorem forgive_halts (h : (forgive result).1 = .error halt) : result.1 = .error halt := by
  obtain ⟨_ | verdict, after⟩ := result
  · exact h
  · cases h

variable [Tracer τ]

/-- A choice halts in its first branch or in the others. -/
theorem matchChoice_halts {all : List Matcher} {branch : Matcher} {branches : List Matcher}
    {description : String} {progress : Nat}
    (h :
      (matchChoice run all input (branch :: branches) description progress site).1 = .error halt) :
    (run branch input site).1 = .error halt ∨
    ∃ verdict after, run branch input site = (.ok verdict, after) ∧
      verdict.failed = true ∧ (matchChoice run all input branches
        (if progress < verdict.progress then verdict.description else description)
        (if progress < verdict.progress then verdict.progress else progress)
        (after.record (.backtracked input.position))).1 = .error halt := by
  rw [matchChoice_cons] at h
  generalize run branch input site = result at h ⊢
  obtain ⟨_ | verdict, after⟩ := result
  · exact .inl h
  · cases failed : verdict.failed with
    | true =>
      simp only [failed, if_true] at h
      exact .inr ⟨verdict, after, rfl, failed, h⟩
    | false =>
      simp only [failed, Bool.false_eq_true, if_false] at h
      cases h

/-- A statement is never cut off. -/
theorem matchStatement_ne_cutOff {kind : Kind} (cut : halt.isCutOff = true) :
    (matchStatement kind input site).1 ≠ .error halt := by
  unfold matchStatement
  split
  · split
    · exact Verdict.success_ne_cutOff cut
    · exact nofun
  · exact nofun

/-- A structure halts because it may not be entered, or in its body. -/
theorem enterStructure_halts {target : Structure} (cut : halt.isCutOff = true)
    (h : (enterStructure run g target input site).1 = .error halt) :
    (halt = .recursionLimitExceeded ∧ site.context.room = 0) ∨ ∃ body, g.body target = .ok body ∧
      0 < site.context.room ∧
      (run body input (site.descend.record (.entered target.name input.position))).1 =
        .error halt := by
  unfold enterStructure at h
  by_cases full : site.context.limits.recursion ≤ site.context.depth
  · rw [if_pos full] at h
    exact .inl ⟨(Except.error.inj h).symm, Nat.sub_eq_zero_of_le full⟩
  · rw [if_neg full] at h
    cases body : g.body target with
    | error fault =>
      simp only [body] at h
      cases h
      cases cut
    | ok m =>
      refine .inr ⟨m, rfl, Nat.sub_pos_of_lt (Nat.lt_of_not_le full), ?_⟩
      simp only [body] at h
      generalize run m input (site.descend.record (.entered target.name input.position)) =
        result at h ⊢
      obtain ⟨_ | verdict, after⟩ := result
      · exact h
      · cases h

/-- A reference halts where its structure does. -/
theorem matchSub_halts {target : Structure}
    (h : (matchSub run g target input site).1 = .error halt) :
    (enterStructure run g target input ⟨site.context, .empty target⟩).1 = .error halt := by
  unfold matchSub at h
  split at h
  · split at h <;> cases h
  · simp only [] at h
    generalize enterStructure run g target input ⟨site.context, .empty target⟩ = result at h ⊢
    obtain ⟨_ | verdict, after⟩ := result
    · exact h
    · simp only [] at h
      cases failed : (verdict.refuseEmpty target).failed with
      | true =>
        simp only [failed, if_true] at h
        cases h
      | false =>
        simp only [failed, Bool.false_eq_true, if_false] at h
        cases h

/-! ## Runs of tasks -/

/-- Runs a task, with matchers nested at most `bound` deep and a repetition in at most `turns`
rounds. -/
def Task.runWithin (g : Grammar) (bound turns mark : Nat) : Task → Cursor → Site τ → Result τ
  | whole m, input, site => OrderedChoice.runWithin g bound m input site
  | inTurn start parts, rest, site =>
    matchSequence (OrderedChoice.runWithin g bound) start mark parts rest site
  | firstOf all branches description progress, input, site =>
    matchChoice (OrderedChoice.runWithin g bound) all input branches description progress site
  | rounds start body, rest, site =>
    matchStar (OrderedChoice.runWithin g bound) body start mark turns rest site
  | inside target, input, site =>
    enterStructure (OrderedChoice.runWithin g bound) g target input site

/-- The name of the structure whose node a task grows. -/
def Task.grows (host : String) : Task → String
  | inside target => target.name
  | _ => host

/-- A site of a structure of the name `host` where tasks can be run with at least this much fuel. -/
structure Ready (scope : Scope g) (host : String) (slice : Slice) (fuel bound turns : Nat)
    (site : Site τ) : Prop where
  isHost : site.node.target.name = host
  coherent : site.context.Coherent scope slice
  fuel_le : fuel ≤ site.context.fuel
  le_bound : fuel ≤ bound
  le_turns : fuel ≤ turns

variable {bound turns fuel : Nat}

namespace Ready

variable {slice : Slice}

omit [Tracer τ] in
theorem invoke {bound' fuel' : Nat} (ready : Ready scope host slice fuel bound turns site)
    (hb : bound = bound' + 1) (hf : site.context.fuel = fuel' + 1) :
    Ready scope host slice (fuel - 1) bound' fuel' (site.withFuel fuel') := by
  have le := ready.fuel_le
  have le_bound := ready.le_bound
  exact ⟨ready.isHost, ready.coherent.mono rfl (Nat.le_refl _),
    show fuel - 1 ≤ fuel' by omega, by omega, by omega⟩

omit [Tracer τ] in
/-- A reference grows a node of its own. -/
theorem apart (ready : Ready scope host slice fuel bound turns site) (target : Structure) :
    Ready scope target.name slice fuel bound turns ⟨site.context, .empty target⟩ :=
  ⟨rfl, ready.coherent, ready.fuel_le, ready.le_bound, ready.le_turns⟩

theorem descend (ready : Ready scope host slice fuel bound turns site) (event : Event) :
    Ready scope host slice fuel bound turns (site.descend.record event) :=
  ⟨ready.isHost, ready.coherent.mono rfl (Nat.le_refl _), ready.fuel_le, ready.le_bound,
    ready.le_turns⟩

theorem record (ready : Ready scope host slice fuel bound turns site) (event : Event) :
    Ready scope host slice fuel bound turns (site.record event) :=
  ⟨ready.isHost, ready.coherent.mono rfl (Nat.le_refl _), ready.fuel_le, ready.le_bound,
    ready.le_turns⟩

/-- After a part that was run to its end, the run goes on with what the part has left. -/
theorem ran {part : Matcher} {verdict : Verdict} {after : Site τ}
    (ready : Ready scope host input.slice fuel bound turns site) (named : scope.Named)
    (within : (Task.whole part).Within scope)
    (first : Evaluates g scope host (.whole part) input cost answer)
    (ran : runWithin g bound part input site = (.ok verdict, after)) :
    answer.outcome = .ok verdict ∧ after.context.room = site.context.room ∧
      Ready scope host input.slice (fuel - cost.fuel) bound (turns - 1) after := by
  have accounts := runWithin_accounts scope bound part input site within ready.coherent
  rw [ran] at accounts
  have through : ¬ Result.CutOff ((.ok verdict, after) : Result τ) := by
    rintro ⟨_, ⟨⟩, _⟩
  have settles := accounts.settles named within (ready.isHost ▸ first) through
  obtain ⟨nodes, grown⟩ := accounts.grown
  have grown : after.node = site.node.grow nodes := grown
  have spent : site.context.fuel ≤ after.context.fuel + cost.fuel := settles.fuel
  have least := first.one_le_fuel
  have fuel_le := ready.fuel_le
  have le_bound := ready.le_bound
  have le_turns := ready.le_turns
  refine ⟨settles.outcome.symm, accounts.follows.room, ?_,
    accounts.coherent, by omega, by omega, by omega⟩
  rw [grown, OpenNode.target_grow, ready.isHost]

end Ready

/-- A matcher halts for want of fuel or in what it does. -/
theorem Ready.halts {m : Matcher} (ready : Ready scope host input.slice fuel bound turns site)
    (halted : (runWithin g bound m input site).1 = .error halt)
    (inside : ∀ bound' fuel',
      Ready scope host input.slice (fuel - 1) bound' fuel' (site.withFuel fuel') →
      (m.runInside (runWithin g bound') g fuel' input (site.withFuel fuel')).1 = .error halt →
      halt.Lacks cost (fuel - 1) (site.withFuel fuel').context.room) :
    halt.Lacks cost.invoke fuel site.context.room := by
  have fuel_le := ready.fuel_le
  have le_bound := ready.le_bound
  cases bound with
  | zero =>
    cases halted
    show fuel < cost.fuel + 1
    omega
  | succ bound =>
    cases enough : site.context.fuel with
    | zero =>
      rw [runWithin, enough] at halted
      cases halted
      show fuel < cost.fuel + 1
      omega
    | succ fuel' =>
      rw [runWithin_succ enough] at halted
      exact (inside bound fuel' (ready.invoke rfl enough) halted).invoke

/-- A run that is cut off lacked some of what its evaluation costs. -/
theorem Evaluates.lacks (h : Evaluates g scope host task input cost answer) (named : scope.Named)
    (cut : halt.isCutOff = true) (mark : Nat)
    (ready : Ready scope (task.grows host) input.slice fuel bound turns site)
    (within : task.Within scope)
    (halted : (task.runWithin g bound turns mark input site).1 = .error halt) :
    halt.Lacks cost fuel site.context.room := by
  induction h generalizing bound turns mark fuel site with
  | matched _ _ | mismatched _ =>
    have lacks : halt.Lacks (Cost.invoke ⟨0, 0⟩) fuel site.context.room :=
      ready.halts halted fun _ _ _ halted => absurd halted (matchStatement_ne_cutOff cut)
    exact lacks
  | sub known name entered ih =>
    -- the structure that answers is the target itself
    obtain rfl := named _ known _ within.mem name
    refine ready.halts halted fun _ _ ready halted => ?_
    have lacks := ih 0 (ready.apart _) within (matchSub_halts halted)
    exact lacks
  | optional tried ih =>
    exact ready.halts halted fun _ _ ready halted => ih mark ready within (forgive_halts halted)
  | star repeated ih => exact ready.halts halted fun _ _ ready halted => ih _ ready within halted
  | sequence parts ih =>
    exact ready.halts halted fun _ _ ready halted => ih _ ready within.sequence halted
  | choice branches ih =>
    exact ready.halts halted fun _ _ ready halted => ih mark ready within.choice halted
  | malformed body =>
    rcases enterStructure_halts cut halted with ⟨rfl, room⟩ | ⟨m, body', _, _⟩
    · exact Nat.lt_of_le_of_lt (Nat.le_of_eq room) Nat.one_pos
    · cases body.symm.trans body'
  | entered body grown ih =>
    rcases enterStructure_halts cut halted with ⟨rfl, room⟩ | ⟨m, body', inRoom, halted⟩
    · exact Nat.lt_of_le_of_lt (Nat.le_of_eq room) (Nat.succ_pos _)
    · obtain rfl := Except.ok.inj (body.symm.trans body')
      have lacks := ih mark (ready.descend _) (within.body body) halted
      exact Halt.Lacks.enter lacks
  | noPartLeft => exact absurd halted (Verdict.success_ne_cutOff cut)
  | partHalted first isError ih =>
    rcases matchSequence_halts halted with halted | ⟨verdict', after, ran, failed, halted⟩
    · exact ih mark ready within.part halted
    · cases isError.symm.trans (ready.ran named within.part first ran).1
  | partFailed first fails ih =>
    rcases matchSequence_halts halted with halted | ⟨verdict', after, ran, failed, halted⟩
    · exact ih mark ready within.part halted
    · exact absurd fails
        (Answer.Succeeds.not_fails ⟨(ready.ran named within.part first ran).1, failed⟩)
  | partSucceeded first succeeds others ih ihOthers =>
    rcases matchSequence_halts halted with halted | ⟨verdict', after, ran, failed, halted⟩
    · exact (ih mark ready within.part halted).first
    · obtain ⟨outcome, room, ready'⟩ := ready.ran named within.part first ran
      obtain rfl := succeeds.unique ⟨outcome, failed⟩
      rw [((first.covers (Cursor.le_refl _)).le_rest _ succeeds).1] at ready'
      rw [← room]
      exact (ihOthers mark ready' within.parts halted).others
  | noBranchLeft => cases halted
  | branchHalted first isError ih =>
    rcases matchChoice_halts halted with halted | ⟨verdict', after, ran, failed, halted⟩
    · exact ih mark ready within.branch halted
    · cases isError.symm.trans (ready.ran named within.branch first ran).1
  | branchTaken first succeeds ih =>
    rcases matchChoice_halts halted with halted | ⟨verdict', after, ran, failed, halted⟩
    · exact ih mark ready within.branch halted
    · exact absurd ⟨(ready.ran named within.branch first ran).1, failed⟩ succeeds.not_fails
  | branchFailed first fails others ih ihOthers =>
    rcases matchChoice_halts halted with halted | ⟨verdict', after, ran, failed, halted⟩
    · exact (ih mark ready within.branch halted).first
    · obtain ⟨outcome, room, ready'⟩ := ready.ran named within.branch first ran
      obtain rfl := fails.unique ⟨outcome, failed⟩
      rw [← room]
      exact (ihOthers mark (ready'.record _) within.branches halted).others
  | roundsOver atEnd =>
    obtain ⟨more, _⟩ := matchStar_halts cut halted
    cases atEnd.symm.trans more
  | roundHalted _ first isError ih =>
    obtain ⟨_, ⟨rfl, rfl⟩ | halted | ⟨verdict', after, others, ran, rfl, failed, _⟩⟩ :=
      matchStar_halts cut halted
    · exact Nat.lt_of_le_of_lt ready.le_turns first.one_le_fuel
    · exact ih mark ready within halted
    · cases isError.symm.trans (ready.ran named within first ran).1
  | roundMalformed _ first fails _ ih | roundRefused _ first fails _ ih =>
    obtain ⟨_, ⟨rfl, rfl⟩ | halted | ⟨verdict', after, others, ran, rfl, failed, _⟩⟩ :=
      matchStar_halts cut halted
    · exact Nat.lt_of_le_of_lt ready.le_turns first.one_le_fuel
    · exact ih mark ready within halted
    · exact absurd fails (Answer.Succeeds.not_fails ⟨(ready.ran named within first ran).1, failed⟩)
  | roundStuck _ first succeeds stuck ih =>
    obtain ⟨_, ⟨rfl, rfl⟩ | halted | ⟨verdict', after, others, ran, rfl, failed, gained, _⟩⟩ :=
      matchStar_halts cut halted
    · exact Nat.lt_of_le_of_lt ready.le_turns first.one_le_fuel
    · exact ih mark ready within halted
    · obtain rfl := succeeds.unique ⟨(ready.ran named within first ran).1, failed⟩
      exact absurd stuck gained
  | roundGained _ first succeeds _ _ ih ihOthers =>
    obtain ⟨_, ⟨rfl, rfl⟩ | halted | ⟨verdict', after, others, ran, rfl, failed, _, halted⟩⟩ :=
      matchStar_halts cut halted
    · exact Nat.lt_of_le_of_lt ready.le_turns
        (Nat.lt_of_lt_of_le first.one_le_fuel (Nat.le_add_right _ _))
    · exact (ih mark ready within halted).first
    · obtain ⟨outcome, room, ready'⟩ := ready.ran named within first ran
      obtain rfl := succeeds.unique ⟨outcome, failed⟩
      rw [((first.covers (Cursor.le_refl _)).le_rest _ succeeds).1] at ready'
      rw [← room]
      exact (ihOthers mark ready' within halted).others

/-! ## The root -/

variable {root : Structure} {statements : Array Statement}

/-- Matching a root structure is cut off only for want of what its evaluation costs. -/
theorem matchRoot_lacks (named : scope.Named) (known : root ∈ scope)
    (h : Evaluates g scope root.name (.inside root) (.start ⟨0, statements⟩) cost answer)
    (limits : Limits) (tracer : τ) (cut : halt.isCutOff = true)
    (halted : (matchRoot g root limits tracer statements).1 = .error halt) :
    halt.Lacks cost limits.fuel limits.recursion := by
  have ready : Ready scope root.name ⟨0, statements⟩ limits.fuel limits.fuel limits.fuel
      ⟨.fresh limits tracer, .empty root⟩ :=
    ⟨rfl, Context.coherent_fresh _ _ _ _, Nat.le_refl _, Nat.le_refl _, Nat.le_refl _⟩
  exact h.lacks named cut 0 ready (Task.within_inside known) halted

/-- Matching a root structure with the fuel and the room of its evaluation settles on the answer. -/
theorem matchRoot_settles (named : scope.Named) (known : root ∈ scope)
    (h : Evaluates g scope root.name (.inside root) (.start ⟨0, statements⟩) cost answer)
    {limits : Limits} (tracer : τ) (fuel : cost.fuel ≤ limits.fuel)
    (room : cost.depth ≤ limits.recursion) :
    Settles cost answer (.empty root) ⟨.fresh limits tracer, .empty root⟩
      (matchRoot g root limits tracer statements) := by
  refine (matchRoot_accounts known limits tracer statements).settles named
    (Task.within_inside known) h ?_
  rintro ⟨halt, halted, cut⟩
  have lacks := matchRoot_lacks named known h limits tracer cut halted
  cases halt with
  | fuelExhausted => exact Nat.not_lt.2 fuel lacks
  | recursionLimitExceeded => exact Nat.not_lt.2 room lacks
  | emptyRepetition | malformedBody | cursorOutOfRange => exact lacks

/-- The parse that an answer of the root structure makes. -/
def Answer.parse (answer : Answer) (root : Structure) (statements : Array Statement) :
    Except Halt Parse :=
  match answer.outcome with
  | .ok verdict =>
    .ok ⟨⟨root, if verdict.failed then [] else answer.nodes⟩, verdict,
      verdict.diagnostics statements answer.reach⟩
  | .error halt => .error halt

/-- A match that settles on an answer makes the parse of that answer. -/
theorem Settles.parse {limits : Limits} {tracer : τ}
    (h : Settles cost answer (.empty root) ⟨.fresh limits tracer, .empty root⟩
      (matchRoot g root limits tracer statements)) :
    (parseWith g root limits tracer statements).1 = answer.parse root statements := by
  unfold parseWith
  generalize matchRoot g root limits tracer statements = result at h ⊢
  obtain ⟨halt | verdict, after⟩ := result
  · rw [Answer.parse, ← h.outcome]
  · have furthest : after.context.furthest = max 0 answer.reach := h.furthest
    have node : after.node = _ := h.node verdict rfl
    rw [Answer.parse, ← h.outcome]
    simp only [furthest, Nat.zero_max, node]
    cases verdict.failed with
    | true => rfl
    | false =>
      have grown : ((OpenNode.empty root).grow answer.nodes).toBranch = ⟨root, answer.nodes⟩ := by
        simp [OpenNode.toBranch, OpenNode.grow, OpenNode.empty]
      simp only [Bool.false_eq_true, if_false, grown]

/-- What a parse ends with is what its match ends with. -/
theorem parseWith_eq_error_iff {limits : Limits} {tracer : τ} {halt : Halt} :
    (parseWith g root limits tracer statements).1 = .error halt ↔
      (matchRoot g root limits tracer statements).1 = .error halt := by
  unfold parseWith
  generalize matchRoot g root limits tracer statements = result
  obtain ⟨_ | _, _⟩ := result
  · exact ⟨fun h => congrArg _ (Except.error.inj h), fun h => congrArg _ (Except.error.inj h)⟩
  · exact ⟨nofun, nofun⟩

end OrderedChoice
