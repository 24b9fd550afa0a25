import OrderedChoice.Proofs.Attempts

/-!
# Tariffs

A bound on the matchers that a match invokes, in the size of the input. In a predictive grammar each
statement is paid for once, at a rate, when a match first gets as far: what is tried again there
consumes nothing, and costs no more than a fixed price. A tariff has three such prices, for a match
that consumes nothing, for one that consumes something and succeeds, and for one that consumes
something in vain; the latter two are added to what the statements have paid, or taken off it.

Tariffs of matchers follow from those of structures. Where no round of a repetition has a price
above zero, and the tariff of each structure allows for its body, every evaluation keeps to its
tariff (`Evaluates.keepsTo`).
-/

namespace OrderedChoice

/-- Prices of a match: where it consumes nothing, where it succeeds, and where it does not. -/
structure Tariff where
  idle : Nat
  won : Int
  lost : Int

namespace Tariff

/-- What a match that has consumed something is charged beside the rate. -/
def busy (t : Tariff) (succeeded : Bool) : Int :=
  if succeeded then t.won else t.lost

instance : LE Tariff :=
  ⟨fun t u => t.idle ≤ u.idle ∧ t.won ≤ u.won ∧ t.lost ≤ u.lost⟩

instance (t u : Tariff) : Decidable (t ≤ u) :=
  inferInstanceAs (Decidable (t.idle ≤ u.idle ∧ t.won ≤ u.won ∧ t.lost ≤ u.lost))

/-! ## Tariffs of matchers -/

/-- One matcher more is invoked. -/
def invoke (t : Tariff) : Tariff :=
  ⟨t.idle + 1, t.won + 1, t.lost + 1⟩

/-- One statement is consumed, or none. -/
def single (rate : Nat) : Tariff :=
  ⟨1, 1 - rate, 1 - rate⟩

/-- Nothing is done, and nothing consumed. -/
def nothing (rate : Nat) : Tariff :=
  ⟨0, -rate, -rate⟩

/-- A structure may refuse what its body has succeeded on. -/
def enclosed (t : Tariff) : Tariff :=
  ⟨t.idle, t.won, max t.won t.lost⟩

/-- A failure becomes a success. -/
def forgiven (t : Tariff) : Tariff :=
  ⟨t.idle, max t.won t.lost, t.lost⟩

/-- What remains of a repetition: rounds that cost nothing beside the rate, and one that is
refused. -/
def rounds (t : Tariff) : Tariff :=
  ⟨t.idle, max t.won t.lost + t.idle, max t.won t.lost + t.idle⟩

/-- The charge of what comes after a success: that of the others, which may have nothing to do. -/
def followed (nullable : Bool) (t u : Tariff) (charge : Int) : Int :=
  if nullable then max (t.won + max ↑u.idle charge) (t.idle + charge)
  else t.won + max ↑u.idle charge

/-- A part of a sequence, which may be nullable, and the parts after it. -/
def next (nullable : Bool) (t u : Tariff) : Tariff :=
  ⟨t.idle + if nullable then u.idle else 0, followed nullable t u u.won,
    max t.lost (followed nullable t u u.lost)⟩

/-- A branch of a choice, and the branches after it. -/
def orElse (t u : Tariff) : Tariff :=
  ⟨t.idle + u.idle, max t.won (t.idle + u.won), max (t.lost + u.idle) (t.idle + u.lost)⟩

end Tariff

namespace Matcher

variable (rate : Nat) (of : Structure → Tariff)

mutual

/-- The tariff of a matcher under tariffs of the structures. -/
def tariff : Matcher → Tariff
  | .statement _ => .single rate
  | .sub target => (of target).enclosed.invoke
  | .optional body => body.tariff.forgiven.invoke
  | .star body => body.tariff.rounds.invoke
  | .sequence first second rest =>
    (Tariff.next first.nullable first.tariff
      (.next second.nullable second.tariff (tariffInTurn rest))).invoke
  | .choice first second rest =>
    (first.tariff.orElse (second.tariff.orElse (tariffOfAny rest))).invoke

def tariffInTurn : List Matcher → Tariff
  | [] => .nothing rate
  | m :: ms => .next m.nullable m.tariff (tariffInTurn ms)

def tariffOfAny : List Matcher → Tariff
  | [] => .nothing rate
  | m :: ms => m.tariff.orElse (tariffOfAny ms)

end

mutual

/-- Whether all rounds of all repetitions in the matcher are paid for by the statements that they
consume. -/
def steady : Matcher → Bool
  | .statement _ => true
  | .sub _ => true
  | .optional body => body.steady
  | .star body => decide ((body.tariff rate of).won ≤ 0) && body.steady
  | .sequence first second rest => first.steady && (second.steady && steadyAll rest)
  | .choice first second rest => first.steady && (second.steady && steadyAll rest)

def steadyAll : List Matcher → Bool
  | [] => true
  | m :: ms => m.steady && steadyAll ms

end

variable {rate of} (a b : Matcher) (rest : List Matcher)

theorem tariff_sequence :
    (sequence a b rest).tariff rate of = (tariffInTurn rate of (a :: b :: rest)).invoke := by
  rw [tariff, tariffInTurn, tariffInTurn]

theorem tariff_choice :
    (choice a b rest).tariff rate of = (tariffOfAny rate of (a :: b :: rest)).invoke := by
  rw [tariff, tariffOfAny, tariffOfAny]

theorem steady_sequence :
    (sequence a b rest).steady rate of = steadyAll rate of (a :: b :: rest) := by
  rw [steady, steadyAll, steadyAll]

theorem steady_choice : (choice a b rest).steady rate of = steadyAll rate of (a :: b :: rest) := by
  rw [steady, steadyAll, steadyAll]

theorem steadyAll_cons_iff {m : Matcher} {ms : List Matcher} : steadyAll rate of (m :: ms) = true ↔
    m.steady rate of = true ∧ steadyAll rate of ms = true := by
  rw [steadyAll, Bool.and_eq_true_iff]

end Matcher

namespace Task

def tariff (rate : Nat) (of : Structure → Tariff) : Task → Tariff
  | whole m => m.tariff rate of
  | inTurn _ parts => Matcher.tariffInTurn rate of parts
  | firstOf _ branches _ _ => Matcher.tariffOfAny rate of branches
  | rounds _ body => (body.tariff rate of).rounds
  | inside target => of target

def steady (rate : Nat) (of : Structure → Tariff) : Task → Bool
  | whole m => m.steady rate of
  | inTurn _ parts => Matcher.steadyAll rate of parts
  | firstOf _ branches _ _ => Matcher.steadyAll rate of branches
  | rounds _ body => decide ((body.tariff rate of).won ≤ 0) && body.steady rate of
  | inside _ => true

variable {look : Lookahead} {rate : Nat} {of : Structure → Tariff} {start : Cursor} {body : Matcher}

theorem predictive_body (h : (rounds start body).predictive look = true) :
    body.predictive look = true :=
  (Bool.and_eq_true_iff.1 h).2

theorem steady_body (h : (rounds start body).steady rate of = true) : body.steady rate of = true :=
  (Bool.and_eq_true_iff.1 h).2

end Task

/-- The tariff of each structure allows for its body, and the bodies are steady. -/
structure Priced {g : Grammar} (scope : Scope g) (rate : Nat) (of : Structure → Tariff) : Prop where
  le : ∀ s ∈ scope, ∀ m, g.body s = .ok m → m.tariff rate of ≤ of s
  steady : ∀ s ∈ scope, ∀ m, g.body s = .ok m → m.steady rate of = true

/-! ## Keeping to a tariff -/

/-- The match keeps to the tariff: it takes no more fuel than it is charged for, all statements
between its input and the furthest one it consumed being paid for at the rate. -/
structure Tariff.Keeps (t : Tariff) (rate : Nat) (input : Cursor) (fuel : Nat)
    (answer : Answer) : Prop where
  idle : answer.reach ≤ input.position → fuel ≤ t.idle
  busy : input.position < answer.reach →
    (fuel : Int) + rate * input.position ≤ rate * answer.reach + t.busy answer.succeeded

namespace Tariff

variable {t u : Tariff} {nullable succeeded : Bool}

theorem busy_mono (le : t ≤ u) (succeeded : Bool) : t.busy succeeded ≤ u.busy succeeded := by
  cases succeeded
  · exact le.2.2
  · exact le.2.1

theorem busy_le_max (t : Tariff) (succeeded : Bool) : t.busy succeeded ≤ max t.won t.lost := by
  cases succeeded
  · exact Int.le_max_right _ _
  · exact Int.le_max_left _ _

@[simp] theorem busy_single (rate : Nat) (succeeded : Bool) :
    (single rate).busy succeeded = 1 - rate := by
  cases succeeded <;> rfl

@[simp] theorem busy_invoke (t : Tariff) (succeeded : Bool) :
    t.invoke.busy succeeded = t.busy succeeded + 1 := by
  cases succeeded <;> rfl

@[simp] theorem busy_rounds (t : Tariff) (succeeded : Bool) :
    t.rounds.busy succeeded = max t.won t.lost + t.idle := by
  cases succeeded <;> rfl

theorem followed_le_busy_next (t u : Tariff) (nullable succeeded : Bool) :
    followed nullable t u (u.busy succeeded) ≤ (next nullable t u).busy succeeded := by
  cases succeeded
  · exact Int.le_max_right _ _
  · exact Int.le_refl _

theorem le_followed (nullable : Bool) (t u : Tariff) (charge : Int) :
    t.won + max ↑u.idle charge ≤ followed nullable t u charge := by
  unfold followed
  split
  · exact Int.le_max_left _ _
  · exact Int.le_refl _

theorem busy_le_busy_orElse (t u : Tariff) (succeeded : Bool) :
    t.idle + u.busy succeeded ≤ (t.orElse u).busy succeeded := by
  cases succeeded <;> exact Int.le_max_right _ _

namespace Keeps

variable {rate fuel fuel' : Nat} {input rest : Cursor} {answer answer' : Answer}

/-- Nothing was done, and nothing consumed. -/
theorem of_nothing {outcome : Except Halt Verdict} : t.Keeps rate input 0 (.bare outcome 0) :=
  ⟨fun _ => Nat.zero_le _, fun moved => absurd moved (Nat.not_lt_zero _)⟩

theorem consumed (reach : answer.reach = input.position + 1) :
    (single rate).Keeps rate input 1 answer where
  idle _ := Nat.le_refl _
  busy _ := by
    rw [reach, busy_single, Int.natCast_add, Int.mul_add]
    omega

theorem refused {outcome : Except Halt Verdict} :
    (single rate).Keeps rate input 1 (.bare outcome 0) :=
  ⟨fun _ => Nat.le_refl _, fun moved => absurd moved (Nat.not_lt_zero _)⟩

theorem mono (h : t.Keeps rate input fuel answer) (le : t ≤ u) :
    u.Keeps rate input fuel answer where
  idle still := Nat.le_trans (h.idle still) le.1
  busy moved := Int.le_trans (h.busy moved) (Int.add_le_add_left (busy_mono le _) _)

theorem invoke (h : t.Keeps rate input fuel answer) :
    t.invoke.Keeps rate input (fuel + 1) answer where
  idle still := Nat.succ_le_succ (h.idle still)
  busy moved := by
    have charged := h.busy moved
    rw [busy_invoke]
    omega

/-- The whole gets as far as its part for the same fuel, and is charged at least as much. -/
theorem same (h : t.Keeps rate input fuel answer) (reach : answer'.reach = answer.reach)
    (idle : t.idle ≤ u.idle) (charge : t.busy answer.succeeded ≤ u.busy answer'.succeeded) :
    u.Keeps rate input fuel answer' where
  idle still := Nat.le_trans (h.idle (reach ▸ still)) idle
  busy moved := by
    have charged := h.busy (reach ▸ moved)
    rw [reach]
    omega

theorem enclosed (h : t.Keeps rate input fuel answer) (target : Structure) :
    t.enclosed.Keeps rate input fuel (answer.enclosed target) := by
  refine h.same (Answer.reach_enclosed _ _) (Nat.le_refl _) ?_
  cases succeeded : (answer.enclosed target).succeeded with
  | false => exact busy_le_max _ _
  | true =>
    obtain ⟨_, succeeds⟩ := Answer.exists_succeeds succeeded
    obtain ⟨_, succeeds', _⟩ := succeeds.of_enclosed
    rw [succeeds'.succeeded]
    exact Int.le_refl _

theorem forgiven (h : t.Keeps rate input fuel answer) :
    t.forgiven.Keeps rate input fuel answer.forgiven := by
  refine h.same (Answer.reach_forgiven _) (Nat.le_refl _) ?_
  cases outcome : answer.outcome with
  | error halt =>
    rw [Answer.forgiven_of_error outcome, Answer.succeeded, outcome]
    exact Int.le_refl _
  | ok verdict =>
    rw [Answer.forgiven_of_ok outcome]
    exact busy_le_max _ _

/-- A single round, or none that gains anything. -/
theorem round (h : t.Keeps rate input fuel answer) (reach : answer'.reach = answer.reach) :
    t.rounds.Keeps rate input fuel answer' := by
  refine h.same reach (Nat.le_refl _) ?_
  have := busy_le_max t answer.succeeded
  rw [busy_rounds]
  omega

/-- A part that does not succeed ends its sequence. -/
theorem part (h : t.Keeps rate input fuel answer) (fails : answer.succeeded = false)
    (fails' : answer'.succeeded = false) (reach : answer'.reach = answer.reach) :
    (next nullable t u).Keeps rate input fuel answer' := by
  refine h.same reach (Nat.le_add_right _ _) ?_
  rw [fails, fails']
  exact Int.le_max_left _ _

/-- A part succeeds, and the others come after it. Where the part has stayed it was nullable; where
it has consumed more than it keeps, the others consume nothing. -/
theorem next (first : t.Keeps rate input fuel answer) (succeeds : answer.succeeded = true)
    (others : u.Keeps rate rest fuel' answer') (moved : input.position ≤ rest.position)
    (reached : rest.position ≤ max input.position answer.reach)
    (null : rest.position = input.position → nullable = true)
    (meet : answer.reach ≤ rest.position ∨ answer'.reach ≤ rest.position) (nodes : List Node) :
    (next nullable t u).Keeps rate input (fuel + fuel') (answer'.after nodes answer.reach) where
  idle still := by
    rw [Answer.reach_after] at still
    have stays : rest.position = input.position := by omega
    have idle := first.idle (by omega)
    have idle' := others.idle (by omega)
    show fuel + fuel' ≤ t.idle + if nullable then u.idle else 0
    rw [if_pos (null stays)]
    omega
  busy far := by
    rw [Answer.reach_after] at far ⊢
    have charge := followed_le_busy_next t u nullable answer'.succeeded
    show _ ≤ _ + (Tariff.next nullable t u).busy answer'.succeeded
    by_cases tried : input.position < answer.reach
    · have paid := first.busy tried
      rw [succeeds] at paid
      have paid : (fuel : Int) + rate * input.position ≤ rate * answer.reach + t.won := paid
      have charge' := le_followed nullable t u (u.busy answer'.succeeded)
      by_cases triedOthers : rest.position < answer'.reach
      · -- the others begin where the part has got to
        have here : answer.reach = rest.position := by omega
        have paid' := others.busy triedOthers
        rw [here] at paid ⊢
        rw [Nat.max_eq_right (Nat.le_of_lt triedOthers)]
        omega
      · have paid' := others.idle (Nat.le_of_not_lt triedOthers)
        rw [Nat.max_eq_left (by omega)]
        omega
    · have stays : rest.position = input.position := by omega
      have idle := first.idle (Nat.le_of_not_lt tried)
      have paid' := others.busy (by omega)
      have charge' :
          t.idle + u.busy answer'.succeeded ≤ followed nullable t u (u.busy answer'.succeeded) := by
        rw [followed, if_pos (null stays)]
        exact Int.le_max_right _ _
      rw [Nat.max_eq_right (by omega)]
      rw [stays] at paid'
      omega

/-- A round is won, and the others come after it. The statements that it consumed have paid for
it. -/
theorem rounds (first : t.Keeps rate input fuel answer)
    (succeeds : answer.succeeded = true) (steady : t.won ≤ 0)
    (others : t.rounds.Keeps rate rest fuel' answer') (moved : input.position < rest.position)
    (reached : rest.position ≤ max input.position answer.reach)
    (meet : answer.reach ≤ rest.position ∨ answer'.reach ≤ rest.position) (nodes : List Node) :
    t.rounds.Keeps rate input (fuel + fuel') (answer'.after nodes answer.reach) where
  idle still := by
    rw [Answer.reach_after] at still
    omega
  busy far := by
    rw [Answer.reach_after, busy_rounds]
    have paid := first.busy (by omega)
    rw [succeeds] at paid
    have paid : (fuel : Int) + rate * input.position ≤ rate * answer.reach + t.won := paid
    by_cases triedOthers : rest.position < answer'.reach
    · have here : answer.reach = rest.position := by omega
      have paid' := others.busy triedOthers
      rw [busy_rounds] at paid'
      rw [here] at paid ⊢
      rw [Nat.max_eq_right (Nat.le_of_lt triedOthers)]
      omega
    · have paid' : fuel' ≤ t.idle := others.idle (Nat.le_of_not_lt triedOthers)
      rw [Nat.max_eq_left (by omega)]
      omega

/-- A branch that is not the last of its choice is taken, or halts. -/
theorem branch (h : t.Keeps rate input fuel answer) (reach : answer'.reach = answer.reach)
    (same : answer'.succeeded = answer.succeeded) : (t.orElse u).Keeps rate input fuel answer' := by
  refine h.same reach (Nat.le_add_right _ _) ?_
  rw [same]
  cases answer.succeeded
  · show t.lost ≤ max (t.lost + u.idle) (t.idle + u.lost)
    omega
  · exact Int.le_max_left _ _

/-- A branch fails, and the others are tried. Where it has consumed something they do nothing. -/
theorem orElse (first : t.Keeps rate input fuel answer) (fails : answer.succeeded = false)
    (others : u.Keeps rate input fuel' answer')
    (alone : input.position < answer.reach →
      answer'.reach ≤ input.position ∧ answer'.succeeded = false) (nodes : List Node) :
    (t.orElse u).Keeps rate input (fuel + fuel') (answer'.after nodes answer.reach) where
  idle still := by
    rw [Answer.reach_after] at still
    exact Nat.add_le_add (first.idle (by omega)) (others.idle (by omega))
  busy far := by
    rw [Answer.reach_after] at far ⊢
    show _ ≤ _ + (t.orElse u).busy answer'.succeeded
    by_cases tried : input.position < answer.reach
    · obtain ⟨idle, fails'⟩ := alone tried
      have paid := first.busy tried
      have paid' := others.idle idle
      rw [fails] at paid
      have paid : (fuel : Int) + rate * input.position ≤ rate * answer.reach + t.lost := paid
      have charge : t.lost + u.idle ≤ (t.orElse u).busy false := Int.le_max_left _ _
      rw [fails', Nat.max_eq_left (by omega)]
      omega
    · have idle := first.idle (Nat.le_of_not_lt tried)
      have paid' := others.busy (by omega)
      have charge := busy_le_busy_orElse t u answer'.succeeded
      rw [Nat.max_eq_right (by omega)]
      omega

end Keeps

end Tariff

/-! ## Evaluations keep to their tariffs -/

variable {g : Grammar} {scope : Scope g} {look : Lookahead} {host : String} {task : Task}
    {input : Cursor}
  {cost : Cost} {answer : Answer} {rate : Nat} {of : Structure → Tariff}

/-- Every evaluation of a predictive task keeps to its tariff. -/
theorem Evaluates.keepsTo (fits : look.Fits g) (named : scope.Named) (priced : Priced scope rate of)
    (h : Evaluates g scope host task input cost answer) (within : task.Within scope)
    (predictive : task.predictive look = true) (steady : task.steady rate of = true) :
    (task.tariff rate of).Keeps rate input cost.fuel answer := by
  induction h with
  | matched _ _ => exact .consumed rfl
  | mismatched _ => exact .refused
  | sub known name _ ih =>
    obtain rfl := named _ known _ within.mem name
    exact ((ih (Task.within_inside known) rfl rfl).enclosed _).invoke
  | optional _ ih => exact (ih within predictive steady).forgiven.invoke
  | star _ ih => exact (ih within predictive steady).invoke
  | sequence _ ih =>
    rw [Task.predictive, Matcher.predictive_sequence] at predictive
    rw [Task.steady, Matcher.steady_sequence] at steady
    rw [Task.tariff, Matcher.tariff_sequence]
    exact (ih within.sequence predictive steady).invoke
  | choice _ ih =>
    rw [Task.predictive, Matcher.predictive_choice] at predictive
    rw [Task.steady, Matcher.steady_choice] at steady
    rw [Task.tariff, Matcher.tariff_choice]
    exact (ih within.choice predictive steady).invoke
  | malformed _ => exact .of_nothing
  | entered body _ ih =>
    have known := within _ (List.mem_singleton.2 rfl)
    exact (ih (within.body body) (fits.predictive body) (priced.steady _ known _ body)).mono
      (priced.le _ known _ body)
  | noPartLeft => exact .of_nothing
  | partHalted _ halted ih =>
    obtain ⟨_, predictivePart, _⟩ := Matcher.predictiveInTurn_cons_iff.1 predictive
    have keeps := ih within.part predictivePart (Matcher.steadyAll_cons_iff.1 steady).1
    exact keeps.part (Answer.succeeded_of_error halted) rfl rfl
  | partFailed _ fails ih =>
    obtain ⟨_, predictivePart, _⟩ := Matcher.predictiveInTurn_cons_iff.1 predictive
    have keeps := ih within.part predictivePart (Matcher.steadyAll_cons_iff.1 steady).1
    exact keeps.part fails.succeeded rfl rfl
  | @partSucceeded _ start rest part _ _ _ answer _ verdict first succeeds others ih ihOthers =>
    obtain ⟨distinct, predictivePart, predictiveParts⟩ :=
      Matcher.predictiveInTurn_cons_iff.1 predictive
    obtain ⟨steadyPart, steadyParts⟩ := Matcher.steadyAll_cons_iff.1 steady
    have moved := (first.covers (Cursor.le_refl _)).le_rest verdict succeeds
    have reached := (first.reaches (Cursor.le_refl _)).rest verdict succeeds
    refine (ih within.part predictivePart steadyPart).next succeeds.succeeded
      (ihOthers within.parts predictiveParts steadyParts) moved.2 reached (fun stays => ?_)
      (first.meet fits named within.part predictivePart succeeds others within.parts distinct) _
    exact first.nullable (Cursor.le_refl _) succeeds (Cursor.eq_of_position_eq moved.1.symm stays)
  | noBranchLeft => exact .of_nothing
  | branchHalted _ halted ih =>
    obtain ⟨_, _, predictiveBranch, _⟩ := Matcher.predictiveOfAny_cons_iff.1 predictive
    have keeps := ih within.branch predictiveBranch (Matcher.steadyAll_cons_iff.1 steady).1
    exact keeps.branch rfl (Answer.succeeded_of_error halted).symm
  | branchTaken _ _ ih =>
    obtain ⟨_, _, predictiveBranch, _⟩ := Matcher.predictiveOfAny_cons_iff.1 predictive
    have keeps := ih within.branch predictiveBranch (Matcher.steadyAll_cons_iff.1 steady).1
    exact keeps.branch rfl rfl
  | branchFailed first fails others ih ihOthers =>
    obtain ⟨_, _, predictiveBranch, predictiveBranches⟩ :=
      Matcher.predictiveOfAny_cons_iff.1 predictive
    obtain ⟨steadyBranch, steadyBranches⟩ := Matcher.steadyAll_cons_iff.1 steady
    exact (ih within.branch predictiveBranch steadyBranch).orElse fails.succeeded
      (ihOthers within.branches predictiveBranches steadyBranches)
      (fun tried => first.branches_idle fits named predictive within tried others) _
  | roundsOver _ => exact .of_nothing
  | roundHalted _ _ _ ih =>
    exact (ih within (Task.predictive_body predictive) (Task.steady_body steady)).round rfl
  | roundMalformed _ _ _ _ ih =>
    exact (ih within (Task.predictive_body predictive) (Task.steady_body steady)).round rfl
  | roundRefused _ _ _ _ ih =>
    exact (ih within (Task.predictive_body predictive) (Task.steady_body steady)).round rfl
  | roundStuck _ _ _ _ ih =>
    exact (ih within (Task.predictive_body predictive) (Task.steady_body steady)).round rfl
  | @roundGained _ _ rest body _ _ answer _ verdict _ first succeeds gained others ih ihOthers =>
    obtain ⟨distinct, predictiveBody⟩ := Bool.and_eq_true_iff.1 predictive
    obtain ⟨pays, steadyBody⟩ := Bool.and_eq_true_iff.1 steady
    have moved := (first.covers (Cursor.le_refl _)).le_rest verdict succeeds
    have reached := (first.reaches (Cursor.le_refl _)).rest verdict succeeds
    exact (ih within predictiveBody steadyBody).rounds succeeds.succeeded (of_decide_eq_true pays)
      (ihOthers within predictive steady) (Nat.lt_of_le_of_ne moved.2 (Ne.symm gained)) reached
      (first.meet fits named within predictiveBody succeeds others within distinct) _

end OrderedChoice
