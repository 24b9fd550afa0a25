import OrderedChoice.Proofs.Alignment
import OrderedChoice.Proofs.Metering

/-!
# Two runs side by side

A matcher that is run at two aligned sites does the same at both: it gives aligned outcomes, grows
aligned nodes and spends the same fuel (`runWithin_lockstep`). The runs part only where the left one
reaches beyond the end of the alignment, or where one of them is cut off for want of fuel or room
that the other has.
-/

namespace OrderedChoice

variable {τ υ : Type} {g : Grammar}

namespace Alignment

variable {A : Alignment}

/-! ## Results side by side -/

/-- Both runs, from `c` and from `d`, have done the same. -/
structure Together (A : Alignment) (base base' : OpenNode) (c : Context τ) (d : Context υ)
    (r : Result τ) (r' : Result υ) : Prop where
  outcome : A.Outcomes r.1 r'.1
  sites : A.Sites base base' r.2 r'.2
  spent : c.fuel + r'.2.context.fuel = d.fuel + r.2.context.fuel

/-- `c` has less fuel than the run from `d` spends, or less room. -/
def Short (c : Context τ) (d : Context υ) (r' : Result υ) : Prop :=
  c.fuel + r'.2.context.fuel < d.fuel ∨ c.room < d.room

/-- The runs need not have done the same, for the left one has left the alignment, or one of them
was cut off. -/
inductive Parted (A : Alignment) (c : Context τ) (d : Context υ) (r : Result τ)
    (r' : Result υ) : Prop where
  | beyond (far : A.stop < r.2.context.furthest)
  | left (cut : r.CutOff) (short : Short c d r')
  | right (cut : r'.CutOff) (short : Short d c r)

/-- Both runs have done the same, if they have not parted. -/
def Lockstep (A : Alignment) (base base' : OpenNode) (c : Context τ) (d : Context υ) (r : Result τ)
    (r' : Result υ) : Prop :=
  A.Together base base' c d r r' ∨ A.Parted c d r r'

section Results

variable {base base' : OpenNode} {c c₁ : Context τ} {d d₁ : Context υ} {part whole : Result τ}
  {part' whole' : Result υ} {site : Site τ} {site' : Site υ}

theorem Short.continues (h : Short c d part') (follows : part'.2.context.Follows whole'.2.context) :
    Short c d whole' := by
  have := follows.fuel
  exact h.imp_left fun less => by omega

/-- Once parted, the runs stay so. -/
theorem Parted.continues (h : A.Parted c d part part') (left : part.Continues whole)
    (right : part'.Continues whole') : A.Parted c d whole whole' := by
  cases h with
  | beyond far => exact .beyond (Nat.lt_of_lt_of_le far left.follows.furthest)
  | left cut short =>
    obtain ⟨halt, isHalt, isCutOff⟩ := cut
    exact .left ⟨halt, left.halts halt isHalt, isCutOff⟩ (short.continues right.follows)
  | right cut short =>
    obtain ⟨halt, isHalt, isCutOff⟩ := cut
    exact .right ⟨halt, right.halts halt isHalt, isCutOff⟩ (short.continues left.follows)

/-- What is short after the same spending was short before. -/
theorem Short.earlier (h : Short c₁ d₁ whole') (spent : c.fuel + d₁.fuel = d.fuel + c₁.fuel)
    (room : c₁.room = c.room) (room' : d₁.room = d.room) : Short c d whole' := by
  refine h.imp (fun less => ?_) fun less => ?_
  · omega
  · rwa [← room, ← room']

/-- Runs that begin where others have done the same. -/
theorem Lockstep.later (h : A.Lockstep base base' c₁ d₁ whole whole')
    (spent : c.fuel + d₁.fuel = d.fuel + c₁.fuel) (room : c₁.room = c.room)
    (room' : d₁.room = d.room) : A.Lockstep base base' c d whole whole' := by
  rcases h with together | parted
  · have := together.spent
    exact .inl ⟨together.outcome, together.sites, by omega⟩
  · refine .inr ?_
    cases parted with
    | beyond far => exact .beyond far
    | left cut short => exact .left cut (short.earlier spent room room')
    | right cut short => exact .right cut (short.earlier spent.symm room' room)

/-- Where both runs end. -/
theorem Lockstep.settled {outcome outcome' : Except Halt Verdict}
    (outcomes : A.Outcomes outcome outcome') (sites : A.Sites base base' site site') :
    A.Lockstep base base' site.context site'.context (outcome, site) (outcome', site') :=
  .inl ⟨outcomes, sites, Nat.add_comm _ _⟩

/-- Where parts go side by side and what is done next does, so do the wholes. -/
theorem Lockstep.andThen {next : Verdict → Site τ → Result τ} {next' : Verdict → Site υ → Result υ}
    (before : A.Sites base base' site site')
    (first : A.Lockstep site.node site'.node site.context site'.context part part')
    (follows : site.context.Follows part.2.context)
    (follows' : site'.context.Follows part'.2.context)
    (continues : part.Continues whole) (continues' : part'.Continues whole')
    (isWhole : whole = part.andThen next) (isWhole' : whole' = part'.andThen next')
    (rest : ∀ v w after after', part = (.ok v, after) → part' = (.ok w, after') → A.Verdicts v w →
      A.Sites base base' after after' →
      A.Lockstep base base' after.context after'.context (next v after) (next' w after')) :
    A.Lockstep base base' site.context site'.context whole whole' := by
  rcases first with together | parted
  · obtain ⟨outcome, after⟩ := part
    obtain ⟨outcome', after'⟩ := part'
    have sites := before.trans together.sites
    have outcomes : A.Outcomes outcome outcome' := together.outcome
    rw [isWhole, isWhole']
    cases outcomes with
    | halted halt => exact .inl ⟨.halted halt, sites, together.spent⟩
    | answered verdicts =>
      exact (rest _ _ after after' rfl rfl verdicts sites).later
        together.spent follows.room follows'.room
  · exact .inr (parted.continues continues continues')

end Results

/-! ## Combinators -/

/-- With at most this much fuel, whatever is run at aligned sites goes side by side. -/
structure Abreast (A : Alignment) (bound bound' : Nat) (run : Runner τ) (run' : Runner υ) :
    Prop where
  left : Metered run
  right : Metered run'
  lockstep : ∀ (m : Matcher) {a b : Cursor} {site : Site τ} {site' : Site υ}, A.Cursors a b →
    A.Sites site.node site'.node site site' → site.context.fuel ≤ bound →
    site'.context.fuel ≤ bound' →
    A.Lockstep site.node site'.node site.context site'.context (run m a site) (run' m b site')

section Combinators

variable {bound bound' : Nat} {run : Runner τ} {run' : Runner υ} {a b : Cursor}
    {base base' : OpenNode}
  {site : Site τ} {site' : Site υ}

/-! ### Sequences -/

theorem matchSequence_lockstep (abreast : A.Abreast bound bound' run run') (start : A.Cursors a b)
    (parts : List Matcher) :
    ∀ {rest rest' : Cursor} {site : Site τ} {site' : Site υ}, A.Cursors rest rest' →
      A.Sites base base' site site' → site.context.fuel ≤ bound → site'.context.fuel ≤ bound' →
      A.Lockstep base base' site.context site'.context
        (matchSequence run a base.size parts rest site)
        (matchSequence run' b base'.size parts rest' site') := by
  induction parts with
  | nil => exact fun place sites _ _ => .settled (.success start place) sites
  | cons part parts ih =>
    intro rest rest' site site' place sites enough enough'
    refine (abreast.lockstep part place sites.rebase enough enough').andThen sites
      (abreast.left.follows ..)
      (abreast.right.follows ..)
        (matchSequence_continues (matchSequence_follows abreast.left parts) rest site)
      (matchSequence_continues (matchSequence_follows abreast.right parts) rest' site')
      (matchSequence_cons ..) (matchSequence_cons ..) ?_
    intro v w after after' result result' verdicts sites
    rw [verdicts.failed]
    cases failed : v.failed with
    | true =>
      simp only [if_true]
      rw [verdicts.description, start.sub_eq place]
      exact .settled (.answered (.failure start _ _)) sites.truncate
    | false =>
      have spent := abreast.left.pays result
      have spent' := abreast.right.pays result'
      simp only [Bool.false_eq_true, if_false]
      exact ih verdicts.rest sites (by omega) (by omega)

/-! ### Repetitions -/

theorem matchStar_lockstep (abreast : A.Abreast bound bound' run run') (start : A.Cursors a b)
    (body : Matcher) (rounds : Nat) :
    ∀ {rounds' : Nat} {rest rest' : Cursor} {site : Site τ} {site' : Site υ},
      A.Cursors rest rest' → A.Sites base base' site site' → site.context.fuel ≤ bound →
      site'.context.fuel ≤ bound' → site.context.fuel ≤ rounds → site'.context.fuel ≤ rounds' →
      A.Lockstep base base' site.context site'.context
        (matchStar run body a base.size rounds rest site)
        (matchStar run' body b base'.size rounds' rest' site') := by
  induction rounds using Nat.strongRecOn with
  | ind rounds ih =>
    intro rounds' rest rest' site site' place sites enough enough' allowed allowed'
    cases more : rest.isAtEnd with
    | true =>
      have more' := place.isAtEnd_eq.trans more
      rw [matchStar_atEnd _ _ _ _ _ _ more, matchStar_atEnd _ _ _ _ _ _ more']
      exact .settled (.success start place) sites
    | false =>
      have more' := place.isAtEnd_eq.trans more
      -- each round takes some fuel, so what is left of it lasts for the rounds that are left
      refine (abreast.lockstep body place sites.rebase enough enough').andThen sites
        (abreast.left.follows ..)
        (abreast.right.follows ..)
          (matchStar_continues abreast.left allowed more fun v after result => ?_)
        (matchStar_continues abreast.right allowed' more' fun w after' result' => ?_)
        (matchStar_eq abreast.left allowed more) (matchStar_eq abreast.right allowed' more') ?_
      · have spent := abreast.left.pays result
        exact matchStar_follows abreast.left _ _ _ (by omega)
      · have spent := abreast.right.pays result'
        exact matchStar_follows abreast.right _ _ _ (by omega)
      · intro v w after after' result result' verdicts sites
        have spent := abreast.left.pays result
        have spent' := abreast.right.pays result'
        rw [verdicts.failed, verdicts.description, verdicts.progress]
        simp only [place.position_eq_iff verdicts.rest]
        cases failed : v.failed with
        | true =>
          simp only [if_true]
          split
          · exact .settled (.answered (.failure start _ _)) sites.truncate
          · exact .settled (.success start place) sites
        | false =>
          simp only [Bool.false_eq_true, if_false]
          split
          · rw [sites.rebase.host]
            exact .settled (.halted _) sites
          · exact ih (rounds - 1) (by omega) verdicts.rest sites (by omega) (by omega)
              (by omega) (by omega)

theorem forgive_lockstep {c : Context τ} {d : Context υ} {r : Result τ} {r' : Result υ}
    (h : A.Lockstep base base' c d r r') : A.Lockstep base base' c d (forgive r) (forgive r') := by
  obtain ⟨outcome, after⟩ := r
  obtain ⟨outcome', after'⟩ := r'
  rcases h with together | parted
  · have outcomes : A.Outcomes outcome outcome' := together.outcome
    cases outcomes with
    | halted halt => exact .inl ⟨.halted halt, together.sites, together.spent⟩
    | answered verdicts => exact .inl ⟨.answered verdicts.forgiven, together.sites, together.spent⟩
  · exact .inr (parted.continues (forgive_continues _) (forgive_continues _))

/-! ### Choices -/

variable [Tracer τ] [Tracer υ]

theorem Outcomes.choiceFailure (place : A.Cursors a b) (all : List Matcher) (description : String)
    (progress : Nat) : A.Outcomes (.ok (choiceFailure all a description progress))
      (.ok (OrderedChoice.choiceFailure all b description progress)) := by
  unfold OrderedChoice.choiceFailure
  split <;> exact .answered (.failure place _ _)

theorem matchChoice_lockstep (abreast : A.Abreast bound bound' run run') (place : A.Cursors a b)
    (all branches : List Matcher) :
    ∀ (description : String) (progress : Nat) {site : Site τ} {site' : Site υ},
      A.Sites base base' site site' → site.context.fuel ≤ bound → site'.context.fuel ≤ bound' →
      A.Lockstep base base' site.context site'.context
        (matchChoice run all a branches description progress site)
        (matchChoice run' all b branches description progress site') := by
  induction branches with
  | nil =>
    exact fun description progress _ _ sites _ _ =>
      .settled (.choiceFailure place all description progress) sites
  | cons branch branches ih =>
    intro description progress site site' sites enough enough'
    refine (abreast.lockstep branch place sites.rebase enough enough').andThen sites
      (abreast.left.follows ..)
      (abreast.right.follows ..)
      (matchChoice_continues (matchChoice_follows abreast.left all branches)
        description progress site)
      (matchChoice_continues (matchChoice_follows abreast.right all branches)
        description progress site')
      (matchChoice_andThen ..) (matchChoice_andThen ..) ?_
    intro v w after after' result result' verdicts sites
    rw [verdicts.failed]
    cases failed : v.failed with
    | true =>
      have spent := abreast.left.pays result
      have spent' := abreast.right.pays result'
      simp only [if_true]
      rw [verdicts.description, verdicts.progress]
      have enough : (after.record (.backtracked a.position)).context.fuel ≤ bound := by
        show after.context.fuel ≤ bound
        omega
      have enough' : (after'.record (.backtracked b.position)).context.fuel ≤ bound' := by
        show after'.context.fuel ≤ bound'
        omega
      exact (ih _ _ (sites.record _ _) enough enough').later (Nat.add_comm _ _) rfl rfl
    | false =>
      simp only [Bool.false_eq_true, if_false]
      exact .settled (.answered verdicts) sites

/-! ### Statements -/

theorem matchStatement_lockstep (kind : Kind) (place : A.Cursors a b)
    (sites : A.Sites base base' site site') :
    A.Lockstep base base' site.context site'.context (matchStatement kind a site)
      (matchStatement kind b site') := by
  have mismatch :
      ∀ found found' : Option Statement, A.Lockstep base base' site.context site'.context
        (.ok (.failure a ("Expected " ++ kind.expectedName) 0),
          site.record (.mismatched kind found a.position))
        (.ok (.failure b ("Expected " ++ kind.expectedName) 0),
          site'.record (.mismatched kind found' b.position)) :=
    fun _ _ => .inl ⟨.answered (.failure place _ _), sites.record _ _, Nat.add_comm _ _⟩
  have first := place.first?
  unfold matchStatement
  generalize found : a.first? = s at first
  generalize found' : b.first? = t at first
  cases first with
  | none => exact mismatch none none
  | @some s t alike =>
    simp only [← A.kind_eq alike]
    by_cases same : s.kind = kind
    · simp only [if_pos same]
      have more : a.isAtEnd = false := by
        rw [← Bool.not_eq_true, ← Cursor.first?_eq_none_iff, found]
        exact nofun
      by_cases near : a.position + 1 ≤ A.stop
      · exact .inl ⟨.success place (place.next more near),
          ((sites.record _ _).reach place).push (place.leaf alike), Nat.add_comm _ _⟩
      · have far : A.stop < max site.context.furthest (a.position + 1) := by omega
        exact .inr (.beyond far)
    · simp only [if_neg same]
      exact mismatch (some s) (some t)

/-! ### Structures -/

omit [Tracer τ] [Tracer υ] in
/-- Who is short inside a structure is short around it. -/
theorem Short.ascend {r' : Result υ} (h : Short site.descend.context site'.descend.context r') :
    Short site.context site'.context r' := by
  refine h.imp_right fun less => ?_
  unfold Context.room Site.descend at less
  unfold Context.room
  simp only at less
  omega

theorem Sites.leave {target : Structure} {r : Result τ} {r' : Result υ}
    (outcomes : A.Outcomes r.1 r'.1) (h : A.Sites base base' r.2 r'.2) :
    A.Sites base base' (r.leave target).2 (r'.leave target).2 := by
  obtain ⟨outcome, after⟩ := r
  obtain ⟨outcome', after'⟩ := r'
  have outcomes : A.Outcomes outcome outcome' := outcomes
  cases outcomes with
  | halted halt => exact h.ascend
  | answered verdicts => exact h.ascend.record _ _

/-- Runs that have gone side by side inside a structure still do so outside. -/
theorem Lockstep.leave {target : Structure} {r : Result τ} {r' : Result υ}
    (h : A.Lockstep base base' site.descend.context site'.descend.context r r') :
    A.Lockstep base base' site.context site'.context (r.leave target) (r'.leave target) := by
  rcases h with together | parted
  · refine .inl ⟨?_, together.sites.leave together.outcome, ?_⟩
    · rw [Result.outcome_leave, Result.outcome_leave]
      exact together.outcome
    · rw [Result.fuel_leave, Result.fuel_leave]
      exact together.spent
  · refine .inr ?_
    cases parted with
    | beyond far =>
      rw [← Result.furthest_leave target] at far
      exact .beyond far
    | left cut short =>
      unfold Result.CutOff at cut
      rw [← Result.outcome_leave target] at cut
      refine .left cut ?_
      unfold Short
      rw [Result.fuel_leave]
      exact short.ascend
    | right cut short =>
      unfold Result.CutOff at cut
      rw [← Result.outcome_leave target] at cut
      refine .right cut ?_
      unfold Short
      rw [Result.fuel_leave]
      exact short.ascend

theorem enterStructure_lockstep (abreast : A.Abreast bound bound' run run') (target : Structure)
    (place : A.Cursors a b) (sites : A.Sites site.node site'.node site site')
    (enough : site.context.fuel ≤ bound) (enough' : site'.context.fuel ≤ bound') :
    A.Lockstep site.node site'.node site.context site'.context (enterStructure run g target a site)
      (enterStructure run' g target b site') := by
  by_cases full : site.context.limits.recursion ≤ site.context.depth <;>
    by_cases full' : site'.context.limits.recursion ≤ site'.context.depth
  · rw [enterStructure_full _ _ _ _ full, enterStructure_full _ _ _ _ full']
    exact .settled (.halted _) sites
  · have less : site.context.room < site'.context.room := by
      unfold Context.room
      omega
    rw [enterStructure_full _ _ _ _ full]
    exact .inr (.left ⟨_, rfl, rfl⟩ (.inr less))
  · have less : site'.context.room < site.context.room := by
      unfold Context.room
      omega
    rw [enterStructure_full run' _ _ _ full']
    exact .inr (.right ⟨_, rfl, rfl⟩ (.inr less))
  · have inside :=
      sites.descend.record (.entered target.name a.position) (.entered target.name b.position)
    cases body : g.body target with
    | error fault =>
      rw [enterStructure_of_malformed _ _ full body, enterStructure_of_malformed _ _ full' body]
      exact .inl ⟨.halted _, inside.ascend, Nat.add_comm _ _⟩
    | ok m =>
      rw [enterStructure_of_body _ _ full body, enterStructure_of_body _ _ full' body]
      have first := abreast.lockstep m place inside.rebase enough enough'
      exact (first.later (c := site.descend.context) (d := site'.descend.context)
        (Nat.add_comm _ _) rfl rfl).leave

/-- A remembered result is replayed on both sides, or on none. -/
theorem replay_lockstep {target : Structure} {memo memo' : Memo}
    (sites : A.Sites base base' site site') (memos : A.Memos memo memo')
    (found : site.context.remembered? target a.position = some memo)
    (found' : site'.context.remembered? target b.position = some memo') :
    A.Lockstep base base' site.context site'.context (matchSub run g target a site)
      (matchSub run' g target b site') := by
  obtain ⟨verdict, node⟩ := memo
  obtain ⟨verdict', node'⟩ := memo'
  obtain ⟨verdicts, nodes⟩ := memos
  have replayed :=
    sites.record (.replayed target.name a.position) (.replayed target.name b.position)
  unfold matchSub
  simp only [found, found']
  cases nodes with
  | none => exact .inl ⟨.answered verdicts, replayed, Nat.add_comm _ _⟩
  | some nodes => exact .inl ⟨.answered verdicts, replayed.push nodes, Nat.add_comm _ _⟩

theorem matchSub_lockstep (abreast : A.Abreast bound bound' run run') (target : Structure)
    (place : A.Cursors a b) (sites : A.Sites base base' site site')
    (enough : site.context.fuel ≤ bound) (enough' : site'.context.fuel ≤ bound') :
    A.Lockstep base base' site.context site'.context (matchSub run g target a site)
      (matchSub run' g target b site') := by
  have both := sites.context.remembered? place target
  generalize found : site.context.remembered? target a.position = memo at both
  generalize found' : site'.context.remembered? target b.position = memo' at both
  cases both with
  | some memos => exact replay_lockstep sites memos found found'
  | none =>
    have continues := matchSub_continues run g found
    have continues' := matchSub_continues run' g found'
    have entered := enterStructure_lockstep (g := g) abreast target place
      (sites.enter target).rebase enough enough'
    unfold matchSub at *
    simp only [found, found'] at *
    generalize enterStructure run g target a ⟨site.context, .empty target⟩ = r
      at continues entered ⊢
    generalize enterStructure run' g target b ⟨site'.context, .empty target⟩ = r'
      at continues' entered ⊢
    rcases entered with together | parted
    · obtain ⟨outcome, after⟩ := r
      obtain ⟨outcome', after'⟩ := r'
      have outcomes : A.Outcomes outcome outcome' := together.outcome
      cases outcomes with
      | halted halt =>
        exact .inl ⟨.halted halt, sites.withContext together.sites.context, together.spent⟩
      | @answered v w verdicts =>
        have refused := verdicts.refuseEmpty target
        have spent : ∀ memo memo' : Memo,
            site.context.fuel + (after'.context.remember target b.position memo').fuel
              = site'.context.fuel + (after.context.remember target a.position memo).fuel := by
          intro memo memo'
          rw [Context.fuel_remember, Context.fuel_remember]
          exact together.spent
        simp only [refused.failed]
        cases failed : (v.refuseEmpty target).failed with
        | true =>
          have memos : A.Memos ⟨v.refuseEmpty target, none⟩ ⟨w.refuseEmpty target, none⟩ :=
            ⟨refused, .none⟩
          have contexts := together.sites.context.remember place target memos
          exact .inl ⟨.answered refused, sites.withContext contexts, spent _ _⟩
        | false =>
          have node := together.sites.toNode
          have memos : A.Memos ⟨v.refuseEmpty target, some after.node.toNode⟩
              ⟨w.refuseEmpty target, some after'.node.toNode⟩ := ⟨refused, .some node⟩
          have contexts := together.sites.context.remember place target memos
          exact .inl ⟨.answered refused, (sites.withContext contexts).push node, spent _ _⟩
    · exact .inr (parted.continues continues continues')

end Combinators

/-! ## Matchers -/

theorem runInside_lockstep [Tracer τ] [Tracer υ] {bound bound' : Nat}
    {run : Runner τ} {run' : Runner υ} (abreast : A.Abreast bound bound' run run')
    (m : Matcher) {a b : Cursor} {site : Site τ} {site' : Site υ}
    (place : A.Cursors a b) (sites : A.Sites site.node site'.node site site')
    (enough : site.context.fuel ≤ bound) (enough' : site'.context.fuel ≤ bound') :
    A.Lockstep site.node site'.node site.context site'.context
      (m.runInside run g site.context.fuel a site)
      (m.runInside run' g site'.context.fuel b site') := by
  cases m with
  | statement kind => exact matchStatement_lockstep kind place sites
  | sub target => exact matchSub_lockstep abreast target place sites enough enough'
  | optional body => exact forgive_lockstep (abreast.lockstep body place sites enough enough')
  | star body =>
    exact matchStar_lockstep abreast place body _ place sites enough enough' (Nat.le_refl _)
      (Nat.le_refl _)
  | sequence a b rest => exact matchSequence_lockstep abreast place _ place sites enough enough'
  | choice a b rest => exact matchChoice_lockstep abreast place _ _ "" 0 sites enough enough'

/-- A run without fuel has parted from every run with some. -/
theorem lockstep_of_fed [Tracer τ] [Tracer υ] {bound bound' : Nat} (m : Matcher) {a b : Cursor}
    {site : Site τ} {site' : Site υ} (sites : A.Sites site.node site'.node site site')
    (enough : site.context.fuel ≤ bound) (enough' : site'.context.fuel ≤ bound')
    (fed : 0 < site.context.fuel → 0 < site'.context.fuel →
      A.Lockstep site.node site'.node site.context
      site'.context (runWithin g bound m a site) (runWithin g bound' m b site')) :
    A.Lockstep site.node site'.node site.context site'.context (runWithin g bound m a site)
      (runWithin g bound' m b site') := by
  cases Nat.eq_zero_or_pos site.context.fuel with
  | inl starved =>
    cases Nat.eq_zero_or_pos site'.context.fuel with
    | inl starved' =>
      rw [runWithin_starved _ _ _ starved, runWithin_starved _ _ _ starved']
      exact .settled (.halted _) sites
    | inr more' =>
      have less := runWithin_fuel_lt (g := g) m b more' enough'
      rw [runWithin_starved _ _ _ starved]
      exact .inr (.left ⟨_, rfl, rfl⟩ (.inl (by omega)))
  | inr more =>
    cases Nat.eq_zero_or_pos site'.context.fuel with
    | inl starved' =>
      have less := runWithin_fuel_lt (g := g) m a more enough
      rw [runWithin_starved bound' _ _ starved']
      exact .inr (.right ⟨_, rfl, rfl⟩ (.inl (by omega)))
    | inr more' => exact fed more more'

theorem runWithin_lockstep [Tracer τ] [Tracer υ] (A : Alignment) (g : Grammar) (bound : Nat) :
    ∀ bound' : Nat,
    A.Abreast bound bound' (runWithin g bound : Runner τ) (runWithin g bound' : Runner υ) := by
  induction bound with
  | zero =>
    refine fun bound' => ⟨runWithin_metered 0, runWithin_metered bound', ?_⟩
    intro m a b site site' place sites enough enough'
    exact lockstep_of_fed m sites enough enough' fun more _ => by omega
  | succ bound ih =>
    refine fun bound' => ⟨runWithin_metered (bound + 1), runWithin_metered bound', ?_⟩
    intro m a b site site' place sites enough enough'
    refine lockstep_of_fed m sites enough enough' fun more more' => ?_
    obtain ⟨bound', rfl⟩ := Nat.exists_eq_succ_of_ne_zero (show bound' ≠ 0 by omega)
    obtain ⟨fuel, fed⟩ := Nat.exists_eq_succ_of_ne_zero (Nat.ne_of_gt more)
    obtain ⟨fuel', fed'⟩ := Nat.exists_eq_succ_of_ne_zero (Nat.ne_of_gt more')
    have paid := (sites.withFuel fuel fuel').rebase
    have inside := runInside_lockstep (g := g) (ih bound') m place paid (show fuel ≤ bound by omega)
      (show fuel' ≤ bound' by omega)
    rw [runWithin_succ fed, runWithin_succ fed']
    refine inside.later ?_ rfl rfl
    show site.context.fuel + fuel' = site'.context.fuel + fuel
    omega

theorem run_lockstep [Tracer τ] [Tracer υ] (A : Alignment) (g : Grammar) (bound bound' : Nat) :
    A.Abreast bound bound' (run g : Runner τ) (run g : Runner υ) where
  left := run_metered g
  right := run_metered g
  lockstep m _ _ _ _ place sites _ _ :=
    (A.runWithin_lockstep g _ _).lockstep m place sites (Nat.le_refl _) (Nat.le_refl _)

end Alignment

end OrderedChoice
