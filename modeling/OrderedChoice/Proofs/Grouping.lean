import OrderedChoice.Proofs.Flattening
import OrderedChoice.Proofs.Growth
import OrderedChoice.Proofs.Lockstep

/-!
# Groups in sequences

A group of parts in a sequence is not seen in what the sequence matches, nor in its notation
(`Regrouped.ebnf_eq`), but it hides what was consumed before a part of the group failed. Only
repetitions ask for that. So a group makes no difference where no repetition is around it
(`run_regrouped`), and can make one inside a repetition (`run_grouped_star_ne`).
-/

namespace OrderedChoice

variable {τ υ : Type} {g : Grammar}

/-! ## Groups and their notation -/

/-- A group of parts stands somewhere in a sequence of the first matcher, where in the second one
stand the parts themselves. No repetition is around it. -/
inductive Regrouped : Matcher → Matcher → Prop where
  | group (a b c : Matcher) (as cs : List Matcher) :
      Regrouped (.sequence (.sequence a b as) c cs) (.sequence a b (as ++ c :: cs))
  | optional {m n : Matcher} (inner : Regrouped m n) : Regrouped (.optional m) (.optional n)
  | sequence {m n p q : Matcher} {before after : List Matcher} (inner : Regrouped m n)
      (left : Matcher.ofSequence (before ++ m :: after) = .ok p)
      (right : Matcher.ofSequence (before ++ n :: after) = .ok q) : Regrouped p q
  | choice {m n p q : Matcher} {before after : List Matcher} (inner : Regrouped m n)
      (left : Matcher.ofChoice (before ++ m :: after) = .ok p)
      (right : Matcher.ofChoice (before ++ n :: after) = .ok q) : Regrouped p q

theorem Matcher.parts_flatten_ofSequence {ms : List Matcher} {m : Matcher}
    (h : ofSequence ms = .ok m) :
    m.flatten.parts .sequence = ms.flatMap fun n => n.flatten.parts .sequence := by
  obtain ⟨a, b, rest, rfl, rfl⟩ := ofSequence_eq_ok_iff.1 h
  exact parts_flatten_sequence a b rest

theorem Matcher.parts_flatten_ofChoice {ms : List Matcher} {m : Matcher} (h : ofChoice ms = .ok m) :
    m.flatten.parts .choice = ms.flatMap fun n => n.flatten.parts .choice := by
  obtain ⟨a, b, rest, rfl, rfl⟩ := ofChoice_eq_ok_iff.1 h
  exact parts_flatten_choice a b rest

/-- Matchers that differ in groups of sequences only are flat alike. -/
theorem Regrouped.flatten_eq {m n : Matcher} (h : Regrouped m n) : m.flatten = n.flatten := by
  induction h with
  | group a b c as cs =>
    apply Matcher.eq_of_parts_eq .sequence
    simp only [Matcher.parts_flatten_sequence, List.flatMap_cons, List.flatMap_append,
      List.append_assoc]
  | optional _ ih => rw [Matcher.flatten, Matcher.flatten, ih]
  | sequence _ left right ih =>
    apply Matcher.eq_of_parts_eq .sequence
    rw [Matcher.parts_flatten_ofSequence left, Matcher.parts_flatten_ofSequence right]
    simp only [List.flatMap_append, List.flatMap_cons, ih]
  | choice _ left right ih =>
    apply Matcher.eq_of_parts_eq .choice
    rw [Matcher.parts_flatten_ofChoice left, Matcher.parts_flatten_ofChoice right]
    simp only [List.flatMap_append, List.flatMap_cons, ih]

/-- The notation of a matcher does not show groups in sequences. -/
theorem Regrouped.ebnf_eq {m n : Matcher} (h : Regrouped m n) : m.ebnf = n.ebnf := by
  rw [← Matcher.ebnf_flatten m, h.flatten_eq, Matcher.ebnf_flatten]

/-! ## Agreement -/

theorem Result.andThen_andThen (result : Result τ) (next last : Verdict → Site τ → Result τ) :
    (result.andThen next).andThen last = result.andThen fun verdict after =>
      (next verdict after).andThen last := by
  obtain ⟨_ | _, _⟩ := result <;> rfl

theorem Site.truncate_truncate (site : Site τ) (size : Nat) :
    (site.truncate size).truncate size = site.truncate size := by
  unfold Site.truncate OpenNode.truncate
  simp

theorem Result.Continues.trans {a b c : Result τ} (hab : a.Continues b) (hbc : b.Continues c) :
    a.Continues c :=
  ⟨hab.follows.trans hbc.follows, fun halt halted => hbc.halts halt (hab.halts halt halted)⟩

namespace Alignment

variable {A : Alignment}

/-- The verdicts agree on what was matched, if not on what a failure says. -/
structure Agreement (A : Alignment) (v w : Verdict) : Prop where
  matched : List.Forall₂ A.alike v.matched.toList w.matched.toList
  rest : A.Cursors v.rest w.rest
  failed : w.failed = v.failed

theorem Verdicts.agreement {v w : Verdict} (h : A.Verdicts v w) : A.Agreement v w :=
  ⟨h.matched, h.rest, h.failed⟩

theorem Agreement.failure {a b : Cursor} (h : A.Cursors a b) (description description' : String)
    (progress progress' : Nat) :
    A.Agreement (.failure a description progress) (.failure b description' progress') :=
  ⟨.nil, h, rfl⟩

/-- Both runs agree, or one of them has no verdict, or the left one has left the alignment. -/
inductive Agree (A : Alignment) (base base' : OpenNode) (r : Result τ) (r' : Result υ) : Prop where
  | beyond (far : A.stop < r.2.context.furthest)
  | left {halt : Halt} (halted : r.1 = .error halt)
  | right {halt : Halt} (halted : r'.1 = .error halt)
  | answered {v w : Verdict} (left : r.1 = .ok v) (right : r'.1 = .ok w)
      (agreement : A.Agreement v w)
      (sites : A.Sites base base' r.2 r'.2)

section Results

variable {base base' : OpenNode} {c : Context τ} {d : Context υ} {part whole : Result τ}
  {part' whole' : Result υ} {site : Site τ} {site' : Site υ}

theorem Lockstep.agree (h : A.Lockstep base base' c d part part') :
    A.Agree base base' part part' := by
  obtain ⟨outcome, after⟩ := part
  obtain ⟨outcome', after'⟩ := part'
  rcases h with together | parted
  · have outcomes : A.Outcomes outcome outcome' := together.outcome
    cases outcomes with
    | halted halt => exact .left rfl
    | answered verdicts => exact .answered rfl rfl verdicts.agreement together.sites
  · cases parted with
    | beyond far => exact .beyond far
    | left cut _ =>
      obtain ⟨halt, halted, _⟩ := cut
      exact .left halted
    | right cut _ =>
      obtain ⟨halt, halted, _⟩ := cut
      exact .right halted

/-- Where parts agree and what is done next does, so do the wholes. -/
theorem Agree.andThen {next : Verdict → Site τ → Result τ} {next' : Verdict → Site υ → Result υ}
    (before : A.Sites base base' site site') (first : A.Agree site.node site'.node part part')
    (continues : part.Continues whole) (continues' : part'.Continues whole')
    (isWhole : whole = part.andThen next) (isWhole' : whole' = part'.andThen next')
    (rest : ∀ v w after after', part = (.ok v, after) → part' = (.ok w, after') → A.Agreement v w →
      A.Sites base base' after after' → A.Agree base base' (next v after) (next' w after')) :
    A.Agree base base' whole whole' := by
  obtain ⟨outcome, after⟩ := part
  obtain ⟨outcome', after'⟩ := part'
  cases first with
  | beyond far => exact .beyond (Nat.lt_of_lt_of_le far continues.follows.furthest)
  | left halted => exact .left (continues.halts _ halted)
  | right halted => exact .right (continues'.halts _ halted)
  | @answered v w left right agreement sites =>
    obtain rfl : outcome = .ok v := left
    obtain rfl : outcome' = .ok w := right
    rw [isWhole, isWhole']
    exact rest v w after after' rfl rfl agreement (before.trans sites)

end Results

/-- With at most this much fuel, the matchers agree at aligned sites. -/
def Interchangeable (A : Alignment) (bound bound' : Nat) (run : Runner τ) (run' : Runner υ)
    (m n : Matcher) : Prop :=
  ∀ {a b : Cursor} {site : Site τ} {site' : Site υ}, A.Cursors a b →
  A.Sites site.node site'.node site site' → site.context.fuel ≤ bound →
  site'.context.fuel ≤ bound' → A.Agree site.node site'.node (run m a site) (run' n b site')

section Combinators

variable {bound bound' : Nat} {run : Runner τ} {run' : Runner υ} {a b : Cursor}
    {base base' : OpenNode}
  {m n : Matcher}

theorem Abreast.interchangeable (abreast : A.Abreast bound bound' run run') (m : Matcher) :
    A.Interchangeable bound bound' run run' m m :=
  fun place sites enough enough' => (abreast.lockstep m place sites enough enough').agree

/-! ### Sequences -/

/-- With at most this much fuel, the parts agree where they are matched in turn. -/
def InTurn (A : Alignment) (bound bound' : Nat) (run : Runner τ) (run' : Runner υ) (a b : Cursor)
    (base base' : OpenNode) (ms ns : List Matcher) : Prop :=
  ∀ {rest rest' : Cursor} {site : Site τ} {site' : Site υ}, A.Cursors rest rest' →
  A.Sites base base' site site' → site.context.fuel ≤ bound → site'.context.fuel ≤ bound' →
  A.Agree base base' (matchSequence run a base.size ms rest site)
    (matchSequence run' b base'.size ns rest' site')

theorem InTurn.cons (abreast : A.Abreast bound bound' run run') (start : A.Cursors a b)
    (first : A.Interchangeable bound bound' run run' m n) {ms ns : List Matcher}
    (others : A.InTurn bound bound' run run' a b base base' ms ns) :
    A.InTurn bound bound' run run' a b base base' (m :: ms) (n :: ns) := by
  intro rest rest' site site' place sites enough enough'
  refine (first place sites.rebase enough enough').andThen sites
    (matchSequence_continues (matchSequence_follows abreast.left ms) rest site)
    (matchSequence_continues (matchSequence_follows abreast.right ns) rest' site')
    (matchSequence_cons ..) (matchSequence_cons ..) ?_
  intro v w after after' result result' agreement sites
  rw [agreement.failed]
  cases failed : v.failed with
  | true => exact .answered rfl rfl (.failure start _ _ _ _) sites.truncate
  | false =>
    have spent := abreast.left.pays result
    have spent' := abreast.right.pays result'
    exact others agreement.rest sites (by omega) (by omega)

theorem InTurn.append (abreast : A.Abreast bound bound' run run') (start : A.Cursors a b)
    {ms ns : List Matcher} (others : A.InTurn bound bound' run run' a b base base' ms ns)
    (before : List Matcher) :
    A.InTurn bound bound' run run' a b base base' (before ++ ms) (before ++ ns) := by
  induction before with
  | nil => exact others
  | cons part before ih => exact InTurn.cons abreast start (abreast.interchangeable part) ih

theorem Abreast.inTurn (abreast : A.Abreast bound bound' run run') (start : A.Cursors a b)
    (ms : List Matcher) : A.InTurn bound bound' run run' a b base base' ms ms :=
  fun place sites enough enough' =>
    (matchSequence_lockstep abreast start ms place sites enough enough').agree

/-- A group of parts and what comes after it agree with these parts and what comes after them. A
part of the group that fails fails the group, and with it the whole. -/
theorem group_agree {inner : Nat} {runInner : Runner τ}
    (abreastInner : A.Abreast inner bound' runInner run')
    (abreast : A.Abreast bound bound' run run') (start : A.Cursors a b) (progress : Nat)
    (qs : List Matcher) (ps : List Matcher) :
    ∀ {rest rest' : Cursor} {site : Site τ} {site' : Site υ}, A.Cursors rest rest' →
      A.Sites base base' site site' → site.context.fuel ≤ inner → site.context.fuel ≤ bound →
      site'.context.fuel ≤ bound' →
      A.Agree base base'
        (Result.andThen (matchSequence runInner a base.size ps rest site) fun verdict after =>
          if verdict.failed then
          (.ok (.failure a verdict.description progress), after.truncate base.size)
          else matchSequence run a base.size qs verdict.rest after)
        (matchSequence run' b base'.size (ps ++ qs) rest' site') := by
  induction ps with
  | nil =>
    intro rest rest' site site' place sites _ enough enough'
    rw [matchSequence]
    cases success : Verdict.success a rest with
    | error halt => exact .left rfl
    | ok verdict =>
      obtain ⟨matched, _, rfl⟩ := Verdict.success_eq_ok_iff.1 success
      exact abreast.inTurn start qs place sites enough enough'
  | cons p ps ih =>
    intro rest rest' site site' place sites enoughInner enough enough'
    have first := (abreastInner.interchangeable p) place sites.rebase enoughInner enough'
    refine first.andThen sites
      ((matchSequence_continues (matchSequence_follows abreastInner.left ps) rest site).trans
        (Result.continues_andThen fun verdict after _ => ?_))
      (matchSequence_continues (matchSequence_follows abreast.right (ps ++ qs)) rest' site')
      ((congrArg (Result.andThen · _) (matchSequence_cons ..)).trans (Result.andThen_andThen ..))
      (matchSequence_cons ..) ?_
    · split
      · exact .refl _
      · exact matchSequence_follows abreast.left _ _ _
    · intro v w after after' result result' agreement sites
      rw [agreement.failed]
      cases failed : v.failed with
      | true =>
        have dropped : A.Sites base base' ((after.truncate base.size).truncate base.size)
            (after'.truncate base'.size) := by
          rw [Site.truncate_truncate]
          exact sites.truncate
        exact .answered rfl rfl (.failure start _ _ _ _) dropped
      | false =>
        have spent := abreastInner.left.pays result
        have spent' := abreast.right.pays result'
        exact ih agreement.rest sites (by omega) (by omega) (by omega)

theorem Agree.forgive {r : Result τ} {r' : Result υ} (h : A.Agree base base' r r') :
    A.Agree base base' (forgive r) (OrderedChoice.forgive r') := by
  cases h with
  | beyond far => exact .beyond (Nat.lt_of_lt_of_le far (forgive_continues r).follows.furthest)
  | left halted => exact .left ((forgive_continues r).halts _ halted)
  | right halted => exact .right ((forgive_continues r').halts _ halted)
  | @answered v w left right agreement sites =>
    obtain ⟨outcome, after⟩ := r
    obtain ⟨outcome', after'⟩ := r'
    obtain rfl : outcome = .ok v := left
    obtain rfl : outcome' = .ok w := right
    exact .answered rfl rfl ⟨agreement.matched, agreement.rest, rfl⟩ sites

/-! ### Choices -/

variable [Tracer τ] [Tracer υ] {all all' : List Matcher}

/-- With at most this much fuel, the branches agree where the first that succeeds is taken, whatever
is known of failures before them. -/
def FirstOf (A : Alignment) (bound bound' : Nat) (run : Runner τ) (run' : Runner υ) (a b : Cursor)
    (base base' : OpenNode) (all all' ms ns : List Matcher) : Prop :=
  ∀ (description description' : String) (progress progress' : Nat) {site : Site τ} {site' : Site υ},
    A.Sites base base' site site' → site.context.fuel ≤ bound → site'.context.fuel ≤ bound' →
    A.Agree base base' (matchChoice run all a ms description progress site)
      (matchChoice run' all' b ns description' progress' site')

theorem FirstOf.nil (place : A.Cursors a b) (all all' : List Matcher) :
    A.FirstOf bound bound' run run' a b base base' all all' [] [] := by
  intro description description' progress progress' site site' sites _ _
  have agreement : A.Agreement (choiceFailure all a description progress)
      (choiceFailure all' b description' progress') := by
    unfold choiceFailure
    split <;> split <;> exact .failure place _ _ _ _
  exact .answered rfl rfl agreement sites

theorem FirstOf.cons (abreast : A.Abreast bound bound' run run') (place : A.Cursors a b)
    (first : A.Interchangeable bound bound' run run' m n) {ms ns : List Matcher}
    (others : A.FirstOf bound bound' run run' a b base base' all all' ms ns) :
    A.FirstOf bound bound' run run' a b base base' all all' (m :: ms) (n :: ns) := by
  intro description description' progress progress' site site' sites enough enough'
  refine (first place sites.rebase enough enough').andThen sites
    (matchChoice_continues (matchChoice_follows abreast.left all ms) description progress site)
    (matchChoice_continues (matchChoice_follows abreast.right all' ns) description' progress' site')
    (matchChoice_andThen ..) (matchChoice_andThen ..) ?_
  intro v w after after' result result' agreement sites
  rw [agreement.failed]
  cases failed : v.failed with
  | true =>
    have spent := abreast.left.pays result
    have spent' := abreast.right.pays result'
    have enough : (after.record (.backtracked a.position)).context.fuel ≤ bound := by
      show after.context.fuel ≤ bound
      omega
    have enough' : (after'.record (.backtracked b.position)).context.fuel ≤ bound' := by
      show after'.context.fuel ≤ bound'
      omega
    exact others _ _ _ _ (sites.record _ _) enough enough'
  | false => exact .answered rfl rfl agreement sites

theorem FirstOf.append (abreast : A.Abreast bound bound' run run') (place : A.Cursors a b)
    {ms ns : List Matcher} (others : A.FirstOf bound bound' run run' a b base base' all all' ms ns)
    (before : List Matcher) :
    A.FirstOf bound bound' run run' a b base base' all all' (before ++ ms) (before ++ ns) := by
  induction before with
  | nil => exact others
  | cons branch before ih => exact FirstOf.cons abreast place (abreast.interchangeable branch) ih

theorem Abreast.firstOf (abreast : A.Abreast bound bound' run run') (place : A.Cursors a b)
    (ms : List Matcher) : A.FirstOf bound bound' run run' a b base base' all all' ms ms := by
  have whole : A.FirstOf bound bound' run run' a b base base' all all' (ms ++ []) (ms ++ []) :=
    FirstOf.append abreast place (FirstOf.nil place all all') ms
  rwa [List.append_nil] at whole

end Combinators

/-! ## Matchers -/

variable [Tracer τ] [Tracer υ]

/-- Matchers agree if they do once their invocations are paid for. -/
theorem interchangeable_of_inside {bound bound' : Nat} {m n : Matcher}
    (inside : ∀ {k k' : Nat} {a b : Cursor} {site : Site τ} {site' : Site υ}, bound = k + 1 →
      bound' = k' + 1 →
      A.Cursors a b →
      A.Sites site.node site'.node site site' → site.context.fuel ≤ k → site'.context.fuel ≤ k' →
      A.Agree site.node site'.node (m.runInside (runWithin g k) g site.context.fuel a site)
        (n.runInside (runWithin g k') g site'.context.fuel b site')) :
    A.Interchangeable bound bound' (runWithin g bound : Runner τ)
      (runWithin g bound' : Runner υ) m n := by
  intro a b site site' place sites enough enough'
  cases fed : site.context.fuel with
  | zero =>
    rw [runWithin_starved _ _ _ fed]
    exact .left rfl
  | succ fuel =>
    cases fed' : site'.context.fuel with
    | zero =>
      rw [runWithin_starved bound' _ _ fed']
      exact .right rfl
    | succ fuel' =>
      obtain ⟨k, rfl⟩ := Nat.exists_eq_succ_of_ne_zero (show bound ≠ 0 by omega)
      obtain ⟨k', rfl⟩ := Nat.exists_eq_succ_of_ne_zero (show bound' ≠ 0 by omega)
      rw [runWithin_succ fed, runWithin_succ fed']
      exact inside rfl rfl place (sites.withFuel fuel fuel').rebase (show fuel ≤ k by omega)
        (show fuel' ≤ k' by omega)

theorem group_interchangeable (A : Alignment) (g : Grammar) (x y z : Matcher) (xs zs : List Matcher)
    (bound bound' : Nat) : A.Interchangeable bound bound' (runWithin g bound : Runner τ)
      (runWithin g bound' : Runner υ) (.sequence (.sequence x y xs) z zs)
      (.sequence x y (xs ++ z :: zs)) := by
  refine interchangeable_of_inside fun {k k' a b site site'} _ _ place sites enough enough' => ?_
  show A.Agree site.node site'.node
    (matchSequence (runWithin g k) a site.node.size (.sequence x y xs :: z :: zs) a site)
    (matchSequence (runWithin g k') b site'.node.size (x :: y :: (xs ++ z :: zs)) b site')
  rw [matchSequence_cons]
  cases fed : site.context.fuel with
  | zero =>
    rw [runWithin_starved _ _ _ fed]
    exact .left rfl
  | succ fuel =>
    obtain ⟨inner, rfl⟩ := Nat.exists_eq_succ_of_ne_zero (show k ≠ 0 by omega)
    have paid := sites.withFuel fuel site'.context.fuel
    rw [runWithin_succ fed]
    exact group_agree (A.runWithin_lockstep g inner k')
      (A.runWithin_lockstep g (inner + 1) k') place _ (z :: zs)
      (x :: y :: xs) place paid (show fuel ≤ inner by omega)
        (show fuel ≤ inner + 1 by omega) enough'

theorem runWithin_regrouped (A : Alignment) (g : Grammar) {m n : Matcher} (h : Regrouped m n) :
    ∀ bound bound' : Nat, A.Interchangeable bound bound' (runWithin g bound : Runner τ)
      (runWithin g bound' : Runner υ) m n := by
  induction h with
  | group x y z xs zs =>
    exact fun bound bound' => group_interchangeable A g x y z xs zs bound bound'
  | optional _ ih =>
    intro bound bound'
    refine interchangeable_of_inside fun _ _ place sites enough enough' => ?_
    exact (ih _ _ place sites enough enough').forgive
  | @sequence m n p q before after _ left right ih =>
    intro bound bound'
    obtain ⟨x, y, xs, isLeft, rfl⟩ := Matcher.ofSequence_eq_ok_iff.1 left
    obtain ⟨x', y', xs', isRight, rfl⟩ := Matcher.ofSequence_eq_ok_iff.1 right
    refine interchangeable_of_inside fun {k k' a b site site'} _ _ place sites enough enough' => ?_
    have abreast := A.runWithin_lockstep (τ := τ) (υ := υ) g k k'
    have agree :
      A.InTurn k k' (runWithin g k : Runner τ) (runWithin g k' : Runner υ) a b site.node site'.node
        (before ++ m :: after) (before ++ n :: after) :=
      InTurn.append abreast place
        (InTurn.cons abreast place (ih k k') (abreast.inTurn place after)) before
    rw [isLeft, isRight] at agree
    exact agree place sites enough enough'
  | @choice m n p q before after _ left right ih =>
    intro bound bound'
    obtain ⟨x, y, xs, isLeft, rfl⟩ := Matcher.ofChoice_eq_ok_iff.1 left
    obtain ⟨x', y', xs', isRight, rfl⟩ := Matcher.ofChoice_eq_ok_iff.1 right
    refine interchangeable_of_inside fun {k k' a b site site'} _ _ place sites enough enough' => ?_
    have abreast := A.runWithin_lockstep (τ := τ) (υ := υ) g k k'
    have agree :
      A.FirstOf k k' (runWithin g k : Runner τ) (runWithin g k' : Runner υ) a b site.node site'.node
        (x :: y :: xs) (x' :: y' :: xs') (before ++ m :: after) (before ++ n :: after) :=
      FirstOf.append abreast place
        (FirstOf.cons abreast place (ih k k') (abreast.firstOf place after)) before
    rw [isLeft, isRight] at agree
    exact agree "" "" 0 0 sites enough enough'

end Alignment

variable [Tracer τ] [Tracer υ]

/-- A group of parts makes no difference where no repetition is around it: if both matchers answer,
both succeed or both fail, with the same statements consumed and the same nodes grown. -/
theorem run_regrouped {m n : Matcher} (regrouped : Regrouped m n) {limits limits' : Limits}
    (memoize : limits'.memoize = limits.memoize) {tracer : τ} {tracer' : υ}
    {input : Cursor} {host : OpenNode} {v w : Verdict} {after : Site τ} {after' : Site υ}
    (left : run g m input ⟨.fresh limits tracer, host⟩ = (.ok v, after))
    (right : run g n input ⟨.fresh limits' tracer', host⟩ = (.ok w, after')) :
    w.failed = v.failed ∧ w.consumed = v.consumed ∧ w.rest = v.rest ∧ after'.node = after.node := by
  let A := Alignment.same input.slice (max input.position after.context.furthest)
  have place : A.Cursors input input :=
    ⟨rfl, rfl, ⟨input.position, (Nat.zero_add _).symm, (Nat.zero_add _).symm⟩, Nat.le_max_left _ _⟩
  have sites : A.Sites host host ⟨.fresh limits tracer, host⟩ ⟨.fresh limits' tracer', host⟩ :=
    .fresh memoize _ _ rfl
  have agree : A.Agree host host (run g m input ⟨.fresh limits tracer, host⟩)
      (run g n input ⟨.fresh limits' tracer', host⟩) :=
    A.runWithin_regrouped g regrouped limits.fuel limits'.fuel place sites.rebase (Nat.le_refl _)
      (Nat.le_refl _)
  rw [left, right] at agree
  cases agree with
  | beyond far => exact absurd (Nat.le_max_right _ _) (Nat.not_le_of_lt far)
  | left halted => cases halted
  | right halted => cases halted
  | answered left right agreement sites =>
    obtain rfl := Except.ok.inj left
    obtain rfl := Except.ok.inj right
    obtain ⟨nodes, nodes', node, node', each⟩ := sites.grown
    refine ⟨agreement.failed, ?_, agreement.rest.eq.symm, ?_⟩
    · show w.matched.size = v.matched.size
      simpa only [Array.length_toList] using agreement.matched.length_eq.symm
    · rw [show after'.node = _ from node', show after.node = _ from node, Node.Parallel.all_eq each]

/-- The three statements of a block, in a group and without. -/
def grouped : Matcher :=
  .sequence (.sequence (.statement ⟨"begin"⟩) (.statement ⟨"do"⟩) []) (.statement ⟨"end"⟩) []

def ungrouped : Matcher :=
  .sequence (.statement ⟨"begin"⟩) (.statement ⟨"do"⟩) [.statement ⟨"end"⟩]

theorem regrouped_grouped : Regrouped grouped ungrouped :=
  .group _ _ _ [] []

/-- A block that is missing its end is refused with and without the group. -/
theorem run_regrouped_unclosed :
    ∃ v w,
    (run blocks (.optional grouped) (.start unclosed) ⟨smallContext, .empty block⟩).1 = .ok v ∧
    (run blocks (.optional ungrouped) (.start unclosed) ⟨smallContext, .empty block⟩).1 = .ok w ∧
    w.failed = v.failed ∧ w.consumed = v.consumed := by
  obtain ⟨v, after, left⟩ : ∃ v after, run blocks (.optional grouped) (.start unclosed)
      ⟨.fresh ⟨30, 5, false⟩ (), .empty block⟩ = (.ok v, after) := ⟨_, _, rfl⟩
  obtain ⟨w, after', right⟩ : ∃ w after', run blocks (.optional ungrouped) (.start unclosed)
      ⟨.fresh ⟨30, 5, false⟩ (), .empty block⟩ = (.ok w, after') := ⟨_, _, rfl⟩
  obtain ⟨failed, consumed, _⟩ := run_regrouped (.optional regrouped_grouped) rfl left right
  exact ⟨v, w, congrArg Prod.fst left, congrArg Prod.fst right, failed, consumed⟩

/-- A block that breaks off after its first statement. -/
def brokenOff : Slice :=
  ⟨0, statementsOfKinds ["begin"]⟩

/-- Inside a repetition the group does make a difference. With the group a block that breaks off is
no block, and the repetition is over before it; without the group it is malformed. -/
theorem run_grouped_star_ne :
    ∃ v w, (run blocks (.star grouped) (.start brokenOff) ⟨smallContext, .empty block⟩).1 = .ok v ∧
      (run blocks (.star ungrouped) (.start brokenOff) ⟨smallContext, .empty block⟩).1 = .ok w ∧
      v.failed = false ∧ w.failed = true :=
  ⟨_, _, rfl, rfl, rfl, rfl⟩

end OrderedChoice
