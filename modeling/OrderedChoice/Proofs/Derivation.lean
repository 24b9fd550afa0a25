import Mathlib.Data.List.Forall2
import OrderedChoice.Proofs.Memoization

/-!
# Forests as derivations

A forest conforms to a matcher if the grammar, read without order and without greed, derives it: a
choice may take any part, an optional matcher may be left out and a repetition may stop anywhere.
What a run grows conforms to the matcher that was run (`run_conforms`): backtracking leaves nothing
behind, and a remembered node is one that its structure has grown.
-/

namespace OrderedChoice

/-- The forest is a derivation of the matcher. -/
inductive Conforms (g : Grammar) : Matcher → List Node → Prop where
  /-- One leaf of the kind. -/
  | statement {kind : Kind} {statement : Statement} {index : Nat} (same : statement.kind = kind) :
      Conforms g (.statement kind) [.leaf statement index]
  /-- One branch of the structure, with a leaf below it, whose children are a derivation of the
  body. -/
  | sub {target : Structure} {m : Matcher} {children : List Node} (body : g.body target = .ok m)
      (grown : Conforms g m children) (filled : Node.leavesOf children ≠ []) :
      Conforms g (.sub target) [.branch target children]
  /-- A derivation of each part, in order. -/
  | sequence {a b : Matcher} {rest : List Matcher} {parts : List (List Node)}
      (each : List.Forall₂ (Conforms g) (a :: b :: rest) parts) :
      Conforms g (.sequence a b rest) parts.flatten
  /-- A derivation of some part. -/
  | choice {a b m : Matcher} {rest : List Matcher} {nodes : List Node} (member : m ∈ a :: b :: rest)
      (taken : Conforms g m nodes) : Conforms g (.choice a b rest) nodes
  | omitted {body : Matcher} : Conforms g (.optional body) []
  | optional {body : Matcher} {nodes : List Node} (given : Conforms g body nodes) :
      Conforms g (.optional body) nodes
  /-- Any number of derivations of the body, none of them empty. -/
  | star {body : Matcher} {rounds : List (List Node)} (nonempty : ∀ nodes ∈ rounds, nodes ≠ [])
      (each : ∀ nodes ∈ rounds, Conforms g body nodes) : Conforms g (.star body) rounds.flatten

/-- One more derivation of the body, before the others. -/
theorem Conforms.star_cons {g : Grammar} {body : Matcher} {first others : List Node}
    (nonempty : first ≠ []) (conforms : Conforms g body first)
    (h : Conforms g (.star body) others) : Conforms g (.star body) (first ++ others) := by
  cases h with
  | @star _ rounds nonemptyOthers each =>
    rw [← List.flatten_cons]
    exact .star
      (List.forall_mem_cons.2 ⟨nonempty, nonemptyOthers⟩) (List.forall_mem_cons.2 ⟨conforms, each⟩)

theorem OpenNode.grow_injective (node : OpenNode) {a b : List Node}
    (h : node.grow a = node.grow b) : a = b := by
  have children := congrArg (fun node => node.children.toList) h
  simp only [children_grow] at children
  exact List.append_cancel_left children

variable {τ : Type} {g : Grammar} {scope : Scope g} {slice : Slice} {task : Task} {input : Cursor}
  {base : OpenNode} {site : Site τ} {result : Result τ} {shape : List Node → Prop}

/-! ## What a success has grown -/

namespace Accounts

variable {verdict : Verdict} {after : Site τ}

/-- A success spans what it has consumed. -/
theorem spans (h : Accounts scope task input base site (.ok verdict, after))
    (succeeds : verdict.failed = false) (origin : task.origin input = input) :
    verdict.Spans input := by
  obtain ⟨_, answer, evaluated, outcome, _⟩ := h.answered
  have covers := evaluated.covers (origin.symm ▸ input.le_refl)
  rw [origin] at covers
  exact covers.spans verdict ⟨outcome, succeeds⟩

/-- A failure leaves the node as it was. -/
theorem node_failure (h : Accounts scope task input base site (.ok verdict, after))
    (failed : verdict.failed = true) : after.node = base := by
  obtain ⟨_, _, _, _, settles⟩ := h.answered
  exact settles.node_failure failed

/-- A success that has moved has grown leaves. -/
theorem leaves_ne_nil (h : Accounts scope task input base site (.ok verdict, after))
    (succeeds : verdict.failed = false) (origin : task.origin input = input)
    (moved : verdict.rest ≠ input) {nodes : List Node} (node : after.node = site.node.grow nodes) :
    Node.leavesOf nodes ≠ [] := by
  have le := (h.spans succeeds origin).le_rest
  obtain ⟨_, answer, evaluated, outcome, settles⟩ := h.answered
  have covers := evaluated.covers (origin.symm ▸ input.le_refl)
  obtain rfl := site.node.grow_injective (node.symm.trans (settles.node_success succeeds))
  rw [covers.leaves verdict ⟨outcome, succeeds⟩]
  refine Slice.window_ne_nil _ (Nat.lt_of_le_of_ne le.2 fun same => ?_)
    (le.1 ▸ verdict.rest.position_le)
  exact moved (Cursor.eq_of_position_eq le.1.symm same.symm)

end Accounts

/-! ## Contexts that remember derivations -/

namespace Context

/-- What is remembered of a success is the node of a structure of that name, and a derivation of
it. -/
def Derived (context : Context τ) (scope : Scope g) : Prop :=
  ∀ (name : String) (position : Nat) (memo : Memo), context.memos[(name, position)]? = some memo →
    memo.verdict.failed = false → ∃ target ∈ scope, target.name = name ∧
      ∃ node, memo.node = some node ∧ Conforms g (.sub target) [node]

theorem derived_fresh (limits : Limits) (tracer : τ) (scope : Scope g) :
    (fresh limits tracer).Derived scope := by
  intro name position memo found
  rw [fresh, Std.HashMap.getElem?_empty] at found
  cases found

/-- The node of a structure may be kept, if it is a derivation. -/
theorem Derived.remember {context : Context τ} {target : Structure} {position : Nat} {memo : Memo}
    (h : context.Derived scope) (known : target ∈ scope)
    (derived : memo.verdict.failed = false →
      ∃ node, memo.node = some node ∧ Conforms g (.sub target) [node]) :
    (context.remember target position memo).Derived scope := by
  unfold Context.remember
  split
  · intro name place other found succeeds
    rw [Std.HashMap.getElem?_insert] at found
    split at found
    · rename_i same
      obtain ⟨rfl, rfl⟩ := Prod.mk.inj (eq_of_beq same)
      obtain rfl := Option.some.inj found
      exact ⟨target, known, rfl, derived succeeds⟩
    · exact h name place other found succeeds
  · exact h

/-- A context whose memo table gives what a run would give: it is either not asked, or cannot
mistake a structure for another one. -/
structure Faithful (context : Context τ) (scope : Scope g) (slice : Slice) : Prop where
  coherent : context.Coherent scope slice
  derived : context.Derived scope
  apart : context.limits.memoize = false ∨ scope.Named

end Context

/-- The run remembers derivations only, and if it succeeds, what it has added to the node `base` is
of the given shape. -/
structure Yields (scope : Scope g) (shape : List Node → Prop) (base : OpenNode)
    (result : Result τ) : Prop where
  derived : result.2.context.Derived scope
  shaped : ∀ verdict, result.1 = .ok verdict → verdict.failed = false →
    ∃ nodes, result.2.node = base.grow nodes ∧ shape nodes

theorem Context.Faithful.next (h : site.context.Faithful scope input.slice)
    (accounts : Accounts scope task input base site result)
    (derived : result.2.context.Derived scope) : result.2.context.Faithful scope input.slice :=
  ⟨accounts.coherent, derived, accounts.follows.limits ▸ h.apart⟩

namespace Yields

theorem halt {halt : Halt} {after : Site τ} (derived : after.context.Derived scope) :
    Yields scope shape base (.error halt, after) :=
  ⟨derived, nofun⟩

theorem failure {verdict : Verdict} {after : Site τ} (derived : after.context.Derived scope)
    (failed : verdict.failed = true) : Yields scope shape base (.ok verdict, after) := by
  refine ⟨derived, ?_⟩
  rintro _ ⟨⟩ succeeds
  cases failed.symm.trans succeeds

/-- A run that ends where it stands has added nothing. -/
theorem nothing {outcome : Except Halt Verdict} {after : Site τ}
    (derived : after.context.Derived scope) (node : after.node = base) (empty : shape []) :
    Yields scope shape base (outcome, after) :=
  ⟨derived, fun _ _ _ => ⟨[], by rw [OpenNode.grow_nil]; exact node, empty⟩⟩

/-- What the rest of a task has grown comes after what was grown before. -/
theorem after {middle : OpenNode} {nodes : List Node} {inner : List Node → Prop}
    (h : Yields scope inner middle result) (node : middle = base.grow nodes)
    (joined : ∀ more, inner more → shape (nodes ++ more)) : Yields scope shape base result := by
  refine ⟨h.derived, fun verdict ok succeeds => ?_⟩
  obtain ⟨more, grown, shaped⟩ := h.shaped verdict ok succeeds
  exact ⟨nodes ++ more, by rw [grown, node, OpenNode.grow_grow], joined more shaped⟩

theorem mono {inner : List Node → Prop} (h : Yields scope inner base result)
    (implies : ∀ nodes, inner nodes → shape nodes) : Yields scope shape base result :=
  h.after (OpenNode.grow_nil _).symm implies

end Yields

/-! ## Combinators -/

variable [Tracer τ]

/-- However a runner runs a matcher, what it grows is a derivation. -/
def Yielding (scope : Scope g) (run : Runner τ) : Prop :=
  ∀ m input site, (Task.whole m).Within scope → site.context.Faithful scope input.slice →
    Yields scope (Conforms g m) site.node (run m input site)

theorem matchStatement_yields {kind : Kind} (derived : site.context.Derived scope) :
    Yields scope (Conforms g (.statement kind)) site.node (matchStatement kind input site) := by
  unfold matchStatement
  cases found : input.first? with
  | none => exact .failure derived rfl
  | some statement =>
    by_cases same : statement.kind = kind
    · simp only [if_pos same]
      exact ⟨derived, fun _ _ _ => ⟨_, OpenNode.push_eq_grow _ _, .statement same⟩⟩
    · simp only [if_neg same]
      exact .failure derived rfl

omit [Tracer τ] in
theorem forgive_yields {body : Matcher}
    (first : Accounts scope (.whole body) input site.node site result)
    (grown : Yields scope (Conforms g body) site.node result) :
    Yields scope (Conforms g (.optional body)) site.node (forgive result) := by
  obtain ⟨_ | verdict, after⟩ := result
  · exact .halt grown.derived
  · cases failed : verdict.failed with
    | true => exact .nothing grown.derived (first.node_failure failed) .omitted
    | false =>
      obtain ⟨nodes, node, conforms⟩ := grown.shaped verdict rfl failed
      exact ⟨grown.derived, fun _ _ _ => ⟨nodes, node, .optional conforms⟩⟩

section

variable {run : Runner τ}

omit [Tracer τ] in
theorem matchSequence_yields (runs : Accountable scope run) (yields : Yielding scope run)
    (start : Cursor) (mark : Nat) : ∀ (parts : List Matcher) (rest : Cursor) (site : Site τ),
    (Task.inTurn start parts).Within scope → site.context.Faithful scope rest.slice →
      Yields scope
        (fun nodes => ∃ pieces, List.Forall₂ (Conforms g) parts pieces ∧ nodes = pieces.flatten)
        site.node (matchSequence run start mark parts rest site) := by
  intro parts
  induction parts with
  | nil =>
    intro rest site _ faithful
    exact .nothing faithful.derived rfl ⟨[], .nil, rfl⟩
  | cons part parts ih =>
    intro rest site within faithful
    have first := runs part rest site within.part faithful.coherent
    have grown := yields part rest site within.part faithful
    rw [matchSequence]
    generalize run part rest site = result at first grown ⊢
    obtain ⟨_ | verdict, after⟩ := result
    · exact .halt grown.derived
    · cases failed : verdict.failed with
      | true =>
        simp only [failed, if_true]
        exact .failure grown.derived rfl
      | false =>
        obtain ⟨nodes, node, conforms⟩ := grown.shaped verdict rfl failed
        have faithful' := faithful.next first grown.derived
        rw [(first.spans failed rfl).le_rest.1] at faithful'
        simp only [failed, Bool.false_eq_true, if_false]
        refine (ih verdict.rest after within.parts faithful').after node ?_
        rintro _ ⟨pieces, each, rfl⟩
        exact ⟨nodes :: pieces, .cons conforms each, rfl⟩

theorem matchChoice_yields (runs : Accountable scope run) (yields : Yielding scope run)
    (all : List Matcher) (input : Cursor) :
    ∀ (branches : List Matcher) (description : String) (progress : Nat) (site : Site τ),
    (Task.firstOf all branches description progress).Within scope →
      site.context.Faithful scope input.slice →
      Yields scope (fun nodes => ∃ m ∈ branches, Conforms g m nodes) site.node
        (matchChoice run all input branches description progress site) := by
  intro branches
  induction branches with
  | nil =>
    intro description progress site _ faithful
    exact .failure faithful.derived (failed_choiceFailure _ _ _ _)
  | cons branch branches ih =>
    intro description progress site within faithful
    have first := runs branch input site within.branch faithful.coherent
    have grown := yields branch input site within.branch faithful
    rw [matchChoice_cons]
    generalize run branch input site = result at first grown ⊢
    obtain ⟨_ | verdict, after⟩ := result
    · exact .halt grown.derived
    · cases failed : verdict.failed with
      | false =>
        simp only [failed, Bool.false_eq_true, if_false]
        exact grown.mono fun nodes conforms => ⟨branch, List.mem_cons_self, conforms⟩
      | true =>
        have faithful' := faithful.next first grown.derived
        have others := ih (if progress < verdict.progress then verdict.description else description)
          (if progress < verdict.progress then verdict.progress else progress)
          (after.record (.backtracked input.position)) within.branches
          ⟨faithful'.coherent.mono rfl (Nat.le_refl _), faithful'.derived, faithful'.apart⟩
        have node : (after.record (.backtracked input.position)).node = site.node :=
          first.node_failure failed
        rw [node] at others
        simp only [failed, if_true]
        exact others.mono fun nodes ⟨m, member, conforms⟩ =>
          ⟨m, List.mem_cons_of_mem _ member, conforms⟩

omit [Tracer τ] in
theorem matchStar_yields (runs : Accountable scope run) (yields : Yielding scope run)
    (body : Matcher) (start : Cursor) (mark : Nat) :
    ∀ (turns : Nat) (rest : Cursor) (site : Site τ), (Task.rounds start body).Within scope →
    site.context.Faithful scope rest.slice →
      Yields scope (Conforms g (.star body)) site.node
        (matchStar run body start mark turns rest site) := by
  have noRound : Conforms g (.star body) [] := @Conforms.star g body [] nofun nofun
  intro turns
  induction turns with
  | zero =>
    intro rest site _ faithful
    rw [matchStar]
    cases atEnd : rest.isAtEnd with
    | true => exact .nothing faithful.derived rfl noRound
    | false => exact .halt faithful.derived
  | succ turns ih =>
    intro rest site within faithful
    rw [matchStar]
    cases more : rest.isAtEnd with
    | true => exact .nothing faithful.derived rfl noRound
    | false =>
      have first := runs body rest site within faithful.coherent
      have grown := yields body rest site within faithful
      simp only [Bool.false_eq_true, if_false]
      generalize run body rest site = result at first grown ⊢
      obtain ⟨_ | verdict, after⟩ := result
      · exact .halt grown.derived
      · cases failed : verdict.failed with
        | true =>
          simp only [failed, if_true]
          by_cases progress : 0 < verdict.progress
          · rw [if_pos progress]
            exact .failure grown.derived rfl
          · rw [if_neg progress]
            exact .nothing grown.derived (first.node_failure failed) noRound
        | false =>
          simp only [failed, Bool.false_eq_true, if_false]
          by_cases stuck : verdict.rest.position = rest.position
          · rw [if_pos stuck]
            exact .halt grown.derived
          · rw [if_neg stuck]
            obtain ⟨nodes, node, conforms⟩ := grown.shaped verdict rfl failed
            have moved : verdict.rest ≠ rest := fun same => stuck (congrArg Cursor.position same)
            have leaves := first.leaves_ne_nil failed rfl moved node
            have nonempty : nodes ≠ [] := by
              rintro rfl
              exact leaves rfl
            have faithful' := faithful.next first grown.derived
            rw [(first.spans failed rfl).le_rest.1] at faithful'
            exact (ih verdict.rest after within faithful').after node fun _ =>
              .star_cons nonempty conforms

/-! ## Structures -/

theorem enterStructure_yields (yields : Yielding scope run) {target : Structure} (site : Site τ)
    (within : (Task.inside target).Within scope)
    (faithful : site.context.Faithful scope input.slice) :
    Yields scope (fun nodes => ∃ m, g.body target = .ok m ∧ Conforms g m nodes) site.node
      (enterStructure run g target input site) := by
  unfold enterStructure
  by_cases full : site.context.limits.recursion ≤ site.context.depth
  · rw [if_pos full]
    exact .halt faithful.derived
  · rw [if_neg full]
    cases body : g.body target with
    | error fault => exact .halt faithful.derived
    | ok m =>
      have grown := yields m input (site.descend.record (.entered target.name input.position))
        (within.body body)
        ⟨faithful.coherent.mono rfl (Nat.le_refl _), faithful.derived, faithful.apart⟩
      simp only []
      generalize run m input (site.descend.record (.entered target.name input.position)) =
        result at grown ⊢
      obtain ⟨_ | verdict, after⟩ := result
      · exact .halt grown.derived
      · refine ⟨grown.derived, fun _ ok succeeds => ?_⟩
        obtain ⟨nodes, node, conforms⟩ := grown.shaped _ ok succeeds
        exact ⟨nodes, node, m, rfl, conforms⟩

theorem Verdict.of_refuseEmpty {verdict : Verdict} {target : Structure}
    (h : (verdict.refuseEmpty target).failed = false) :
    verdict.failed = false ∧ verdict.matched.isEmpty = false := by
  constructor
  · rw [← Bool.not_eq_true]
    intro failed
    rw [refuseEmpty_of_failed failed] at h
    cases failed.symm.trans h
  · rw [← Bool.not_eq_true]
    intro empty
    cases (failed_refuseEmpty empty target).symm.trans h

omit [Tracer τ] in
/-- The node of a structure that succeeds on something is a derivation of the structure. -/
theorem conforms_grown {target : Structure} {context after : Context τ} {grown : OpenNode}
    {verdict : Verdict}
    (entered : Accounts scope (.inside target) input (.empty target) ⟨context, .empty target⟩
      (.ok verdict, ⟨after, grown⟩))
    (yielded : Yields scope (fun nodes => ∃ m, g.body target = .ok m ∧ Conforms g m nodes)
      (.empty target) (.ok verdict, ⟨after, grown⟩))
    (succeeds : (verdict.refuseEmpty target).failed = false) :
    Conforms g (.sub target) [grown.toNode] := by
  obtain ⟨succeeds', something⟩ := Verdict.of_refuseEmpty succeeds
  obtain ⟨nodes, node, m, body, conforms⟩ := yielded.shaped verdict rfl succeeds'
  have moved : verdict.rest ≠ input := by
    intro stays
    rw [(entered.spans succeeds' rfl).matched_isEmpty_iff.2 stays] at something
    cases something
  have filled := entered.leaves_ne_nil succeeds' rfl moved node
  rw [show grown = (OpenNode.empty target).grow nodes from node, OpenNode.toNode_grow_empty]
  exact .sub body conforms filled

/-- A remembered success is the node of the structure that is asked for. -/
theorem replay_yields {target : Structure} {memo : Memo} (event : Event)
    (within : (Task.whole (.sub target)).Within scope)
    (faithful : site.context.Faithful scope input.slice)
    (found : site.context.remembered? target input.position = some memo) :
    Yields scope (Conforms g (.sub target)) site.node
      (.ok memo.verdict, ⟨(site.record event).context, site.node.grow memo.node.toList⟩) := by
  unfold Context.remembered? at found
  split at found
  case isFalse => cases found
  case isTrue memoize =>
  refine ⟨faithful.derived, ?_⟩
  rintro _ ⟨⟩ succeeds
  obtain ⟨actual, known, name, node, isNode, conforms⟩ := faithful.derived _ _ memo found succeeds
  -- the table is in use, so names are distinct
  have named := faithful.apart.resolve_left (by rw [memoize]; exact nofun)
  obtain rfl := named _ known _ within.mem name
  exact ⟨[node], by rw [isNode]; rfl, conforms⟩

theorem matchSub_yields (runs : Accountable scope run) (yields : Yielding scope run)
    {target : Structure} (within : (Task.whole (.sub target)).Within scope)
    (faithful : site.context.Faithful scope input.slice) :
    Yields scope (Conforms g (.sub target)) site.node (matchSub run g target input site) := by
  unfold matchSub
  cases found : site.context.remembered? target input.position with
  | some memo =>
    have replay := replay_yields (.replayed target.name input.position) within faithful found
    obtain ⟨verdict, node⟩ := memo
    cases node with
    | some node =>
      rw [show (⟨verdict, some node⟩ : Memo).node.toList = [node] from rfl, ← OpenNode.push_eq_grow]
        at replay
      exact replay
    | none =>
      rw [show (⟨verdict, none⟩ : Memo).node.toList = [] from rfl, OpenNode.grow_nil] at replay
      exact replay
  | none =>
    have inside : (Task.inside target).Within scope := Task.within_inside within.mem
    have host : (⟨site.context, .empty target⟩ : Site τ).node.target = target := rfl
    have entered := enterStructure_accounts runs host inside faithful.coherent
    have yielded := enterStructure_yields yields ⟨site.context, .empty target⟩ inside faithful
    simp only []
    generalize enterStructure run g target input ⟨site.context, .empty target⟩ = result
      at entered yielded ⊢
    obtain ⟨_ | verdict, ⟨after, grown⟩⟩ := result
    · exact .halt yielded.derived
    · simp only []
      cases failed : (verdict.refuseEmpty target).failed with
      | true =>
        simp only [if_true]
        refine .failure (yielded.derived.remember within.mem ?_) failed
        intro succeeds
        cases failed.symm.trans succeeds
      | false =>
        have conforms := conforms_grown entered yielded failed
        simp only [Bool.false_eq_true, if_false]
        exact ⟨yielded.derived.remember within.mem fun _ => ⟨_, rfl, conforms⟩,
          fun _ _ _ => ⟨_, OpenNode.push_eq_grow _ _, conforms⟩⟩

end

/-! ## Matchers -/

theorem runWithin_yields (scope : Scope g) (bound : Nat) :
    Yielding scope (runWithin g bound : Runner τ) := by
  induction bound with
  | zero =>
    intro m input site _ faithful
    exact .halt faithful.derived
  | succ bound ih =>
    intro m input site within faithful
    have runs : Accountable scope (runWithin g bound : Runner τ) := runWithin_accounts scope bound
    cases enough : site.context.fuel with
    | zero =>
      rw [runWithin, enough]
      exact .halt faithful.derived
    | succ fuel =>
      have faithful' : (site.withFuel fuel).context.Faithful scope input.slice :=
        ⟨faithful.coherent.mono rfl (Nat.le_refl _), faithful.derived, faithful.apart⟩
      rw [runWithin_succ enough]
      cases m with
      | statement kind => exact matchStatement_yields faithful'.derived
      | sub target => exact matchSub_yields runs ih within faithful'
      | optional body =>
        have first := runs body input (site.withFuel fuel) within faithful'.coherent
        have optional := forgive_yields first (ih body input _ within faithful')
        exact optional
      | star body => exact matchStar_yields runs ih body input _ fuel input _ within faithful'
      | sequence a b rest =>
        refine (matchSequence_yields runs ih input _ _ input _ within.sequence faithful').mono ?_
        rintro _ ⟨pieces, each, rfl⟩
        exact .sequence each
      | choice a b rest =>
        refine (matchChoice_yields runs ih _ input _ "" 0 _ within.choice faithful').mono ?_
        rintro nodes ⟨m, member, conforms⟩
        exact .choice member conforms

/-! ## Every forest is a derivation -/

/-- Whatever was run on the slice, remembered nodes are derivations, if structures are told
apart. -/
theorem Used.faithful {context : Context τ} (used : Used scope slice context)
    (apart : context.limits.memoize = false ∨ scope.Named) : context.Faithful scope slice := by
  induction used with
  | fresh limits tracer =>
    exact ⟨Context.coherent_fresh _ _ _ _, Context.derived_fresh _ _ _, apart⟩
  | @ran context before m within input on node ih =>
    subst on
    have accounts := before.accounts within rfl node
    rw [accounts.follows.limits] at apart
    have faithful := ih apart
    have yielded := runWithin_yields scope context.fuel m input ⟨context, node⟩ within faithful
    exact faithful.next accounts yielded.derived

/-- The forest of a parse that succeeds is a derivation of the root's body. -/
theorem parseWith_conforms {root : Structure} {limits : Limits}
    {tracer : τ} {statements : Array Statement}
    {result : Parse} (apart : limits.memoize = false ∨ (Scope.below root : Scope g).Named)
    (ok : (parseWith g root limits tracer statements).1 = .ok result)
    (succeeds : result.verdict.failed = false) :
    ∃ m, g.body root = .ok m ∧ Conforms g m result.root.children := by
  have faithful : (Context.fresh limits tracer).Faithful (Scope.below root : Scope g)
      (Cursor.start ⟨0, statements⟩).slice :=
    ⟨Context.coherent_fresh _ _ _ _, Context.derived_fresh _ _ _, apart⟩
  have yields : Yielding (Scope.below root : Scope g) (run g : Runner τ) :=
    fun m input site => runWithin_yields _ site.context.fuel m input site
  have inside :=
    Task.within_inside (Scope.root_mem_below root : root ∈ (Scope.below root : Scope g))
  have yielded := enterStructure_yields yields ⟨.fresh limits tracer, .empty root⟩ inside faithful
  unfold parseWith matchRoot at ok
  generalize enterStructure (run g) g root _ ⟨.fresh limits tracer, .empty root⟩ = matched
    at yielded ok
  obtain ⟨_ | verdict, after⟩ := matched
  · cases ok
  · obtain rfl := Except.ok.inj ok
    obtain ⟨nodes, node, m, body, conforms⟩ := yielded.shaped verdict rfl succeeds
    refine ⟨m, body, ?_⟩
    show Conforms g m after.node.children.toList
    rw [show after.node = (OpenNode.empty root).grow nodes from node, OpenNode.children_grow]
    exact conforms

/-- What a success adds to its node is a derivation of the matcher, whatever was run on the slice
before, as long as the memo table is not used or structures have names of their own. So the forest
of a parse is a derivation. -/
theorem run_conforms {context : Context τ} (used : Used scope slice context)
    (apart : context.limits.memoize = false ∨ scope.Named) {m : Matcher}
    (within : (Task.whole m).Within scope) (on : input.slice = slice) (node : OpenNode) :
    (∀ verdict, (run g m input ⟨context, node⟩).1 = .ok verdict → verdict.failed = false →
      ∃ nodes, (run g m input ⟨context, node⟩).2.node = node.grow nodes ∧ Conforms g m nodes) ∧
    ∀ (root : Structure) (limits : Limits) (tracer : τ) (statements : Array Statement)
      (result : Parse), (limits.memoize = false ∨ (Scope.below root : Scope g).Named) →
    (parseWith g root limits tracer statements).1 = .ok result → result.verdict.failed = false →
    ∃ m, g.body root = .ok m ∧ Conforms g m result.root.children := by
  constructor
  · subst on
    have yielded :=
      runWithin_yields scope context.fuel m input ⟨context, node⟩ within (used.faithful apart)
    exact yielded.shaped
  · intro root limits tracer statements result apart ok succeeds
    exact parseWith_conforms apart ok succeeds

/-- The context that is left when the inner of two nested blocks was matched. -/
def afterInner : Context Unit :=
  (run blocks (.sub block) (Cursor.start nested).next
    ⟨.fresh ⟨60, 5, false⟩ (), .empty block⟩).2.context

/-- Nested blocks are derivations, where the inner one was matched before and in a parse that keeps
results. -/
theorem run_conforms_nested :
    (∃ verdict nodes,
      (run blocks (.sub block) (.start nested) ⟨afterInner, .empty block⟩).1 = .ok verdict ∧
      (run blocks (.sub block) (.start nested) ⟨afterInner, .empty block⟩).2.node =
        (OpenNode.empty block).grow nodes ∧ Conforms blocks (.sub block) nodes) ∧
    ∃ result m, (parseWith blocks block ⟨30, 5, true⟩ () nested.statements).1 = .ok result ∧
      blocks.body block = .ok m ∧ Conforms blocks m result.root.children := by
  have used : Used (Scope.all : Scope blocks) nested afterInner :=
    .ran (.fresh ⟨60, 5, false⟩ ()) (Task.within_all (.whole (.sub block)))
      (rfl : (Cursor.start nested).next.slice = nested) (.empty block)
  obtain ⟨runs, parses⟩ := run_conforms used (.inl rfl) (Task.within_all (.whole (.sub block)))
    (rfl : (Cursor.start nested).slice = nested) (.empty block)
  constructor
  · obtain ⟨verdict, ok, succeeds⟩ : ∃ verdict, (run blocks (.sub block) (.start nested)
        ⟨afterInner, .empty block⟩).1 = .ok verdict ∧ verdict.failed = false := ⟨_, rfl, rfl⟩
    obtain ⟨nodes, node, conforms⟩ := runs verdict ok succeeds
    exact ⟨verdict, nodes, ok, node, conforms⟩
  · have named : (Scope.below block : Scope blocks).Named :=
      fun s hs t ht _ => (eq_block_of_reaches hs).trans (eq_block_of_reaches ht).symm
    obtain ⟨result, ok, succeeds⟩ :
      ∃ result, (parseWith blocks block ⟨30, 5, false⟩ () nested.statements).1 =
        .ok result ∧ result.verdict.failed = false := ⟨_, rfl, rfl⟩
    have memoized := parseWith_memoized named ok
    obtain ⟨m, body, conforms⟩ :=
      parses block ⟨30, 5, true⟩ () nested.statements result (.inr named) memoized succeeds
    exact ⟨result, m, memoized, body, conforms⟩

end OrderedChoice
