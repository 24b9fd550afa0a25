import Mathlib.Data.List.Forall2
import OrderedChoice.Proofs.Account

/-!
# Slices side by side

Two slices are aligned if, each from a place of its own on, they hold alike statements up to some
position of the first one. What matching makes of statements is aligned with them: cursors at the
same distance from the two places, nodes of the same shape over alike statements, verdicts that say
the same, and memo tables that remember aligned results at aligned positions.
-/

namespace OrderedChoice

/-- The nodes have one shape and the same structures, over alike statements that are as far from `p`
in the one as from `q` in the other. -/
inductive Node.Parallel (alike : Statement → Statement → Prop) (p q : Nat) :
    Node → Node → Prop where
  | leaf {s t : Statement} {i : Nat} (same : alike s t) :
      Parallel alike p q (.leaf s (p + i)) (.leaf t (q + i))
  | branch {target : Structure} {children children' : List Node}
      (each : List.Forall₂ (Parallel alike p q) children children') :
      Parallel alike p q (.branch target children) (.branch target children')

/-- Two slices that hold alike statements, from `leftStart` and from `rightStart` on, up to the
position `stop` of the left one. Alike statements are at least of one kind. -/
structure Alignment where
  alike : Statement → Statement → Prop
  kind_eq : ∀ {a b}, alike a b → a.kind = b.kind
  left : Slice
  right : Slice
  leftStart : Nat
  rightStart : Nat
  stop : Nat
  aligned : ∀ i, leftStart + i ≤ stop →
    Option.Rel alike left.statements[leftStart + i]? right.statements[rightStart + i]?

namespace Alignment

variable {A : Alignment}

/-! ## Cursors -/

/-- The cursors are at the same distance from the starts, and not beyond the end. -/
structure Cursors (A : Alignment) (a b : Cursor) : Prop where
  left : a.slice = A.left
  right : b.slice = A.right
  apart : ∃ i, a.position = A.leftStart + i ∧ b.position = A.rightStart + i
  le_stop : a.position ≤ A.stop

namespace Cursors

variable {a b c d : Cursor}

theorem first? (h : A.Cursors a b) : Option.Rel A.alike a.first? b.first? := by
  obtain ⟨i, ha, hb⟩ := h.apart
  have aligned := A.aligned i (ha ▸ h.le_stop)
  unfold Cursor.first?
  rwa [h.left, h.right, ha, hb]

/-- Both slices end here, or neither does. -/
theorem isAtEnd_eq (h : A.Cursors a b) : b.isAtEnd = a.isAtEnd := by
  rw [Bool.eq_iff_iff, ← Cursor.first?_eq_none_iff, ← Cursor.first?_eq_none_iff]
  have first := h.first?
  generalize a.first? = s, b.first? = t at first
  cases first with
  | none => exact Iff.rfl
  | some _ => exact ⟨nofun, nofun⟩

theorem next (h : A.Cursors a b) (more : a.isAtEnd = false) (le : a.position + 1 ≤ A.stop) :
    A.Cursors a.next b.next where
  left := h.left
  right := h.right
  apart := by
    obtain ⟨i, ha, hb⟩ := h.apart
    rw [Cursor.position_next more, Cursor.position_next (h.isAtEnd_eq.trans more)]
    exact ⟨i + 1, by omega, by omega⟩
  le_stop := by rwa [Cursor.position_next more]

/-- Aligned cursors lie equally far apart. -/
theorem sub_eq (h : A.Cursors a b) (h' : A.Cursors c d) :
    d.position - b.position = c.position - a.position := by
  obtain ⟨i, ha, hb⟩ := h.apart
  obtain ⟨j, hc, hd⟩ := h'.apart
  omega

theorem position_eq_iff (h : A.Cursors a b) (h' : A.Cursors c d) :
    d.position = b.position ↔ c.position = a.position := by
  obtain ⟨i, ha, hb⟩ := h.apart
  obtain ⟨j, hc, hd⟩ := h'.apart
  omega

end Cursors

/-! ## Verdicts -/

/-- The verdicts say the same of alike statements, at aligned cursors. -/
structure Verdicts (A : Alignment) (v w : Verdict) : Prop where
  matched : List.Forall₂ A.alike v.matched.toList w.matched.toList
  rest : A.Cursors v.rest w.rest
  failed : w.failed = v.failed
  description : w.description = v.description
  progress : w.progress = v.progress

/-- The same halt, or aligned verdicts. -/
inductive Outcomes (A : Alignment) : Except Halt Verdict → Except Halt Verdict → Prop where
  | halted (halt : Halt) : Outcomes A (.error halt) (.error halt)
  | answered {v w : Verdict} (verdicts : A.Verdicts v w) : Outcomes A (.ok v) (.ok w)

theorem alike_getElem {i : Nat} (le : A.leftStart + i ≤ A.stop)
    (hl : A.leftStart + i < A.left.statements.size)
    (hr : A.rightStart + i < A.right.statements.size) :
    A.alike A.left.statements[A.leftStart + i] A.right.statements[A.rightStart + i] := by
  have aligned := A.aligned i le
  rw [Array.getElem?_eq_getElem hl, Array.getElem?_eq_getElem hr] at aligned
  cases aligned with
  | some alike => exact alike

/-- Between aligned cursors lie alike statements. -/
theorem forall₂_extract {a b c d : Cursor} (h : A.Cursors a b) (h' : A.Cursors c d) :
    List.Forall₂ A.alike (A.left.statements.extract a.position c.position).toList
      (A.right.statements.extract b.position d.position).toList := by
  have le_left : c.position ≤ A.left.statements.size := h'.left ▸ c.position_le
  have le_right : d.position ≤ A.right.statements.size := h'.right ▸ d.position_le
  have le_stop := h'.le_stop
  obtain ⟨i, ha, hb⟩ := h.apart
  obtain ⟨j, hc, hd⟩ := h'.apart
  refine List.forall₂_of_length_eq_of_get ?_ fun k hl hr => ?_
  · rw [Array.length_toList, Array.length_toList, Array.size_extract_of_le le_left,
      Array.size_extract_of_le le_right]
    omega
  · rw [Array.length_toList, Array.size_extract_of_le le_left] at hl
    rw [Array.length_toList, Array.size_extract_of_le le_right] at hr
    simp only [List.get_eq_getElem, Array.getElem_toList, Array.getElem_extract, ha, hb,
      Nat.add_assoc]
    exact A.alike_getElem (by omega) (by omega) (by omega)

theorem Outcomes.success {a b c d : Cursor} (h : A.Cursors a b) (h' : A.Cursors c d) :
    A.Outcomes (Verdict.success a c) (Verdict.success b d) := by
  have within : c.position ≤ a.slice.size := by
    rw [h.left, ← h'.left]
    exact c.position_le
  have within' : d.position ≤ b.slice.size := by
    rw [h.right, ← h'.right]
    exact d.position_le
  unfold Verdict.success Cursor.until?
  by_cases le : a.position ≤ c.position
  · have le' : b.position ≤ d.position := by
      obtain ⟨i, ha, hb⟩ := h.apart
      obtain ⟨j, hc, hd⟩ := h'.apart
      omega
    rw [if_pos ⟨le, within⟩, if_pos ⟨le', within'⟩]
    refine .answered ⟨?_, h', rfl, rfl, rfl⟩
    rw [h.left, h.right]
    exact forall₂_extract h h'
  · have gt : ¬ b.position ≤ d.position := by
      obtain ⟨i, ha, hb⟩ := h.apart
      obtain ⟨j, hc, hd⟩ := h'.apart
      omega
    rw [if_neg fun both => le both.1, if_neg fun both => gt both.1]
    exact .halted _

namespace Verdicts

variable {v w : Verdict}

theorem failure {a b : Cursor} (h : A.Cursors a b) (description : String) (progress : Nat) :
    A.Verdicts (.failure a description progress) (.failure b description progress) :=
  ⟨.nil, h, rfl, rfl, rfl⟩

theorem isEmpty_matched (h : A.Verdicts v w) : w.matched.isEmpty = v.matched.isEmpty := by
  have size : v.matched.size = w.matched.size := by
    simpa only [Array.length_toList] using h.matched.length_eq
  rw [Array.isEmpty, Array.isEmpty, size]

theorem forgiven (h : A.Verdicts v w) :
    A.Verdicts { v with failed := false } { w with failed := false } :=
  ⟨h.matched, h.rest, rfl, h.description, h.progress⟩

theorem refuseEmpty (h : A.Verdicts v w) (target : Structure) :
    A.Verdicts (v.refuseEmpty target) (w.refuseEmpty target) := by
  unfold Verdict.refuseEmpty
  rw [h.failed, h.isEmpty_matched, h.description]
  split
  · exact ⟨h.matched, h.rest, rfl, rfl, h.progress⟩
  · exact h

theorem consumed_eq (h : A.Verdicts v w) : w.consumed = v.consumed := by
  show w.matched.size = v.matched.size
  simpa only [Array.length_toList] using h.matched.length_eq.symm

end Verdicts

/-! ## Nodes -/

/-- The nodes are parallel from the starts on. -/
abbrev Nodes (A : Alignment) : Node → Node → Prop :=
  Node.Parallel A.alike A.leftStart A.rightStart

theorem Cursors.leaf {a b : Cursor} (h : A.Cursors a b) {s t : Statement} (alike : A.alike s t) :
    A.Nodes (.leaf s a.position) (.leaf t b.position) := by
  obtain ⟨i, ha, hb⟩ := h.apart
  rw [ha, hb]
  exact .leaf alike

/-! ## Contexts -/

variable {τ υ : Type}

/-- What is remembered of aligned runs. -/
structure Memos (A : Alignment) (m n : Memo) : Prop where
  verdict : A.Verdicts m.verdict n.verdict
  node : Option.Rel A.Nodes m.node n.node

/-- The contexts remember aligned results, if they remember any, and have got equally far. Fuel,
depth and tracers may differ. -/
structure Contexts (A : Alignment) (c : Context τ) (d : Context υ) : Prop where
  memoize : d.limits.memoize = c.limits.memoize
  furthest : d.furthest - A.rightStart = c.furthest - A.leftStart
  memos : ∀ (name : String) (i : Nat),
    Option.Rel A.Memos c.memos[(name, A.leftStart + i)]? d.memos[(name, A.rightStart + i)]?

namespace Contexts

variable {c : Context τ} {d : Context υ} {a b : Cursor}

theorem fresh {limits limits' : Limits} (memoize : limits'.memoize = limits.memoize) (tracer : τ)
    (tracer' : υ) : A.Contexts (.fresh limits tracer) (.fresh limits' tracer') where
  memoize := memoize
  furthest := (Nat.zero_sub _).trans (Nat.zero_sub _).symm
  memos _ _ := by
    rw [Context.fresh, Context.fresh, Std.HashMap.getElem?_empty, Std.HashMap.getElem?_empty]
    exact .none

theorem remembered? (h : A.Contexts c d) (place : A.Cursors a b) (target : Structure) :
    Option.Rel A.Memos (c.remembered? target a.position) (d.remembered? target b.position) := by
  obtain ⟨i, ha, hb⟩ := place.apart
  unfold Context.remembered?
  rw [h.memoize, ha, hb]
  split
  · exact h.memos target.name i
  · exact .none

theorem remember {m n : Memo} (h : A.Contexts c d) (place : A.Cursors a b) (target : Structure)
    (memos : A.Memos m n) :
    A.Contexts (c.remember target a.position m) (d.remember target b.position n) := by
  obtain ⟨i, ha, hb⟩ := place.apart
  unfold Context.remember
  rw [h.memoize, ha, hb]
  split
  · refine ⟨h.memoize, h.furthest, fun name j => ?_⟩
    rw [Std.HashMap.getElem?_insert, Std.HashMap.getElem?_insert]
    by_cases same : target.name = name ∧ i = j
    · obtain ⟨rfl, rfl⟩ := same
      simpa using memos
    · have left : ((target.name, A.leftStart + i) == (name, A.leftStart + j)) = false := by
        simpa using same
      have right : ((target.name, A.rightStart + i) == (name, A.rightStart + j)) = false := by
        simpa using same
      rw [left, right]
      exact h.memos name j
  · exact h

end Contexts

/-! ## Sites -/

/-- The sites have aligned contexts, and have grown aligned nodes on top of `base` and `base'`. -/
structure Sites (A : Alignment) (base base' : OpenNode) (site : Site τ) (site' : Site υ) :
    Prop where
  host : base'.target = base.target
  context : A.Contexts site.context site'.context
  grown : ∃ nodes nodes', site.node = base.grow nodes ∧ site'.node = base'.grow nodes' ∧
    List.Forall₂ A.Nodes nodes nodes'

namespace Sites

variable {base base' : OpenNode} {site after : Site τ} {site' after' : Site υ}

/-- Both sites as the beginning of what is grown next. -/
theorem rebase (h : A.Sites base base' site site') : A.Sites site.node site'.node site site' where
  host := by
    obtain ⟨nodes, nodes', node, node', _⟩ := h.grown
    rw [node, node', OpenNode.target_grow, OpenNode.target_grow, h.host]
  context := h.context
  grown := ⟨[], [], (OpenNode.grow_nil _).symm, (OpenNode.grow_nil _).symm, .nil⟩

/-- What is grown later is grown on top of what was there before. -/
theorem trans (h : A.Sites base base' site site')
    (later : A.Sites site.node site'.node after after') : A.Sites base base' after after' where
  host := h.host
  context := later.context
  grown := by
    obtain ⟨nodes, nodes', node, node', each⟩ := h.grown
    obtain ⟨more, more', after, after', eachMore⟩ := later.grown
    rw [node, OpenNode.grow_grow] at after
    rw [node', OpenNode.grow_grow] at after'
    exact ⟨_, _, after, after', List.rel_append each eachMore⟩

/-- Truncation drops all that was grown. -/
theorem truncate (h : A.Sites base base' site site') :
    A.Sites base base' (site.truncate base.size) (site'.truncate base'.size) where
  host := h.host
  context := ⟨h.context.memoize, h.context.furthest, h.context.memos⟩
  grown := by
    obtain ⟨nodes, nodes', node, node', _⟩ := h.grown
    refine ⟨[], [], ?_, ?_, .nil⟩
    · rw [Site.truncate, node, OpenNode.truncate_grow, OpenNode.grow_nil]
    · rw [Site.truncate, node', OpenNode.truncate_grow, OpenNode.grow_nil]

theorem push (h : A.Sites base base' site site') {node node' : Node} (nodes : A.Nodes node node') :
    A.Sites base base' (site.push node) (site'.push node') where
  host := h.host
  context := ⟨h.context.memoize, h.context.furthest, h.context.memos⟩
  grown := by
    obtain ⟨before, before', grown, grown', each⟩ := h.grown
    refine ⟨before ++ [node], before' ++ [node'], ?_, ?_, List.rel_append each (.cons nodes .nil)⟩
    · rw [Site.push, OpenNode.push_eq_grow, grown, OpenNode.grow_grow]
    · rw [Site.push, OpenNode.push_eq_grow, grown', OpenNode.grow_grow]

/-- The contexts may change where they need not agree. -/
theorem withContext (h : A.Sites base base' site site') {context : Context τ} {context' : Context υ}
    (contexts : A.Contexts context context') :
    A.Sites base base' { site with context } { site' with context := context' } :=
  ⟨h.host, contexts, h.grown⟩

/-- One structure further in, nothing else changes, and nothing else further out. -/
theorem descend (h : A.Sites base base' site site') :
    A.Sites base base' site.descend site'.descend :=
  h.withContext ⟨h.context.memoize, h.context.furthest, h.context.memos⟩

theorem ascend (h : A.Sites base base' site site') : A.Sites base base' site.ascend site'.ascend :=
  h.withContext ⟨h.context.memoize, h.context.furthest, h.context.memos⟩

theorem record [Tracer τ] [Tracer υ] (h : A.Sites base base' site site') (event event' : Event) :
    A.Sites base base' (site.record event) (site'.record event') :=
  h.withContext ⟨h.context.memoize, h.context.furthest, h.context.memos⟩

/-- A structure begins on a node of its own. -/
theorem enter (h : A.Sites base base' site site') (target : Structure) :
    A.Sites (.empty target) (.empty target) ⟨site.context, .empty target⟩
      ⟨site'.context, .empty target⟩ :=
  ⟨rfl, h.context, [], [], (OpenNode.grow_nil _).symm, (OpenNode.grow_nil _).symm, .nil⟩

theorem toNode {target : Structure} (h : A.Sites (.empty target) (.empty target) site site') :
    A.Nodes site.node.toNode site'.node.toNode := by
  obtain ⟨nodes, nodes', node, node', each⟩ := h.grown
  rw [node, node', OpenNode.toNode_grow_empty, OpenNode.toNode_grow_empty]
  exact .branch each

theorem withFuel (h : A.Sites base base' site site') (fuel fuel' : Nat) :
    A.Sites base base' (site.withFuel fuel) (site'.withFuel fuel') :=
  h.withContext ⟨h.context.memoize, h.context.furthest, h.context.memos⟩

/-- Matches begin at aligned sites. -/
theorem fresh {limits limits' : Limits} (memoize : limits'.memoize = limits.memoize) (tracer : τ)
    (tracer' : υ) (host : base'.target = base.target) :
    A.Sites base base' ⟨.fresh limits tracer, base⟩ ⟨.fresh limits' tracer', base'⟩ :=
  ⟨host, .fresh memoize _ _, [], [], (OpenNode.grow_nil _).symm, (OpenNode.grow_nil _).symm, .nil⟩

theorem reach (h : A.Sites base base' site site') {a b : Cursor} (place : A.Cursors a b) :
    A.Sites base base' (site.reach a.position) (site'.reach b.position) := by
  refine h.withContext ⟨h.context.memoize, ?_, h.context.memos⟩
  obtain ⟨i, ha, hb⟩ := place.apart
  have furthest := h.context.furthest
  show max _ _ - _ = max _ _ - _
  omega

end Sites

end Alignment

/-! ## One slice beside itself -/

/-- A slice beside itself, from the beginning on. -/
def Alignment.same (slice : Slice) (stop : Nat) : Alignment where
  alike := Eq
  kind_eq h := h ▸ rfl
  left := slice
  right := slice
  leftStart := 0
  rightStart := 0
  stop := stop
  aligned i _ := by
    cases slice.statements[0 + i]? with
    | none => exact .none
    | some statement => exact .some rfl

mutual

theorem Node.Parallel.eq {p : Nat} : ∀ {a b : Node}, Node.Parallel Eq p p a b → a = b
  | _, _, .leaf rfl => rfl
  | _, _, .branch each => by rw [Node.Parallel.all_eq each]

theorem Node.Parallel.all_eq {p : Nat} :
    ∀ {as bs : List Node}, List.Forall₂ (Node.Parallel Eq p p) as bs → as = bs
  | _, _, .nil => rfl
  | _, _, .cons first others => by rw [first.eq, Node.Parallel.all_eq others]

end

theorem Alignment.Cursors.eq {slice : Slice} {stop : Nat} {a b : Cursor}
    (h : (Alignment.same slice stop).Cursors a b) : a = b := by
  obtain ⟨i, ha, hb⟩ := h.apart
  exact Cursor.eq_of_position_eq (h.left.trans h.right.symm) (ha.trans hb.symm)

theorem Alignment.Verdicts.eq {slice : Slice} {stop : Nat} {v w : Verdict}
    (h : (Alignment.same slice stop).Verdicts v w) : v = w := by
  obtain ⟨matched, rest, failed, description, progress⟩ := h
  cases v with
  | mk matched₁ rest₁ failed₁ description₁ progress₁ =>
    cases w with
    | mk matched₂ rest₂ failed₂ description₂ progress₂ =>
      obtain rfl : rest₁ = rest₂ := rest.eq
      obtain rfl : failed₂ = failed₁ := failed
      obtain rfl : description₂ = description₁ := description
      obtain rfl : progress₂ = progress₁ := progress
      have matched : matched₁.toList = matched₂.toList := List.forall₂_eq_eq_eq ▸ matched
      obtain rfl := Array.toList_inj.1 matched
      rfl

end OrderedChoice
