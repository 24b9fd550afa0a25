import Mathlib.Data.List.Chain
import OrderedChoice.Proofs.Assurance

/-!
# What a validation says of loops

Each cycle that the search finds is a loop, and from every structure that leads back to itself the
search finds one. But of several loops that a structure leads to it finds a single one, and drops it
if an earlier one has a structure in common with it. So of each structure that leads back to itself
a validation reports some loop that it leads to (`exists_leftRecursion_of_returns`), which need not
be a loop that it is on (`validate_overlooks_loop`).
-/

namespace OrderedChoice

open Relation (ReflTransGen TransGen)

/-! ## Loops -/

/-- Each leads to the next, and the last to the first. -/
def IsLoop {α : Type} (edge : α → α → Prop) (loop : List α) : Prop :=
  loop ≠ [] ∧ List.IsChain edge (loop ++ loop.head?.toList)

namespace IsLoop

variable {α β : Type} {edge : α → α → Prop} {loop : List α} {a b : α}

/-- Everything on a loop leads to everything on it. -/
theorem reaches (h : IsLoop edge loop) (ha : a ∈ loop) (hb : b ∈ loop) : ReflTransGen edge a b := by
  obtain ⟨_, chain⟩ := h
  cases loop with
  | nil => cases ha
  | cons first others =>
    have chain : List.IsChain edge ((first :: others) ++ [first]) := chain
    have toFirst : ∀ c ∈ first :: others, ReflTransGen edge c first :=
      chain.backwards_concat_induction (ReflTransGen edge · first) _ (fun _ _ => .head) .refl
    have fromFirst : ∀ c ∈ (first :: others) ++ [first], ReflTransGen edge first c :=
      chain.induction (ReflTransGen edge first ·) _ (fun _ _ step path => .tail path step) fun _ =>
        .refl
    exact (toFirst a ha).trans (fromFirst b (List.mem_append_left _ hb))

/-- Everything on a loop leads back to itself. -/
theorem returns (h : IsLoop edge loop) (ha : a ∈ loop) : TransGen edge a a := by
  have chain := h.2
  cases loop with
  | nil => cases ha
  | cons first others =>
    have chain : List.IsChain edge (first :: (others ++ [first])) := chain
    obtain ⟨second, isSecond⟩ : ∃ second, (others ++ [first]).head? = some second := by
      cases others <;> exact ⟨_, rfl⟩
    have step : edge first second := chain.rel_head? isSecond
    have onLoop : second ∈ first :: others := by
      have member := List.mem_of_head? isSecond
      simpa [or_comm] using member
    have around : TransGen edge first first :=
      Relation.TransGen.head' step (h.reaches onLoop List.mem_cons_self)
    exact (Relation.TransGen.trans_right (h.reaches ha List.mem_cons_self) around).trans_left
      (h.reaches List.mem_cons_self ha)

theorem of_map {f : β → α} {loop : List β} (h : IsLoop edge (loop.map f)) :
    IsLoop (fun a b => edge (f a) (f b)) loop := by
  obtain ⟨nonempty, chain⟩ := h
  cases loop with
  | nil => exact absurd rfl nonempty
  | cons first others =>
    refine ⟨List.cons_ne_nil _ _, (List.isChain_map f).1 ?_⟩
    rw [List.map_append]
    exact chain

theorem imp_of_mem {edge' : α → α → Prop} (h : IsLoop edge loop)
    (imp : ∀ a ∈ loop, ∀ b ∈ loop, edge a b → edge' a b) : IsLoop edge' loop := by
  obtain ⟨nonempty, chain⟩ := h
  refine ⟨nonempty, chain.imp_of_mem_imp fun a b ha hb => ?_⟩
  have same : ∀ c ∈ loop ++ loop.head?.toList, c ∈ loop := by
    intro c member
    rcases List.mem_append.1 member with member | member
    · exact member
    · exact List.mem_of_head? (Option.mem_toList.1 member)
  exact imp a (same a ha) b (same b hb)

end IsLoop

/-! ## The search finds loops -/

variable {successors : String → List String} {start current name : String}
    {path cycle : List String}

/-- An edge leads to each successor. -/
abbrev EdgeOf (successors : String → List String) (a b : String) : Prop :=
  b ∈ successors a

/-- A name that follows the end of a path and is on it closes a loop. -/
theorem isLoop_pathFrom (onPath : name ∈ current :: path)
    (chain : List.IsChain (fun b a => b ∈ successors a) (current :: path))
    (follows : name ∈ successors current) :
    IsLoop (EdgeOf successors) (pathFrom name (current :: path)) := by
  obtain ⟨before, after, split, new⟩ := List.eq_append_cons_of_mem onPath
  have loop : pathFrom name (current :: path) = (before ++ [name]).reverse := by
    rw [pathFrom, split, List.takeWhile_append_of_pos, List.takeWhile_cons_of_neg, List.append_nil]
    · simp
    · intro other member
      have different : other ≠ name := by
        rintro rfl
        exact new member
      exact bne_iff_ne.2 different
  have head : (before ++ [name]).head? = some current := by
    cases before with
    | nil => exact congrArg some (List.cons.inj split).1.symm
    | cons first before => exact congrArg some (List.cons.inj split).1.symm
  rw [loop]
  refine ⟨by simp, ?_⟩
  rw [List.reverse_concat, List.head?_cons]
  rw [show (name :: before.reverse) ++ (some name).toList =
    (name :: (before ++ [name])).reverse by simp, List.isChain_reverse, List.isChain_cons, head]
  constructor
  · rintro _ ⟨⟩
    exact follows
  · rw [split, List.append_cons] at chain
    exact chain.left_of_append

/-- Whatever the search returns at the end of a path from `start` is a loop that `start` leads
to. -/
def FindsLoops (successors : String → List String) (start : String) (path : List String)
    (search : List String → List String → String → Option (List String) × List String) : Prop :=
  ∀ visited visited' name cycle, List.IsChain (fun b a => b ∈ successors a) (name :: path) →
    (∀ other ∈ name :: path, ReflTransGen (EdgeOf successors) start other) →
    search path visited name = (some cycle, visited') →
    IsLoop (EdgeOf successors) cycle ∧
      ∀ other ∈ cycle, ReflTransGen (EdgeOf successors) start other

/-- The cycle closes a path with a property: the end of the path is followed by a name on it. -/
def Closes (successors : String → List String) (holds : List String → Prop) (cycle : List String) :
    Prop :=
  ∃ current path name, holds (current :: path) ∧ name ∈ current :: path ∧
  name ∈ successors current ∧ cycle = pathFrom name (current :: path)

section Closes

variable {holds : List String → Prop}
  (grows : ∀ current path name, holds (current :: path) → name ∈ successors current →
    name ∉ current :: path →
    holds (name :: current :: path))

include grows

theorem followEdges_closes
    {search : List String → List String → String → Option (List String) × List String}
    (closes : ∀ visited visited' name cycle, holds (name :: current :: path) →
      search (current :: path) visited name = (some cycle, visited') →
      Closes successors holds cycle) (before : holds (current :: path)) :
    ∀ names visited visited', names ⊆ successors current →
      followEdges search (current :: path) visited names = (some cycle, visited') →
      Closes successors holds cycle := by
  intro names
  induction names with
  | nil =>
    intro visited visited' _ h
    cases h
  | cons name names ih =>
    intro visited visited' subset h
    obtain ⟨follows, subset⟩ := List.cons_subset.1 subset
    rw [followEdges] at h
    by_cases onPath : (current :: path).contains name = true
    · rw [if_pos onPath] at h
      obtain ⟨found, _⟩ := Prod.mk.inj h
      exact ⟨current, path, name, before, List.contains_iff_mem.1 onPath, follows,
        (Option.some.inj found).symm⟩
    · rw [if_neg onPath] at h
      have notOnPath : name ∉ current :: path :=
        fun member => onPath (List.contains_iff_mem.2 member)
      cases found : search (current :: path) visited name with
      | mk outcome middle =>
        rw [found] at h
        cases outcome with
        | some cycle' =>
          obtain ⟨same, _⟩ := Prod.mk.inj h
          obtain rfl := Option.some.inj same
          exact closes visited middle name _ (grows current path name before follows notOnPath)
            found
        | none => exact ih middle visited' subset h

/-- What the search returns closes a path with any property that paths keep as they grow. -/
theorem searchCycle_closes (fuel : Nat) : ∀ path visited visited' name cycle, holds (name :: path) →
    searchCycle successors fuel path visited name = (some cycle, visited') →
    Closes successors holds cycle := by
  induction fuel with
  | zero =>
    intro path visited visited' name cycle _ h
    cases h
  | succ fuel ih =>
    intro path visited visited' name cycle before h
    rw [searchCycle] at h
    by_cases known : visited.contains name = true
    · rw [if_pos known] at h
      cases h
    · rw [if_neg known] at h
      exact followEdges_closes grows (ih (name :: path)) before _ _ _ (List.Subset.refl _) h

end Closes

theorem searchCycle_finds (fuel : Nat) :
    ∀ path, FindsLoops successors start path (searchCycle successors fuel) := by
  intro path visited visited' name cycle chain reached h
  let holds (path : List String) : Prop := List.IsChain (fun b a => b ∈ successors a) path ∧
    ∀ other ∈ path, ReflTransGen (EdgeOf successors) start other
  have grows : ∀ current path name, holds (current :: path) → name ∈ successors current →
      name ∉ current :: path → holds (name :: current :: path) := by
    rintro current path name ⟨chain, reached⟩ follows _
    exact ⟨chain.cons_cons follows,
      List.forall_mem_cons.2 ⟨(reached current List.mem_cons_self).tail follows, reached⟩⟩
  obtain ⟨current, before, next, ⟨chain, reached⟩, onPath, follows, rfl⟩ :=
    searchCycle_closes grows fuel path visited visited' name cycle ⟨chain, reached⟩ h
  refine ⟨isLoop_pathFrom onPath chain follows, fun other member => reached other ?_⟩
  rw [pathFrom, List.mem_reverse] at member
  rcases List.mem_append.1 member with member | member
  · exact List.takeWhile_subset _ member
  · rwa [List.mem_singleton.1 member]

/-! ## Of the cycles found, enough are kept -/

section Disjoint

variable {find : String → Option (List String)}

theorem exists_of_mem_disjointCycles {starts covered : List String}
    (member : cycle ∈ disjointCycles find covered starts) :
    ∃ start ∈ starts, find start = some cycle := by
  induction starts generalizing covered with
  | nil => cases member
  | cons start starts ih =>
    have later : ∀ {covered}, cycle ∈ disjointCycles find covered starts →
        ∃ start' ∈ start :: starts, find start' = some cycle := by
      intro covered member
      obtain ⟨start', member, found⟩ := ih member
      exact ⟨start', List.mem_cons_of_mem _ member, found⟩
    rw [disjointCycles] at member
    split at member
    · exact later member
    · cases found : find start with
      | none =>
        rw [found] at member
        exact later member
      | some found' =>
        rw [found] at member
        simp only at member
        split at member
        · exact later member
        · rcases List.mem_cons.1 member with rfl | member
          · exact ⟨start, List.mem_cons_self, found⟩
          · exact later member

/-- A cycle that is found is dropped only if its start, or a name on it, is covered by one that is
kept. -/
theorem disjointCycles_meets {starts : List String} (member : start ∈ starts)
    (found : find start = some cycle) (nonempty : cycle ≠ []) : ∀ covered, ∃ name ∈ start :: cycle,
      name ∈ covered ∨ ∃ kept ∈ disjointCycles find covered starts, name ∈ kept := by
  induction starts with
  | nil => cases member
  | cons first starts ih =>
    intro covered
    rw [disjointCycles]
    rcases List.mem_cons.1 member with rfl | member
    · by_cases onKept : covered.contains start = true
      · exact ⟨start, List.mem_cons_self, .inl (List.contains_iff_mem.1 onKept)⟩
      · rw [if_neg onKept, found]
        by_cases meets : cycle.any covered.contains = true
        · obtain ⟨name, onCycle, onKept⟩ := List.any_eq_true.1 meets
          exact ⟨name, List.mem_cons_of_mem _ onCycle, .inl (List.contains_iff_mem.1 onKept)⟩
        · obtain ⟨name, onCycle⟩ := List.exists_mem_of_ne_nil cycle nonempty
          simp only [if_neg meets]
          exact ⟨name, List.mem_cons_of_mem _ onCycle, .inr ⟨cycle, List.mem_cons_self, onCycle⟩⟩
    · split
      · exact ih member covered
      · cases foundFirst : find first with
        | none => exact ih member covered
        | some other =>
          simp only
          split
          · exact ih member covered
          · obtain ⟨name, onCycle, meets⟩ := ih member (covered ++ other)
            refine ⟨name, onCycle, ?_⟩
            rcases meets with onKept | ⟨kept, isKept, onKept⟩
            · rcases List.mem_append.1 onKept with onKept | onKept
              · exact .inl onKept
              · exact .inr ⟨other, List.mem_cons_self, onKept⟩
            · exact .inr ⟨kept, List.mem_cons_of_mem _ isKept, onKept⟩

end Disjoint

/-- From where every path comes to an end, none leads back. -/
theorem Grounded.not_returns (h : Grounded successors name) :
    ¬ TransGen (EdgeOf successors) name name := by
  induction h with
  | intro name _ ih =>
    intro returns
    obtain ⟨next, step, path⟩ := Relation.TransGen.head'_iff.1 returns
    exact ih next step (Relation.TransGen.tail'_iff.2 ⟨name, path, step⟩)

namespace NameGraph

variable {graph : NameGraph}

theorem isLoop_of_cycleFrom? (found : graph.cycleFrom? start = some cycle) :
    IsLoop graph.Edge cycle ∧ ∀ name ∈ cycle, ReflTransGen graph.Edge start name := by
  refine searchCycle_finds _ [] [] _ start cycle (.singleton _) ?_ (Prod.ext found rfl)
  intro other member
  rw [List.mem_singleton.1 member]

/-- If a name leads back to itself, it leads to a loop among the cycles of the graph. -/
theorem exists_loop (member : start ∈ graph.map (·.1)) (returns : TransGen graph.Edge start start) :
    ∃ cycle ∈ graph.cycles, IsLoop graph.Edge cycle ∧
    ∀ name ∈ cycle, ReflTransGen graph.Edge start name := by
  cases found : graph.cycleFrom? start with
  | none => exact absurd returns (grounded_of_cycleFrom?_eq_none found member).not_returns
  | some cycle =>
    obtain ⟨loop, reached⟩ := isLoop_of_cycleFrom? found
    obtain ⟨name, met, onKept⟩ := disjointCycles_meets member found loop.1 []
    obtain ⟨kept, isKept, onKept⟩ := onKept.resolve_left List.not_mem_nil
    obtain ⟨start', _, found'⟩ := exists_of_mem_disjointCycles isKept
    have keptLoop := (isLoop_of_cycleFrom? found').1
    have toName : ReflTransGen graph.Edge start name := by
      rcases List.mem_cons.1 met with rfl | onCycle
      · exact .refl
      · exact reached name onCycle
    exact ⟨kept, isKept, keptLoop, fun other onKept' =>
      toName.trans (keptLoop.reaches onKept onKept')⟩

end NameGraph

/-! ## Loops of structures -/

variable {g : Grammar} {registry : Registry} {root s t : Structure} {reachable : List Structure}
  {bodies : List (String × Matcher)} {findings : Diagnostics}

/-- One of the structures that a validation looks at can start with another: its body can enter a
structure of that name before any statement is consumed. -/
def Registry.CanStartWith (registry : Registry) (g : Grammar) (root s t : Structure) : Prop :=
  registry.Knows g root s ∧ registry.Knows g root t ∧
    ∃ m, g.body s = .ok m ∧ t.name ∈ m.leading.map (·.name)

namespace Validated

variable (named : ∀ s t, registry.Knows g root s → registry.Knows g root t →
    s.name = t.name → s = t)

include named

theorem canStartWith_iff (h : Validated registry g root findings reachable bodies)
    (wellFormed : ∀ s, registry.Knows g root s → ∃ m, g.body s = .ok m)
    (hs : registry.Knows g root s) (ht : registry.Knows g root t) :
    registry.CanStartWith g root s t ↔ (leadingGraph bodies).Edge s.name t.name := by
  obtain ⟨m, body⟩ := wellFormed s hs
  rw [NameGraph.Edge, h.successors_eq named hs body, List.mem_eraseDups]
  constructor
  · rintro ⟨_, _, m', body', member⟩
    obtain rfl := Except.ok.inj (body.symm.trans body')
    exact member
  · exact fun member => ⟨hs, ht, m, body, member⟩

/-- What has an edge in the graph is the name of a known structure. -/
theorem exists_of_edge (h : Validated registry g root findings reachable bodies) {a b : String}
    (edge : (leadingGraph bodies).Edge a b) : ∃ s, registry.Knows g root s ∧ s.name = a := by
  obtain ⟨targets, inGraph, _⟩ := NameGraph.exists_of_mem_successors edge
  obtain ⟨⟨name, m⟩, member, same⟩ := List.mem_map.1 inGraph
  obtain ⟨rfl, _⟩ := Prod.mk.inj same
  obtain ⟨s, known, isName, _⟩ := h.exists_of_mem_bodies named member
  exact ⟨s, known, isName⟩

/-- Paths between the names of known structures are paths between these. -/
theorem reaches_of_path (h : Validated registry g root findings reachable bodies)
    (wellFormed : ∀ s, registry.Knows g root s → ∃ m, g.body s = .ok m) {name : String}
    (path : ReflTransGen (leadingGraph bodies).Edge name t.name) (ht : registry.Knows g root t) :
    ∀ s, registry.Knows g root s → s.name = name →
    ReflTransGen (registry.CanStartWith g root) s t := by
  induction path using Relation.ReflTransGen.head_induction_on with
  | refl =>
    intro s hs same
    rw [named s t hs ht same]
  | @head a b step later ih =>
    rintro s hs rfl
    obtain ⟨next, known, isNext⟩ : ∃ next, registry.Knows g root next ∧ next.name = b := by
      rcases later.cases_head with rfl | ⟨c, step', _⟩
      · exact ⟨t, ht, rfl⟩
      · exact h.exists_of_edge named step'
    subst isNext
    exact .head ((h.canStartWith_iff named wellFormed hs known).2 step) (ih next known rfl)

/-- The names along a path are a path. -/
theorem path_of_path (h : Validated registry g root findings reachable bodies)
    (wellFormed : ∀ s, registry.Knows g root s → ∃ m, g.body s = .ok m)
    (path : TransGen (registry.CanStartWith g root) s t) :
    TransGen (leadingGraph bodies).Edge s.name t.name := by
  refine Relation.TransGen.lift Structure.name (fun a b step => ?_) s t path
  exact (h.canStartWith_iff named wellFormed step.1 step.2.1).1 step

end Validated

/-- A list whose members all come from somewhere comes from a list. -/
theorem exists_map_eq {α β : Type} {f : α → β} {holds : α → Prop} {ys : List β}
    (each : ∀ y ∈ ys, ∃ x, holds x ∧ f x = y) :
    ∃ xs : List α, xs.map f = ys ∧ ∀ x ∈ xs, holds x := by
  induction ys with
  | nil => exact ⟨[], rfl, nofun⟩
  | cons y ys ih =>
    obtain ⟨⟨x, first, rfl⟩, others⟩ := List.forall_mem_cons.1 each
    obtain ⟨xs, rfl, later⟩ := ih others
    exact ⟨x :: xs, rfl, List.forall_mem_cons.2 ⟨first, later⟩⟩

/-- The names on a cycle are those of the structures on a loop. -/
theorem Validated.exists_loop_of_mem_cycles
    (h : Validated registry g root findings reachable bodies)
    (named : ∀ s t, registry.Knows g root s → registry.Knows g root t → s.name = t.name → s = t)
    (wellFormed : ∀ s, registry.Knows g root s → ∃ m, g.body s = .ok m) {cycle : List String}
    (isCycle : cycle ∈ (leadingGraph bodies).cycles) :
    ∃ loop : List Structure,
      (IsLoop (registry.CanStartWith g root) loop ∧ ∀ s ∈ loop, registry.Knows g root s) ∧
      loop.map (·.name) = cycle := by
  obtain ⟨_, _, found⟩ := exists_of_mem_disjointCycles isCycle
  have loop := (NameGraph.isLoop_of_cycleFrom? found).1
  -- a name on a cycle has an edge, so it is that of a known structure
  have knownNames : ∀ name ∈ cycle, ∃ t, registry.Knows g root t ∧ t.name = name := by
    intro name onCycle
    obtain ⟨_, step, _⟩ := Relation.TransGen.head'_iff.1 (loop.returns onCycle)
    exact h.exists_of_edge named step
  obtain ⟨structures, rfl, known⟩ := exists_map_eq knownNames
  refine ⟨structures, ⟨loop.of_map.imp_of_mem fun a ha b hb step => ?_, known⟩, rfl⟩
  exact (h.canStartWith_iff named wellFormed (known a ha) (known b hb)).2 step

/-- Of each structure that leads back to itself a loop is reported that it leads to. If all loops
that it leads to lead back to it, that loop is one of its own component. -/
theorem exists_leftRecursion_of_returns (registered : registry.get? root.name = some root)
    (named : ∀ s t, registry.Knows g root s → registry.Knows g root t → s.name = t.name → s = t)
    (wellFormed : ∀ s, registry.Knows g root s → ∃ m, g.body s = .ok m) :
    ∃ findings, registry.validate g root.name = .ok findings ∧
      ∀ s, TransGen (registry.CanStartWith g root) s s →
        ∃ loop : List Structure, IsLoop (registry.CanStartWith g root) loop ∧
          (Diagnostic.about .leftRecursion none).withDetail
            (chainText (loop.map (·.name))) ∈ findings.entries ∧
          (∀ t ∈ loop, ReflTransGen (registry.CanStartWith g root) s t) ∧
          ((∀ t, ReflTransGen (registry.CanStartWith g root) s t →
            TransGen (registry.CanStartWith g root) t t →
              ReflTransGen (registry.CanStartWith g root) t s) →
            ∀ t ∈ loop, ReflTransGen (registry.CanStartWith g root) t s) := by
  obtain ⟨findings, validated⟩ := exists_validate registered named wellFormed
  obtain ⟨reachable, bodies, valid⟩ := validated_of_validate registered validated
  refine ⟨findings, validated, fun s returns => ?_⟩
  obtain ⟨_, ⟨known, _, m, body, _⟩, _⟩ := Relation.TransGen.head'_iff.1 returns
  obtain ⟨cycle, isCycle, _, reached⟩ :=
    NameGraph.exists_loop (valid.name_mem_graph named known body)
      (valid.path_of_path named wellFormed returns)
  obtain ⟨structures, ⟨isLoop, knownAll⟩, rfl⟩ :=
    valid.exists_loop_of_mem_cycles named wellFormed isCycle
  have leads : ∀ t ∈ structures, ReflTransGen (registry.CanStartWith g root) s t := fun t onLoop =>
    valid.reaches_of_path named wellFormed (reached t.name (List.mem_map_of_mem onLoop))
      (knownAll t onLoop) s
      known rfl
  refine ⟨structures, isLoop, ?_, leads, fun back t onLoop =>
    back t (leads t onLoop) (isLoop.returns onLoop)⟩
  rw [valid.entries]
  exact List.mem_map.2 ⟨_, List.mem_append_right _ (List.mem_map_of_mem isCycle), rfl⟩

/-! ## Two loops -/

def alpha : Structure :=
  ⟨"alpha", "Alpha"⟩

def beta : Structure :=
  ⟨"beta", "Beta"⟩

/-- Both structures can start with themselves, and the second one can start with the first one
too. -/
def twoLoops : Grammar :=
  ⟨[⟨alpha, .ok (.choice (.sequence (.sub alpha) (.statement ⟨"x"⟩) []) (.statement ⟨"x"⟩) [])⟩,
    ⟨beta, .ok (.choice (.sub alpha) (.sequence (.sub beta) (.statement ⟨"y"⟩) []) [])⟩]⟩

def alphaBeta : Registry :=
  ⟨[alpha, beta], by decide⟩

theorem successors_twoLoops :
    ∀ s ∈ [alpha, beta], twoLoops.successors s ⊆ [alpha, beta] := by decide

theorem eq_of_knows_alphaBeta (known : alphaBeta.Knows twoLoops beta s) : s = alpha ∨ s = beta :=
  List.mem_pair.1 (Registry.mem_of_knows (by decide) (List.Subset.refl _) successors_twoLoops known)

theorem named_alphaBeta : ∀ s t, alphaBeta.Knows twoLoops beta s → alphaBeta.Knows twoLoops beta t →
    s.name = t.name → s = t :=
  Registry.named_of_nodup (by decide) (List.Subset.refl _) successors_twoLoops (by decide)

theorem wellFormed_alphaBeta (s : Structure) (known : alphaBeta.Knows twoLoops beta s) :
    ∃ m, twoLoops.body s = .ok m := by
  rcases eq_of_knows_alphaBeta known with rfl | rfl <;> exact ⟨_, rfl⟩

theorem returns_beta : TransGen (alphaBeta.CanStartWith twoLoops beta) beta beta :=
  .single ⟨.inl .refl, .inl .refl, _, rfl, by decide⟩

/-- A loop is reported that the second structure leads to. -/
theorem exists_leftRecursion_of_returns_beta :
    ∃ findings, alphaBeta.validate twoLoops beta.name = .ok findings ∧
      ∃ loop : List Structure, IsLoop (alphaBeta.CanStartWith twoLoops beta) loop ∧
        (Diagnostic.about .leftRecursion none).withDetail
          (chainText (loop.map (·.name))) ∈ findings.entries := by
  have registered : alphaBeta.get? beta.name = some beta := rfl
  obtain ⟨findings, validated, reports⟩ :=
    exists_leftRecursion_of_returns registered named_alphaBeta wellFormed_alphaBeta
  obtain ⟨loop, isLoop, reported, _⟩ := reports beta returns_beta
  exact ⟨findings, validated, loop, isLoop, reported⟩

/-- The first structure leads to itself only. -/
theorem eq_alpha_of_reaches {t : Structure}
    (path : ReflTransGen (alphaBeta.CanStartWith twoLoops beta) alpha t) :
    t = alpha := by
  induction path with
  | refl => rfl
  | tail _ step ih =>
    subst ih
    obtain ⟨known, knownToo, m, body, member⟩ := step
    obtain rfl := Except.ok.inj ((rfl : twoLoops.body alpha = _).symm.trans body)
    exact (named_alphaBeta _ _ known knownToo (List.mem_singleton.1 member).symm).symm

/-- A chain starts with the name of its first structure. -/
theorem exists_chainText_cons (name : String) (names : List String) :
    ∃ more, chainText (name :: names) = "`" ++ name ++ "`" ++ more := by
  have nonempty : (names ++ [name]).map (fun name => "`" ++ name ++ "`") ≠ [] := by simp
  refine ⟨" -> " ++ " -> ".intercalate ((names ++ [name]).map fun name => "`" ++ name ++ "`"), ?_⟩
  rw [← String.append_assoc, ← String.intercalate_cons_of_ne_nil nonempty]
  rfl

/-- Of the loop that the second structure is on, none is reported: the search goes to the first
structure first, and finds only the loop there, which was found before. -/
theorem validate_overlooks_loop :
    ∃ findings, alphaBeta.validate twoLoops beta.name = .ok findings ∧
      TransGen (alphaBeta.CanStartWith twoLoops beta) beta beta ∧
      ¬ ∃ loop : List Structure, IsLoop (alphaBeta.CanStartWith twoLoops beta) loop ∧
        (∀ t ∈ loop, ReflTransGen (alphaBeta.CanStartWith twoLoops beta) beta t ∧
          ReflTransGen (alphaBeta.CanStartWith twoLoops beta) t beta) ∧
        (Diagnostic.about .leftRecursion none).withDetail
          (chainText (loop.map (·.name))) ∈ findings.entries := by
  refine ⟨⟨[(Diagnostic.about .leftRecursion none).withDetail (chainText [alpha.name])]⟩, rfl,
    returns_beta, ?_⟩
  rintro ⟨loop, isLoop, component, reported⟩
  cases loop with
  | nil => exact isLoop.1 rfl
  | cons first others =>
    obtain ⟨leads, leadsBack⟩ := component first List.mem_cons_self
    have isBeta : first = beta := by
      rcases leads.cases_tail with rfl | ⟨_, _, _, known, _⟩
      · rfl
      · rcases eq_of_knows_alphaBeta known with rfl | rfl
        · exact absurd (eq_alpha_of_reaches leadsBack) (by decide)
        · rfl
    subst isBeta
    -- the reported chain starts with the other name
    obtain ⟨more, isText⟩ := exists_chainText_cons beta.name (others.map (·.name))
    obtain ⟨more', isText'⟩ := exists_chainText_cons alpha.name []
    have same : ("left recursion: " ++ chainText (beta.name :: others.map (·.name)) ++ "").toList =
        ("left recursion: " ++ chainText [alpha.name] ++ "").toList :=
      congrArg (fun entry : Diagnostic => entry.message.toList) (List.mem_singleton.1 reported)
    rw [isText, isText'] at same
    simp [alpha, beta] at same

end OrderedChoice
