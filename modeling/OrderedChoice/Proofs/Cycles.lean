import OrderedChoice.Validation

/-!
# The search for cycles misses none

Where the search finds no cycle, every path comes to an end. The search keeps an invariant: each
name it has visited is still on the path or is grounded.
-/

namespace OrderedChoice

/-- Every path from the name comes to an end. -/
def Grounded (successors : String → List String) (name : String) : Prop :=
  Acc (fun b a => b ∈ successors a) name

/-- The names visited are on the path or grounded. -/
def Explored (successors : String → List String) (path visited : List String) : Prop :=
  ∀ name ∈ visited, name ∈ path ∨ Grounded successors name

/-- A search on a path that finds nothing has explored the name it starts from, if that is one of
the given nodes. -/
def Explores (successors : String → List String) (nodes path : List String)
    (search : List String → List String → String → Option (List String) × List String) : Prop :=
  ∀ visited visited' name, name ∈ nodes → name ∉ path → Explored successors path visited →
    search path visited name = (none, visited') → Grounded successors name ∧
    Explored successors path visited'

variable {successors : String → List String} {nodes path : List String}

theorem followEdges_none
    {search : List String → List String → String → Option (List String) × List String}
    (explores : Explores successors nodes path search) :
    ∀ names visited visited', names ⊆ nodes → Explored successors path visited →
      followEdges search path visited names = (none, visited') →
      (∀ name ∈ names, Grounded successors name) ∧ Explored successors path visited' := by
  intro names
  induction names with
  | nil =>
    intro visited visited' _ explored h
    rw [followEdges] at h
    obtain ⟨_, rfl⟩ := Prod.mk.inj h
    exact ⟨nofun, explored⟩
  | cons name names ih =>
    intro visited visited' subset explored h
    obtain ⟨member, subset⟩ := List.cons_subset.1 subset
    rw [followEdges] at h
    by_cases onPath : path.contains name = true
    · rw [if_pos onPath] at h
      cases (Prod.mk.inj h).1
    · rw [if_neg onPath] at h
      have notOnPath : name ∉ path := fun member => onPath (List.contains_iff_mem.2 member)
      cases found : search path visited name with
      | mk cycle middle =>
        rw [found] at h
        cases cycle with
        | some cycle => cases (Prod.mk.inj h).1
        | none =>
          obtain ⟨grounded, explored⟩ :=
            explores visited middle name member notOnPath explored found
          obtain ⟨others, explored⟩ := ih middle visited' subset explored h
          exact ⟨List.forall_mem_cons.2 ⟨grounded, others⟩, explored⟩

/-- With fuel for the nodes that are not on the path, the search explores the name it starts
from. -/
theorem searchCycle_explores (closed : ∀ a, successors a ⊆ nodes) (fuel : Nat) :
    ∀ path : List String, path.Nodup → path ⊆ nodes → nodes.length < path.length + fuel →
      Explores successors nodes path (searchCycle successors fuel) := by
  induction fuel with
  | zero =>
    intro path nodup subset enough
    exact absurd (nodup.length_le_of_subset subset) (Nat.not_le.2 enough)
  | succ fuel ih =>
    intro path nodup subset enough visited visited' name member notOnPath explored h
    rw [searchCycle] at h
    by_cases known : visited.contains name = true
    · rw [if_pos known] at h
      obtain ⟨_, rfl⟩ := Prod.mk.inj h
      exact ⟨(explored name (List.contains_iff_mem.1 known)).resolve_left notOnPath, explored⟩
    · rw [if_neg known] at h
      have inner : Explores successors nodes (name :: path) (searchCycle successors fuel) := by
        refine ih (name :: path) (List.nodup_cons.2 ⟨notOnPath, nodup⟩)
          (List.cons_subset.2 ⟨member, subset⟩) ?_
        rw [List.length_cons]
        omega
      have entered : Explored successors (name :: path) (name :: visited) := by
        intro other member
        rcases List.mem_cons.1 member with rfl | member
        · exact .inl List.mem_cons_self
        · exact (explored other member).imp_left (List.mem_cons_of_mem _)
      obtain ⟨others, explored'⟩ := followEdges_none inner _ _ visited' (closed name) entered h
      -- all that follows the name is grounded, so the name is, and it may leave the path
      have grounded : Grounded successors name := Acc.intro name others
      refine ⟨grounded, fun other member => ?_⟩
      rcases explored' other member with onPath | grounded'
      · rcases List.mem_cons.1 onPath with rfl | onPath
        · exact .inr grounded
        · exact .inl onPath
      · exact .inr grounded'

/-- If there are no disjoint cycles, there is none from any start. -/
theorem eq_none_of_disjointCycles_eq_nil {find : String → Option (List String)} :
    ∀ {starts : List String}, disjointCycles find [] starts = [] → ∀ start ∈ starts,
    find start = none := by
  intro starts
  induction starts with
  | nil => exact fun _ => nofun
  | cons start starts ih =>
    intro h
    rw [disjointCycles, if_neg (by simp)] at h
    cases found : find start with
    | none =>
      rw [found] at h
      exact List.forall_mem_cons.2 ⟨found, ih h⟩
    | some cycle =>
      rw [found] at h
      simp at h

namespace NameGraph

variable {graph : NameGraph}

theorem exists_of_mem_successors {name other : String} (member : other ∈ graph.successors name) :
    ∃ targets, (name, targets) ∈ graph ∧ other ∈ targets := by
  rw [successors] at member
  cases found : graph.lookup name with
  | none =>
    rw [found] at member
    cases member
  | some targets =>
    rw [found] at member
    obtain ⟨before, after, split, _⟩ := List.lookup_eq_some_iff.1 found
    exact ⟨targets, by simp [split], member⟩

theorem successors_subset (name : String) : graph.successors name ⊆ graph.flatMap (·.2) := by
  intro other member
  obtain ⟨targets, inGraph, member⟩ := exists_of_mem_successors member
  exact List.mem_flatMap.2 ⟨(name, targets), inGraph, member⟩

/-- The cycle that the search finds from a name. -/
def cycleFrom? (graph : NameGraph) (name : String) : Option (List String) :=
  (searchCycle graph.successors
    ((graph.map (·.1)).length + (graph.flatMap (·.2)).length + 1) [] [] name).1

/-- If no cycle is found from a name, every path from there comes to an end. -/
theorem grounded_of_cycleFrom?_eq_none {name : String} (acyclic : graph.cycleFrom? name = none)
    (member : name ∈ graph.map (·.1)) : Grounded graph.successors name := by
  let nodes := graph.map (·.1) ++ graph.flatMap (·.2)
  have closed : ∀ a, graph.successors a ⊆ nodes :=
    fun a => List.subset_append_of_subset_right _ (successors_subset a)
  have enough : nodes.length < ([] : List String).length +
      ((graph.map (·.1)).length + (graph.flatMap (·.2)).length + 1) := by
    rw [List.length_append, List.length_nil]
    omega
  have explores := searchCycle_explores closed _ [] List.nodup_nil (List.nil_subset _) enough
  exact (explores [] _ name (List.mem_append_left _ member) List.not_mem_nil (by nofun)
    (Prod.ext acyclic rfl)).1

/-- In a graph without cycles every path comes to an end. -/
theorem grounded_of_cycles_eq_nil (h : graph.cycles = []) {name : String}
    (member : name ∈ graph.map (·.1)) : Grounded graph.successors name :=
  grounded_of_cycleFrom?_eq_none (eq_none_of_disjointCycles_eq_nil h name member) member

end NameGraph

end OrderedChoice
