import Mathlib.Data.List.Nodup
import Mathlib.Data.Set.Finite.Basic
import OrderedChoice.Validation

/-!
# The search for reachable structures

Where the names of the structures that a root reaches are distinct, the search finds each of them
and nothing else (`mem_reachable_iff`). Its fuel is enough because it never has two structures of
one name in hand, and all but the root are referred to by some rule.
-/

namespace OrderedChoice

variable {g : Grammar} {root : Structure} {visited pending result : List Structure}

/-! ## Adding structures of new names -/

theorem addUnknown_subset :
    ∀ (known targets : List Structure), addUnknown known targets ⊆ targets := by
  intro known targets
  induction targets generalizing known with
  | nil => exact List.Subset.refl _
  | cons target targets ih =>
    rw [addUnknown]
    split
    · exact List.subset_cons_of_subset _ (ih known)
    · exact List.cons_subset_cons _ (ih _)

/-- The names stay distinct. -/
theorem nodup_addUnknown : ∀ (known targets : List Structure), (known.map (·.name)).Nodup →
    ((known ++ addUnknown known targets).map (·.name)).Nodup := by
  intro known targets
  induction targets generalizing known with
  | nil =>
    intro nodup
    rwa [addUnknown, List.append_nil]
  | cons target targets ih =>
    intro nodup
    rw [addUnknown]
    split
    · exact ih known nodup
    · rename_i unknown
      rw [List.append_cons]
      refine ih _ ?_
      rw [List.map_append, List.map_singleton, List.nodup_append]
      refine ⟨nodup, List.nodup_singleton _, ?_⟩
      rintro a ha b hb rfl
      exact unknown (List.contains_iff_mem.2 (List.mem_singleton.1 hb ▸ ha))

/-- Afterwards every name is known. -/
theorem name_mem_addUnknown : ∀ (known targets : List Structure), ∀ t ∈ targets,
    t.name ∈ (known ++ addUnknown known targets).map (·.name) := by
  intro known targets
  induction targets generalizing known with
  | nil => exact fun _ => nofun
  | cons target targets ih =>
    rw [addUnknown]
    split
    · rename_i old
      refine List.forall_mem_cons.2 ⟨?_, ih known⟩
      rw [List.map_append]
      exact List.mem_append_left _ (List.contains_iff_mem.1 old)
    · rw [List.append_cons]
      refine List.forall_mem_cons.2 ⟨?_, ih _⟩
      exact List.mem_map_of_mem
        (List.mem_append_left _ (List.mem_append_right _ List.mem_cons_self))

/-! ## Structures that rules refer to -/

namespace Grammar

/-- The structures that the rules refer to. -/
def referenced (g : Grammar) : List Structure :=
  g.rules.flatMap fun rule => match rule.body with
    | .ok m => m.references
    | .error _ => []

theorem length_referenced : g.referenced.length = g.referenceCount := rfl

theorem successors_eq_of_body {s : Structure} {m : Matcher} (h : g.body s = .ok m) :
    g.successors s = m.references := by
  rw [successors, h]

theorem successors_subset_referenced (s : Structure) : g.successors s ⊆ g.referenced := by
  intro t member
  rw [successors, body, rule?] at member
  cases found : g.rules.find? (·.target.id = s.id) with
  | none =>
    rw [found] at member
    cases member
  | some rule =>
    rw [found] at member
    exact List.mem_flatMap.2 ⟨rule, List.mem_of_find?_eq_some found, member⟩

theorem Reaches.mem_referenced {s : Structure} (h : g.Reaches root s) :
    s ∈ root :: g.referenced := by
  cases h with
  | refl => exact List.mem_cons_self
  | step _ member => exact List.mem_cons_of_mem _ (successors_subset_referenced _ member)

/-- A root reaches finitely many structures. -/
theorem finite_reaches (g : Grammar) (root : Structure) : {s | g.Reaches root s}.Finite :=
  (List.finite_toSet (root :: g.referenced)).subset fun _ h => h.mem_referenced

end Grammar

/-! ## The search -/

@[simp] theorem exploreFrom_nil (fuel : Nat) : exploreFrom g fuel visited [] = .ok visited := by
  cases fuel <;> rfl

/-- What is in hand comes first in the result. -/
theorem exploreFrom_isPrefix {fuel : Nat} (h : exploreFrom g fuel visited pending = .ok result) :
    visited ++ pending <+: result := by
  induction fuel generalizing visited pending with
  | zero =>
    cases pending with
    | nil =>
      obtain rfl := Except.ok.inj ((exploreFrom_nil 0).symm.trans h)
      rw [List.append_nil]
    | cons target pending => rw [Except.ok.inj h]
  | succ fuel ih =>
    cases pending with
    | nil =>
      obtain rfl := Except.ok.inj ((exploreFrom_nil _).symm.trans h)
      rw [List.append_nil]
    | cons target pending =>
      rw [exploreFrom] at h
      cases body : g.body target with
      | error fault =>
        rw [body] at h
        cases h
      | ok m =>
        rw [body] at h
        have longer := ih h
        rw [List.append_assoc, List.singleton_append, ← List.cons_append, ← List.append_assoc]
          at longer
        exact (List.prefix_append _ _).trans longer

/-- What is in hand while the search is under way: the names are distinct, and what the visited
structures refer to is known by name. -/
structure Searching (g : Grammar) (root : Structure) (visited pending : List Structure) : Prop where
  reached : ∀ s ∈ visited ++ pending, g.Reaches root s
  nodup : ((visited ++ pending).map (·.name)).Nodup
  closed : ∀ s ∈ visited, ∀ t ∈ g.successors s, t.name ∈ (visited ++ pending).map (·.name)

theorem Searching.next {target : Structure} {m : Matcher}
    (h : Searching g root visited (target :: pending)) (body : g.body target = .ok m) :
    Searching g root (visited ++ [target])
      (pending ++ addUnknown (visited ++ target :: pending) m.references) := by
  have same :
      visited ++ [target] ++ (pending ++ addUnknown (visited ++ target :: pending) m.references) =
        visited ++ target :: pending ++ addUnknown (visited ++ target :: pending) m.references := by
    simp only [List.append_assoc, List.cons_append, List.nil_append]
  have successors := Grammar.successors_eq_of_body body
  have reachedTarget : g.Reaches root target :=
    h.reached target (List.mem_append_right _ List.mem_cons_self)
  constructor
  · rw [same]
    intro s member
    rcases List.mem_append.1 member with old | new
    · exact h.reached s old
    · exact .step reachedTarget (successors ▸ addUnknown_subset _ _ new)
  · rw [same]
    exact nodup_addUnknown _ _ h.nodup
  · rw [same]
    intro s member t ht
    rcases List.mem_append.1 member with old | new
    · rw [List.map_append]
      exact List.mem_append_left _ (h.closed s old t ht)
    · obtain rfl := List.mem_singleton.1 new
      exact name_mem_addUnknown _ _ t (successors ▸ ht)

/-- All in hand but the root are structures that some rule refers to. -/
theorem Searching.length_le (h : Searching g root visited pending) :
    visited.length + pending.length ≤ g.referenceCount + 1 := by
  have le : (visited ++ pending).length ≤ (root :: g.referenced).length :=
    (List.Nodup.of_map _ h.nodup).length_le_of_subset fun s member =>
      (h.reached s member).mem_referenced
  rwa [List.length_append, List.length_cons, Grammar.length_referenced] at le

/-- The search ends with everything visited and nothing pending. -/
theorem Searching.finished {fuel : Nat} (searching : Searching g root visited pending)
    (enough : g.referenceCount < visited.length + fuel)
    (h : exploreFrom g fuel visited pending = .ok result) : Searching g root result [] := by
  induction fuel generalizing visited pending with
  | zero =>
    cases pending with
    | nil =>
      obtain rfl := Except.ok.inj ((exploreFrom_nil 0).symm.trans h)
      exact searching
    | cons target pending =>
      have le := searching.length_le
      rw [List.length_cons] at le
      omega
  | succ fuel ih =>
    cases pending with
    | nil =>
      obtain rfl := Except.ok.inj ((exploreFrom_nil _).symm.trans h)
      exact searching
    | cons target pending =>
      rw [exploreFrom] at h
      cases body : g.body target with
      | error fault =>
        rw [body] at h
        cases h
      | ok m =>
        rw [body] at h
        refine ih (searching.next body) ?_ h
        rw [List.length_append, List.length_singleton]
        omega

/-- The search starts with the root in hand. -/
theorem Searching.start (g : Grammar) (root : Structure) : Searching g root [] [root] := by
  refine ⟨?_, List.nodup_singleton _, fun _ => nofun⟩
  intro s member
  obtain rfl := List.mem_singleton.1 member
  exact .refl

/-- The structures found are those that the root reaches, if their names are distinct. -/
theorem mem_reachable_iff
    (named : ∀ s t, g.Reaches root s → g.Reaches root t → s.name = t.name → s = t)
    (h : g.reachable root = .ok result) {s : Structure} : s ∈ result ↔ g.Reaches root s := by
  have finished := (Searching.start g root).finished (by rw [List.length_nil]; omega) h
  have sound : ∀ t ∈ result, g.Reaches root t :=
    fun t member => finished.reached t (List.mem_append_left _ member)
  constructor
  · exact sound s
  · intro reaches
    induction reaches with
    | refl => exact (exploreFrom_isPrefix h).subset List.mem_cons_self
    | step before member ih =>
      obtain ⟨t, found, name⟩ := List.mem_map.1 (finished.closed _ ih _ member)
      rw [List.append_nil] at found
      rwa [← named t _ (sound t found) (.step before member) name]

end OrderedChoice
