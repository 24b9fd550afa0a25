import Mathlib.Data.Set.Card
import Mathlib.Logic.Relation
import OrderedChoice.Proofs.Totality

/-!
# Ranking structures

Where no structure leads back to itself before a statement is consumed, the number of structures
that one leads to ranks it (`ranked_of_grounded`).
-/

namespace OrderedChoice

variable {g : Grammar} {scope : Scope g} {s t : Structure}

/-- A structure leads to another if its body can enter that one first. -/
def Leads (g : Grammar) (s t : Structure) : Prop :=
  ∃ m, g.body s = .ok m ∧ t ∈ m.leading

/-- The structures that one leads to, directly or through others. -/
def descendants (g : Grammar) (s : Structure) : Set Structure :=
  {t | Relation.TransGen (Leads g) s t}

theorem Leads.mem (h : Leads g s t) (known : s ∈ scope) : t ∈ scope := by
  obtain ⟨m, body, member⟩ := h
  exact Scope.references_subset known body t (m.leading_subset member)

theorem descendants_subset (known : s ∈ scope) : descendants g s ⊆ {t | t ∈ scope} := by
  intro t path
  induction path with
  | single leads => exact leads.mem known
  | tail _ leads ih => exact leads.mem ih

/-- If all that a structure leads to comes to an end, it does not lead to itself. -/
theorem not_mem_descendants (h : Acc (fun b a => Leads g a b) s) : s ∉ descendants g s := by
  induction h with
  | intro s _ ih =>
    intro cycle
    obtain ⟨t, leads, path⟩ := Relation.TransGen.head'_iff.1 cycle
    exact ih t leads (Relation.TransGen.tail'_iff.2 ⟨s, path, leads⟩)

theorem ranked_of_grounded (finite : {s | s ∈ scope}.Finite)
    (wellFormed : ∀ s ∈ scope, ∃ m, g.body s = .ok m)
    (grounded : ∀ s ∈ scope, Acc (fun b a => Leads g a b) s) :
    Ranked scope (fun s => (descendants g s).ncard) {s | s ∈ scope}.ncard where
  wellFormed := wellFormed
  bounded := by
    intro s known
    refine Set.ncard_lt_ncard ?_ finite
    exact Set.ssubset_iff_exists.2 ⟨descendants_subset known, s, known,
      not_mem_descendants (grounded s known)⟩
  descends := by
    intro s known m body t member
    have leads : Leads g s t := ⟨m, body, member⟩
    refine Set.ncard_lt_ncard ?_ (finite.subset (descendants_subset known))
    refine Set.ssubset_iff_exists.2 ⟨fun u path => .head leads path, t, .single leads, ?_⟩
    exact not_mem_descendants (grounded t (leads.mem known))

end OrderedChoice
