import OrderedChoice.Proofs.Findings
import OrderedChoice.Proofs.Loops

/-!
# The reported chains

A validation reports a left recursion exactly if some structure leads back to itself before a
statement is consumed. Each chain that it reports is a loop that comes to no structure twice, and no
two chains have a structure in common (`validate_leftRecursion`).
-/

namespace OrderedChoice

open Relation (TransGen)

/-! ## Simple cycles -/

variable {successors : String → List String} {name : String} {path cycle : List String}

/-- A path that comes to no name twice closes to a cycle that does not. -/
theorem nodup_pathFrom (nodup : path.Nodup) : (pathFrom name path).Nodup := by
  rw [pathFrom, List.nodup_reverse, List.nodup_append]
  refine ⟨nodup.sublist (List.takeWhile_sublist _), List.nodup_singleton _, ?_⟩
  intro a before b isName
  rw [List.mem_singleton.1 isName]
  exact bne_iff_ne.1 (List.all_eq_true.1 List.all_takeWhile a before)

/-! ## Cycles apart -/

section Disjoint

variable {find : String → Option (List String)}

/-- The cycles that are kept have no name in common, nor any that is covered before. -/
theorem disjointCycles_disjoint (starts covered : List String) :
    (∀ cycle ∈ disjointCycles find covered starts, List.Disjoint covered cycle) ∧
      (disjointCycles find covered starts).Pairwise List.Disjoint := by
  induction starts generalizing covered with
  | nil => exact ⟨nofun, .nil⟩
  | cons start starts ih =>
    rw [disjointCycles]
    by_cases onKept : covered.contains start = true
    · rw [if_pos onKept]
      exact ih covered
    · rw [if_neg onKept]
      cases find start with
      | none => exact ih covered
      | some cycle =>
        by_cases meets : cycle.any covered.contains = true
        · simp only [if_pos meets]
          exact ih covered
        · simp only [if_neg meets]
          have new : List.Disjoint covered cycle := by
            intro name old onCycle
            exact meets (List.any_eq_true.2 ⟨name, onCycle, List.contains_iff_mem.2 old⟩)
          obtain ⟨later, pairwise⟩ := ih (covered ++ cycle)
          constructor
          · rw [List.forall_mem_cons]
            exact ⟨new, fun other member => (List.disjoint_append_left.1 (later other member)).1⟩
          · rw [List.pairwise_cons]
            exact ⟨fun other member => (List.disjoint_append_left.1 (later other member)).2,
              pairwise⟩

end Disjoint

namespace NameGraph

variable {graph : NameGraph}

/-- No cycle comes to a name twice. -/
theorem nodup_of_mem_cycles (isCycle : cycle ∈ graph.cycles) : cycle.Nodup := by
  have grows : ∀ current path name, (current :: path).Nodup → name ∈ graph.successors current →
      name ∉ current :: path → (name :: current :: path).Nodup :=
    fun _ _ _ nodup _ new => List.nodup_cons.2 ⟨new, nodup⟩
  obtain ⟨start, _, found⟩ := exists_of_mem_disjointCycles isCycle
  obtain ⟨current, path, next, nodup, _, _, rfl⟩ :=
    searchCycle_closes grows _ [] [] _ start cycle (List.nodup_singleton _) (Prod.ext found rfl)
  exact nodup_pathFrom nodup

/-- No two cycles have a name in common. -/
theorem pairwise_disjoint_cycles (graph : NameGraph) : graph.cycles.Pairwise List.Disjoint :=
  (disjointCycles_disjoint _ []).2

end NameGraph

/-! ## Chains of structures -/

variable {g : Grammar} {registry : Registry} {root s t : Structure} {reachable : List Structure}
  {bodies : List (String × Matcher)} {findings : Diagnostics}

namespace Registry

/-- The structures that a validation comes across: those that it looks at and those that they refer
to. -/
def Meets (registry : Registry) (g : Grammar) (root s : Structure) : Prop :=
  registry.Knows g root s ∨ ∃ t, registry.Knows g root t ∧ s ∈ g.successors t

/-- One of the structures that a validation looks at leads to another. -/
def LeadsTo (registry : Registry) (g : Grammar) (root s t : Structure) : Prop :=
  registry.Knows g root s ∧ registry.Knows g root t ∧ Leads g s t

/-- Where names are distinct, a structure leads to those whose names it leads to. -/
theorem leadsTo_iff (named : ∀ s t, registry.Meets g root s → registry.Meets g root t →
    s.name = t.name → s = t) :
    registry.LeadsTo g root s t ↔ registry.CanStartWith g root s t := by
  constructor
  · rintro ⟨hs, ht, m, body, member⟩
    exact ⟨hs, ht, m, body, List.mem_map_of_mem member⟩
  · rintro ⟨hs, ht, m, body, member⟩
    obtain ⟨other, leads, same⟩ := List.mem_map.1 member
    have met : registry.Meets g root other :=
      .inr ⟨s, hs, Grammar.successors_eq_of_body body ▸ m.leading_subset leads⟩
    rw [← named other t met (.inl ht) same]
    exact ⟨hs, named other t met (.inl ht) same ▸ ht, m, body, leads⟩

end Registry

/-- A left recursion is reported exactly if a structure leads back to itself. The chains that are
reported are loops, which come to no structure twice and to no structure of another chain. -/
theorem validate_leftRecursion (registered : registry.get? root.name = some root)
    (named : ∀ s t, registry.Meets g root s → registry.Meets g root t → s.name = t.name → s = t)
    (wellFormed : ∀ s, registry.Knows g root s → ∃ m, g.body s = .ok m) :
    ∃ findings, registry.validate g root.name = .ok findings ∧
      (findings.reporting .leftRecursion ≠ [] ↔ ∃ s, TransGen (registry.LeadsTo g root) s s) ∧
      ∃ loops : List (List Structure),
        findings.reporting .leftRecursion =
          loops.map (fun loop =>
            (Diagnostic.about .leftRecursion none).withDetail (chainText (loop.map (·.name)))) ∧
          (∀ loop ∈ loops, IsLoop (registry.LeadsTo g root) loop ∧ loop.Nodup) ∧
          loops.Pairwise List.Disjoint := by
  have namedKnown : ∀ s t, registry.Knows g root s → registry.Knows g root t →
      s.name = t.name → s = t :=
    fun s t hs ht => named s t (.inl hs) (.inl ht)
  have leads : registry.LeadsTo g root = registry.CanStartWith g root := by
    funext s t
    exact propext (Registry.leadsTo_iff named)
  obtain ⟨findings, validated⟩ := exists_validate registered namedKnown wellFormed
  obtain ⟨reachable, bodies, valid⟩ := validated_of_validate registered validated
  obtain ⟨loops, areCycles, isLoop⟩ : ∃ loops : List (List Structure),
      loops.map (List.map (·.name)) = (leadingGraph bodies).cycles ∧
      ∀ loop ∈ loops, IsLoop (registry.CanStartWith g root) loop ∧
      ∀ s ∈ loop, registry.Knows g root s :=
    exists_map_eq fun _ isCycle => valid.exists_loop_of_mem_cycles namedKnown wellFormed isCycle
  have reported : findings.reporting .leftRecursion = loops.map fun loop =>
      (Diagnostic.about .leftRecursion none).withDetail (chainText (loop.map (·.name))) := by
    rw [valid.reporting_eq, Registry.details, ← areCycles, List.map_map, List.map_map]
    rfl
  rw [leads]
  refine ⟨findings, validated, ⟨?_, ?_⟩, loops, reported, fun loop member =>
    ⟨(isLoop loop member).1, ?_⟩, ?_⟩
  · rw [reported]
    intro reports
    obtain ⟨loop, member⟩ := List.exists_mem_of_ne_nil loops (mt List.map_eq_nil_iff.2 reports)
    obtain ⟨s, onLoop⟩ := List.exists_mem_of_ne_nil loop (isLoop loop member).1.1
    exact ⟨s, (isLoop loop member).1.returns onLoop⟩
  · rintro ⟨s, returns⟩
    obtain ⟨_, ⟨known, _, m, body, _⟩, _⟩ := Relation.TransGen.head'_iff.1 returns
    obtain ⟨cycle, isCycle, _⟩ := NameGraph.exists_loop (valid.name_mem_graph namedKnown known body)
      (valid.path_of_path namedKnown wellFormed returns)
    rw [valid.reporting_eq, Registry.details]
    exact List.ne_nil_of_mem (List.mem_map_of_mem (List.mem_map_of_mem isCycle))
  · have isCycle : loop.map (·.name) ∈ (leadingGraph bodies).cycles :=
      areCycles ▸ List.mem_map_of_mem member
    exact (NameGraph.nodup_of_mem_cycles isCycle).of_map
  · have apart := (leadingGraph bodies).pairwise_disjoint_cycles
    rw [← areCycles, List.pairwise_map] at apart
    exact apart.imp fun disjoint s onFirst onSecond =>
      disjoint (List.mem_map_of_mem onFirst) (List.mem_map_of_mem onSecond)

/-! ## Two chains -/

def total : Structure :=
  ⟨"total", "Total"⟩

def product : Structure :=
  ⟨"product", "Product"⟩

def listing : Structure :=
  ⟨"listing", "Listing"⟩

/-- Totals begin with products, perhaps after a sign, and products with totals. Listings begin with
listings. -/
def formulas : Grammar :=
  ⟨[⟨total,
    .ok (.choice (.sequence (.optional (.statement ⟨"sign"⟩)) (.sub product) [])
      (.statement ⟨"digit"⟩) [])⟩,
    ⟨product, .ok (.sequence (.sub total) (.statement ⟨"times"⟩) [.sub total])⟩,
    ⟨listing,
    .ok (.choice (.sequence (.sub listing) (.statement ⟨"comma"⟩) [.sub total]) (.sub total) [])⟩]⟩

def formulaRegistry : Registry :=
  ⟨[listing, total, product], by decide⟩

/-- Of the formulas chains are reported, and they are loops apart from each other. -/
theorem validate_leftRecursion_formulas :
    ∃ findings, formulaRegistry.validate formulas total.name = .ok findings ∧
      findings.reporting .leftRecursion ≠ [] ∧
      ∃ loops : List (List Structure), loops.Pairwise List.Disjoint ∧
        ∀ loop ∈ loops, IsLoop (formulaRegistry.LeadsTo formulas total) loop ∧ loop.Nodup := by
  have registered : formulaRegistry.structures ⊆ [total, product, listing] := by decide
  have closed :
    ∀ s ∈ [total, product, listing], formulas.successors s ⊆ [total, product, listing] := by decide
  have isRoot : formulaRegistry.get? total.name = some total := rfl
  have known : ∀ s, formulaRegistry.Knows formulas total s → s ∈ [total, product, listing] :=
    fun s => Registry.mem_of_knows List.mem_cons_self registered closed
  have met : ∀ s, formulaRegistry.Meets formulas total s → s ∈ [total, product, listing] := by
    rintro s (isKnown | ⟨t, isKnown, member⟩)
    · exact known s isKnown
    · exact closed t (known t isKnown) member
  have named : ∀ s t, formulaRegistry.Meets formulas total s →
      formulaRegistry.Meets formulas total t → s.name = t.name → s = t :=
    fun s t hs ht => List.inj_on_of_nodup_map (by decide) (met s hs) (met t ht)
  have bodies : ∀ s ∈ [total, product, listing], ∃ m, formulas.body s = .ok m := by
    simp only [List.forall_mem_cons]
    exact ⟨⟨_, rfl⟩, ⟨_, rfl⟩, ⟨_, rfl⟩, nofun⟩
  obtain ⟨findings, validated, reports_iff, loops, _, areLoops, apart⟩ :=
    validate_leftRecursion isRoot named fun s isKnown => bodies s (known s isKnown)
  have toProduct : formulaRegistry.LeadsTo formulas total total product :=
    ⟨.inl .refl, .inl (.step .refl List.mem_cons_self), _, rfl, List.mem_cons_self⟩
  have toTotal : formulaRegistry.LeadsTo formulas total product total :=
    ⟨.inl (.step .refl List.mem_cons_self), .inl .refl, _, rfl, List.mem_cons_self⟩
  exact ⟨findings, validated, reports_iff.2 ⟨total, .tail (.single toProduct) toTotal⟩, loops,
    apart, areLoops⟩

end OrderedChoice
