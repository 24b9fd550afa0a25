import OrderedChoice.Proofs.Cycles
import OrderedChoice.Proofs.Memoization
import OrderedChoice.Proofs.Ranking
import OrderedChoice.Proofs.Reachability

/-!
# Validated grammars come to an answer

What a validation does not report is not there: without a nullable repetition no evaluation halts in
an empty one, and without left recursion structures can be ranked, so that every match comes to an
end. A grammar without errors therefore answers whenever the limits are wide enough
(`parse_of_validate`).
-/

namespace OrderedChoice

variable {g : Grammar} {registry : Registry} {root : Structure} {reachable targets : List Structure}
  {bodies : List (String × Matcher)} {findings : Diagnostics}

/-! ## What a validation looks at -/

/-- The structures that a validation looks at: those that the root reaches and those registered. -/
def Registry.Knows (registry : Registry) (g : Grammar) (root s : Structure) : Prop :=
  g.Reaches root s ∨ s ∈ registry.structures

theorem mem_namedBodies_iff (h : namedBodies g targets = .ok bodies) {name : String} {m : Matcher} :
    (name, m) ∈ bodies ↔ ∃ s ∈ targets, s.name = name ∧ g.body s = .ok m := by
  induction targets generalizing bodies with
  | nil =>
    obtain rfl := Except.ok.inj h
    simp
  | cons target targets ih =>
    rw [namedBodies] at h
    cases body : g.body target with
    | error fault =>
      rw [body] at h
      cases h
    | ok found =>
      rw [body] at h
      cases others : namedBodies g targets with
      | error fault =>
        rw [others] at h
        cases h
      | ok rest =>
        rw [others] at h
        obtain rfl := Except.ok.inj h
        rw [List.mem_cons, ih others, List.exists_mem_cons_iff, body, Prod.mk.injEq,
          Except.ok.injEq]
        exact or_congr_left (and_congr eq_comm eq_comm)

/-- What a validation has computed, if it comes to an end. -/
structure Validated (registry : Registry) (g : Grammar) (root : Structure) (findings : Diagnostics)
    (reachable : List Structure) (bodies : List (String × Matcher)) : Prop where
  found : g.reachable root = .ok reachable
  named : namedBodies g (registry.known reachable) = .ok bodies
  entries : findings.entries = (registry.findings reachable bodies).map fun (finding, detail) =>
    (Diagnostic.about finding none).withDetail detail

theorem validated_of_validate (registered : registry.get? root.name = some root)
    (h : registry.validate g root.name = .ok findings) :
    ∃ reachable bodies, Validated registry g root findings reachable bodies := by
  rw [Registry.validate, registered] at h
  cases found : g.reachable root with
  | error fault =>
    simp only [found] at h
    cases h
  | ok reachable =>
    simp only [found] at h
    cases named : namedBodies g (registry.known reachable) with
    | error fault =>
      rw [named] at h
      cases h
    | ok bodies =>
      rw [named] at h
      obtain rfl := Except.ok.inj h
      exact ⟨reachable, bodies, found, named, rfl⟩

namespace Validated

/-- What the findings contain is reported. -/
theorem reports (h : Validated registry g root findings reachable bodies) {finding : Finding}
    {detail : String} (member : (finding, detail) ∈ registry.findings reachable bodies) :
    ∃ entry ∈ findings.entries, entry.finding = finding := by
  rw [h.entries]
  exact ⟨_, List.mem_map_of_mem member, rfl⟩

/-- Unless a left recursion is reported, the leading structures make no cycle. -/
theorem cycles_eq_nil (h : Validated registry g root findings reachable bodies)
    (clean : ∀ entry ∈ findings.entries, entry.finding ≠ .leftRecursion) :
    (leadingGraph bodies).cycles = [] := by
  rw [List.eq_nil_iff_forall_not_mem]
  intro cycle member
  have reported : (.leftRecursion, chainText cycle) ∈ registry.findings reachable bodies :=
    List.mem_append_right _ (List.mem_map_of_mem member)
  obtain ⟨entry, found, same⟩ := h.reports reported
  exact clean entry found same

/-- Unless a nullable repetition is reported, no known body has one. -/
theorem no_nullableRepetition (h : Validated registry g root findings reachable bodies)
    (clean : ∀ entry ∈ findings.entries, entry.finding ≠ .nullableRepetition) {name : String}
    {m : Matcher} (member : (name, m) ∈ bodies) : m.hasNullableRepetition = false := by
  rw [← Bool.not_eq_true]
  intro repeats
  have reported : (.nullableRepetition, name) ∈ registry.findings reachable bodies := by
    refine List.mem_append_left _ (List.mem_append_right _ ?_)
    exact List.mem_map.2 ⟨(name, m), List.mem_filter.2 ⟨member, repeats⟩, rfl⟩
  obtain ⟨entry, found, same⟩ := h.reports reported
  exact clean entry found same

variable (named : ∀ s t, registry.Knows g root s → registry.Knows g root t →
    s.name = t.name → s = t)

include named

/-- The bodies are those of the structures that are registered or reached. -/
theorem mem_bodies (h : Validated registry g root findings reachable bodies) {s : Structure}
    {m : Matcher} (known : registry.Knows g root s) (body : g.body s = .ok m) :
    (s.name, m) ∈ bodies := by
  have found : ∀ t, t ∈ reachable ↔ g.Reaches root t :=
    fun t => mem_reachable_iff (fun s t hs ht => named s t (.inl hs) (.inl ht)) h.found
  refine (mem_namedBodies_iff h.named).2 ⟨s, ?_, rfl, body⟩
  rcases known with reaches | registered
  · by_cases contained : registry.contains s.name = true
    · obtain ⟨t, registered, name⟩ := Registry.contains_iff.1 contained
      obtain rfl := named t s (.inr registered) (.inl reaches) name
      exact List.mem_append_left _ registered
    · refine List.mem_append_right _ (List.mem_filter.2 ⟨(found s).2 reaches, ?_⟩)
      simpa using contained
  · exact List.mem_append_left _ registered

/-- Each body is that of a structure that is registered or reached. -/
theorem exists_of_mem_bodies (h : Validated registry g root findings reachable bodies)
    {name : String} {m : Matcher} (member : (name, m) ∈ bodies) :
    ∃ s, registry.Knows g root s ∧ s.name = name ∧ g.body s = .ok m := by
  have found : ∀ t, t ∈ reachable ↔ g.Reaches root t :=
    fun t => mem_reachable_iff (fun s t hs ht => named s t (.inl hs) (.inl ht)) h.found
  obtain ⟨t, inHand, name, body⟩ := (mem_namedBodies_iff h.named).1 member
  refine ⟨t, ?_, name, body⟩
  rcases List.mem_append.1 inHand with registered | reached
  · exact .inr registered
  · exact .inl ((found t).1 (List.mem_filter.1 reached).1)

theorem name_mem_graph (h : Validated registry g root findings reachable bodies) {s : Structure}
    {m : Matcher} (known : registry.Knows g root s) (body : g.body s = .ok m) :
    s.name ∈ (leadingGraph bodies).map (·.1) := by
  rw [leadingGraph, List.map_map]
  exact List.mem_map.2 ⟨(s.name, m), h.mem_bodies named known body, rfl⟩

/-- There is one body under each name. -/
theorem body_of_mem_bodies (h : Validated registry g root findings reachable bodies) {s : Structure}
    {m : Matcher} (known : registry.Knows g root s) (member : (s.name, m) ∈ bodies) :
    g.body s = .ok m := by
  obtain ⟨t, knownToo, name, body⟩ := h.exists_of_mem_bodies named member
  rwa [← named t s knownToo known name]

/-- A name is followed by the names of what its structure can enter first. -/
theorem successors_eq (h : Validated registry g root findings reachable bodies) {s : Structure}
    {m : Matcher} (known : registry.Knows g root s) (body : g.body s = .ok m) :
    (leadingGraph bodies).successors s.name = (m.leading.map (·.name)).eraseDups := by
  have inGraph := h.mem_bodies named known body
  rw [NameGraph.successors]
  cases found : (leadingGraph bodies).lookup s.name with
  | none =>
    have absent := List.lookup_eq_none_iff.1 found _ (List.mem_map_of_mem inGraph)
    simp at absent
  | some names =>
    obtain ⟨before, after, split, _⟩ := List.lookup_eq_some_iff.1 found
    have entry : (s.name, names) ∈ leadingGraph bodies := by
      rw [split]
      simp
    obtain ⟨⟨name, m'⟩, member', same⟩ := List.mem_map.1 entry
    obtain ⟨rfl, rfl⟩ := Prod.mk.inj same
    have body' := h.body_of_mem_bodies named known member'
    obtain rfl := Except.ok.inj (body.symm.trans body')
    rfl

/-- What a structure leads to, its name is followed by. -/
theorem name_mem_successors (h : Validated registry g root findings reachable bodies)
    {s t : Structure} (known : registry.Knows g root s) (leads : Leads g s t) :
    t.name ∈ (leadingGraph bodies).successors s.name := by
  obtain ⟨m, body, member⟩ := leads
  rw [h.successors_eq named known body]
  exact List.mem_eraseDups.2 (List.mem_map_of_mem member)

/-- Unless a left recursion is reported, whatever a reachable structure leads to comes to an end. -/
theorem grounded (h : Validated registry g root findings reachable bodies)
    (wellFormed : ∀ s, registry.Knows g root s → ∃ m, g.body s = .ok m)
    (clean : ∀ entry ∈ findings.entries, entry.finding ≠ .leftRecursion) {s : Structure}
    (reaches : g.Reaches root s) : Acc (fun b a => Leads g a b) s := by
  have cycles := h.cycles_eq_nil clean
  have names : ∀ name, Grounded (leadingGraph bodies).successors name →
      ∀ t, g.Reaches root t → t.name = name → Acc (fun b a => Leads g a b) t := by
    intro name grounded
    induction grounded with
    | intro name _ ih =>
      rintro t reaches rfl
      refine Acc.intro t fun u leads => ?_
      have reachesToo : u ∈ (Scope.below root : Scope g) := leads.mem reaches
      exact ih u.name (h.name_mem_successors named (.inl reaches) leads) u reachesToo rfl
  obtain ⟨m, body⟩ := wellFormed s (.inl reaches)
  have inGraph := h.name_mem_graph named (.inl reaches) body
  exact names s.name (NameGraph.grounded_of_cycles_eq_nil cycles inGraph) s reaches rfl

/-- Unless a left recursion is reported, the reachable structures can be ranked. -/
theorem ranked (h : Validated registry g root findings reachable bodies)
    (wellFormed : ∀ s, registry.Knows g root s → ∃ m, g.body s = .ok m)
    (clean : ∀ entry ∈ findings.entries, entry.finding ≠ .leftRecursion) :
    Ranked (Scope.below root : Scope g)
      (fun s => (descendants g s).ncard) {s | g.Reaches root s}.ncard :=
  ranked_of_grounded (g.finite_reaches root) (fun s reaches => wellFormed s (.inl reaches))
    fun _ reaches => h.grounded named wellFormed clean reaches

/-- Unless a nullable repetition is reported, nothing halts an evaluation of well-formed
structures. -/
theorem not_halts (h : Validated registry g root findings reachable bodies)
    (wellFormed : ∀ s, registry.Knows g root s → ∃ m, g.body s = .ok m)
    (clean : ∀ entry ∈ findings.entries, entry.finding ≠ .nullableRepetition) (halt : Halt) :
    ¬ halt.Caused (Scope.below root : Scope g) false := by
  intro caused
  cases halt with
  | malformedBody fault =>
    obtain ⟨s, reaches, malformed⟩ := caused
    obtain ⟨m, body⟩ := wellFormed s (.inl reaches)
    cases malformed.symm.trans body
  | emptyRepetition name =>
    obtain ⟨⟨⟩⟩ | ⟨s, reaches, m, body, repeats⟩ := caused
    have consumes := h.no_nullableRepetition clean (h.mem_bodies named (.inl reaches) body)
    cases repeats.symm.trans consumes
  | fuelExhausted | recursionLimitExceeded | cursorOutOfRange => exact caused

end Validated

/-! ## Answers -/

/-- A finding that is an error is not reported where there are no errors. -/
theorem Diagnostics.finding_ne {finding : Finding} (clean : findings.has .error = false)
    (severity : finding.severity = .error) :
    ∀ entry ∈ findings.entries, entry.finding ≠ finding := by
  rintro entry member rfl
  have reported : findings.has .error = true :=
    List.any_eq_true.2 ⟨entry, member, decide_eq_true severity⟩
  cases clean.symm.trans reported

/-- In ranked structures that nothing halts, a root structure has an answer. -/
theorem Ranked.answers {scope : Scope g} {rank : Structure → Nat} {levels : Nat}
    (ranked : Ranked scope rank levels) (known : root ∈ scope)
    (notHalts : ∀ halt : Halt, ¬ halt.Caused scope false) (statements : Array Statement) :
    ∃ cost answer verdict,
      Evaluates g scope root.name (.inside root) (.start ⟨0, statements⟩) cost answer ∧
    answer.outcome = .ok verdict ∧ cost.depth ≤ levels * (statements.size + 1) := by
  obtain ⟨cost, answer, evaluated, depth_le⟩ := ranked.completes_start known statements
  cases outcome : answer.outcome with
  | error halt =>
    exact absurd (evaluated.halt_cause (Task.within_inside known) (Cursor.le_refl _) outcome)
      (notHalts halt)
  | ok verdict => exact ⟨cost, answer, verdict, evaluated, outcome, depth_le⟩

variable {τ : Type} [Tracer τ]

/-- With enough fuel, and room for every reachable structure at each position, a parse from the root
of a grammar without errors has an answer. -/
theorem parse_of_validate (registered : registry.get? root.name = some root)
    (named : ∀ s t, registry.Knows g root s → registry.Knows g root t → s.name = t.name → s = t)
    (wellFormed : ∀ s, registry.Knows g root s → ∃ m, g.body s = .ok m)
    (validated : registry.validate g root.name = .ok findings) (clean : findings.has .error = false)
    (statements : Array Statement) :
    ∃ fuel, ∀ (limits : Limits) (tracer : τ), fuel ≤ limits.fuel →
      {s | g.Reaches root s}.ncard * (statements.size + 1) ≤ limits.recursion →
      ∃ result, (parseWith g root limits tracer statements).1 = .ok result := by
  obtain ⟨reachable, bodies, valid⟩ := validated_of_validate registered validated
  have ranked := valid.ranked named wellFormed (Diagnostics.finding_ne clean rfl)
  have notHalts := valid.not_halts named wellFormed (Diagnostics.finding_ne clean rfl)
  have known : root ∈ (Scope.below root : Scope g) := Scope.root_mem_below root
  obtain ⟨cost, answer, verdict, evaluated, outcome, depth_le⟩ :=
    ranked.answers known notHalts statements
  have distinct : (Scope.below root : Scope g).Named :=
    fun s hs t ht => named s t (.inl hs) (.inl ht)
  refine ⟨cost.fuel, fun limits tracer fuel_le recursion_le => ?_⟩
  have settles :=
    matchRoot_settles distinct known evaluated tracer fuel_le (Nat.le_trans depth_le recursion_le)
  rw [settles.parse, Answer.parse, outcome]
  exact ⟨_, rfl⟩

/-- Blocks are the only structure of their grammar. -/
def blockRegistry : Registry :=
  ⟨[block], by simp⟩

/-- Blocks have a valid grammar, and seven of them may be open at once in six statements. -/
theorem parse_of_validate_blocks :
    ∃ fuel result, (parseWith blocks block ⟨fuel, 7, true⟩ () nested.statements).1 =
      .ok result := by
  have isBlock : ∀ s, blockRegistry.Knows blocks block s → s = block := by
    rintro s (reaches | registered)
    · exact eq_block_of_reaches reaches
    · exact List.mem_singleton.1 registered
  have named : ∀ s t, blockRegistry.Knows blocks block s → blockRegistry.Knows blocks block t →
      s.name = t.name → s = t := fun s t hs ht _ => (isBlock s hs).trans (isBlock t ht).symm
  have wellFormed : ∀ s, blockRegistry.Knows blocks block s → ∃ m, blocks.body s = .ok m := by
    intro s known
    rw [isBlock s known]
    exact ⟨_, rfl⟩
  have validated : blockRegistry.validate blocks block.name = .ok ⟨[]⟩ := rfl
  obtain ⟨fuel, answers⟩ :=
    parse_of_validate (τ := Unit) rfl named wellFormed validated rfl nested.statements
  have one : {s | blocks.Reaches block s}.ncard = 1 := by
    rw [show {s | blocks.Reaches block s} = {block} from
      Set.eq_singleton_iff_unique_mem.2 ⟨.refl, fun s => eq_block_of_reaches⟩, Set.ncard_singleton]
  have room : {s | blocks.Reaches block s}.ncard * (nested.statements.size + 1) ≤ 7 := by
    rw [one]
    exact Nat.le_refl 7
  obtain ⟨result, ok⟩ := answers ⟨fuel, 7, true⟩ () (Nat.le_refl _) room
  exact ⟨fuel, result, ok⟩

end OrderedChoice
