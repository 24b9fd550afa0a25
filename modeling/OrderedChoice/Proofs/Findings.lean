import OrderedChoice.Proofs.Assurance

/-!
# What a validation reports of reachability

The search for reachable structures comes to an end by itself, however much fuel it has. What it
finds, the root first, are the structures that the root reaches, each once. So a validation reports
each reachable name that is not registered and each registered name that is not reachable, once and
in order (`validate_reachability`).
-/

namespace OrderedChoice

variable {g : Grammar} {registry : Registry} {root : Structure}
    {visited pending reachable : List Structure}
  {bodies : List (String × Matcher)} {findings : Diagnostics}

/-! ## What is found -/

/-- With fuel for every structure that is referred to, the fuel does not matter. -/
theorem Searching.exploreFrom_eq {fuel fuel' : Nat} (h : Searching g root visited pending)
    (enough : g.referenceCount < visited.length + fuel)
    (enough' : g.referenceCount < visited.length + fuel') :
    exploreFrom g fuel visited pending = exploreFrom g fuel' visited pending := by
  induction fuel generalizing fuel' visited pending with
  | zero =>
    cases pending with
    | nil => rw [exploreFrom_nil, exploreFrom_nil]
    | cons target pending =>
      have le := h.length_le
      rw [List.length_cons] at le
      omega
  | succ fuel ih =>
    cases pending with
    | nil => rw [exploreFrom_nil, exploreFrom_nil]
    | cons target pending =>
      have le := h.length_le
      rw [List.length_cons] at le
      obtain ⟨fuel', rfl⟩ := Nat.exists_eq_add_one_of_ne_zero (show fuel' ≠ 0 by omega)
      rw [exploreFrom, exploreFrom]
      cases body : g.body target with
      | error fault => rfl
      | ok m =>
        apply ih (h.next body)
        · rw [List.length_append, List.length_singleton]
          omega
        · rw [List.length_append, List.length_singleton]
          omega

/-- The structures that a root reaches, each once and under a name of its own, and the root
first. -/
structure Reachable (g : Grammar) (root : Structure) (reachable : List Structure) : Prop where
  head : reachable.head? = some root
  nodup : (reachable.map (·.name)).Nodup
  mem_iff : ∀ s, s ∈ reachable ↔ g.Reaches root s

theorem reachable_of_found
    (named : ∀ s t, g.Reaches root s → g.Reaches root t → s.name = t.name → s = t)
    (found : g.reachable root = .ok reachable) : Reachable g root reachable where
  head := by
    obtain ⟨others, rfl⟩ := exploreFrom_isPrefix found
    rfl
  nodup := by
    have nodup := ((Searching.start g root).finished (by rw [List.length_nil]; omega) found).nodup
    rwa [List.append_nil] at nodup
  mem_iff := fun _ => mem_reachable_iff named found

/-! ## The entries of one finding -/

/-- The entries of a finding, in order. -/
def Diagnostics.reporting (diagnostics : Diagnostics) (finding : Finding) : List Diagnostic :=
  diagnostics.entries.filter (·.finding = finding)

/-- What is reported under a finding is among the entries. -/
theorem Diagnostics.mem_entries {finding : Finding} {names : List String} {name : String}
    (same : findings.reporting finding = names.map (Diagnostic.about finding none).withDetail)
    (member : name ∈ names) :
    (Diagnostic.about finding none).withDetail name ∈ findings.entries := by
  have listed : (Diagnostic.about finding none).withDetail name ∈ findings.reporting finding := by
    rw [same]
    exact List.mem_map_of_mem member
  exact (List.mem_filter.1 listed).1

/-- What is said of a finding, in order. -/
def Registry.details (registry : Registry) (reachable : List Structure)
    (bodies : List (String × Matcher)) :
    Finding → List String
  | .unregisteredStructure =>
    (reachable.filter fun target => !registry.contains target.name).map (·.name)
  | .unreachableStructure =>
    registry.names.filter fun name => !(reachable.map (·.name)).contains name
  | .nullableRepetition => (bodies.filter fun (_, body) => body.hasNullableRepetition).map (·.1)
  | .leftRecursion => (leadingGraph bodies).cycles.map chainText
  | _ => []

/-- Of what is listed under one finding all is kept or nothing. -/
theorem filter_listed {α : Type} (finding other : Finding) (items : List α) (detail : α → String) :
    ((items.map fun item => (other, detail item)).filter (·.1 = finding)) =
      if other = finding then items.map fun item => (finding, detail item) else [] := by
  by_cases same : other = finding
  · subst same
    rw [if_pos rfl, List.filter_eq_self]
    intro entry member
    obtain ⟨item, _, rfl⟩ := List.mem_map.1 member
    exact decide_eq_true rfl
  · rw [if_neg same, List.filter_eq_nil_iff]
    intro entry member
    obtain ⟨item, _, rfl⟩ := List.mem_map.1 member
    exact mt of_decide_eq_true same

theorem filter_findings (finding : Finding) :
    (registry.findings reachable bodies).filter (·.1 = finding) =
      (registry.details reachable bodies finding).map fun detail => (finding, detail) := by
  rw [Registry.findings, List.filter_append, List.filter_append, List.filter_append, filter_listed,
    filter_listed, filter_listed, filter_listed]
  cases finding <;> simp [Registry.details, Function.comp_def]

/-- A finding is reported once for each of its details. -/
theorem Validated.reporting_eq (h : Validated registry g root findings reachable bodies)
    (finding : Finding) :
    findings.reporting finding =
      (registry.details reachable bodies finding).map
        (Diagnostic.about finding none).withDetail := by
  rw [Diagnostics.reporting, h.entries, List.filter_map]
  show ((registry.findings reachable bodies).filter (·.1 = finding)).map _ = _
  rw [filter_findings, List.map_map]
  rfl

/-! ## Reachability -/

theorem nodup_details_unregistered (h : Reachable g root reachable) :
    (registry.details reachable bodies .unregisteredStructure).Nodup :=
  h.nodup.sublist (List.filter_sublist.map _)

theorem mem_details_unregistered_iff (h : Reachable g root reachable) {name : String} :
    name ∈ registry.details reachable bodies .unregisteredStructure ↔
      registry.contains name = false ∧ ∃ s, g.Reaches root s ∧ s.name = name := by
  simp only [Registry.details, List.mem_map, List.mem_filter, h.mem_iff, Bool.not_eq_true']
  constructor
  · rintro ⟨s, ⟨reaches, new⟩, rfl⟩
    exact ⟨new, s, reaches, rfl⟩
  · rintro ⟨new, s, reaches, rfl⟩
    exact ⟨s, ⟨reaches, new⟩, rfl⟩

theorem details_unreachable_sublist :
    (registry.details reachable bodies .unreachableStructure).Sublist registry.names :=
  List.filter_sublist

theorem mem_details_unreachable_iff (h : Reachable g root reachable) {name : String} :
    name ∈ registry.details reachable bodies .unreachableStructure ↔
      name ∈ registry.names ∧ ¬ ∃ s, g.Reaches root s ∧ s.name = name := by
  simp [Registry.details, h.mem_iff]

/-- The search finds each structure that the root reaches once, the root first, and more fuel
changes nothing. Each reachable name that is not registered is reported once, and each registered
name that is not reachable is, in the order of registration. -/
theorem validate_reachability (registered : registry.get? root.name = some root)
    (named : ∀ s t, registry.Knows g root s → registry.Knows g root t → s.name = t.name → s = t)
    (wellFormed : ∀ s, registry.Knows g root s → ∃ m, g.body s = .ok m) :
    ∃ reachable findings,
      (g.reachable root = .ok reachable ∧ Reachable g root reachable ∧
        ∀ fuel, g.referenceCount < fuel → exploreFrom g fuel [] [root] = .ok reachable) ∧
      registry.validate g root.name = .ok findings ∧
      (∃ names : List String,
        findings.reporting .unregisteredStructure =
          names.map (Diagnostic.about .unregisteredStructure none).withDetail ∧
        names.Nodup ∧
        ∀ name, name ∈ names ↔
          registry.contains name = false ∧ ∃ s, g.Reaches root s ∧ s.name = name) ∧
      ∃ names : List String,
        findings.reporting .unreachableStructure =
          names.map (Diagnostic.about .unreachableStructure none).withDetail ∧
        names.Nodup ∧ names.Sublist registry.names ∧
        ∀ name, name ∈ names ↔ name ∈ registry.names ∧ ¬ ∃ s, g.Reaches root s ∧ s.name = name := by
  obtain ⟨findings, validated⟩ := exists_validate registered named wellFormed
  obtain ⟨reachable, bodies, valid⟩ := validated_of_validate registered validated
  have found : Reachable g root reachable :=
    reachable_of_found (fun s t hs ht => named s t (.inl hs) (.inl ht)) valid.found
  have ends : ∀ fuel, g.referenceCount < fuel → exploreFrom g fuel [] [root] = .ok reachable := by
    intro fuel enough
    rw [← valid.found]
    apply (Searching.start g root).exploreFrom_eq
    · rwa [List.length_nil, Nat.zero_add]
    · rw [List.length_nil]
      omega
  refine ⟨reachable, findings, ⟨valid.found, found, ends⟩, validated, ?_, ?_⟩
  · exact ⟨_, valid.reporting_eq .unregisteredStructure, nodup_details_unregistered found,
      fun _ => mem_details_unregistered_iff found⟩
  · exact ⟨_, valid.reporting_eq .unreachableStructure,
      registry.names_nodup.sublist details_unreachable_sublist,
      details_unreachable_sublist, fun _ => mem_details_unreachable_iff found⟩

/-! ## A grammar with a page too few and a note too many -/

def report : Structure :=
  ⟨"report", "Report"⟩

def page : Structure :=
  ⟨"page", "Page"⟩

def note : Structure :=
  ⟨"note", "Note"⟩

/-- Reports have pages, and these have reports again. Notes are about reports. -/
def reports : Grammar :=
  ⟨[⟨report, .ok (.sequence (.statement ⟨"title"⟩) (.star (.sub page)) [])⟩,
    ⟨page, .ok (.sequence (.statement ⟨"text"⟩) (.optional (.sub report)) [])⟩,
    ⟨note, .ok (.sequence (.statement ⟨"about"⟩) (.sub report) [])⟩]⟩

/-- Pages are not registered. -/
def reportRegistry : Registry :=
  ⟨[note, report], by decide⟩

/-- Pages are found and reported as missing, and notes as out of reach. -/
theorem validate_reachability_reports :
    ∃ reachable findings, reports.reachable report = .ok reachable ∧ page ∈ reachable ∧
    note ∉ reachable ∧ reportRegistry.validate reports report.name = .ok findings ∧
    (Diagnostic.about .unregisteredStructure none).withDetail page.name ∈ findings.entries ∧
    (Diagnostic.about .unreachableStructure none).withDetail note.name ∈ findings.entries := by
  have registered : reportRegistry.structures ⊆ [report, page, note] := by decide
  have closed : ∀ s ∈ [report, page, note], reports.successors s ⊆ [report, page, note] := by decide
  have isRoot : reportRegistry.get? report.name = some report := rfl
  have named := Registry.named_of_nodup List.mem_cons_self registered closed (by decide)
  have bodies : ∀ s ∈ [report, page, note], ∃ m, reports.body s = .ok m := by
    simp only [List.forall_mem_cons]
    exact ⟨⟨_, rfl⟩, ⟨_, rfl⟩, ⟨_, rfl⟩, nofun⟩
  have wellFormed : ∀ s, reportRegistry.Knows reports report s → ∃ m, reports.body s = .ok m :=
    fun s known => bodies s (Registry.mem_of_knows List.mem_cons_self registered closed known)
  obtain ⟨reachable, findings, ⟨found, isReachable, _⟩, validated,
    ⟨missing, areMissing, _, mem_missing⟩, strays, areStrays, _, _, mem_strays⟩ :=
    validate_reachability isRoot named wellFormed
  have toPage : reports.Reaches report page := .step .refl List.mem_cons_self
  have notToNote : ¬ ∃ s, reports.Reaches report s ∧ s.name = note.name := by
    rintro ⟨s, reaches, same⟩
    have known : (Registry.single report).Knows reports report s := .inl reaches
    have ofReports : ∀ s ∈ [report, page], reports.successors s ⊆ [report, page] := by decide
    have member := Registry.mem_of_knows List.mem_cons_self (by decide) ofReports known
    rcases List.mem_pair.1 member with rfl | rfl <;> exact absurd same (by decide)
  refine ⟨reachable, findings, found, (isReachable.mem_iff page).2 toPage, ?_, validated, ?_, ?_⟩
  · exact fun member => notToNote ⟨note, (isReachable.mem_iff note).1 member, rfl⟩
  · exact Diagnostics.mem_entries areMissing ((mem_missing _).2 ⟨rfl, page, toPage, rfl⟩)
  · exact Diagnostics.mem_entries areStrays ((mem_strays _).2 ⟨List.mem_cons_self, notToNote⟩)

end OrderedChoice
