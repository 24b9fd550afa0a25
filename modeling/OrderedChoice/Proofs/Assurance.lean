import OrderedChoice.Proofs.Validity

/-!
# What a validation rules out

A validation of well-formed structures always comes to its findings, and each of its checks rules
out one way to halt. Where it reports no left recursion, no match from the root runs out of room for
nested structures (`parse_ne_recursionLimitExceeded`); where it reports no nullable repetition, no
repetition gets stuck (`parse_ne_emptyRepetition`). Neither check needs what the other one rules
out.
-/

namespace OrderedChoice

variable {g : Grammar} {registry : Registry} {root : Structure}

/-! ## Validations come to their findings -/

/-- The search for reachable structures stops at malformed bodies only. -/
theorem Searching.answers (wellFormed : ∀ s, g.Reaches root s → ∃ m, g.body s = .ok m)
    (fuel : Nat) :
    ∀ {visited pending : List Structure}, Searching g root visited pending →
      ∃ result, exploreFrom g fuel visited pending = .ok result := by
  induction fuel with
  | zero =>
    intro visited pending _
    cases pending with
    | nil => exact ⟨visited, rfl⟩
    | cons target pending => exact ⟨visited ++ target :: pending, rfl⟩
  | succ fuel ih =>
    intro visited pending searching
    cases pending with
    | nil => exact ⟨visited, rfl⟩
    | cons target pending =>
      have reaches := searching.reached target (List.mem_append_right _ List.mem_cons_self)
      obtain ⟨m, body⟩ := wellFormed target reaches
      rw [exploreFrom, body]
      exact ih (searching.next body)

theorem exists_namedBodies {targets : List Structure}
    (wellFormed : ∀ s ∈ targets, ∃ m, g.body s = .ok m) :
    ∃ bodies, namedBodies g targets = .ok bodies := by
  induction targets with
  | nil => exact ⟨[], rfl⟩
  | cons target targets ih =>
    obtain ⟨⟨m, body⟩, others⟩ := List.forall_mem_cons.1 wellFormed
    obtain ⟨bodies, named⟩ := ih others
    rw [namedBodies, body, named]
    exact ⟨(target.name, m) :: bodies, rfl⟩

/-- A validation comes to its findings if the structures it looks at are well-formed. -/
theorem exists_validate (registered : registry.get? root.name = some root)
    (named : ∀ s t, registry.Knows g root s → registry.Knows g root t → s.name = t.name → s = t)
    (wellFormed : ∀ s, registry.Knows g root s → ∃ m, g.body s = .ok m) :
    ∃ findings, registry.validate g root.name = .ok findings := by
  obtain ⟨reachable, found⟩ : ∃ reachable, g.reachable root = .ok reachable :=
    Searching.answers (fun s reaches => wellFormed s (.inl reaches)) _ (.start g root)
  have sound : ∀ s ∈ reachable, g.Reaches root s :=
    fun s => (mem_reachable_iff (fun s t hs ht => named s t (.inl hs) (.inl ht)) found).1
  obtain ⟨bodies, ofKnown⟩ : ∃ bodies, namedBodies g (registry.known reachable) = .ok bodies := by
    refine exists_namedBodies fun s member => wellFormed s ?_
    rcases List.mem_append.1 member with member | member
    · exact .inr member
    · exact .inl (sound s (List.mem_filter.1 member).1)
  simp only [Registry.validate, registered, found, ofKnown]
  exact ⟨_, rfl⟩

/-! ## Left recursion -/

variable {τ : Type} [Tracer τ]

/-- If no left recursion is reported, a match from the root nests at most as many structures at each
position as the root reaches, whatever else is reported. -/
theorem parse_ne_recursionLimitExceeded (registered : registry.get? root.name = some root)
    (named : ∀ s t, registry.Knows g root s → registry.Knows g root t → s.name = t.name → s = t)
    (wellFormed : ∀ s, registry.Knows g root s → ∃ m, g.body s = .ok m) :
    ∃ findings, registry.validate g root.name = .ok findings ∧
      ((∀ entry ∈ findings.entries, entry.finding ≠ .leftRecursion) →
        ∀ (statements : Array Statement) (limits : Limits) (tracer : τ),
          {s | g.Reaches root s}.ncard * (statements.size + 1) ≤ limits.recursion →
          (parseWith g root limits tracer statements).1 ≠ .error .recursionLimitExceeded) := by
  obtain ⟨findings, validated⟩ := exists_validate registered named wellFormed
  refine ⟨findings, validated, fun clean statements limits tracer room halted => ?_⟩
  obtain ⟨reachable, bodies, valid⟩ := validated_of_validate registered validated
  have known : root ∈ (Scope.below root : Scope g) := Scope.root_mem_below root
  have distinct : (Scope.below root : Scope g).Named :=
    fun s hs t ht => named s t (.inl hs) (.inl ht)
  obtain ⟨cost, answer, evaluated, depth_le⟩ :=
    (valid.ranked named wellFormed clean).completes_start known statements
  -- the run lacked room that the evaluation takes, but the evaluation takes no more than there is
  have lacks : limits.recursion < cost.depth :=
    matchRoot_lacks distinct known evaluated limits tracer rfl (parseWith_eq_error_iff.1 halted)
  exact Nat.not_lt.2 (Nat.le_trans depth_le room) lacks

section Listed

variable {all : List Structure} (isRoot : root ∈ all) (registered : registry.structures ⊆ all)
  (closed : ∀ s ∈ all, g.successors s ⊆ all)

include isRoot registered closed

/-- A list that its structures do not refer out of holds all there is to know. -/
theorem Registry.mem_of_knows {s : Structure} (known : registry.Knows g root s) : s ∈ all := by
  rcases known with reaches | isRegistered
  · induction reaches with
    | refl => exact isRoot
    | step _ member ih => exact closed _ ih member
  · exact registered isRegistered

theorem Registry.named_of_nodup (nodup : (all.map (·.name)).Nodup) (s t : Structure)
    (hs : registry.Knows g root s) (ht : registry.Knows g root t) (same : s.name = t.name) :
    s = t :=
  List.inj_on_of_nodup_map nodup (mem_of_knows isRoot registered closed hs)
    (mem_of_knows isRoot registered closed ht) same

end Listed

/-- The registry of one structure. -/
def Registry.single (target : Structure) : Registry :=
  ⟨[target], List.nodup_singleton _⟩

section Single

variable (alone : ∀ t ∈ g.successors root, t = root)

include alone

/-- All there is to know of a structure that refers to nothing else is the structure itself. -/
theorem Registry.eq_of_knows_single {s : Structure} (known : (single root).Knows g root s) :
    s = root := by
  have closed : ∀ t ∈ [root], g.successors t ⊆ [root] := by
    intro t isRoot u member
    rw [List.mem_singleton.1 isRoot] at member
    exact List.mem_singleton.2 (alone u member)
  exact List.mem_singleton.1 (mem_of_knows List.mem_cons_self (List.Subset.refl _) closed known)

theorem Registry.named_single (s t : Structure) (hs : (single root).Knows g root s)
    (ht : (single root).Knows g root t) (_ : s.name = t.name) : s = t :=
  (eq_of_knows_single alone hs).trans (eq_of_knows_single alone ht).symm

theorem Registry.wellFormed_single {m : Matcher} (body : g.body root = .ok m) (s : Structure)
    (known : (single root).Knows g root s) : ∃ m, g.body s = .ok m := by
  rw [eq_of_knows_single alone known]
  exact ⟨m, body⟩

theorem Registry.ncard_reaches_single : {s | g.Reaches root s}.ncard = 1 := by
  rw [show {s | g.Reaches root s} = {root} from Set.eq_singleton_iff_unique_mem.2
    ⟨.refl, fun s reaches => eq_of_knows_single alone (.inl reaches)⟩, Set.ncard_singleton]

end Single

/-- Rows inside each other. An inner row may be missing, so the repetition can get stuck, but no row
begins with a row. -/
def row : Structure :=
  ⟨"row", "Row"⟩

def rows : Grammar :=
  ⟨[⟨row, .ok (.sequence (.statement ⟨"head"⟩) (.star (.optional (.sub row))) [])⟩]⟩

/-- Three statements have room for the rows in them, though the second row gets stuck. -/
theorem parse_ne_recursionLimitExceeded_rows :
    (parseWith rows row ⟨40, 4, true⟩ () (statementsOfKinds ["head", "head", "foot"])).1 ≠
      .error .recursionLimitExceeded := by
  have alone : ∀ t ∈ rows.successors row, t = row := fun _ => List.mem_singleton.1
  obtain ⟨findings, validated, ruledOut⟩ := parse_ne_recursionLimitExceeded (τ := Unit) rfl
    (Registry.named_single alone) (Registry.wellFormed_single alone rfl)
  have reported : (Registry.single row).validate rows row.name =
      .ok ⟨[(Diagnostic.about .nullableRepetition none).withDetail "Row"]⟩ := rfl
  have clean : ∀ entry ∈ findings.entries, entry.finding ≠ .leftRecursion := by
    obtain rfl := Except.ok.inj (validated.symm.trans reported)
    intro entry member
    rw [List.mem_singleton.1 member]
    exact nofun
  have room : {s | rows.Reaches row s}.ncard * (3 + 1) ≤ 4 := by
    rw [Registry.ncard_reaches_single alone]
  exact ruledOut clean _ ⟨40, 4, true⟩ () room

/-! ## Nullable repetitions -/

/-- If no nullable repetition is reported, no repetition gets stuck in a match from the root,
whatever else is reported. -/
theorem parse_ne_emptyRepetition (registered : registry.get? root.name = some root)
    (named : ∀ s t, registry.Knows g root s → registry.Knows g root t → s.name = t.name → s = t)
    (wellFormed : ∀ s, registry.Knows g root s → ∃ m, g.body s = .ok m) :
    ∃ findings, registry.validate g root.name = .ok findings ∧
      ((∀ entry ∈ findings.entries, entry.finding ≠ .nullableRepetition) →
        ∀ (statements : Array Statement) (limits : Limits) (tracer : τ) (name : String),
          (parseWith g root limits tracer statements).1 ≠ .error (.emptyRepetition name)) := by
  obtain ⟨findings, validated⟩ := exists_validate registered named wellFormed
  refine ⟨findings, validated, fun clean statements limits tracer name halted => ?_⟩
  obtain ⟨reachable, bodies, valid⟩ := validated_of_validate registered validated
  have known : root ∈ (Scope.below root : Scope g) := Scope.root_mem_below root
  have halted' := parseWith_eq_error_iff.1 halted
  rcases (matchRoot_accounts known limits tracer statements).settled with
    ⟨halt, cut, isCutOff⟩ | ⟨cost, answer, evaluated, settles⟩
  · -- a stuck repetition is not for want of fuel or room
    obtain rfl := Except.error.inj (halted'.symm.trans cut)
    cases isCutOff
  · have caused := evaluated.halt_cause (Task.within_inside known) (Cursor.le_refl _)
      (settles.outcome.symm.trans halted')
    exact valid.not_halts named wellFormed clean _ caused

/-- Links that lead to links: each chain begins with a chain. -/
def chain : Structure :=
  ⟨"chain", "Chain"⟩

def chains : Grammar :=
  ⟨[⟨chain,
    .ok (.choice (.sequence (.sub chain) (.statement ⟨"link"⟩) []) (.statement ⟨"link"⟩) [])⟩]⟩

/-- A chain goes round and round, but not in a repetition. -/
theorem parse_ne_emptyRepetition_chains :
    (parseWith chains chain ⟨40, 4, true⟩ () (statementsOfKinds ["link", "link"])).1 ≠
      .error (.emptyRepetition "Chain") := by
  have alone : ∀ t ∈ chains.successors chain, t = chain := fun _ => List.mem_singleton.1
  obtain ⟨findings, validated, ruledOut⟩ := parse_ne_emptyRepetition (τ := Unit) rfl
    (Registry.named_single alone) (Registry.wellFormed_single alone rfl)
  have reported : (Registry.single chain).validate chains chain.name =
      .ok ⟨[(Diagnostic.about .leftRecursion none).withDetail "`Chain` -> `Chain`"]⟩ := rfl
  have clean : ∀ entry ∈ findings.entries, entry.finding ≠ .nullableRepetition := by
    obtain rfl := Except.ok.inj (validated.symm.trans reported)
    intro entry member
    rw [List.mem_singleton.1 member]
    exact nofun
  exact ruledOut clean _ ⟨40, 4, true⟩ () "Chain"

end OrderedChoice
