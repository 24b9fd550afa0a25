import OrderedChoice.Registry

/-!
# Registrations

A registry is filled by one call after the other, and a call that is refused leaves it as it was. So
it holds the first structure of every name, in the order of these first calls, whatever else was
called in between (`registrations_keep_first`).
-/

namespace OrderedChoice

namespace Registry

variable {registry after : Registry} {target : Structure} {fault : DuplicateStructure}

/-! ## One call -/

theorem contains_iff_mem_names {name : String} :
    registry.contains name = true ↔ name ∈ registry.names :=
  List.contains_iff_mem

theorem contains_eq_false_iff {name : String} :
    registry.contains name = false ↔ name ∉ registry.names := by
  rw [← Bool.not_eq_true, contains_iff_mem_names]

theorem register_of_taken (taken : target.name ∈ registry.names) :
    registry.register target = .error ⟨target.name⟩ :=
  dif_pos taken

theorem register_of_free (free : target.name ∉ registry.names) :
    ∃ after, registry.register target = .ok after ∧
      after.structures = registry.structures ++ [target] :=
  ⟨_, dif_neg free, rfl⟩

/-- A structure is refused exactly if its name is taken, and then nothing changes. -/
theorem attempt_of_taken (taken : target.name ∈ registry.names) :
    registry.attempt target = (.error ⟨target.name⟩, registry) := by
  rw [attempt, register_of_taken taken]

theorem attempt_of_free (free : target.name ∉ registry.names) :
    ∃ after, registry.attempt target = (.ok (), after) ∧
      after.structures = registry.structures ++ [target] := by
  obtain ⟨after, registered, structures⟩ := register_of_free free
  exact ⟨after, by rw [attempt, registered], structures⟩

theorem attempt_eq_error_iff :
    (registry.attempt target).1 = .error ⟨target.name⟩ ↔ registry.contains target.name = true := by
  rw [contains_iff_mem_names]
  by_cases taken : target.name ∈ registry.names
  · rw [attempt_of_taken taken]
    exact iff_of_true rfl taken
  · obtain ⟨after, attempted, _⟩ := attempt_of_free taken
    rw [attempted]
    exact iff_of_false nofun taken

theorem attempt_eq_ok_iff :
    (registry.attempt target).1 = .ok () ↔ registry.contains target.name = false := by
  rw [contains_eq_false_iff]
  by_cases taken : target.name ∈ registry.names
  · rw [attempt_of_taken taken]
    exact iff_of_false nofun (not_not_intro taken)
  · obtain ⟨after, attempted, _⟩ := attempt_of_free taken
    rw [attempted]
    exact iff_of_true rfl taken

theorem names_of_structures (structures : after.structures = registry.structures ++ [target]) :
    after.names = registry.names ++ [target.name] := by
  rw [names, structures, List.map_append]
  rfl

/-! ## Call after call -/

theorem attemptAll_cons (registry : Registry) (target : Structure) (targets : List Structure) :
    registry.attemptAll (target :: targets) =
      ((registry.attempt target).1 :: ((registry.attempt target).2.attemptAll targets).1,
        ((registry.attempt target).2.attemptAll targets).2) := rfl

theorem length_attemptAll (targets : List Structure) : ∀ registry : Registry,
    (registry.attemptAll targets).1.length = targets.length := by
  induction targets with
  | nil => exact fun _ => rfl
  | cons target targets ih => exact fun registry => congrArg (· + 1) (ih _)

/-- Later calls go on from the registry that the earlier ones leave. -/
theorem attemptAll_append (earlier later : List Structure) : ∀ registry : Registry,
    registry.attemptAll (earlier ++ later) =
      ((registry.attemptAll earlier).1 ++ ((registry.attemptAll earlier).2.attemptAll later).1,
        ((registry.attemptAll earlier).2.attemptAll later).2) := by
  induction earlier with
  | nil => exact fun _ => rfl
  | cons target earlier ih =>
    intro registry
    rw [List.cons_append, attemptAll_cons, ih, attemptAll_cons, List.cons_append]

/-- Each call is answered by the registry that the earlier ones leave. -/
theorem answer_attemptAll (registry : Registry) (earlier later : List Structure)
    (target : Structure) :
    (registry.attemptAll (earlier ++ target :: later)).1[earlier.length]? =
      some ((registry.attemptAll earlier).2.attempt target).1 := by
  rw [attemptAll_append, attemptAll_cons, ← length_attemptAll earlier registry,
    List.getElem?_append_right (Nat.le_refl _), Nat.sub_self]
  rfl

/-- The names of the structures that calls accepted, in the order of the calls. -/
def accepted (targets : List Structure) (answers : List (Except DuplicateStructure Unit)) :
    List String :=
  ((targets.zip answers).filter fun call => call.2.isOk).map fun call => call.1.name

/-- Each call that is accepted adds a name at the end, and no other call adds any. -/
theorem names_attemptAll (targets : List Structure) : ∀ registry : Registry,
    (registry.attemptAll targets).2.names =
      registry.names ++ accepted targets (registry.attemptAll targets).1 := by
  induction targets with
  | nil => exact fun registry => (List.append_nil _).symm
  | cons target targets ih =>
    intro registry
    rw [attemptAll_cons]
    by_cases taken : target.name ∈ registry.names
    · rw [attempt_of_taken taken]
      exact ih registry
    · obtain ⟨after, attempted, structures⟩ := attempt_of_free taken
      rw [attempted, ih, names_of_structures structures, List.append_assoc]
      rfl

/-- What is got under a name is the first structure of that name: one that was there before, or else
the first one called with. -/
theorem get?_attemptAll (name : String) (targets : List Structure) : ∀ registry : Registry,
    (registry.attemptAll targets).2.get? name =
      (registry.get? name).or (targets.find? (·.name = name)) := by
  induction targets with
  | nil => exact fun registry => (Option.or_none).symm
  | cons target targets ih =>
    intro registry
    rw [attemptAll_cons, ih]
    by_cases taken : target.name ∈ registry.names
    · rw [attempt_of_taken taken]
      by_cases same : target.name = name
      · -- the name has a structure already, so that neither the call nor later ones matter
        have known : (registry.get? name).isSome = true := by
          rwa [isSome_get?, contains_iff_mem_names, ← same]
        rw [Option.or_of_isSome known, Option.or_of_isSome known]
      · rw [List.find?_cons_of_neg (by simpa using same)]
    · obtain ⟨after, attempted, structures⟩ := attempt_of_free taken
      have found : after.get? name = (registry.get? name).or ([target].find? (·.name = name)) := by
        rw [get?, structures, List.find?_append]
        rfl
      rw [attempted, found, Option.or_assoc, ← List.find?_append]
      rfl

/-! ## All or nothing -/

/-- Structures are registered together exactly if no name repeats an earlier one, and then call
after call comes to the same. -/
theorem registerAll_eq_ok_iff (targets : List Structure) : ∀ {registry after : Registry},
    registry.registerAll targets = .ok after ↔
      (registry.names ++ targets.map (·.name)).Nodup ∧ after = (registry.attemptAll targets).2 := by
  induction targets with
  | nil =>
    intro registry after
    rw [registerAll, List.map_nil, List.append_nil, Except.ok.injEq, eq_comm]
    exact (and_iff_right registry.names_nodup).symm
  | cons target targets ih =>
    intro registry after
    rw [registerAll, attemptAll_cons, List.map_cons]
    by_cases taken : target.name ∈ registry.names
    · rw [register_of_taken taken]
      refine iff_of_false nofun fun ⟨nodup, _⟩ => ?_
      exact (List.nodup_append.1 nodup).2.2 _ taken _ List.mem_cons_self rfl
    · obtain ⟨middle, registered, structures⟩ := register_of_free taken
      have attempted : registry.attempt target = (.ok (), middle) := by rw [attempt, registered]
      rw [registered, attempted, List.append_cons, ← names_of_structures structures]
      exact ih

/-- Otherwise the first name that repeats an earlier one is reported. -/
theorem registerAll_eq_error_iff (targets : List Structure) : ∀ {registry : Registry},
    registry.registerAll targets = .error fault ↔
      ∃ earlier target later, targets = earlier ++ target :: later ∧
        (registry.names ++ earlier.map (·.name)).Nodup ∧
        target.name ∈ registry.names ++ earlier.map (·.name) ∧
        fault = ⟨target.name⟩ := by
  induction targets with
  | nil =>
    intro registry
    refine iff_of_false nofun ?_
    rintro ⟨earlier, target, later, split, _⟩
    exact List.append_ne_nil_of_right_ne_nil earlier (List.cons_ne_nil target later) split.symm
  | cons first targets ih =>
    intro registry
    rw [registerAll]
    by_cases taken : first.name ∈ registry.names
    · rw [register_of_taken taken]
      constructor
      · intro reported
        refine ⟨[], first, targets, rfl, ?_, ?_, (Except.error.inj reported).symm⟩
        · rw [List.map_nil, List.append_nil]
          exact registry.names_nodup
        · rwa [List.map_nil, List.append_nil]
      · rintro ⟨_ | ⟨other, earlier⟩, target, later, split, nodup, _, rfl⟩
        · obtain ⟨rfl, _⟩ := List.cons.inj split
          rfl
        · obtain ⟨rfl, _⟩ := List.cons.inj split
          exact absurd rfl ((List.nodup_append.1 nodup).2.2 _ taken _ List.mem_cons_self)
    · obtain ⟨middle, registered, structures⟩ := register_of_free taken
      have names := names_of_structures structures
      rw [registered]
      refine ih.trans ?_
      rw [names]
      constructor
      · rintro ⟨earlier, target, later, rfl, nodup, repeated, rfl⟩
        refine ⟨first :: earlier, target, later, rfl, ?_, ?_, rfl⟩
        · rwa [List.map_cons, List.append_cons]
        · rwa [List.map_cons, List.append_cons]
      · rintro ⟨_ | ⟨other, earlier⟩, target, later, split, nodup, repeated, rfl⟩
        · obtain ⟨rfl, _⟩ := List.cons.inj split
          rw [List.map_nil, List.append_nil] at repeated
          exact absurd repeated taken
        · obtain ⟨rfl, rfl⟩ := List.cons.inj split
          rw [List.map_cons, List.append_cons] at nodup repeated
          exact ⟨earlier, target, later, rfl, nodup, repeated, rfl⟩

/-! ## From an empty registry -/

/-- The registry holds the first structure of each name that was called with, in the order of the
calls that were accepted. -/
structure HoldsFirst (registry : Registry) (targets : List Structure)
    (answers : List (Except DuplicateStructure Unit)) : Prop where
  names_eq : registry.names = accepted targets answers
  nodup : registry.names.Nodup
  get?_eq : ∀ name, registry.get? name = targets.find? (·.name = name)
  contains_iff : ∀ name, registry.contains name = true ↔ ∃ target, registry.get? name = some target

theorem holdsFirst_attemptAll (targets : List Structure) :
    (empty.attemptAll targets).2.HoldsFirst targets (empty.attemptAll targets).1 where
  names_eq := names_attemptAll targets empty
  nodup := Registry.names_nodup _
  get?_eq name := get?_attemptAll name targets empty
  contains_iff name := by rw [← isSome_get?, Option.isSome_iff_exists]

/-- Whatever calls are made on an empty registry, it holds the first structure of each name called
with. A call is refused exactly if the name is there already, and then leaves the registry, and with
it all that can be looked up or rendered, as it was. Registering a list comes to the same as these
calls if no name repeats an earlier one, and otherwise reports the first name that does. -/
theorem registrations_keep_first (targets : List Structure) :
    (empty.attemptAll targets).2.HoldsFirst targets (empty.attemptAll targets).1 ∧
    (∀ earlier target later, targets = earlier ++ target :: later →
      ∃ before answer after, (empty.attemptAll earlier).2 = before ∧
        before.attempt target = (answer, after) ∧
        (empty.attemptAll targets).1[earlier.length]? = some answer ∧
        (answer = .error ⟨target.name⟩ ↔ before.contains target.name = true) ∧
        (answer = .ok () ↔ before.contains target.name = false) ∧
        (before.contains target.name = true → after = before)) ∧
    ((∃ registry, ofList targets = .ok registry) ↔ (targets.map (·.name)).Nodup) ∧
    (∀ registry, ofList targets = .ok registry → registry = (empty.attemptAll targets).2) ∧
    ∀ fault, ofList targets = .error fault ↔
      ∃ earlier target later, targets = earlier ++ target :: later ∧ (earlier.map (·.name)).Nodup ∧
        target.name ∈ earlier.map (·.name) ∧ fault = ⟨target.name⟩ := by
  have together {registry : Registry} : ofList targets = .ok registry ↔
      (targets.map (·.name)).Nodup ∧ registry = (empty.attemptAll targets).2 :=
      registerAll_eq_ok_iff targets
  refine ⟨holdsFirst_attemptAll targets, ?_, ?_, fun registry ok => (together.1 ok).2,
    fun fault => ?_⟩
  · rintro earlier target later rfl
    refine ⟨(empty.attemptAll earlier).2, ((empty.attemptAll earlier).2.attempt target).1,
      ((empty.attemptAll earlier).2.attempt target).2, rfl, rfl,
      answer_attemptAll empty earlier later target, attempt_eq_error_iff, attempt_eq_ok_iff,
      fun taken => ?_⟩
    rw [attempt_of_taken (contains_iff_mem_names.1 taken)]
  · exact ⟨fun ⟨_, ok⟩ => (together.1 ok).1, fun nodup => ⟨_, together.2 ⟨nodup, rfl⟩⟩⟩
  · exact registerAll_eq_error_iff targets

example :
    (empty.attemptAll
      [⟨"line", "Line"⟩, ⟨"page", "Page"⟩, ⟨"row", "Line"⟩, ⟨"note", "Note"⟩]).2.structures =
      [⟨"line", "Line"⟩, ⟨"page", "Page"⟩, ⟨"note", "Note"⟩] := rfl

end Registry

end OrderedChoice
