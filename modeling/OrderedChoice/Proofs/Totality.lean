import OrderedChoice.Proofs.Halting

/-!
# Evaluations come to an end

If structures can be ranked so that whatever a body enters first ranks below its structure, then
every structure evaluates at every cursor, and it takes no more nested structures than there are
ranks for each position from the cursor on (`Ranked.completes`). Until a statement is consumed, only
structures of lower rank are entered; afterwards there is less input left.
-/

namespace OrderedChoice

/-- A cursor is before another if it comes first in the same slice. -/
instance : LT Cursor :=
  ⟨fun a b => a.slice = b.slice ∧ a.position < b.position⟩

theorem Cursor.lt_or_eq_of_le {a b : Cursor} (h : a ≤ b) : a < b ∨ b = a := by
  rcases Nat.lt_or_eq_of_le h.2 with less | same
  · exact .inl ⟨h.1, less⟩
  · exact .inr (eq_of_position_eq h.1.symm same.symm)

theorem Cursor.lt_trans {a b c : Cursor} (hab : a < b) (hbc : b < c) : a < c :=
  ⟨hab.1.trans hbc.1, Nat.lt_trans hab.2 hbc.2⟩

theorem Cursor.remaining_lt {a b : Cursor} (h : a < b) : b.remaining < a.remaining := by
  have within : b.position ≤ a.slice.size := h.1 ▸ b.position_le
  have further := h.2
  rw [remaining, remaining, ← h.1]
  omega

/-! ## Leading structures -/

namespace Matcher

theorem leadingInTurn_subset {ms : List Matcher} (h : ∀ m ∈ ms, m.leading ⊆ m.references) :
    leadingInTurn ms ⊆ ms.flatMap references := by
  induction ms with
  | nil => exact List.nil_subset _
  | cons m ms ih =>
    obtain ⟨head, tail⟩ := List.forall_mem_cons.1 h
    rw [leadingInTurn, List.flatMap_cons]
    split
    · refine List.append_subset.2 ⟨?_, ?_⟩
      · exact List.subset_append_of_subset_left _ head
      · exact List.subset_append_of_subset_right _ (ih tail)
    · rw [List.append_nil]
      exact List.subset_append_of_subset_left _ head

/-- What a matcher enters first it refers to. -/
theorem leading_subset (m : Matcher) : m.leading ⊆ m.references := by
  induction m with
  | statement kind => exact List.Subset.refl _
  | sub target => exact List.Subset.refl _
  | optional body ih => exact ih
  | star body ih => exact ih
  | sequence a b rest ih =>
    rw [leading_sequence, references_sequence]
    exact leadingInTurn_subset ih
  | choice a b rest ih =>
    rw [leading_choice, references_choice]
    intro t member
    obtain ⟨m, hm, ht⟩ := List.mem_flatMap.1 member
    exact List.mem_flatMap.2 ⟨m, hm, ih m hm ht⟩

end Matcher

/-! ## Matchers -/

variable {g : Grammar} {scope : Scope g} {depth : Nat} {host : String} {input : Cursor}

/-- The task has an evaluation that nests at most `depth` structures. -/
def Completes (scope : Scope g) (depth : Nat) (host : String) (task : Task)
    (input : Cursor) : Prop :=
  ∃ cost answer, Evaluates g scope host task input cost answer ∧ cost.depth ≤ depth

/-- What a task needs to complete: the structures it may enter first complete where it stands, and
all that it refers to complete later on. -/
structure Provided (scope : Scope g) (depth : Nat) (leading references : List Structure)
    (input : Cursor) : Prop where
  known : ∀ t ∈ references, t ∈ scope
  now : ∀ t ∈ leading, Completes scope depth t.name (.inside t) input
  later : ∀ t ∈ references, ∀ later, input < later → Completes scope depth t.name (.inside t) later

namespace Provided

variable {leading leading' references references' : List Structure}

theorem mono (h : Provided scope depth leading references input) (first : leading' ⊆ leading)
    (all : references' ⊆ references) : Provided scope depth leading' references' input :=
  ⟨fun t ht => h.known t (all ht), fun t ht => h.now t (first ht), fun t ht => h.later t (all ht)⟩

/-- Once a statement is consumed, everything may be entered. -/
theorem moved {later : Cursor} (h : Provided scope depth leading references input)
    (moved : input < later) (first : leading' ⊆ references) :
    Provided scope depth leading' references later :=
  ⟨h.known, fun t ht => h.later t (first ht) later moved,
    fun t ht latest less => h.later t ht latest (Cursor.lt_trans moved less)⟩

end Provided

/-- A matcher completes for every host wherever it has what it needs. -/
def CompletesIf (scope : Scope g) (depth : Nat) (m : Matcher) : Prop :=
  ∀ host input, Provided scope depth m.leading m.references input →
  Completes scope depth host (.whole m) input

theorem completes_inTurn (host : String) {start : Cursor} :
    ∀ {parts : List Matcher} {rest : Cursor}, (∀ m ∈ parts, CompletesIf scope depth m) →
    start ≤ rest →
    Provided scope depth (Matcher.leadingInTurn parts) (parts.flatMap Matcher.references) rest →
    Completes scope depth host (.inTurn start parts) rest := by
  intro parts
  induction parts with
  | nil => exact fun _ _ _ => ⟨_, _, .noPartLeft, Nat.zero_le _⟩
  | cons part parts ih =>
    intro rest completes le provided
    obtain ⟨head, tail⟩ := List.forall_mem_cons.1 completes
    have references :
        parts.flatMap Matcher.references ⊆ (part :: parts).flatMap Matcher.references := by
      rw [List.flatMap_cons]
      exact List.subset_append_right _ _
    have first : Provided scope depth part.leading part.references rest := by
      refine provided.mono ?_ ?_
      · rw [Matcher.leadingInTurn]
        exact List.subset_append_left _ _
      · rw [List.flatMap_cons]
        exact List.subset_append_left _ _
    obtain ⟨cost, answer, evaluated, depth_le⟩ := head host rest first
    cases outcome : answer.outcome with
    | error halt => exact ⟨_, _, .partHalted evaluated outcome, depth_le⟩
    | ok verdict =>
      cases failed : verdict.failed with
      | true => exact ⟨_, _, .partFailed evaluated ⟨outcome, failed⟩, depth_le⟩
      | false =>
        have succeeds : answer.Succeeds verdict := ⟨outcome, failed⟩
        have moved := (evaluated.covers rest.le_refl).le_rest verdict succeeds
        have others :
            Provided scope depth (Matcher.leadingInTurn parts) (parts.flatMap Matcher.references)
              verdict.rest := by
          rcases Cursor.lt_or_eq_of_le moved with less | stays
          · have leading := Matcher.leadingInTurn_subset fun m (_ : m ∈ parts) => m.leading_subset
            exact (provided.mono (List.Subset.refl _) references).moved less leading
          · -- the part was nullable, so what leads the others leads all
            have nullable : part.nullable = true := evaluated.nullable rest.le_refl succeeds stays
            rw [stays]
            refine provided.mono ?_ references
            rw [Matcher.leadingInTurn, if_pos nullable]
            exact List.subset_append_right _ _
        obtain ⟨cost', answer', evaluated', depth_le'⟩ := ih tail (Cursor.le_trans le moved) others
        exact ⟨_, _, .partSucceeded evaluated succeeds evaluated',
          Nat.max_le.2 ⟨depth_le, depth_le'⟩⟩

theorem completes_firstOf (host : String) (all : List Matcher) :
    ∀ {branches : List Matcher} (description : String) (progress : Nat),
    (∀ m ∈ branches, CompletesIf scope depth m) →
    Provided scope depth
      (branches.flatMap Matcher.leading) (branches.flatMap Matcher.references) input →
    Completes scope depth host (.firstOf all branches description progress) input := by
  intro branches
  induction branches with
  | nil => exact fun _ _ _ _ => ⟨_, _, .noBranchLeft, Nat.zero_le _⟩
  | cons branch branches ih =>
    intro description progress completes provided
    obtain ⟨head, tail⟩ := List.forall_mem_cons.1 completes
    rw [List.flatMap_cons, List.flatMap_cons] at provided
    obtain ⟨cost, answer, evaluated, depth_le⟩ := head host input
      (provided.mono (List.subset_append_left _ _) (List.subset_append_left _ _))
    cases outcome : answer.outcome with
    | error halt => exact ⟨_, _, .branchHalted evaluated outcome, depth_le⟩
    | ok verdict =>
      cases failed : verdict.failed with
      | false => exact ⟨_, _, .branchTaken evaluated ⟨outcome, failed⟩, depth_le⟩
      | true =>
        obtain ⟨cost', answer', evaluated', depth_le'⟩ := ih
          (if progress < verdict.progress then verdict.description else description)
          (if progress < verdict.progress then verdict.progress else progress) tail
          (provided.mono (List.subset_append_right _ _) (List.subset_append_right _ _))
        exact ⟨_, _, .branchFailed evaluated ⟨outcome, failed⟩ evaluated',
          Nat.max_le.2 ⟨depth_le, depth_le'⟩⟩

theorem completes_rounds (host : String) (start : Cursor) {body : Matcher}
    (completes : CompletesIf scope depth body) (left : Nat) :
    ∀ rest : Cursor, rest.remaining = left →
    Provided scope depth body.leading body.references rest →
    Completes scope depth host (.rounds start body) rest := by
  induction left using Nat.strongRecOn with
  | ind left ih =>
    intro rest remaining provided
    cases more : rest.isAtEnd with
    | true => exact ⟨_, _, .roundsOver more, Nat.zero_le _⟩
    | false =>
      obtain ⟨cost, answer, evaluated, depth_le⟩ := completes host rest provided
      cases outcome : answer.outcome with
      | error halt => exact ⟨_, _, .roundHalted more evaluated outcome, depth_le⟩
      | ok verdict =>
        cases failed : verdict.failed with
        | true =>
          rcases Nat.eq_zero_or_pos verdict.progress with zero | pos
          · exact ⟨_, _, .roundRefused more evaluated ⟨outcome, failed⟩ zero, depth_le⟩
          · exact ⟨_, _, .roundMalformed more evaluated ⟨outcome, failed⟩ pos, depth_le⟩
        | false =>
          have succeeds : answer.Succeeds verdict := ⟨outcome, failed⟩
          have moved := (evaluated.covers rest.le_refl).le_rest verdict succeeds
          by_cases stuck : verdict.rest.position = rest.position
          · exact ⟨_, _, .roundStuck more evaluated succeeds stuck, depth_le⟩
          · have less : rest < verdict.rest := ⟨moved.1, Nat.lt_of_le_of_ne moved.2 (Ne.symm stuck)⟩
            have fewer : verdict.rest.remaining < left := remaining ▸ Cursor.remaining_lt less
            obtain ⟨cost', answer', evaluated', depth_le'⟩ :=
              ih _ fewer verdict.rest rfl (provided.moved less body.leading_subset)
            exact ⟨_, _, .roundGained more evaluated succeeds stuck evaluated',
              Nat.max_le.2 ⟨depth_le, depth_le'⟩⟩

/-- Every matcher completes where it has what it needs. -/
theorem Matcher.completesIf (m : Matcher) : CompletesIf scope depth m := by
  induction m with
  | statement kind =>
    intro host input _
    by_cases found : ∃ statement, input.first? = some statement ∧ statement.kind = kind
    · obtain ⟨statement, first, same⟩ := found
      exact ⟨_, _, .matched first same, Nat.zero_le _⟩
    · exact ⟨_, _, .mismatched fun statement first same => found ⟨statement, first, same⟩,
        Nat.zero_le _⟩
  | sub target =>
    intro host input provided
    obtain ⟨cost, answer, evaluated, depth_le⟩ := provided.now target (List.mem_singleton.2 rfl)
    exact ⟨_, _, .sub (provided.known target (List.mem_singleton.2 rfl)) rfl evaluated, depth_le⟩
  | optional body ih =>
    intro host input provided
    obtain ⟨cost, answer, evaluated, depth_le⟩ := ih host input provided
    exact ⟨_, _, .optional evaluated, depth_le⟩
  | star body ih =>
    intro host input provided
    obtain ⟨cost, answer, evaluated, depth_le⟩ :=
      completes_rounds host input ih _ input rfl provided
    exact ⟨_, _, .star evaluated, depth_le⟩
  | sequence a b rest ih =>
    intro host input provided
    rw [Matcher.leading_sequence, Matcher.references_sequence] at provided
    obtain ⟨cost, answer, evaluated, depth_le⟩ := completes_inTurn host ih input.le_refl provided
    exact ⟨_, _, .sequence evaluated, depth_le⟩
  | choice a b rest ih =>
    intro host input provided
    rw [Matcher.leading_choice, Matcher.references_choice] at provided
    obtain ⟨cost, answer, evaluated, depth_le⟩ :=
      completes_firstOf host (a :: b :: rest) "" 0 ih provided
    exact ⟨_, _, .choice evaluated, depth_le⟩

/-! ## Structures -/

/-- A ranking of structures: there are `levels` ranks, and whatever a body enters first ranks
lower. -/
structure Ranked (scope : Scope g) (rank : Structure → Nat) (levels : Nat) : Prop where
  wellFormed : ∀ s ∈ scope, ∃ m, g.body s = .ok m
  bounded : ∀ s ∈ scope, rank s < levels
  descends : ∀ s ∈ scope, ∀ m, g.body s = .ok m → ∀ t ∈ m.leading, rank t < rank s

/-- Ranked structures complete everywhere, with at most `levels` structures open at each
position. -/
theorem Ranked.completes {rank : Structure → Nat} {levels : Nat} (ranked : Ranked scope rank levels)
    (left : Nat) :
    ∀ input : Cursor, input.remaining = left → ∀ s ∈ scope,
      Completes scope (rank s + 1 + levels * left) s.name (.inside s) input := by
  induction left using Nat.strongRecOn with
  | ind left ih =>
    intro input remaining s
    -- at one position the rank decreases
    induction hr : rank s using Nat.strongRecOn generalizing s with
    | ind r ihRank =>
      intro known
      obtain ⟨m, body⟩ := ranked.wellFormed s known
      have references := Scope.references_subset known body
      have provided : Provided scope (r + levels * left) m.leading m.references input := by
        refine ⟨references, ?_, ?_⟩
        · intro t ht
          have lower := ranked.descends s known m body t ht
          obtain ⟨cost, answer, evaluated, depth_le⟩ :=
            ihRank (rank t) (hr ▸ lower) t rfl (references t (m.leading_subset ht))
          exact ⟨cost, answer, evaluated, by omega⟩
        · intro t ht later less
          have fewer : later.remaining < left := remaining ▸ Cursor.remaining_lt less
          obtain ⟨cost, answer, evaluated, depth_le⟩ := ih _ fewer later rfl t (references t ht)
          have ranks := ranked.bounded t (references t ht)
          have levels_le : levels * (later.remaining + 1) ≤ levels * left :=
            Nat.mul_le_mul_left _ fewer
          rw [Nat.mul_succ] at levels_le
          exact ⟨cost, answer, evaluated, by omega⟩
      obtain ⟨cost, answer, evaluated, depth_le⟩ := m.completesIf s.name input provided
      refine ⟨_, _, .entered body evaluated, ?_⟩
      rw [Cost.depth_enter]
      omega

/-- Ranked structures complete at the beginning of the statements, with at most `levels` structures
open at each position. -/
theorem Ranked.completes_start {rank : Structure → Nat} {levels : Nat}
    (ranked : Ranked scope rank levels) {s : Structure} (known : s ∈ scope)
    (statements : Array Statement) :
    Completes scope (levels * (statements.size + 1)) s.name (.inside s)
      (.start ⟨0, statements⟩) := by
  obtain ⟨cost, answer, evaluated, depth_le⟩ :=
    ranked.completes _ (.start ⟨0, statements⟩) rfl s known
  have remaining : (Cursor.start ⟨0, statements⟩).remaining = statements.size := rfl
  have bounded := ranked.bounded s known
  rw [remaining] at depth_le
  refine ⟨cost, answer, evaluated, ?_⟩
  rw [Nat.mul_succ]
  omega

end OrderedChoice
