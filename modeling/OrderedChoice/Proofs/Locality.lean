import OrderedChoice.Proofs.Growth
import OrderedChoice.Proofs.Lockstep

/-!
# What a match depends on

A match looks at the kinds of the statements from where it begins up to the furthest it gets, and at
nothing else (`run_local`): where another slice has the same kinds, it does the same there.
-/

namespace OrderedChoice

variable {τ υ : Type} [Tracer τ] [Tracer υ]

/-- The alignment of two slices whose kinds agree from two cursors on, up to a position of the
first. -/
def Alignment.ofKinds (input input' : Cursor) (stop : Nat)
    (window : ∀ i, input.position + i ≤ stop →
      input.slice.statements[input.position + i]?.map (·.kind) =
        input'.slice.statements[input'.position + i]?.map (·.kind)) : Alignment where
  alike s t := s.kind = t.kind
  kind_eq := id
  left := input.slice
  right := input'.slice
  leftStart := input.position
  rightStart := input'.position
  stop := stop
  aligned := by
    intro i le
    have same := window i le
    generalize input.slice.statements[input.position + i]? = s at same ⊢
    generalize input'.slice.statements[input'.position + i]? = t at same ⊢
    cases s <;> cases t <;> simp_all

/-- Where the kinds of the statements are the same from the beginning of a match up to the furthest
that it gets, another match comes to the same: it halts alike, or says the same of as many
statements; it spends as much fuel, and grows nodes of the same shape, as far from its beginning. -/
theorem run_local {g : Grammar} {m : Matcher} {limits : Limits} {tracer : τ} {tracer' : υ}
    {host host' : OpenNode} (same : host'.target = host.target) {input input' : Cursor}
    {r : Result τ} {r' : Result υ} (left : run g m input ⟨.fresh limits tracer, host⟩ = r)
    (right : run g m input' ⟨.fresh limits tracer', host'⟩ = r')
    (window : ∀ i, input.position + i ≤ max input.position r.2.context.furthest →
      input.slice.statements[input.position + i]?.map (·.kind) =
        input'.slice.statements[input'.position + i]?.map (·.kind)) :
    ((∃ halt, r.1 = .error halt ∧ r'.1 = .error halt) ∨
      ∃ v w, r.1 = .ok v ∧ r'.1 = .ok w ∧ w.failed = v.failed ∧ w.consumed = v.consumed ∧
        w.description = v.description ∧ w.progress = v.progress) ∧
    r'.2.context.fuel = r.2.context.fuel ∧
    ∃ nodes nodes', r.2.node = host.grow nodes ∧ r'.2.node = host'.grow nodes' ∧
      List.Forall₂ (Node.Parallel (fun s t => s.kind = t.kind) input.position input'.position)
        nodes nodes' := by
  let A := Alignment.ofKinds input input' _ window
  have place : A.Cursors input input' := ⟨rfl, rfl, ⟨0, rfl, rfl⟩, Nat.le_max_left _ _⟩
  have sites : A.Sites host host' ⟨.fresh limits tracer, host⟩ ⟨.fresh limits tracer', host'⟩ :=
    .fresh rfl _ _ same
  have lockstep :=
    (A.run_lockstep g limits.fuel limits.fuel).lockstep m place sites.rebase (Nat.le_refl _)
    (Nat.le_refl _)
  rw [left, right] at lockstep
  rcases lockstep with ⟨outcome, sites, spent⟩ | parted
  · have spent : limits.fuel + _ = limits.fuel + _ := spent
    refine ⟨?_, Nat.add_left_cancel spent, sites.grown⟩
    generalize r.1 = outcome₁, r'.1 = outcome₂ at outcome
    cases outcome with
    | halted halt => exact .inl ⟨halt, rfl, rfl⟩
    | @answered v w verdicts =>
      exact .inr ⟨v, w, rfl, rfl, verdicts.failed, verdicts.consumed_eq, verdicts.description,
        verdicts.progress⟩
  · cases parted with
    | beyond far => exact absurd (Nat.le_max_right _ _) (Nat.not_le_of_lt far)
    | left cut short =>
      have short : limits.fuel + _ < limits.fuel ∨ limits.recursion - 0 < limits.recursion - 0 :=
        short
      omega
    | right cut short =>
      have short : limits.fuel + _ < limits.fuel ∨ limits.recursion - 0 < limits.recursion - 0 :=
        short
      omega

/-- The second statement of `nested`, where its inner block begins. -/
def innerBlock : Cursor :=
  ⟨nested, 1, by decide⟩

/-- The same block, with other statements around it. -/
def blockAlone : Slice :=
  ⟨1, statementsOfKinds ["begin", "end", "do"]⟩

/-- The inner block is the same block at the beginning of another slice. -/
theorem run_local_inner :
    ∃ v w, (run blocks (.sub block) innerBlock ⟨smallContext, .empty block⟩).1 = .ok v ∧
      (run blocks (.sub block) (.start blockAlone) ⟨smallContext, .empty block⟩).1 = .ok w ∧
      w.failed = v.failed ∧ w.consumed = v.consumed ∧ w.description = v.description ∧
      w.progress = v.progress := by
  have left : run blocks (.sub block) innerBlock ⟨.fresh ⟨30, 5, false⟩ (), .empty block⟩ =
      run blocks (.sub block) innerBlock ⟨smallContext, .empty block⟩ := rfl
  have right :
      run blocks (.sub block) (.start blockAlone) ⟨.fresh ⟨30, 5, false⟩ (), .empty block⟩ =
        run blocks (.sub block) (.start blockAlone) ⟨smallContext, .empty block⟩ := rfl
  have far :
    (run blocks (.sub block) innerBlock ⟨smallContext, .empty block⟩).2.context.furthest = 3 := rfl
  have window : ∀ i, innerBlock.position + i ≤
      max innerBlock.position
        (run blocks (.sub block) innerBlock ⟨smallContext, .empty block⟩).2.context.furthest →
      innerBlock.slice.statements[innerBlock.position + i]?.map (·.kind) =
        (Cursor.start blockAlone).slice.statements[(Cursor.start blockAlone).position + i]?.map
          (·.kind) := by
    intro i le
    rw [far] at le
    have le : 1 + i ≤ 3 := le
    match i with
    | 0 | 1 | 2 => rfl
    | i + 3 => omega
  obtain ⟨halted | answered, _⟩ := run_local rfl left right window
  · obtain ⟨halt, halted, _⟩ := halted
    cases halted
  · exact answered

end OrderedChoice
