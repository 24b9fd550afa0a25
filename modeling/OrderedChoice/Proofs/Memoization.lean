import OrderedChoice.Proofs.Completion
import OrderedChoice.Proofs.Growth

/-!
# Memoization is transparent

Where the names of the reachable structures are distinct, a memo table changes nothing but the fuel
that is left: a match that comes to an end without one comes to the same end with it.
-/

namespace OrderedChoice

variable {τ : Type} [Tracer τ] {g : Grammar} {scope : Scope g} {root : Structure} {cost : Cost}
  {answer : Answer} {statements : Array Statement}

/-- A match without a memo table that is not cut off settles on the same answer with one. -/
theorem matchRoot_memoized (named : (Scope.below root : Scope g).Named)
    {fuel recursion : Nat} {tracer : τ}
    (through : ¬ Result.CutOff (matchRoot g root ⟨fuel, recursion, false⟩ tracer statements)) :
    ∃ cost answer,
      Settles cost answer (.empty root) ⟨.fresh ⟨fuel, recursion, false⟩ tracer, .empty root⟩
        (matchRoot g root ⟨fuel, recursion, false⟩ tracer statements) ∧
      Settles cost answer (.empty root) ⟨.fresh ⟨fuel, recursion, true⟩ tracer, .empty root⟩
        (matchRoot g root ⟨fuel, recursion, true⟩ tracer statements) := by
  have known : root ∈ (Scope.below root : Scope g) := Scope.root_mem_below root
  rcases (matchRoot_accounts known ⟨fuel, recursion, false⟩ tracer statements).settled with
    cut | ⟨cost, answer, evaluated, settles⟩
  · exact absurd cut through
  · obtain ⟨spent, depth⟩ := settles.exact rfl
    have spent : fuel = _ := spent
    refine ⟨cost, answer, settles, matchRoot_settles named known evaluated tracer ?_ depth⟩
    show cost.fuel ≤ fuel
    omega

/-- A parse that comes to an answer without a memo table comes to the same answer with one. -/
theorem parseWith_memoized (named : (Scope.below root : Scope g).Named)
    {fuel recursion : Nat} {tracer : τ} {result : Parse}
    (ok : (parseWith g root ⟨fuel, recursion, false⟩ tracer statements).1 = .ok result) :
    (parseWith g root ⟨fuel, recursion, true⟩ tracer statements).1 = .ok result := by
  have through : ¬ Result.CutOff (matchRoot g root ⟨fuel, recursion, false⟩ tracer statements) := by
    rintro ⟨halt, halted, _⟩
    cases (parseWith_eq_error_iff.2 halted).symm.trans ok
  obtain ⟨_, answer, off, on⟩ := matchRoot_memoized named through
  exact on.parse.trans (off.parse.symm.trans ok)

/-- A parse without a memo table that comes to an end within the limits comes to the same end with
one, having got as far, and leaves at least as much fuel. So does one that ends in an empty
repetition. -/
theorem parse_memoized
    (named : ∀ s t, g.Reaches root s → g.Reaches root t → s.name = t.name → s = t)
    (fuel recursion : Nat) (tracer : τ) (statements : Array Statement) :
    (∀ result, (parseWith g root ⟨fuel, recursion, false⟩ tracer statements).1 = .ok result →
      (parseWith g root ⟨fuel, recursion, true⟩ tracer statements).1 = .ok result ∧
      (matchRoot g root ⟨fuel, recursion, true⟩ tracer statements).2.context.furthest =
        (matchRoot g root ⟨fuel, recursion, false⟩ tracer statements).2.context.furthest ∧
      (matchRoot g root ⟨fuel, recursion, false⟩ tracer statements).2.context.fuel ≤
        (matchRoot g root ⟨fuel, recursion, true⟩ tracer statements).2.context.fuel) ∧
    ∀ name, (parseWith g root ⟨fuel, recursion, false⟩ tracer statements).1 =
      .error (.emptyRepetition name) →
    (parseWith g root ⟨fuel, recursion, true⟩ tracer statements).1 =
      .error (.emptyRepetition name) := by
  have named' : (Scope.below root : Scope g).Named := fun s hs t ht => named s t hs ht
  constructor
  · intro result ok
    have through :
        ¬ Result.CutOff (matchRoot g root ⟨fuel, recursion, false⟩ tracer statements) := by
      rintro ⟨halt, halted, _⟩
      rw [parseWith_eq_error_iff.2 halted] at ok
      cases ok
    obtain ⟨cost, answer, off, on⟩ := matchRoot_memoized named' through
    refine ⟨?_, on.furthest.trans off.furthest.symm, ?_⟩
    · rw [on.parse, ← off.parse, ok]
    · have spentOff : fuel = _ := (off.exact rfl).1
      have spentOn : fuel ≤ _ := on.fuel
      omega
  · intro name halted
    have through :
        ¬ Result.CutOff (matchRoot g root ⟨fuel, recursion, false⟩ tracer statements) := by
      rintro ⟨halt, halted', cut⟩
      rw [parseWith_eq_error_iff, halted'] at halted
      cases halted
      cases cut
    obtain ⟨cost, answer, off, on⟩ := matchRoot_memoized named' through
    rw [on.parse, ← off.parse, halted]

/-- A block in a block is parsed alike with and without a memo table. -/
theorem parse_memoized_nested :
    ∃ result, (parseWith blocks block ⟨30, 5, false⟩ () nested.statements).1 = .ok result ∧
      (parseWith blocks block ⟨30, 5, true⟩ () nested.statements).1 = .ok result := by
  have named : ∀ s t, blocks.Reaches block s → blocks.Reaches block t → s.name = t.name → s = t :=
    fun s t hs ht _ => (eq_block_of_reaches hs).trans (eq_block_of_reaches ht).symm
  obtain ⟨result, ok⟩ :
    ∃ result, (parseWith blocks block ⟨30, 5, false⟩ () nested.statements).1 = .ok result :=
    ⟨_, rfl⟩
  obtain ⟨memoized, _⟩ := parse_memoized named 30 5 () nested.statements
  exact ⟨result, ok, (memoized result ok).1⟩

end OrderedChoice
