import Mathlib.Data.Nat.Find
import OrderedChoice.Proofs.Completion
import OrderedChoice.Proofs.Growth
import OrderedChoice.Proofs.Lockstep
import OrderedChoice.Proofs.Silence

/-!
# Limits that are enough

Limits never change an answer: a parse that comes to an end needs some fuel and some room, which it
gets from all limits that are large enough, and then comes to the same end; with any less it is cut
off (`exists_sufficient_limits`).
-/

namespace OrderedChoice

variable {τ υ : Type} [Tracer τ] [Tracer υ] {g : Grammar} {root : Structure}
    {limits limits' : Limits}
  {tracer : τ} {tracer' : υ} {statements : Array Statement}

/-! ## Two parses -/

theorem matchRoot_lockstep (root : Structure) (memoize : limits'.memoize = limits.memoize)
    (tracer : τ) (tracer' : υ) (statements : Array Statement) (stop : Nat) :
    (Alignment.same ⟨0, statements⟩ stop).Lockstep (.empty root) (.empty root)
    (.fresh limits tracer) (.fresh limits' tracer') (matchRoot g root limits tracer statements)
    (matchRoot g root limits' tracer' statements) := by
  let A := Alignment.same ⟨0, statements⟩ stop
  have place : A.Cursors (.start ⟨0, statements⟩) (.start ⟨0, statements⟩) :=
    ⟨rfl, rfl, ⟨0, rfl, rfl⟩, Nat.zero_le _⟩
  have sites : A.Sites (.empty root) (.empty root) ⟨.fresh limits tracer, .empty root⟩
      ⟨.fresh limits' tracer', .empty root⟩ := .fresh memoize _ _ rfl
  exact A.enterStructure_lockstep (A.run_lockstep g _ _) root place sites.rebase (Nat.le_refl _)
    (Nat.le_refl _)

theorem parseWith_eq_ok_iff {result : Parse} :
    (parseWith g root limits tracer statements).1 = .ok result ↔
      ∃ verdict after, matchRoot g root limits tracer statements = (.ok verdict, after) ∧
        result = ⟨after.node.toBranch, verdict,
          verdict.diagnostics statements after.context.furthest⟩ := by
  unfold parseWith
  generalize matchRoot g root limits tracer statements = matched
  obtain ⟨_ | verdict, after⟩ := matched
  · constructor
    · exact nofun
    · rintro ⟨_, _, ⟨⟩, _⟩
  · constructor
    · rintro ⟨⟩
      exact ⟨verdict, after, rfl, rfl⟩
    · rintro ⟨_, _, ⟨⟩, rfl⟩
      rfl

/-- Beside a parse that comes to an end, every other one comes to the same end at the same expense,
or is cut off because it has less fuel than the first one needed, or less room than the first one
had. -/
theorem parseWith_alongside {result : Parse}
    (ok : (parseWith g root limits tracer statements).1 = .ok result)
    (memoize : limits'.memoize = limits.memoize) (tracer' : υ) :
    ((parseWith g root limits' tracer' statements).1 = .ok result ∧
      limits.fuel + (matchRoot g root limits' tracer' statements).2.context.fuel =
        limits'.fuel + (matchRoot g root limits tracer statements).2.context.fuel) ∨
    (((parseWith g root limits' tracer' statements).1 = .error .fuelExhausted ∨
        (parseWith g root limits' tracer' statements).1 = .error .recursionLimitExceeded) ∧
      (limits'.fuel + (matchRoot g root limits tracer statements).2.context.fuel < limits.fuel ∨
        limits'.recursion < limits.recursion)) := by
  obtain ⟨verdict, after, matched, rfl⟩ := parseWith_eq_ok_iff.1 ok
  have lockstep :=
    matchRoot_lockstep (g := g) root memoize tracer tracer' statements after.context.furthest
  rw [matched] at lockstep ⊢
  rcases lockstep with together | parted
  · left
    obtain ⟨outcome, sites, spent⟩ := together
    generalize matched' : matchRoot g root limits' tracer' statements = r' at outcome sites spent ⊢
    obtain ⟨outcome', after'⟩ := r'
    cases outcome with
    | answered verdicts =>
      refine ⟨parseWith_eq_ok_iff.2 ⟨_, after', matched', ?_⟩, spent⟩
      have furthest : after'.context.furthest = after.context.furthest := sites.context.furthest
      have node : after.node = after'.node := by
        obtain ⟨nodes, nodes', node, node', each⟩ := sites.grown
        rw [show after.node = _ from node, show after'.node = _ from node',
          Node.Parallel.all_eq each]
      rw [verdicts.eq, node, furthest]
  · right
    cases parted with
    | beyond far => exact absurd far (Nat.lt_irrefl _)
    | left cut short =>
      obtain ⟨_, ⟨⟩, _⟩ := cut
    | right cut short =>
      obtain ⟨halt, halted, isCutOff⟩ := cut
      refine ⟨?_, short⟩
      rw [parseWith_eq_error_iff, parseWith_eq_error_iff, halted]
      cases halt <;> simp_all [Halt.isCutOff]

/-- Who watches does not matter. -/
theorem parseWith_eq_ok_of_tracer {result : Parse}
    (ok : (parseWith g root limits tracer statements).1 = .ok result)
    (tracer' : υ) : (parseWith g root limits tracer' statements).1 = .ok result := by
  rw [parseWith_silent root limits tracer', ← parseWith_silent root limits tracer, ok]

theorem parseWith_pays {result : Parse}
    (ok : (parseWith g root limits tracer statements).1 = .ok result) :
    0 < limits.recursion ∧
    (matchRoot g root limits tracer statements).2.context.fuel < limits.fuel := by
  obtain ⟨verdict, after, matched, rfl⟩ := parseWith_eq_ok_iff.1 ok
  rw [matched]
  exact enterStructure_pays (run_metered g) matched

/-- A parse that comes to an end takes some fuel and some room. With limits that allow both it comes
to the same end and spends that fuel; with any others it is cut off. -/
theorem exists_sufficient_limits {result : Parse}
    (ok : (parseWith g root limits tracer statements).1 = .ok result) :
    ∃ fuel depth, 1 ≤ fuel ∧ 1 ≤ depth ∧
      ∀ {υ : Type} [Tracer υ] (tracer' : υ) (limits' : Limits), limits'.memoize = limits.memoize →
        (fuel ≤ limits'.fuel ∧ depth ≤ limits'.recursion →
          (parseWith g root limits' tracer' statements).1 = .ok result ∧
          (matchRoot g root limits' tracer' statements).2.context.fuel + fuel = limits'.fuel) ∧
        (¬ (fuel ≤ limits'.fuel ∧ depth ≤ limits'.recursion) →
          (parseWith g root limits' tracer' statements).1 = .error .fuelExhausted ∨
          (parseWith g root limits' tracer' statements).1 = .error .recursionLimitExceeded) := by
  classical
  -- the least room that is enough with some fuel; the fuel spent there is spent everywhere
  have enough :
      ∃ depth fuel, (parseWith g root ⟨fuel, depth, limits.memoize⟩ () statements).1 = .ok result :=
    ⟨limits.recursion, limits.fuel, parseWith_eq_ok_of_tracer ok ()⟩
  obtain ⟨fuel, least⟩ := Nat.find_spec enough
  obtain ⟨room, spent⟩ := parseWith_pays least
  have room : 0 < Nat.find enough := room
  have spent :
      (matchRoot g root ⟨fuel, Nat.find enough, limits.memoize⟩ ()
        statements).2.context.fuel < fuel :=
    spent
  refine ⟨fuel - (matchRoot g root ⟨fuel, Nat.find enough, limits.memoize⟩ ()
      statements).2.context.fuel, Nat.find enough, by omega, room, ?_⟩
  intro υ _ tracer' limits' memoize
  constructor
  · rintro ⟨fed, roomy⟩
    rcases parseWith_alongside least memoize tracer' with ⟨ok', same⟩ | ⟨_, short⟩
    · have same : fuel + _ = limits'.fuel + _ := same
      exact ⟨ok', by omega⟩
    · have short : limits'.fuel + _ < fuel ∨ limits'.recursion < Nat.find enough := short
      omega
  · intro lacks
    rcases parseWith_alongside least memoize tracer' with ⟨ok', same⟩ | ⟨cut, _⟩
    · have same : fuel + _ = limits'.fuel + _ := same
      have le : Nat.find enough ≤ limits'.recursion :=
        Nat.find_min' enough ⟨limits'.fuel, memoize ▸ parseWith_eq_ok_of_tracer ok' ()⟩
      omega
    · exact cut

/-- A block in a block is parsed with all limits that are large enough. -/
theorem exists_sufficient_limits_nested :
    ∃ result, (parseWith blocks block ⟨30, 5, false⟩ () nested.statements).1 = .ok result ∧
      ∃ fuel depth, 1 ≤ fuel ∧ 1 ≤ depth ∧ ∀ limits' : Limits, limits'.memoize = false →
        fuel ≤ limits'.fuel ∧ depth ≤ limits'.recursion →
        (parseWith blocks block limits' () nested.statements).1 = .ok result := by
  obtain ⟨result, ok⟩ :
    ∃ result, (parseWith blocks block ⟨30, 5, false⟩ () nested.statements).1 = .ok result :=
    ⟨_, rfl⟩
  obtain ⟨fuel, depth, oneFuel, oneDepth, enough⟩ := exists_sufficient_limits ok
  exact ⟨result, ok, fuel, depth, oneFuel, oneDepth, fun limits' memoize le =>
    ((enough () limits' memoize).1 le).1⟩

end OrderedChoice
