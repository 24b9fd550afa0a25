import OrderedChoice.Proofs.Growth
import OrderedChoice.Proofs.Silence
import OrderedChoice.Proofs.Steps
import OrderedChoice.Proofs.Sufficiency
import OrderedChoice.Proofs.Transcript

/-!
# Traces are well nested

Entering and leaving structures brackets the events between them. What a run leaves open is what it
was halted inside of (`Proceeds.opens`): nothing, if it has an answer. So each line of a log is
indented by the structures that are open where it stands (`trace_nested`).
-/

namespace OrderedChoice

variable {g : Grammar}

/-! ## Brackets -/

/-- Whatever is left is the innermost of the structures that are open. The latest event is first. -/
def WellNested : List Event → Prop
  | [] => True
  | .exited name _ :: earlier => (openAfter earlier).head? = some name ∧ WellNested earlier
  | _ :: earlier => WellNested earlier

/-- From one list of events to the other, the named structures are opened and stay open, the
innermost first, and all others that are opened are left again. -/
structure Opens (names : List String) (before after : List Event) : Prop where
  nested : WellNested before → WellNested after
  opened : openAfter after = names ++ openAfter before

namespace Opens

variable {names : List String} {a b c : List Event}

theorem refl (events : List Event) : Opens [] events events :=
  ⟨id, rfl⟩

/-- What opens nothing may come first. -/
theorem trans (first : Opens [] a b) (others : Opens names b c) : Opens names a c :=
  ⟨others.nested ∘ first.nested, by rw [others.opened, first.opened, List.nil_append]⟩

/-- A structure that was entered and is left again is not open. -/
theorem bracket {name : String} {position : Nat} (inside : Opens [] (.entered name position :: a) b)
    (verdict : Verdict) : Opens [] a (.exited name verdict :: b) := by
  have opened : openAfter b = name :: openAfter a := inside.opened
  refine ⟨fun nested => ⟨?_, inside.nested nested⟩, ?_⟩
  · rw [opened]
    rfl
  · show (openAfter b).tail = openAfter a
    rw [opened]
    rfl

/-- A structure that was entered and not left is open around those inside it. -/
theorem around {name : String} {position : Nat}
    (inside : Opens names (.entered name position :: a) b) : Opens (names ++ [name]) a b := by
  refine ⟨inside.nested, ?_⟩
  rw [inside.opened, List.append_assoc]
  rfl

end Opens

/-! ## Runs -/

section Runs

variable {τ : Type} {mark : Nat} {task : Task} {input : Cursor} {chain : List Structure}

theorem Result.tracer_returned (target : Structure) (position : Nat) (host : OpenNode)
    (result : Result τ) :
    (result.returned target position host).2.context.tracer = result.2.context.tracer := by
  obtain ⟨_ | verdict, after⟩ := result
  · rfl
  · simp only [Result.returned, Site.context_attach]
    unfold Context.remember
    split <;> rfl

/-- A run leaves those structures open that it is halted inside of. -/
theorem Proceeds.opens {site : Site (List Event)} {result : Result (List Event)}
    (h : Proceeds g mark task input site chain result) :
    Opens (chain.map (·.name)).reverse site.context.tracer result.2.context.tracer := by
  induction h with
  | starved | full | noPartLeft | noBranchLeft | roundsOver => exact .refl _
  | matched | mismatched => exact ⟨id, rfl⟩
  | replayed =>
    rw [Site.context_attach]
    exact ⟨id, rfl⟩
  | sub fed new entered ih =>
    rw [Result.tracer_returned]
    exact ih
  | optional fed tried ih =>
    rw [context_forgive]
    exact ih
  | star _ _ ih | sequence _ _ ih | choice _ _ ih => exact ih
  | malformed => exact ⟨id, rfl⟩
  | answered room body inside ih => exact ih.bracket _
  | halted room body inside ih =>
    rw [List.map_cons, List.reverse_cons]
    exact ih.around
  | partHalted first ih | branchHalted first ih | roundHalted _ first ih => exact ih
  | partFailed _ _ ih | branchTaken _ _ ih | roundMalformed _ _ _ _ ih | roundRefused _ _ _ _ ih
  | roundStuck _ _ _ _ ih => exact ih
  | partSucceeded _ _ _ ih ihOthers | roundGained _ _ _ _ _ ih ihOthers => exact ih.trans ihOthers
  | branchFailed _ _ _ ih ihOthers => exact ih.trans ⟨ihOthers.nested, ihOthers.opened⟩

theorem Result.returned_halts {target : Structure} {position : Nat}
    {host : OpenNode} {result : Result τ} {halt : Halt}
    (halted : (result.returned target position host).1 = .error halt) : result.1 = .error halt := by
  obtain ⟨_ | verdict, after⟩ := result
  · exact halted
  · cases halted

/-- A run that nests too deep is halted inside of as many structures as there was room for. -/
theorem Proceeds.length_chain [Tracer τ] {site : Site τ} {result : Result τ}
    (h : Proceeds g mark task input site chain result)
    (halted : result.1 = .error .recursionLimitExceeded) : chain.length = site.context.room := by
  induction h with
  | starved | mismatched | replayed | malformed | answered | partFailed | noBranchLeft | branchTaken
  | roundMalformed | roundStuck => cases halted
  | matched | noPartLeft | roundsOver | roundRefused =>
    exact absurd halted (Verdict.success_ne_cutOff rfl)
  | sub _ _ _ ih => exact ih (Result.returned_halts halted)
  | optional _ _ ih => exact ih (forgive_halts halted)
  | star _ _ ih | sequence _ _ ih | choice _ _ ih => exact ih halted
  | full full => exact (Nat.sub_eq_zero_of_le full).symm
  | @halted _ target _ _ site _ chain _ room _ _ ih =>
    have inside : chain.length = site.context.limits.recursion - (site.context.depth + 1) :=
      ih halted
    show chain.length + 1 = site.context.limits.recursion - site.context.depth
    omega
  | partHalted _ ih | branchHalted _ ih | roundHalted _ _ ih => exact ih halted
  | partSucceeded first _ _ _ ihOthers | roundGained _ first _ _ _ _ ihOthers =>
    exact (ihOthers halted).trans first.follows.room
  | branchFailed first _ _ _ ihOthers => exact (ihOthers halted).trans first.follows.room

end Runs

/-! ## Parses -/

variable {root : Structure} {limits : Limits} {statements : Array Statement}

/-- The parse is halted inside of the structures, the outermost first: they were entered, and the
halt came before any of them was left. -/
def HaltedInside (g : Grammar) (root : Structure) (limits : Limits) (statements : Array Statement)
    (halt : Halt) (chain : List Structure) : Prop :=
  ∃ after, Proceeds g 0 (.inside root) (.start ⟨0, statements⟩)
    (⟨.fresh limits [], .empty root⟩ : Site (List Event)) chain (.error halt, after)

/-- What a halted parse leaves open is what it is halted inside of. -/
theorem HaltedInside.openAfter_eq {halt : Halt} {chain : List Structure}
    (inside : HaltedInside g root limits statements halt chain) :
    openAfter (parseWith g root limits ([] : List Event) statements).2 =
      (chain.map (·.name)).reverse := by
  obtain ⟨after, course⟩ := inside
  have ran : matchRoot g root limits ([] : List Event) statements = (.error halt, after) :=
    course.runWithin_eq (Nat.le_refl limits.fuel) (Nat.le_refl limits.fuel)
  have opened := course.opens.opened
  rw [← tracer_matchRoot, ran]
  exact opened.trans (List.append_nil _)

/-- A log of a parse without colours has a line for each event that its verbosity does not leave
out, indented by two blanks for each structure that is open there, and each exit leaves the
innermost of them. A parse that has an answer leaves no structure open. One that is halted leaves
those open that it is halted inside of, and these are as many as the nesting limit allows if that is
why it is halted. -/
theorem trace_nested (g : Grammar) (root : Structure) (limits : Limits)
    (statements : Array Statement) (verbosity : Verbosity) :
    let events := (parseWith g root limits ([] : List Event) statements).2
    let traced := parseWith g root limits (Log.empty verbosity .plain) statements
    traced.2.lines.toList = Log.linesOf verbosity .plain events ∧ WellNested events ∧
    (∀ result, traced.1 = .ok result → openAfter events = []) ∧
    ∀ halt, traced.1 = .error halt →
      (∃ chain, HaltedInside g root limits statements halt chain) ∧
      ∀ chain, HaltedInside g root limits statements halt chain →
        openAfter events = (chain.map (·.name)).reverse ∧
        (halt = .recursionLimitExceeded → chain.length = limits.recursion) := by
  intro events traced
  obtain ⟨chain, course⟩ := matchRoot_proceeds g root limits ([] : List Event) statements
  have opens := course.opens
  rw [tracer_matchRoot] at opens
  have same : traced.1 = (parseWith g root limits ([] : List Event) statements).1 :=
    (parseWith_silent root limits _ statements).trans
      (parseWith_silent root limits _ statements).symm
  refine ⟨parseWith_lines verbosity .plain, opens.nested trivial, fun result ok => ?_,
    fun halt halted => ?_⟩
  · obtain ⟨verdict, after, matched, -⟩ := parseWith_eq_ok_iff.1 (same.symm.trans ok)
    obtain rfl := course.chain_eq_nil (congrArg Prod.fst matched)
    exact opens.opened
  · have matched := parseWith_eq_error_iff.1 (same.symm.trans halted)
    have ran : matchRoot g root limits ([] : List Event) statements = (.error halt, _) :=
      Prod.ext matched rfl
    refine ⟨⟨chain, _, ran ▸ course⟩, fun chain inside => ⟨inside.openAfter_eq, ?_⟩⟩
    rintro rfl
    obtain ⟨after, course⟩ := inside
    exact course.length_chain rfl

/-- Two blocks inside of a third one, where the second is not ended but begun again and again. -/
def tooDeep : Array Statement :=
  statementsOfKinds ["begin", "begin", "end", "begin", "begin", "begin"]

theorem trace_nested_tooDeep :
    (parseWith blocks block ⟨60, 3, false⟩ (Log.empty .terse .plain) tooDeep).1 =
      .error .recursionLimitExceeded ∧
    (parseWith blocks block ⟨60, 3, false⟩ (Log.empty .terse .plain) tooDeep).2.lines.toList =
      ["▶ Block @0", "  ● begin @0", "  ▶ Block @1", "    ● begin @1", "    ▶ Block @2",
        "    ◀ Block: Expected BEGIN", "    ● end @2", "  ◀ Block (2)", "  ▶ Block @3",
        "    ● begin @3", "    ▶ Block @4", "      ● begin @4"] ∧
    ∃ chain, HaltedInside blocks block ⟨60, 3, false⟩ tooDeep .recursionLimitExceeded chain ∧
      chain.length = 3 := by
  have lines :
    Log.linesOf .terse .plain (parseWith blocks block ⟨60, 3, false⟩ ([] : List Event) tooDeep).2 =
      ["▶ Block @0", "  ● begin @0", "  ▶ Block @1", "    ● begin @1", "    ▶ Block @2",
        "    ◀ Block: Expected BEGIN", "    ● end @2", "  ◀ Block (2)", "  ▶ Block @3",
        "    ● begin @3", "    ▶ Block @4", "      ● begin @4"] := by decide +kernel
  obtain ⟨told, _, _, halted⟩ := trace_nested blocks block ⟨60, 3, false⟩ tooDeep .terse
  obtain ⟨⟨chain, inside⟩, every⟩ := halted _ rfl
  obtain ⟨_, length⟩ := every chain inside
  exact ⟨rfl, told.trans lines, chain, inside, length rfl⟩

end OrderedChoice
