import OrderedChoice.Proofs.Retelling
import OrderedChoice.Trace.Log

/-!
# Who watches does not matter

Forgetting the tracer turns a run into the run that nobody watches (`run_silent`). Two runs that
differ in their tracers are therefore one run seen twice.
-/

namespace OrderedChoice

variable {τ υ : Type} {g : Grammar}

/-! ## Forgetting the tracer -/

/-- The context without its tracer. -/
def Context.silent (context : Context τ) : Context Unit :=
  { context with tracer := () }

/-- The context with another tracer. -/
def Context.watchedBy (context : Context τ) (tracer : υ) : Context υ :=
  { context with tracer := tracer }

/-- The site without the tracer of its context. -/
def Site.silent (site : Site τ) : Site Unit :=
  ⟨site.context.silent, site.node⟩

/-- The result without the tracer of its site. -/
def Result.silent (result : Result τ) : Result Unit :=
  (result.1, result.2.silent)

/-- Two contexts that differ in nothing but their tracers. -/
structure Context.Alike (c : Context τ) (d : Context υ) : Prop where
  limits : c.limits = d.limits
  fuel : c.fuel = d.fuel
  depth : c.depth = d.depth
  furthest : c.furthest = d.furthest
  memos : c.memos = d.memos

/-- Two results that differ in nothing but their tracers. -/
structure Result.Alike (r : Result τ) (r' : Result υ) : Prop where
  outcome : r.1 = r'.1
  node : r.2.node = r'.2.node
  context : r.2.context.Alike r'.2.context

theorem Result.Alike.of_silent {r : Result τ} {r' : Result υ} (same : r.silent = r'.silent) :
    r.Alike r' := by
  obtain ⟨outcome, ⟨⟨limits, fuel, depth, furthest, memos, tracer⟩, node⟩⟩ := r
  obtain ⟨outcome', ⟨⟨limits', fuel', depth', furthest', memos', tracer'⟩, node'⟩⟩ := r'
  cases same
  exact ⟨rfl, rfl, ⟨rfl, rfl, rfl, rfl, rfl⟩⟩

/-- The quiet runner is the other one with its tracer forgotten. -/
def Runner.Silenced (run : Runner τ) (quiet : Runner Unit) : Prop :=
  ∀ m input site, Result.silent (run m input site) = quiet m input site.silent

/-! ## Runs and parses -/

/-- Nothing is told of a tracer that is forgotten. -/
theorem retells_unit [Tracer τ] : Retells fun _ : τ => () :=
  fun _ _ => rfl

theorem run_silent [Tracer τ] (g : Grammar) : (run g : Runner τ).Silenced (run g) :=
  run_retold retells_unit

/-- A parse comes to the same whoever watches it. -/
theorem parseWith_silent [Tracer τ] (root : Structure) (limits : Limits) (tracer : τ)
    (statements : Array Statement) :
    (parseWith g root limits tracer statements).1 = parse g root limits statements := by
  unfold parse
  rw [parseWith_retold root limits statements retells_unit tracer]

/-- Watching a parse with a log, however talkative and colourful, changes neither its forest,
verdict and diagnostics nor its halt; and a run of any matcher in contexts that differ in their
tracers gives the same answer, grows the same node and leaves contexts that differ in their
tracers. -/
theorem tracing_does_not_matter (g : Grammar) :
    (∀ (root : Structure) (limits : Limits) (statements : Array Statement) (verbosity : Verbosity)
        (palette : Palette),
      (parseWith g root limits (Log.empty verbosity palette) statements).1 =
        parse g root limits statements) ∧
    ∀ {τ υ : Type} [Tracer τ] [Tracer υ] (m : Matcher) (input : Cursor) (node : OpenNode)
      (context : Context τ) (tracer : υ),
    Result.Alike (run g m input ⟨context, node⟩)
      (run g m input ⟨context.watchedBy tracer, node⟩) := by
  refine ⟨fun root limits statements verbosity palette => parseWith_silent root limits _ statements,
    ?_⟩
  intro τ υ _ _ m input node context tracer
  refine .of_silent ?_
  rw [run_silent, run_silent]
  rfl

end OrderedChoice
