import OrderedChoice.Forest
import OrderedChoice.Limits
import OrderedChoice.Trace
import Std.Data.HashMap

/-!
# The state of a match

Matchers hold no state. Everything that changes while a match runs is the `Context` — the fuel that
is left, the nesting depth, the high-water mark, the memo table and the tracer — and the node that
the match grows. Both together are the `Site` of the match.
-/

namespace OrderedChoice

/-- A remembered result of a structure, with its node if it succeeded. -/
structure Memo where
  verdict : Verdict
  node : Option Node

/-- Remembered results by the name of the structure and the position it was entered at. -/
abbrev MemoTable := Std.HashMap (String × Nat) Memo

/-- What a match carries along. -/
structure Context (τ : Type) where
  limits : Limits
  fuel : Nat
  depth : Nat
  /-- One past the furthest statement consumed so far, on any path. -/
  furthest : Nat
  memos : MemoTable
  tracer : τ

namespace Context

variable {τ : Type}

/-- A context that nothing was matched in yet. -/
def fresh (limits : Limits) (tracer : τ) : Context τ :=
  ⟨limits, limits.fuel, 0, 0, ∅, tracer⟩

/-- The remembered result of a structure at a position, if results are kept. -/
def remembered? (context : Context τ) (target : Structure) (position : Nat) : Option Memo :=
  if context.limits.memoize then context.memos[(target.name, position)]? else none

/-- Keeps a result, if results are kept. -/
def remember (context : Context τ) (target : Structure) (position : Nat) (memo : Memo) :
    Context τ :=
  if context.limits.memoize then
    { context with memos := context.memos.insert (target.name, position) memo }
  else context

end Context

/-- A context, and the node that the match grows. -/
structure Site (τ : Type) where
  context : Context τ
  node : OpenNode

namespace Site

variable {τ : Type}

/-- Passes an event to the tracer. -/
def record [Tracer τ] (site : Site τ) (event : Event) : Site τ :=
  { site with context.tracer := Tracer.record site.context.tracer event }

def withFuel (site : Site τ) (fuel : Nat) : Site τ :=
  { site with context.fuel := fuel }

/-- Notes that the statement at a position was consumed. -/
def reach (site : Site τ) (position : Nat) : Site τ :=
  { site with context.furthest := max site.context.furthest (position + 1) }

def push (site : Site τ) (child : Node) : Site τ :=
  { site with node := site.node.push child }

/-- Drops the children after the first `size`. -/
def truncate (site : Site τ) (size : Nat) : Site τ :=
  { site with node := site.node.truncate size }

/-- One structure further in. -/
def descend (site : Site τ) : Site τ :=
  { site with context.depth := site.context.depth + 1 }

/-- One structure further out. -/
def ascend (site : Site τ) : Site τ :=
  { site with context.depth := site.context.depth - 1 }

end Site

end OrderedChoice
