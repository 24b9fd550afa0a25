import OrderedChoice.Verdict

/-!
# Events of a match

While it runs, a match reports what it does to a tracer. A tracer is any state with a way to take in
an event; the match never looks at that state.
-/

namespace OrderedChoice

/-- Something that happened during a match. Structures are named; positions are indices of
statements. -/
inductive Event where
  /-- The body of a structure is about to be matched. -/
  | entered (structureName : String) (position : Nat)
  /-- The body of a structure was matched or failed. -/
  | exited (structureName : String) (verdict : Verdict)
  /-- A statement was consumed. -/
  | consumed (statement : Statement) (position : Nat)
  /-- The next statement, if any, was not of the expected kind. -/
  | mismatched (expected : Kind) (found : Option Statement) (position : Nat)
  /-- A part of a choice failed. -/
  | backtracked (position : Nat)
  /-- The result of a structure was taken from the memo table. -/
  | replayed (structureName : String) (position : Nat)

/-- Whether the event is one of those that only a verbose log tells of. -/
def Event.isDetail : Event → Bool
  | mismatched .. | backtracked .. | replayed .. => true
  | entered .. | exited .. | consumed .. => false

/-- A state that takes in events. -/
class Tracer (τ : Type) where
  record : τ → Event → τ

/-- The tracer that keeps nothing. -/
instance silentTracer : Tracer Unit where
  record _ _ := ()

/-- The tracer that keeps every event, the latest first. -/
instance eventTracer : Tracer (List Event) where
  record events event := event :: events

end OrderedChoice
