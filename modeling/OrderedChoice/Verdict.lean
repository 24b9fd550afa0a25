import OrderedChoice.Cursor
import OrderedChoice.Matcher

/-!
# Verdicts

What became of one matcher at one cursor: success or an ordinary failure. A failing matcher has
matched nothing and gives its own cursor back. What cannot be answered by success or failure is a
`Halt`, and ends the whole match.
-/

namespace OrderedChoice

/-- The answer of a matcher. A failure describes what was expected and counts the statements that
were consumed before it; an optional matcher keeps both of the failure that it forgives. -/
structure Verdict where
  matched : Array Statement
  rest : Cursor
  failed : Bool
  description : String
  progress : Nat

/-- Why a match ends without an answer. -/
inductive Halt where
  /-- A repetition in the structure went round without consuming a statement. -/
  | emptyRepetition (structureName : String)
  /-- More matchers were invoked than allowed. -/
  | fuelExhausted
  /-- Structures were nested deeper than allowed. -/
  | recursionLimitExceeded
  /-- The body of a structure was asked for and is malformed. -/
  | malformedBody (fault : TooFewParts)
  /-- A replayed result led to a cursor that lies beyond the statements being matched. -/
  | cursorOutOfRange
deriving DecidableEq

/-- The wording of a halt, where it has one. -/
def Halt.message? : Halt → Option String
  | emptyRepetition name =>
    some ("repetition in structure `" ++ name ++ "` matched without consuming a statement")
  | fuelExhausted => some "match execution limit exceeded"
  | recursionLimitExceeded => some "match recursion limit exceeded"
  | malformedBody fault => some ("malformed grammar: " ++ fault.message)
  | cursorOutOfRange => none

namespace Verdict

/-- Success from one cursor to another. -/
def success (start rest : Cursor) : Except Halt Verdict :=
  match start.until? rest with
  | some matched => .ok ⟨matched, rest, false, "", 0⟩
  | none => .error .cursorOutOfRange

/-- Failure at a cursor. -/
def failure (input : Cursor) (description : String) (progress : Nat) : Verdict :=
  ⟨#[], input, true, description, progress⟩

/-- The number of statements consumed. -/
def consumed (verdict : Verdict) : Nat :=
  verdict.matched.size

/-- All fields of the verdict in one line. -/
def inspect (verdict : Verdict) : String :=
  Text.record "MatchResult" [
    ("matched", Text.bracketed (verdict.matched.toList.map Statement.inspect)),
    ("unmatched", verdict.rest.inspect), ("error", toString verdict.failed),
    ("error_description", Text.quoted verdict.description),
    ("error_matched", toString verdict.progress)]

@[simp] theorem failed_failure (input : Cursor) (description : String) (progress : Nat) :
    (failure input description progress).failed = true := rfl

@[simp] theorem rest_failure (input : Cursor) (description : String) (progress : Nat) :
    (failure input description progress).rest = input := rfl

theorem success_eq_ok_iff {start rest : Cursor} {verdict : Verdict} :
    success start rest = .ok verdict ↔
      ∃ matched, start.until? rest = some matched ∧ verdict = ⟨matched, rest, false, "", 0⟩ := by
  unfold success
  cases start.until? rest <;> simp [eq_comm]

end Verdict

end OrderedChoice
