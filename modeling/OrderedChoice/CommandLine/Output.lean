/-!
# Output of a command

A command ends with a status and leaves text on two streams.
-/

namespace OrderedChoice.CommandLine

/-- How a command ends. -/
inductive Status where
  /-- Nothing is wrong. -/
  | success
  /-- Something is wrong with the input. -/
  | failure
  /-- A match, or the grammar itself, could not be dealt with. -/
  | halted
deriving DecidableEq, Repr

/-- The number that stands for a status. -/
def Status.code : Status → UInt32
  | success => 0
  | failure => 1
  | halted => 2

structure Output where
  status : Status
  stdout : String
  stderr : String
deriving DecidableEq, Repr

/-- Success if a condition holds, and failure otherwise. -/
def Status.ofBool (fine : Bool) : Status :=
  if fine then success else failure

/-- The text with a line end. -/
def line (text : String) : String :=
  text ++ "\n"

/-- Each text on lines of its own. -/
def lines (texts : List String) : String :=
  String.join (texts.map line)

theorem Status.code_injective {a b : Status} (h : a.code = b.code) : a = b := by
  cases a <;> cases b <;> first | rfl | exact absurd h (by decide)

theorem Status.ofBool_eq_success_iff {fine : Bool} : ofBool fine = success ↔ fine = true := by
  cases fine <;> simp [ofBool]

theorem Status.ofBool_ne_halted (fine : Bool) : ofBool fine ≠ halted := by
  cases fine <;> simp [ofBool]

end OrderedChoice.CommandLine
