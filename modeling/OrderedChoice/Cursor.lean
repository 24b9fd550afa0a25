import OrderedChoice.Statement

/-!
# Cursors

A cursor is a place in a fixed slice of statements. Consuming input means going on with a later
cursor; going back means using an earlier one again.
-/

namespace OrderedChoice

/-- Statements to be matched. The number tells apart slices that hold the same statements. -/
structure Slice where
  id : Nat
  statements : Array Statement

namespace Slice

def size (slice : Slice) : Nat :=
  slice.statements.size

/-- Whether two slices are one. All empty slices are. -/
def isSame (a b : Slice) : Bool :=
  a.size == b.size && (a.id == b.id || a.size == 0)

end Slice

/-- A place in a slice; its position is the number of statements before it. -/
structure Cursor where
  slice : Slice
  position : Nat
  position_le : position ≤ slice.size

namespace Cursor

/-- The beginning of a slice. -/
def start (slice : Slice) : Cursor :=
  ⟨slice, 0, Nat.zero_le _⟩

/-- The statement at the cursor, if there is one left. -/
def first? (cursor : Cursor) : Option Statement :=
  cursor.slice.statements[cursor.position]?

def isAtEnd (cursor : Cursor) : Bool :=
  cursor.slice.size ≤ cursor.position

/-- How many statements are left. -/
def remaining (cursor : Cursor) : Nat :=
  cursor.slice.size - cursor.position

/-- The cursor one statement further, or at the end. -/
def next (cursor : Cursor) : Cursor :=
  ⟨cursor.slice, min (cursor.position + 1) cursor.slice.size, Nat.min_le_right _ _⟩

/-- The statements of this cursor's slice between this position and that of another cursor, if the
other position lies after this one and within the slice. -/
def until? (cursor stop : Cursor) : Option (Array Statement) :=
  if cursor.position ≤ stop.position ∧ stop.position ≤ cursor.slice.size then
    some (cursor.slice.statements.extract cursor.position stop.position)
  else none

/-- Whether two cursors are the same place of the same slice. -/
def isSame (a b : Cursor) : Bool :=
  a.slice.isSame b.slice && a.position == b.position

/-- The cursor in one line. -/
def inspect (cursor : Cursor) : String :=
  Text.record "Input" [("position", toString cursor.position),
    ("remaining", toString cursor.remaining)]

@[simp] theorem slice_start (slice : Slice) : (start slice).slice = slice := rfl

@[simp] theorem position_start (slice : Slice) : (start slice).position = 0 := rfl

@[simp] theorem slice_next (cursor : Cursor) : cursor.next.slice = cursor.slice := rfl

theorem isAtEnd_iff {cursor : Cursor} :
    cursor.isAtEnd = true ↔ cursor.position = cursor.slice.size := by
  have := cursor.position_le
  simp only [isAtEnd, decide_eq_true_eq]
  omega

/-- There is a statement at every cursor but the last. -/
theorem first?_eq_none_iff {cursor : Cursor} : cursor.first? = none ↔ cursor.isAtEnd = true := by
  rw [isAtEnd, decide_eq_true_iff]
  exact Array.getElem?_eq_none_iff

theorem position_next {cursor : Cursor} (h : cursor.isAtEnd = false) :
    cursor.next.position = cursor.position + 1 := by
  simp only [isAtEnd, decide_eq_false_iff_not, Nat.not_le] at h
  simp only [next]
  omega

end Cursor

end OrderedChoice
