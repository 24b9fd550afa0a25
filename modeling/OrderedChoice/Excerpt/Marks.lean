import OrderedChoice.Excerpt.Source

/-!
# Marked lines

A mark points at a span of a source. On one line it is drawn under that line; over several lines it
is an arm at the left of the code, opened under its first line and closed under its last. Arms that
share lines lie at different depths.
-/

namespace OrderedChoice.Excerpt

/-- A span with its label; the primary marks say what is wrong, the others give context. -/
structure Mark where
  span : Span
  label : List Char
  primary : Bool

/-- The part of a mark that is drawn at one line. -/
inductive LineMarkShape where
  | whole
  | opens (depth : Nat)
  | closes (depth : Nat)
  | passes (depth : Nat)
deriving DecidableEq, Repr

/-- A mark at one line, from one of its places up to another. -/
structure LineMark where
  first : Place
  last : Place
  label : List Char
  primary : Bool
  shape : LineMarkShape

namespace LineMark

/-- The column where the mark begins. -/
def start (mark : LineMark) : Nat :=
  mark.first.column

/-- The column after the mark. -/
def stop (mark : LineMark) : Nat :=
  mark.last.column

def hasLabel (mark : LineMark) : Bool :=
  !mark.label.isEmpty

/-- The columns that the label takes beside the mark, with a blank before it. An arm has its label
where it closes, never where it opens or passes. -/
def labelRoom (mark : LineMark) : Nat :=
  match mark.shape with
  | .whole | .closes _ => textWidth mark.label + 1
  | .opens _ | .passes _ => 0

/-- Whether the mark has to do with an arm that turns at this line. -/
def turns (mark : LineMark) : Bool :=
  match mark.shape with
  | .opens _ | .closes _ => true
  | _ => false

def isPassing (mark : LineMark) : Bool :=
  match mark.shape with
  | .passes _ => true
  | _ => false

def isOpening (mark : LineMark) : Bool :=
  match mark.shape with
  | .opens _ => true
  | _ => false

/-- How many columns the mark takes. -/
def width (mark : LineMark) : Nat :=
  max (mark.stop - mark.start) (mark.start - mark.stop)

/-- Whether a mark, widened at its end, has a column in common with another. -/
def overlaps (a b : LineMark) (padding : Nat) : Bool :=
  (b.start ≤ a.start && a.start < b.stop) || (a.start ≤ b.start && b.start < a.stop + padding)

end LineMark

/-- A mark over several lines. -/
structure Arm where
  start : Place
  stop : Place
  label : List Char
  primary : Bool
  depth : Nat
  /-- Whether another arm covers the same span and is drawn in its place. -/
  doubled : Bool
deriving DecidableEq

namespace Arm

def sameSpan (a b : Arm) : Bool :=
  a.start == b.start && a.stop == b.stop

/-- Whether two arms have a line in common. -/
def sharesLine (a b : Arm) : Bool :=
  (b.start.line ≤ a.start.line && a.start.line ≤ b.stop.line) ||
    (a.start.line ≤ b.start.line && b.start.line ≤ a.stop.line)

def opening (arm : Arm) : LineMark :=
  ⟨arm.start, arm.start.right 1, [], arm.primary, .opens arm.depth⟩

def passing (arm : Arm) : LineMark :=
  ⟨⟨0, 0, 0, 0⟩, ⟨0, 0, 0, 0⟩, [], arm.primary, .passes arm.depth⟩

/-- The end of the arm. Of two arms over one span, both are labelled at the end of one. -/
def closing (arm : Arm) : LineMark :=
  ⟨arm.stop.left, arm.stop, arm.label, arm.primary,
    if arm.doubled then .whole else .closes arm.depth⟩

/-- What an arm does to the others, one after the other, until it meets one that it neither shifts
nor doubles: there it stops. -/
def spread (arm : Arm) (index : Nat) (primaries : List (Place × Place)) : Nat → List Arm → List Arm
  | _, [] => []
  | i, other :: others =>
    if !arm.sameSpan other && arm.sharesLine other then
      { other with depth := other.depth + 1 } :: spread arm index primaries (i + 1) others
    else if arm.sameSpan other && index != i then
      { other with doubled := true } :: spread arm index primaries (i + 1) others
    else
      { other with primary := other.primary || primaries.contains (other.start, other.stop) } ::
        others

/-- The arms at depths where none meets another; the outermost have depth one. -/
def separate (arms : List Arm) : List Arm :=
  let arms := arms.mergeSort fun a b =>
    a.start.line < b.start.line || (a.start.line == b.start.line && b.stop.line ≤ a.stop.line)
  let (spreadArms, _) := arms.zipIdx.foldl (fun (spreadArms, primaries) (arm, index) =>
    let primaries := if arm.primary then (arm.start, arm.stop) :: primaries else primaries
    (spread arm index primaries 0 spreadArms, primaries)) (arms, [])
  let deepest := (spreadArms.map (·.depth)).foldl max 0
  spreadArms.map fun arm => { arm with depth := deepest - arm.depth + 1 }

end Arm

/-- Whether a line says nothing: it is blank, a lone bracket or a comment. -/
def isIdleLine (text : List Char) : Bool :=
  let text := String.ofList (Text.trim text)
  (text.startsWith "//" && !(text.startsWith "///" || text.startsWith "//!")) ||
    ["", "\x7b", "\x7d", "(", ")", "[", "]"].contains text

/-- The marks of an arm, each with the number of its line. The arm passes along the first lines that
it covers, and along the last. -/
def Arm.lineMarks (lines : List SourceLine) (arm : Arm) : List (Nat × LineMark) :=
  let isBusy (number : Nat) : Bool :=
    (lines.find? (·.number = number)).any fun line => !isIdleLine line.text
  let isIdle (number : Nat) : Bool :=
    (lines.find? (·.number = number)).any fun line => isIdleLine line.text
  let first := arm.start.line
  let middle := min (first + 4) arm.stop.line
  let shown := ((List.range' first (middle - first)).reverse.find? isBusy).map (· + 1)
  let passed := List.range' (first + 1) (shown.getD first - (first + 1))
  let last := arm.stop.line - 1
  let body :=
    if arm.doubled then []
    else (first, arm.opening) :: (passed.map fun number => (number, arm.passing)) ++
      (if middle < last ∧ !isIdle last then [(last, arm.passing)] else [])
  body ++ [(arm.stop.line, arm.closing)]

/-- A line with its marks. -/
structure MarkedLine where
  number : Nat
  text : List Char
  marks : List LineMark

/-- The lines that have marks, and the greatest depth of an arm. -/
def markedLines (lines : List SourceLine) (marks : List Mark) : List MarkedLine × Nat :=
  let placed := marks.filterMap fun mark => (places? lines mark.span).map fun ends => (mark, ends)
  let flat := placed.filterMap fun (mark, start, stop) =>
    if start.line ≠ stop.line then none
    else
      let stop :=
        if start.column = stop.column then { stop with column := stop.column + 1 } else stop
      some (start.line, (⟨start, stop, mark.label, mark.primary, .whole⟩ : LineMark))
  let arms := Arm.separate (placed.filterMap fun (mark, start, stop) =>
    if start.line = stop.line then none else some ⟨start, stop, mark.label, mark.primary, 1, false⟩)
  let all := flat ++ arms.flatMap (Arm.lineMarks lines)
  let marked := lines.filterMap fun line =>
    match (all.filter (·.1 = line.number)).map (·.2) with
    | [] => none
    | marks => some ⟨line.number, line.text, marks⟩
  (marked, (arms.map (·.depth)).foldl max 0)

end OrderedChoice.Excerpt
