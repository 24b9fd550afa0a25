import OrderedChoice.Excerpt.Canvas
import OrderedChoice.Excerpt.Margin

/-!
# Drawing marked lines

A source line is drawn beside its number, its marks are drawn below it, and their labels beside or
below the marks. Where labels would run into each other they go to rows further down, joined to
their marks by bars. Each step is a list of strokes; later strokes are drawn over earlier ones.
-/

namespace OrderedChoice.Excerpt

/-- What the drawing of all lines of an excerpt has in common: the width of the line numbers, the
greatest depth of an arm, the window and the style of primary marks. -/
structure Frame where
  numberWidth : Nat
  depth : Nat
  window : Window
  primaryStyle : Style

namespace Frame

/-- The column of the bar beside the line numbers. -/
def gutter (frame : Frame) : Nat :=
  frame.numberWidth + 1

/-- The column where arms begin. -/
def armColumn (frame : Frame) : Nat :=
  frame.numberWidth + 3

/-- The column where the source code begins. -/
def codeColumn (frame : Frame) : Nat :=
  if frame.depth = 0 then frame.armColumn else frame.armColumn + frame.depth + 1

def markStyle (frame : Frame) (mark : LineMark) : Style :=
  if mark.primary then frame.primaryStyle else .accent

/-- The bar beside the line numbers. -/
def bar (frame : Frame) (row : Nat) : Stroke :=
  ⟨row, frame.gutter, ['|'], .accent⟩

/-- One row of an arm. -/
def armRow (frame : Frame) (row depth : Nat) (style : Style) : Stroke :=
  ⟨row, frame.armColumn + depth - 1, ['|'], style⟩

end Frame

def underline (mark : LineMark) : Char :=
  if mark.primary then '^' else '-'

/-- Stands for code that is not shown. -/
def ellipsis : List Char := ['.', '.', '.']

/-! ## The line itself -/

/-- The first characters that together are at least as wide as the ellipsis, and their width. -/
def underEllipsis : Nat → List Char → Nat × Nat
  | _, [] => (0, 0)
  | width, c :: text =>
    let width := width + columnWidth c
    if ellipsis.length ≤ width then (1, width)
    else
      let (count, total) := underEllipsis width text
      (count + 1, max total width)

/-- A source line with its number, and the first of its columns that is shown. -/
def codeStrokes (frame : Frame) (row number : Nat) (text : List Char) : List Stroke × Nat :=
  let shown := visibleText text
  let lineWidth := textWidth shown
  let left := min frame.window.left lineWidth
  let right := frame.window.rightOf lineWidth
  let (rest, dropped) := dropColumns left shown
  let code := takeColumns (right - left) rest
  let (hidden, hiddenWidth) := if 0 < frame.window.left then underEllipsis 0 code else (0, 0)
  let column := frame.codeColumn
  let visible := code.drop hidden
  let cutLeft := if 0 < frame.window.left then [⟨row, column, ellipsis, Style.accent⟩] else []
  let cutRight := if right < lineWidth then
      [⟨row, column + hiddenWidth + visible.length - (underEllipsis 0 code.reverse).1, ellipsis,
        Style.accent⟩]
    else []
  let numberText := (toString number).toList
  let numberStroke : Stroke :=
    ⟨row, 0, List.replicate (frame.numberWidth - numberText.length) ' ' ++ numberText, .accent⟩
  (cutLeft ++ ⟨row, column + hiddenWidth, visible, .plain⟩ :: cutRight ++
    [numberStroke, frame.bar row], max left dropped)

/-! ## The rows of labels -/

/-- How many marks come between a mark and the first later one because of which its label must move
down: one that lies over it, unless it is a mark without a label at the same places. -/
def crossing? (mark : LineMark) (later : List LineMark) : Option Nat :=
  if mark.hasLabel then
    later.findIdx? fun next =>
      next.overlaps mark 0 &&
        !(next.first.looksLike mark.first && next.last.looksLike mark.last && !next.hasLabel)
  else none

/-- Whether the marks after this one must be labelled further down, given the row of this one. -/
def isCrowded (row : Nat) (mark : LineMark) (later : List LineMark) : Bool :=
  later.any fun next =>
    let room := Text.byteSize next.label + 2
    (next.overlaps mark room && mark.hasLabel && next.hasLabel) ||
      (mark.turns && next.hasLabel) || (mark.hasLabel && next.turns) ||
      (mark.turns && next.turns) ||
      (next.overlaps mark room && next.last.isUpTo mark.last && next.hasLabel && row == 0)

/-- Gives each mark, from right to left, the row of its label; the row directly under the line is
row zero. -/
def labelRows : Nat → List LineMark → List (Nat × LineMark)
  | _, [] => []
  | row, mark :: later =>
    let row := if row = 0 ∧ (crossing? mark later).isSome then 1 else row
    (row, mark) :: labelRows (if isCrowded row mark later then row + 1 else row) later

/-- The indices of marks, from right to left, that are seen to lie over others while their rows are
chosen. Each mark is held against those from the third on, up to the one that moves its label
down. -/
def overlaid (marks : List LineMark) : List Nat :=
  go 0 0 marks
where
  go : Nat → Nat → List LineMark → List Nat
    | _, _, [] => []
    | row, i, mark :: later =>
      let crossing := if row = 0 then crossing? mark later else none
      let reach := match crossing with
        | some between => i + 1 + between
        | none => marks.length
      let met :=
        (marks.zipIdx.filter fun (next, j) => 1 < j && j ≤ reach && next.overlaps mark 0).map (·.2)
      let row := if crossing.isSome then 1 else row
      (if met.isEmpty then [] else i :: met) ++
        go (if isCrowded row mark later then row + 1 else row) (i + 1) later

/-! ## The marks of a line -/

/-- The horizontal strokes of arms that turn at the line. -/
def horizontals (frame : Frame) (top left : Nat) (placed : List (Nat × LineMark)) : List Stroke :=
  placed.filterMap fun (row, mark) =>
    match mark.shape with
    | .opens depth | .closes depth =>
      let first := frame.armColumn + depth
      some ⟨top + row + 1, first,
        List.replicate (frame.codeColumn + mark.start - left - first) '_', frame.markStyle mark⟩
    | _ => none

/-- The bars that join marks to labels further down, and the ends of arms. -/
def verticals (frame : Frame) (top left bottom : Nat) (placed : List (Nat × LineMark)) :
    List Stroke :=
  placed.flatMap fun (row, mark) =>
    let style := frame.markStyle mark
    let column := frame.codeColumn + mark.start - left
    let joins :=
      if 0 < row ∧ (mark.hasLabel || mark.turns) then
        (List.range' (top + 1) (row + 1)).map fun r => (⟨r, column, ['|'], style⟩ : Stroke)
      else []
    let arm := match mark.shape with
      | .opens depth =>
        ⟨top + row + 1, frame.armColumn + depth - 1, [' '], style⟩ ::
          (List.range' (top + row + 2) (bottom + 1 - (row + 1))).map fun r =>
            frame.armRow r depth style
      | .closes depth => (List.range' top (row + 2)).map fun r => frame.armRow r depth style
      | _ => []
    joins ++ arm

/-- The labels. -/
def labels (frame : Frame) (top left : Nat) (placed : List (Nat × LineMark)) : List Stroke :=
  placed.map fun (row, mark) =>
    let (row, column) :=
      if row = 0 then (1, if mark.stop = 0 then 2 else mark.stop + 1) else (row + 2, mark.start)
    ⟨top + row, frame.codeColumn + (column - left), mark.label, frame.markStyle mark⟩

/-- The marks in the order of their underlines: the widest first, so that narrow marks stay
visible. -/
def widestFirst (placed : List (Nat × LineMark)) : List (Nat × LineMark) :=
  placed.mergeSort fun (_, a) (_, b) =>
    b.width < a.width || (b.width == a.width && (!a.primary || b.primary))

/-- The underlines. -/
def underlines (frame : Frame) (top left : Nat) (placed : List (Nat × LineMark)) : List Stroke :=
  (widestFirst placed).flatMap fun (row, mark) =>
    let style := frame.markStyle mark
    let column := frame.codeColumn + mark.start - left
    let line : Stroke :=
      ⟨top + 1, column, List.replicate (mark.stop - mark.start) (underline mark), style⟩
    if mark.turns || (0 < row && mark.hasLabel) then
      [line, ⟨top + 1, column, [underline mark], style⟩]
    else [line]

/-- Whether a mark is more than twice as wide as what fits, or ends before it begins. -/
def isOversized (frame : Frame) (mark : LineMark) : Bool :=
  mark.stop < mark.start || max 10 (frame.window.width * 2) < mark.stop - mark.start

/-- Columns whose cells are left out in the code and in the underlines: the middle of each oversized
mark. The marks are in the order of their underlines, and those at the indices `kept` stay whole. -/
def elisions (frame : Frame) (left : Nat) (kept : List Nat) (placed : List (Nat × LineMark)) :
    List (Nat × Nat) :=
  let pad := max 5 (frame.window.width / 3)
  (widestFirst placed).zipIdx.filterMap fun ((_, mark), i) =>
    if kept.contains i ∨ mark.shape ≠ .whole ∨ !isOversized frame mark then none
    else if frame.codeColumn + mark.stop < pad then none
    else some (frame.codeColumn + mark.start + pad - left,
      frame.codeColumn + mark.stop - pad - left)

/-- The arms that open or close at a line, in the order of their underlines. -/
def turnedArms (frame : Frame) (placed : List (Nat × LineMark)) : List (Nat × Style) :=
  (widestFirst placed).filterMap fun (_, mark) =>
    match mark.shape with
    | .opens depth | .closes depth => some (depth, frame.markStyle mark)
    | _ => none

/-- Whether the line only opens arms, and none after its first character that is not blank. -/
def onlyOpensAtStart (line : MarkedLine) : Bool :=
  let text := visibleText line.text
  line.marks.all fun mark =>
    match mark.shape with
    | .opens _ => (text.take mark.start).all Text.isBlank
    | .passes _ => true
    | _ => false

/-- How a marked line is drawn: the strokes, the columns that are then left out of the code and of
the underlines, and the arms that open or close at the line. -/
structure LineDrawing where
  strokes : List Stroke
  elided : List (Nat × Nat)
  turned : List (Nat × Style)

/-- The drawing of a marked line from the row `top` on. -/
def lineDrawing (frame : Frame) (top : Nat) (line : MarkedLine) : LineDrawing :=
  let (code, left) := codeStrokes frame top line.number line.text
  if onlyOpensAtStart line then
    let opened := line.marks.filterMap fun mark =>
      match mark.shape with
      | .opens depth => some (depth, frame.markStyle mark)
      | _ => none
    ⟨code ++ opened.map fun (depth, style) => ⟨top, frame.armColumn + depth - 1, ['/'], style⟩,
      [], opened⟩
  else
    let sorted := line.marks.mergeSort fun a b => b.first.isUpTo a.first
    let placed := labelRows 0 sorted
    let lowest := greatest (placed.map (·.1))
    let bottom := if lowest = 0 then 0 else lowest + 1
    if line.marks.all LineMark.isPassing then ⟨code, [], []⟩
    else
      let allOpen := line.marks.all LineMark.isOpening
      let placed := if allOpen then placed.map fun (row, mark) => (lowest - row, mark) else placed
      let bottom := if allOpen then bottom - 1 else bottom
      let bars := (List.range' (top + 1) (bottom + 1)).map frame.bar
      ⟨code ++ bars ++ horizontals frame top left placed ++
          verticals frame top left bottom placed ++ labels frame top left placed ++
          underlines frame top left placed,
        elisions frame left (overlaid sorted) placed, turnedArms frame placed⟩

/-! ## All lines -/

/-- The open arms that go on past a line, and the arms that begin there. An arm that turns ends the
open one of its depth, or else it begins; so at one line an arm may end and another of its depth
begin. -/
def turnArms (opened : List (Nat × Style)) :
    List (Nat × Style) → List (Nat × Style) × List (Nat × Style)
  | [] => (opened, [])
  | (depth, style) :: turned =>
    if opened.any (·.1 == depth) then turnArms (opened.filter (·.1 != depth)) turned
    else
      let (passing, begun) := turnArms opened turned
      (passing, if begun.any (·.1 == depth) then begun else (depth, style) :: begun)

/-- Bars for the open arms in some rows. -/
def armBars (frame : Frame) (first last : Nat) (arms : List (Nat × Style)) : List Stroke :=
  arms.flatMap fun (depth, style) =>
    (List.range' first (last - first)).map fun row => frame.armRow row depth style

/-- The canvas with some columns elided in a line of code and in the underlines below it. -/
def elideMarked? (canvas : Canvas) (top : Nat) : List (Nat × Nat) → Option Canvas
  | [] => some canvas
  | (first, last) :: elided => do
    elideMarked? (← (← canvas.elide? top first last).elide? (top + 1) first last) top elided

/-- Draws marked lines below what is on the canvas. A single line between two marked lines is shown,
more of them are left out. -/
def drawLines? (frame : Frame) (source : List SourceLine) :
    List (Nat × Style) → List MarkedLine → Canvas → Option Canvas
  | _, [], canvas => some canvas
  | arms, line :: lines, canvas => do
    let top := canvas.size
    let ⟨strokes, elided, turned⟩ := lineDrawing frame top line
    let canvas ← elideMarked? (canvas.drawAll strokes) top elided
    let (passing, begun) := turnArms arms turned
    let canvas := canvas.drawAll (armBars frame top canvas.size passing)
    let opening := line.marks.filterMap fun mark =>
      match mark.shape with
      | .opens depth => some (depth, frame.markStyle mark)
      | _ => none
    let canvas := match lines with
      | [] => canvas
      | next :: _ =>
        let row := canvas.size
        let bridge := armBars frame row (row + 1) (passing ++ opening)
        if line.number + 2 < next.number then
          canvas.drawAll (⟨row, 0, ellipsis, .accent⟩ :: bridge)
        else if line.number + 2 = next.number then
          let text := ((source.find? (·.number = line.number + 1)).map (·.text)).getD []
          canvas.drawAll ((codeStrokes frame row (line.number + 1) text).1 ++ bridge)
        else canvas
    drawLines? frame source (passing ++ begun) lines canvas

end OrderedChoice.Excerpt
