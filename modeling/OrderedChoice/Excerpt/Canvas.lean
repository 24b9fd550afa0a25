/-!
# Text canvases

A grid of styled characters that later strokes overwrite. Cells that nothing was drawn on are plain
blanks; a row ends with the last cell that something was drawn on.
-/

namespace OrderedChoice.Excerpt

/-- How a character is shown on a terminal. -/
inductive Style where
  | plain
  | bold
  | error
  | warning
  | accent
deriving DecidableEq, Repr

namespace Style

/-- The sequences that switch a style on. -/
def opening : Style → String
  | plain => ""
  | bold => "\x1b[1m"
  | error => "\x1b[1m\x1b[91m"
  | warning => "\x1b[1m\x1b[33m"
  | accent => "\x1b[1m\x1b[94m"

/-- The sequence that switches a style off. -/
def closing : Style → String
  | plain => ""
  | _ => "\x1b[0m"

end Style

/-- A styled character. -/
structure Cell where
  char : Char
  style : Style
deriving DecidableEq, Repr

def Cell.blank : Cell :=
  ⟨' ', .plain⟩

/-- The rows of a grid, each as long as something was drawn on it. -/
abbrev Canvas := Array (Array Cell)

/-- Characters drawn on one row from a column on. -/
structure Stroke where
  row : Nat
  column : Nat
  text : List Char
  style : Style

namespace Canvas

/-- The row with a cell drawn on it. -/
def putInRow (row : Array Cell) (column : Nat) (cell : Cell) : Array Cell :=
  if column < row.size then row.setIfInBounds column cell
  else (row ++ Array.replicate (column - row.size) Cell.blank).push cell

/-- The canvas with a cell drawn on it. -/
def put (canvas : Canvas) (row column : Nat) (cell : Cell) : Canvas :=
  let canvas := canvas ++ Array.replicate (row + 1 - canvas.size) #[]
  canvas.modify row (putInRow · column cell)

/-- The row where dots stand for the cells from one column up to another. A row that does not reach
that far stays as it is; one that does cannot be drawn if there is no room for the dots. -/
def elideInRow? (first last : Nat) (row : Array Cell) : Option (Array Cell) :=
  if row.size < first ∨ row.size < last then some row
  else if first + 3 ≤ last then
    some (row.take first ++ Array.replicate 3 ⟨'.', .accent⟩ ++ row.drop last)
  else none

/-- The canvas with some cells of a row elided. -/
def elide? (canvas : Canvas) (row first last : Nat) : Option Canvas :=
  match canvas[row]? with
  | none => some canvas
  | some cells => (elideInRow? first last cells).map (canvas.setIfInBounds row)

/-- The canvas with one more stroke. -/
def draw (canvas : Canvas) (stroke : Stroke) : Canvas :=
  go canvas stroke.column stroke.text
where
  go (canvas : Canvas) (column : Nat) : List Char → Canvas
    | [] => canvas
    | c :: text => go (canvas.put stroke.row column ⟨c, stroke.style⟩) (column + 1) text

def drawAll (canvas : Canvas) (strokes : List Stroke) : Canvas :=
  strokes.foldl draw canvas

/-- The characters of a row after those of a style; styles are switched where they change. -/
def renderCells : Style → List Cell → String
  | current, [] => current.closing
  | current, cell :: cells =>
    (if cell.style = current then "" else current.closing ++ cell.style.opening) ++
      String.singleton cell.char ++ renderCells cell.style cells

/-- The text of the canvas, with its styles or without. -/
def render (canvas : Canvas) (coloured : Bool) : String :=
  "\n".intercalate (canvas.toList.map fun row =>
    if coloured then renderCells .plain row.toList
    else String.ofList (row.toList.map (·.char)))

end Canvas

end OrderedChoice.Excerpt
