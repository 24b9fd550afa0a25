import OrderedChoice.Excerpt.Drawing

/-!
# Annotated source excerpts

A title, the place of the primary mark, the marked lines of the source, and hints. Texts that come
from outside are made visible first, so that control characters in them do not act.
-/

namespace OrderedChoice

open Excerpt

/-- What an excerpt shows. The first mark is the primary one. -/
structure Excerpt where
  level : String
  levelStyle : Style
  message : String
  path : Option String
  source : String
  marks : List Mark
  hints : List String

namespace Excerpt

/-- The lines of a message; the lines after the first are indented. -/
def messageRows (row column indent : Nat) (text : List Char) (style : Style) : List Stroke :=
  match (String.ofList text).splitOn "\n" with
  | [] => []
  | first :: others => ⟨row, column, first.toList, style⟩ ::
    others.zipIdx.flatMap fun (line, i) =>
      [⟨row + i + 1, 0, List.replicate indent ' ', .plain⟩,
        ⟨row + i + 1, indent, line.toList, style⟩]

/-- The title, from row zero on. -/
def titleStrokes (e : Excerpt) : List Stroke :=
  let level := e.level.toList
  ⟨0, 0, level, e.levelStyle⟩ :: ⟨0, level.length, [':', ' '], .bold⟩ ::
    messageRows 0 (level.length + 2) (level.length + 2) (visibleText e.message.toList) .bold

/-- The place of the first mark of the first line with a primary mark. -/
def primaryPlace? (lines : List MarkedLine) : Option (Nat × Nat) :=
  match lines.find? fun line => line.marks.any (·.primary) with
  | none => none
  | some line =>
    match (line.marks.filter (·.primary)).map (·.first.char) with
    | [] => none
    | char :: chars => some (line.number, chars.foldl min char + 1)

/-- The row that names the file and the place. -/
def placeStrokes (numberWidth row : Nat) (path : String) (lines : List MarkedLine) : List Stroke :=
  let place := match primaryPlace? lines with
    | some (line, column) => path ++ ":" ++ toString line ++ ":" ++ toString column
    | none => path
  [⟨row, numberWidth, ['-', '-', '>', ' '], .accent⟩, ⟨row, numberWidth + 4, place.toList, .plain⟩]

/-- A hint below the lines. -/
def hintStrokes (numberWidth row : Nat) (hint : String) : List Stroke :=
  ⟨row, numberWidth + 1, ['=', ' '], .accent⟩ :: ⟨row, numberWidth + 3, "help".toList, .bold⟩ ::
    ⟨row, numberWidth + 7, [':', ' '], .plain⟩ ::
    messageRows row (numberWidth + 9) (numberWidth + 9) hint.toList .plain

/-- How many lines the source has up to the last byte of a mark, and at least one. A line that holds
no byte before that is not counted. -/
def lastLineNumber (e : Excerpt) : Nat :=
  max 1 (linesWithin (greatest (e.marks.map (·.span.stop))) true e.source.toList)
where
  linesWithin : Nat → Bool → List Char → Nat
    | _, _, [] => 0
    | bytes, startsLine, c :: text =>
      if bytes < c.utf8Size then 0
      else (if startsLine then 1 else 0) + linesWithin (bytes - c.utf8Size) (c = '\n') text

/-- The whole excerpt on a canvas. There is none if a mark that ends before it begins cannot be
drawn. -/
def canvas? (e : Excerpt) : Option Canvas := do
  let source := sourceLines e.source
  let (lines, depth) := markedLines source e.marks
  let numberWidth := (toString e.lastLineNumber).length
  let codeColumn := if depth = 0 then numberWidth + 3 else numberWidth + depth + 4
  let frame : Frame := ⟨numberWidth, depth, .onto lines (excerptWidth - codeColumn), e.levelStyle⟩
  let canvas := Canvas.drawAll #[] e.titleStrokes
  let canvas := match e.path with
    | some path => canvas.drawAll (placeStrokes numberWidth canvas.size path lines)
    | none => canvas
  let canvas := canvas.drawAll [frame.bar canvas.size]
  let canvas ← drawLines? frame source [] lines canvas
  if e.hints.isEmpty then return canvas
  return e.hints.foldl (fun canvas hint =>
    canvas.drawAll (hintStrokes numberWidth canvas.size hint))
    (canvas.drawAll [frame.bar canvas.size])

/-- Whether each mark begins and ends between characters. -/
def isDrawable (e : Excerpt) : Bool :=
  e.marks.all fun mark => !Text.fallsInside e.source.toList mark.span.start &&
    !Text.fallsInside e.source.toList mark.span.stop

/-- The text of the excerpt, with colours or without. There is none if a mark cuts a character, or
if a mark that ends before it begins cannot be drawn. -/
def render? (e : Excerpt) (coloured : Bool) : Option String :=
  if e.isDrawable then e.canvas?.map (·.render coloured) else none

end Excerpt

end OrderedChoice
