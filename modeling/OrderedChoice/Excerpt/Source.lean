import OrderedChoice.Statement
import OrderedChoice.Text.Blank
import OrderedChoice.Text.Bytes
import OrderedChoice.Text.Width

/-!
# Places in a source

The lines of a source with the bytes they take, and the line and columns of a byte. A line ends with
a line feed, perhaps after a carriage return, or with the source.
-/

namespace OrderedChoice.Excerpt

/-- A line: its number from 1, its characters without the line end, its first byte, the byte after
its line end, and the bytes of the line end. -/
structure SourceLine where
  number : Nat
  text : List Char
  start : Nat
  stop : Nat
  endSize : Nat

namespace SourceLine

/-- The characters of the line before a byte of it. -/
def before (line : SourceLine) (byte : Nat) : List Char :=
  go (byte - line.start) line.text
where
  go : Nat → List Char → List Char
    | _, [] => []
    | offset, c :: text => if offset = 0 then [] else c :: go (offset - c.utf8Size) text

end SourceLine

/-- The line with the given characters, whose line feed, if it has one, is the last of its bytes. -/
def sourceLine (number start : Nat) (text : List Char) (hasLineFeed : Bool) : SourceLine :=
  let stop := start + Text.byteSize text + (if hasLineFeed then 1 else 0)
  if !hasLineFeed then ⟨number, text, start, stop, 0⟩
  else if text.getLast? = some '\r' then ⟨number, text.dropLast, start, stop, 2⟩
  else ⟨number, text, start, stop, 1⟩

/-- The lines of a source from a number and a byte on, where the first line begins with the given
characters, the last of them first. -/
def sourceLinesFrom (number start : Nat) (begun : List Char) : List Char → List SourceLine
  | [] => if begun.isEmpty then [] else [sourceLine number start begun.reverse false]
  | c :: source =>
    if c = '\n' then
      let line := sourceLine number start begun.reverse true
      line :: sourceLinesFrom (number + 1) line.stop [] source
    else sourceLinesFrom number start (c :: begun) source

/-- The lines of a source. -/
def sourceLines (source : String) : List SourceLine :=
  sourceLinesFrom 1 0 [] source.toList

/-- The column width of a character in an excerpt: tabs take four, and controls are made visible. -/
def columnWidth (c : Char) : Nat :=
  if c = '\t' then 4
  else if c.toNat < 0x20 || c.toNat = 0x7f || isDirectionMark c then 1
  else Text.displayWidth c
where
  isDirectionMark (c : Char) : Bool :=
    (0x202a ≤ c.toNat && c.toNat ≤ 0x202e) || (0x2066 ≤ c.toNat && c.toNat ≤ 0x2069)

/-- The columns of a text. -/
def textWidth : List Char → Nat
  | [] => 0
  | c :: text => columnWidth c + textWidth text

/-- The characters that stand for `c` in an excerpt, where controls must not act. -/
def visibleChar (c : Char) : List Char :=
  if c = '\t' then [' ', ' ', ' ', ' ']
  else if c = '\n' then [c]
  else if c.toNat < 0x20 then [Char.ofNat (0x2400 + c.toNat)]
  else if c.toNat = 0x7f then ['␡']
  else if c.toNat = 0x200d then []
  else if columnWidth.isDirectionMark c then ['�']
  else [c]

/-- A text as an excerpt shows it. -/
def visibleText (text : List Char) : List Char :=
  text.flatMap visibleChar

/-- A place: line number, characters before it and columns before it on its line, and bytes before
it in the source. Within a line end, places may differ in their bytes only. -/
structure Place where
  line : Nat
  char : Nat
  column : Nat
  byte : Nat
deriving DecidableEq, Repr

namespace Place

/-- The place some columns to the right, each of a character of one byte. -/
def right (place : Place) (columns : Nat) : Place :=
  { place with
    char := place.char + columns, column := place.column + columns, byte := place.byte + columns }

/-- The place one column to the left, if there is one. -/
def left (place : Place) : Place :=
  { place with char := place.char - 1, column := place.column - 1, byte := place.byte - 1 }

/-- Whether two places of a line look the same, although they may be different bytes of its end. -/
def looksLike (a b : Place) : Bool :=
  a.char == b.char && a.column == b.column

/-- Whether a place of a line looks as if it came before another one, or looks the same. -/
def isUpTo (a b : Place) : Bool :=
  a.column < b.column || (a.column == b.column && a.char ≤ b.char)

end Place

/-- The line that holds a byte, or the last line. -/
def lineAt? (lines : List SourceLine) (byte : Nat) : Option SourceLine :=
  (lines.find? fun line => line.start ≤ byte && byte < line.stop).or lines.getLast?

/-- The first and the last place of a span. -/
def places? (lines : List SourceLine) (span : Span) : Option (Place × Place) := do
  let first ← lineAt? lines span.start
  let text := first.before span.start
  let pastEnd := Text.byteSize first.text < span.start - first.start
  let start : Place :=
    ⟨first.number, text.length + (if pastEnd then 1 else 0), textWidth text, span.start⟩
  if span.start = span.stop then return (start, start)
  let last ← lineAt? lines span.stop
  let text := last.before span.stop
  let overhang := if first.number ≠ last.number ∧ last.stop - last.endSize < span.stop then 1 else 0
  return (start, ⟨last.number, text.length + overhang, textWidth text + overhang, span.stop⟩)

end OrderedChoice.Excerpt
