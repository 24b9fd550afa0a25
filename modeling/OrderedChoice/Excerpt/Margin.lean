import OrderedChoice.Excerpt.Marks

/-!
# The window of an excerpt

Which columns of the source lines are shown. Lines that do not fit are cut so that the marks, and if
possible their labels, stay within the window.
-/

namespace OrderedChoice.Excerpt

/-- The columns of an excerpt in all. -/
def excerptWidth : Nat := 140

/-- The columns from `left` up to `right`, of which `width` fit. -/
structure Window where
  left : Nat
  right : Nat
  width : Nat

/-- Room that is left beside the marks. -/
def windowPadding : Nat := 6

/-- The greatest of some numbers, or zero. -/
def greatest (numbers : List Nat) : Nat :=
  numbers.foldl max 0

/-- The least of some numbers, or zero if there are none. -/
def least : List Nat → Nat
  | [] => 0
  | number :: numbers => numbers.foldl min number

/-- The columns before the first character that is not blank, where a tab takes four and any other
blank one. -/
def indentWidth : List Char → Nat
  | [] => 0
  | c :: text => if Text.isBlank c then (if c = '\t' then 4 else 1) + indentWidth text else 0

namespace Window

/-- The window onto marked lines through which `width` columns can be seen. -/
def onto (lines : List MarkedLine) (width : Nat) : Window :=
  let indents := lines.filterMap fun line =>
    if line.text.all Text.isBlank then none
    else some (indentWidth line.text)
  let marks := lines.flatMap (·.marks)
  let columns := (marks.filter (!·.isPassing)).flatMap fun mark => [mark.start, mark.stop]
  let indent := min (least indents) (least columns) - windowPadding
  let spanLeft := least columns - windowPadding
  let spanRight := greatest columns + windowPadding
  let labelRight := greatest (marks.map fun mark => mark.stop + mark.labelRoom) + windowPadding
  let longest := greatest (lines.map fun line => textWidth line.text)
  let left := if 20 < indent then indent - 16 else 0
  let right := max longest left
  if right - left ≤ width then ⟨left, right, width⟩
  else if labelRight - indent ≤ width then ⟨indent, indent + width, width⟩
  else if labelRight - spanLeft ≤ width then
    let left := spanLeft - (width - (labelRight - spanLeft)) / 2
    ⟨left, left + width, width⟩
  else if spanRight - spanLeft ≤ width then
    let left := spanLeft - (width - (spanRight - spanLeft)) / 5 * 2
    ⟨left, left + width, width⟩
  else ⟨spanLeft, spanRight, width⟩

/-- The last column shown of a line that takes some columns. -/
def rightOf (window : Window) (lineWidth : Nat) : Nat :=
  if lineWidth - window.left ≤ window.width then lineWidth else min lineWidth window.right

end Window

/-- The text without its first characters, which take `columns` columns or just more, and the
columns that they take. -/
def dropColumns : Nat → List Char → List Char × Nat
  | _, [] => ([], 0)
  | columns, c :: text =>
    if columns = 0 then (c :: text, 0)
    else
      let (rest, dropped) := dropColumns (columns - columnWidth c) text
      (rest, dropped + columnWidth c)

/-- The first characters of the text that fit into some columns. -/
def takeColumns : Nat → List Char → List Char
  | _, [] => []
  | columns, c :: text =>
    if columnWidth c ≤ columns then c :: takeColumns (columns - columnWidth c) text else []

end OrderedChoice.Excerpt
