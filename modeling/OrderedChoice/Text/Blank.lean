import OrderedChoice.Text.CodeRanges

/-!
# Blank characters and trimming

A character is blank if it has the property White_Space; zero-width characters are not blank.
Texts are trimmed as lists of characters, so trimming at one end has a suffix or a prefix law.
-/

namespace OrderedChoice.Text

/-- The code points with the property White_Space. -/
def blankRanges : CodeRanges := [
  (0x9, 0xd), (0x20, 0x20), (0x85, 0x85), (0xa0, 0xa0), (0x1680, 0x1680), (0x2000, 0x200a),
  (0x2028, 0x2029), (0x202f, 0x202f), (0x205f, 0x205f), (0x3000, 0x3000)]

/-- Whether the character is white space. -/
def isBlank (c : Char) : Bool :=
  blankRanges.contains c

/-- The text from its first character that is not blank. -/
def trimLeft (text : List Char) : List Char :=
  text.dropWhile isBlank

/-- The text without the characters at its end that satisfy `p`. -/
def dropEndWhile (p : Char → Bool) (text : List Char) : List Char :=
  (text.reverse.dropWhile p).reverse

/-- The text without blanks at either end. -/
def trim (text : List Char) : List Char :=
  dropEndWhile isBlank (trimLeft text)

/-- The part before the first blank, and the part after that blank. -/
def splitAtBlank (text : List Char) : List Char × List Char :=
  (text.takeWhile (!isBlank ·), (text.dropWhile (!isBlank ·)).drop 1)

theorem trimLeft_suffix (text : List Char) : trimLeft text <:+ text :=
  List.dropWhile_suffix _

theorem dropEndWhile_isPrefix (p : Char → Bool) (text : List Char) :
    dropEndWhile p text <+: text := by
  rw [dropEndWhile, ← List.reverse_suffix, List.reverse_reverse]
  exact List.dropWhile_suffix _

end OrderedChoice.Text
