import OrderedChoice.Text.GraphemeExtend
import OrderedChoice.Text.Printable

/-!
# Quoted text

Text between double quotes, as dumps and traces show it. A quote and a backslash are escaped, the
common control characters have short escapes, and every other character that is unprintable or
extends a grapheme is written by its code point in hexadecimal.
-/

namespace OrderedChoice.Text

/-- The escape that names a code point. -/
def codePointEscape (c : Char) : List Char :=
  ['\\', 'u', '\x7b'] ++ Nat.toDigits 16 c.toNat ++ ['\x7d']

/-- The characters that stand for `c` between quotes. -/
def quotedChar (c : Char) : List Char :=
  if c = '"' then ['\\', '"']
  else if c = '\\' then ['\\', '\\']
  else if c = '\t' then ['\\', 't']
  else if c = '\r' then ['\\', 'r']
  else if c = '\n' then ['\\', 'n']
  else if c = '\x00' then ['\\', '0']
  else if isPrintable c && !extendsGrapheme c then [c]
  else codePointEscape c

/-- The text between double quotes. -/
def quoted (text : String) : String :=
  String.ofList ('"' :: text.toList.flatMap quotedChar ++ ['"'])

theorem toList_quoted (text : String) :
    (quoted text).toList = '"' :: text.toList.flatMap quotedChar ++ ['"'] := by
  simp [quoted]

theorem quotedChar_ne_nil (c : Char) : quotedChar c ≠ [] := by
  unfold quotedChar codePointEscape
  repeat' split
  all_goals simp

end OrderedChoice.Text
