/-!
# Bytes of a text
-/

namespace OrderedChoice.Text

/-- How many bytes the text takes in UTF-8. -/
def byteSize : List Char → Nat
  | [] => 0
  | c :: text => c.utf8Size + byteSize text

@[simp] theorem byteSize_nil : byteSize [] = 0 := rfl

@[simp] theorem byteSize_cons (c : Char) (text : List Char) :
    byteSize (c :: text) = c.utf8Size + byteSize text := rfl

@[simp] theorem byteSize_append (a b : List Char) :
    byteSize (a ++ b) = byteSize a + byteSize b := by
  induction a with
  | nil => simp
  | cons c a ih => simp [ih, Nat.add_assoc]

/-- Whether a byte of the text is not the first of its character. -/
def fallsInside : List Char → Nat → Bool
  | [], _ => false
  | c :: text, byte => if byte < c.utf8Size then byte ≠ 0 else fallsInside text (byte - c.utf8Size)

end OrderedChoice.Text
