/-!
# Words of a command line

A word that begins with two dashes names an option and may give its value after an equals sign; one
dash stands before single letters. A dash alone and all other words are plain. Two dashes alone end
the options.
-/

namespace OrderedChoice.CommandLine

/-- A word by its form. -/
inductive Word where
  | endOfOptions
  | long (name : String) (value? : Option String)
  | letters (chars : List Char)
  | plain (text : String)
deriving DecidableEq, Repr

namespace Word

/-- A name, and the value after the first equals sign. -/
def splitValue (body : List Char) : String × Option String :=
  (String.ofList (body.takeWhile (· != '=')),
    (body.dropWhile (· != '=')).tail?.map String.ofList)

/-- The form of a word. -/
def ofText (text : String) : Word :=
  match text.toList with
  | ['-', '-'] => .endOfOptions
  | '-' :: '-' :: body => .long (splitValue body).1 (splitValue body).2
  | '-' :: first :: others => .letters (first :: others)
  | _ => .plain text

/-- Without an equals sign, a long word is all name. -/
theorem splitValue_of_not_mem {body : List Char} (h : '=' ∉ body) :
    splitValue body = (String.ofList body, none) := by
  have all : ∀ c ∈ body, (c != '=') = true := fun c hc => bne_iff_ne.mpr fun e => h (e ▸ hc)
  have parts := (List.takeWhile_append_of_pos all : (body ++ []).takeWhile (· != '=') = _)
  have rest := (List.dropWhile_append_of_pos all : (body ++ []).dropWhile (· != '=') = _)
  rw [List.append_nil] at parts rest
  rw [splitValue, parts, rest, List.takeWhile_nil, List.append_nil]
  rfl

end Word

/-! ## Numbers -/

/-- The value of a list of decimal digits. -/
def valueOfDigits (digits : List Char) : Nat :=
  digits.foldl (fun value digit => 10 * value + (digit.toNat - '0'.toNat)) 0

/-- The number that some text writes in decimal digits, if there are any and nothing else. -/
def numberOfDigits? (text : List Char) : Option Nat :=
  if text.isEmpty || !text.all Char.isDigit then none else some (valueOfDigits text)

/-- Counts fit into four bytes. -/
def greatestCount : Nat :=
  4294967295

/-- The count that a word writes, with or without a sign. -/
def countOfText? (text : String) : Option Nat :=
  match text.toList with
  | '-' :: digits => (numberOfDigits? digits).filter (· = 0)
  | '+' :: digits => (numberOfDigits? digits).filter (· ≤ greatestCount)
  | digits => (numberOfDigits? digits).filter (· ≤ greatestCount)

theorem countOfText?_le {text : String} {count : Nat} (h : countOfText? text = some count) :
    count ≤ greatestCount := by
  unfold countOfText? at h
  split at h <;> simp only [Option.filter_eq_some_iff, decide_eq_true_eq] at h <;> omega

end OrderedChoice.CommandLine
