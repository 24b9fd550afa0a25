import OrderedChoice.Statement
import OrderedChoice.Text.Blank
import OrderedChoice.Text.Bytes

/-!
# Statement files

One statement a line: the name of its kind, then its text. A statement without text has the name as
its text. Blank lines and lines that begin with a star are skipped. Spans count the bytes of the
file, rows its lines from zero.
-/

namespace OrderedChoice.StatementFile

open Text

/-- A line names a kind that does not exist; lines are counted from one. -/
structure UnknownKind where
  line : Nat
  word : String
deriving DecidableEq, Repr

def UnknownKind.message (fault : UnknownKind) : String :=
  "line " ++ toString fault.line ++ ": unknown statement kind `" ++ fault.word ++ "`"

/-- The lines of a text with their line ends. -/
def rawLines (text : List Char) : List (List Char) :=
  go [] text
where
  /-- The lines of a text whose first line has begun with the given characters, the last one
  first. -/
  go (begun : List Char) : List Char → List (List Char)
    | [] => if begun.isEmpty then [] else [begun.reverse]
    | c :: text =>
      if c = '\n' then (c :: begun).reverse :: go [] text else go (c :: begun) text

/-- The line without the line feeds and carriage returns at its end. -/
def lineContent (raw : List Char) : List Char :=
  dropEndWhile (fun c => c = '\n' || c = '\r') raw

/-- Reads one line at a row and a byte of the file; some lines hold no statement. -/
def readLine (kindOf? : String → Option Kind) (row start : Nat) (raw : List Char) :
    Except UnknownKind (Option Statement) :=
  let line := lineContent raw
  let content := trimLeft line
  if content.isEmpty || content.head? = some '*' then .ok none
  else
    let (word, rest) := splitAtBlank content
    match kindOf? (String.ofList word) with
    | none => .error ⟨row + 1, String.ofList word⟩
    | some kind =>
      let text := trim rest
      let (offset, text) :=
        if text.isEmpty then (byteSize line - byteSize content, word)
        else (byteSize line - byteSize (trimLeft rest), text)
      .ok (some ⟨kind, String.ofList text, ⟨start + offset, start + offset + byteSize text⟩, row⟩)

/-- Reads lines from a row and a byte of the file on. -/
def readLines (kindOf? : String → Option Kind) :
    Nat → Nat → List (List Char) → Except UnknownKind (List Statement)
  | _, _, [] => .ok []
  | row, start, raw :: lines =>
    match readLine kindOf? row start raw with
    | .error fault => .error fault
    | .ok statement? =>
      (readLines kindOf? (row + 1) (start + byteSize raw) lines).map (statement?.toList ++ ·)

/-- The statements of a file, whose kinds are given by name. -/
def read (kindOf? : String → Option Kind) (source : String) : Except UnknownKind (List Statement) :=
  readLines kindOf? 0 0 (rawLines source.toList)

/-- The lines of a text together are the text. -/
theorem flatten_rawLines (text : List Char) : (rawLines text).flatten = text := by
  suffices h :
      ∀ (text begun : List Char), (rawLines.go begun text).flatten = begun.reverse ++ text from
    h text []
  intro text
  induction text with
  | nil =>
    intro begun
    cases begun <;> simp [rawLines.go]
  | cons c text ih =>
    intro begun
    unfold rawLines.go
    split
    · simp [ih]
    · simp [ih]

end OrderedChoice.StatementFile
