import OrderedChoice.Abap.Kinds
import OrderedChoice.Proofs.Loading

/-!
# Loaded statements point at their own text

A statement that was read from a file has a span that cuts its text out of the file, and a row that
counts the line feeds before it. The text is trimmed and on one line, and from each statement to the
next both span and row go on (`read_pointsInto`). Only the last line of a file may lack a line feed,
so that all lines before a statement's own are counted by their line feeds.
-/

namespace OrderedChoice

open Text

/-! ## Lines -/

/-- Each line ends with its only line feed, which the last line may lack. -/
inductive StatementFile.Lines : List (List Char) → Prop where
  | none : Lines []
  | last {body : List Char} (unbroken : '\n' ∉ body) : Lines [body]
  | more {body : List Char} {lines : List (List Char)} (unbroken : '\n' ∉ body)
      (others : Lines lines) :
      Lines ((body ++ ['\n']) :: lines)

namespace StatementFile

theorem lines_go :
    ∀ (text : List Char) {begun : List Char}, '\n' ∉ begun → Lines (rawLines.go begun text) := by
  intro text
  induction text with
  | nil =>
    intro begun unbroken
    unfold rawLines.go
    split
    · exact .none
    · exact .last (mt List.mem_reverse.1 unbroken)
  | cons c text ih =>
    intro begun unbroken
    unfold rawLines.go
    split
    · next feed =>
      rw [feed, List.reverse_cons]
      exact .more (mt List.mem_reverse.1 unbroken) (ih List.not_mem_nil)
    · next other => exact ih (List.not_mem_cons_of_ne_of_not_mem (Ne.symm other) unbroken)

theorem lines_rawLines (text : List Char) : Lines (rawLines text) :=
  lines_go text List.not_mem_nil

/-- The content of a line leaves out its line feed. -/
theorem lineContent_append_newline (body : List Char) :
    lineContent (body ++ ['\n']) = lineContent body := by
  simp [lineContent, dropEndWhile]

end StatementFile

/-! ## Statements in lines -/

/-- The text of the statement comes after some characters, and its span and row are counted from
theirs. -/
def Statement.LiesIn (statement : Statement) (row start : Nat) (text : List Char) : Prop :=
  ∃ before after, text = before ++ statement.text.toList ++ after ∧
    statement.span =
      ⟨start + byteSize before, start + byteSize before + byteSize statement.text.toList⟩ ∧
    statement.row = row + before.count '\n'

/-- The text of the statement is a trimmed part of a single line. -/
structure Statement.OneLine (statement : Statement) : Prop where
  nonempty : statement.text.toList ≠ []
  trimmed : Trimmed statement.text.toList
  unbroken : '\n' ∉ statement.text.toList

/-- The first statement ends before the second one begins, on an earlier row. -/
structure Statement.Precedes (s t : Statement) : Prop where
  span : s.span.stop < t.span.start
  row : s.row < t.row

namespace Statement.LiesIn

variable {statement : Statement} {row start : Nat} {text : List Char}

theorem append_right (h : statement.LiesIn row start text) (rest : List Char) :
    statement.LiesIn row start (text ++ rest) := by
  obtain ⟨before, after, rfl, span, rows⟩ := h
  exact ⟨before, after ++ rest, by simp only [List.append_assoc], span, rows⟩

theorem append_left {line : List Char}
    (h : statement.LiesIn (row + line.count '\n') (start + byteSize line) text) :
    statement.LiesIn row start (line ++ text) := by
  obtain ⟨before, after, rfl, span, rows⟩ := h
  refine ⟨line ++ before, after, by simp only [List.append_assoc], ?_, ?_⟩
  · rw [byteSize_append, ← Nat.add_assoc]
    exact span
  · rw [List.count_append, ← Nat.add_assoc]
    exact rows

theorem start_le (h : statement.LiesIn row start text) : start ≤ statement.span.start := by
  obtain ⟨before, -, -, span, -⟩ := h
  rw [span]
  exact Nat.le_add_right _ _

theorem row_le (h : statement.LiesIn row start text) : row ≤ statement.row := by
  obtain ⟨before, -, -, -, rows⟩ := h
  rw [rows]
  exact Nat.le_add_right _ _

theorem stop_le (h : statement.LiesIn row start text) :
    statement.span.stop ≤ start + byteSize text := by
  obtain ⟨before, after, rfl, span, -⟩ := h
  rw [span, byteSize_append, byteSize_append]
  show start + byteSize before + byteSize statement.text.toList ≤ _
  omega

/-- A statement of unbroken text is on the row where the text begins. -/
theorem row_eq (h : statement.LiesIn row start text) (unbroken : '\n' ∉ text) :
    statement.row = row := by
  obtain ⟨before, after, rfl, -, rows⟩ := h
  have unfed : before.count '\n' = 0 :=
    List.count_eq_zero.2 fun feed => unbroken (List.mem_append_left _ (List.mem_append_left _ feed))
  rw [rows, unfed, Nat.add_zero]

end Statement.LiesIn

namespace StatementFile

variable {kindOf? : String → Option Kind} {row start : Nat} {statement : Statement}

/-- The statement of a line lies in the line, which its content leaves unbroken. -/
theorem readLine_liesIn {raw body : List Char} (content : lineContent raw = lineContent body)
    (unbroken : '\n' ∉ body) (ok : readLine kindOf? row start raw = .ok (some statement)) :
    statement.LiesIn row start body ∧ statement.OneLine := by
  obtain ⟨kind, part, byte, nonempty, trimmed, ⟨before, after, whole, rfl⟩, rfl⟩ :=
    readLine_eq_some ok
  obtain ⟨rest, line⟩ : lineContent body <+: body := dropEndWhile_isPrefix _ _
  rw [← line, ← content, whole] at unbroken ⊢
  simp only [List.mem_append, not_or] at unbroken
  obtain ⟨⟨⟨noneBefore, noneInside⟩, -⟩, -⟩ := unbroken
  have text : (String.ofList part).toList = part := String.toList_ofList
  constructor
  · refine Statement.LiesIn.append_right ⟨before, after, ?_, ?_, ?_⟩ rest
    · rw [text]
    · rw [text]
    · rw [List.count_eq_zero.2 noneBefore, Nat.add_zero]
  · refine ⟨?_, ?_, ?_⟩ <;> simp only [text]
    · exact nonempty
    · exact trimmed
    · exact noneInside

/-- Whatever is read from lines lies in them, each statement on one line and before the next. -/
theorem readLines_lie {lines : List (List Char)} (h : Lines lines) :
    ∀ {row start : Nat} {statements : List Statement},
      readLines kindOf? row start lines = .ok statements →
      (∀ s ∈ statements, s.LiesIn row start lines.flatten ∧ s.OneLine) ∧
      statements.Pairwise Statement.Precedes := by
  induction h with
  | none =>
    intro row start statements ok
    cases ok
    exact ⟨nofun, .nil⟩
  | last unbroken =>
    intro row start statements ok
    obtain ⟨statement?, others, line, later, rfl⟩ := readLines_cons_eq_ok ok
    cases later
    rw [List.append_nil, List.flatten_singleton]
    cases statement? with
    | none => exact ⟨nofun, .nil⟩
    | some statement =>
      refine ⟨fun s member => ?_, List.pairwise_singleton _ _⟩
      obtain rfl := List.mem_singleton.1 member
      exact readLine_liesIn rfl unbroken line
  | @more body lines unbroken _ ih =>
    intro row start statements ok
    obtain ⟨statement?, others, line, later, rfl⟩ := readLines_cons_eq_ok ok
    obtain ⟨lie, ordered⟩ := ih later
    have feeds : (body ++ ['\n']).count '\n' = 1 := by
      rw [List.count_append, List.count_eq_zero.2 unbroken]
      rfl
    -- what is read from the other lines lies in all of them
    have further : ∀ s ∈ others, s.LiesIn row start ((body ++ ['\n']) :: lines).flatten ∧
        s.OneLine := by
      intro s member
      obtain ⟨lies, oneLine⟩ := lie s member
      rw [List.flatten_cons]
      exact ⟨.append_left (feeds.symm ▸ lies), oneLine⟩
    cases statement? with
    | none => exact ⟨further, ordered⟩
    | some statement =>
      obtain ⟨lies, oneLine⟩ := readLine_liesIn (lineContent_append_newline body) unbroken line
      constructor
      · intro s member
        rcases List.mem_cons.1 member with rfl | member
        · exact ⟨(lies.append_right ['\n']).append_right lines.flatten, oneLine⟩
        · exact further s member
      · refine List.pairwise_cons.2 ⟨fun t member => ?_, ordered⟩
        have stop := lies.stop_le
        have after := (lie t member).1.start_le
        have below := (lie t member).1.row_le
        have feed := byteSize_pos (List.cons_ne_nil '\n' [])
        rw [byteSize_append] at after
        exact ⟨by omega, by rw [lies.row_eq unbroken]; omega⟩

end StatementFile

/-! ## Statements in a file -/

/-- The statement says where its text is in the source: its span is not empty, within the source and
between characters, and holds the bytes of the text. The text is trimmed and on one line, and the
row counts the line feeds before it. -/
structure Statement.PointsInto (statement : Statement) (source : String) : Prop where
  nonempty : statement.span.start < statement.span.stop
  inBounds : statement.span.stop ≤ source.utf8ByteSize
  startValid : String.Pos.Raw.IsValid source ⟨statement.span.start⟩
  stopValid : String.Pos.Raw.IsValid source ⟨statement.span.stop⟩
  bytes : source.toByteArray.extract statement.span.start statement.span.stop =
      statement.text.toByteArray
  unbroken : '\n' ∉ statement.text.toList
  trimmed : Trimmed statement.text.toList
  row : ∃ before after, source = before ++ after ∧ before.utf8ByteSize = statement.span.start ∧
    statement.row = before.toList.count '\n'

theorem Statement.LiesIn.pointsInto {statement : Statement} {source : String}
    (h : statement.LiesIn 0 0 source.toList) (oneLine : statement.OneLine) :
    statement.PointsInto source := by
  obtain ⟨before, after, same, span, row⟩ := h
  have part : PartAt source.toList statement.text.toList (byteSize before) :=
    ⟨before, after, same, rfl⟩
  have whole : source = String.ofList before ++ statement.text ++ String.ofList after := by
    rw [← String.ofList_toList (s := source), same, String.ofList_append, String.ofList_append,
      String.ofList_toList]
  have size : (String.ofList before).utf8ByteSize = byteSize before := utf8ByteSize_ofList before
  have textSize := byteSize_toList statement.text
  rw [Nat.zero_add] at span
  obtain ⟨startValid, stopValid⟩ := part.isValid
  refine ⟨?_, ?_, ?_, ?_, ?_, oneLine.unbroken, oneLine.trimmed, ?_⟩
  · rw [span]
    exact Nat.lt_add_of_pos_right (byteSize_pos oneLine.nonempty)
  · rw [span, ← byteSize_toList]
    exact part.le
  · rw [span]
    exact startValid
  · rw [span]
    exact stopValid
  · rw [span, whole, String.toByteArray_append, String.toByteArray_append]
    show ByteArray.extract _ (byteSize before)
      (byteSize before + byteSize statement.text.toList) = _
    have stop : byteSize before + byteSize statement.text.toList =
        ((String.ofList before).toByteArray ++ statement.text.toByteArray).size := by
      rw [ByteArray.size_append, String.size_toByteArray, String.size_toByteArray, size, textSize]
    rw [stop, ByteArray.extract_append_size_left]
    exact ByteArray.extract_append_eq_right
      (String.size_toByteArray.trans size).symm ByteArray.size_append
  · refine ⟨String.ofList before, statement.text ++ String.ofList after,
      whole.trans String.append_assoc, ?_, ?_⟩
    · rw [span, size]
    · rw [row, String.toList_ofList, Nat.zero_add]

namespace StatementFile

variable {kindOf? : String → Option Kind} {source : String} {statements : List Statement}

/-- Whatever is read from a file lies in it, each statement on one line and before the next. -/
theorem read_lie (ok : read kindOf? source = .ok statements) :
    (∀ s ∈ statements, s.LiesIn 0 0 source.toList ∧ s.OneLine) ∧
      statements.Pairwise Statement.Precedes := by
  have lie := readLines_lie (lines_rawLines source.toList) ok
  rwa [flatten_rawLines] at lie

/-- Every statement of a file points at its own text, and each statement precedes all later ones. -/
theorem read_pointsInto (ok : read kindOf? source = .ok statements) :
    (∀ statement ∈ statements, statement.PointsInto source) ∧
    statements.Pairwise Statement.Precedes := by
  obtain ⟨lie, ordered⟩ := read_lie ok
  exact ⟨fun s member => (lie s member).1.pointsInto (lie s member).2, ordered⟩

/-- A comment, two blank lines, and lines that have blanks of several bytes, that end with a
carriage return, that name a kind only or that do not end. -/
def mixedLines : String :=
  "* note\n\r\n\u00a0if \u00e4\r\n\n\u3000Data\u2003\n  write  'a'  b \u2003"

/-- The three statements among these lines point at their texts. -/
theorem read_pointsInto_mixedLines :
    ∃ statements, read Abap.kindOfName? mixedLines = .ok statements ∧
      statements.map (·.span) = [⟨14, 16⟩, ⟨22, 26⟩, ⟨39, 45⟩] ∧
      statements.map (·.row) = [2, 4, 5] ∧
      (∀ statement ∈ statements, statement.PointsInto mixedLines) ∧
      statements.Pairwise Statement.Precedes := by
  obtain ⟨statements, ok, spans, rows⟩ :
    ∃ statements, read Abap.kindOfName? mixedLines = .ok statements ∧
    statements.map (·.span) = [⟨14, 16⟩, ⟨22, 26⟩, ⟨39, 45⟩] ∧ statements.map (·.row) = [2, 4, 5] :=
    ⟨_, rfl, rfl, rfl⟩
  exact ⟨statements, ok, spans, rows, read_pointsInto ok⟩

end StatementFile

end OrderedChoice
