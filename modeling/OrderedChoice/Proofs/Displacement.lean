import OrderedChoice.Proofs.Placement

/-!
# Files put together, and line ends

What is read from a line depends on the lines before it in one thing only, the row and the byte that
it is counted from (`readLine_moved`). So files put one after the other hold the statements of each,
the later ones moved on (`read_append`). A carriage return before each line feed moves a statement
by as many bytes as there are lines before it, and changes nothing else (`read_withReturns`).
-/

namespace OrderedChoice

open Text

/-- The statement further on in a file. -/
def Statement.moved (statement : Statement) (bytes rows : Nat) : Statement :=
  statement.placed ⟨statement.span.start + bytes, statement.span.stop + bytes⟩
    (statement.row + rows)

namespace StatementFile

variable {kindOf? : String → Option Kind} {row start : Nat}

/-- The fault further on in a file. -/
def UnknownKind.moved (fault : UnknownKind) (rows : Nat) : UnknownKind :=
  ⟨fault.line + rows, fault.word⟩

/-! ## Lines elsewhere -/

theorem readLine_moved (kindOf? : String → Option Kind) (row start rows bytes : Nat)
    (raw : List Char) :
    readLine kindOf? (row + rows) (start + bytes) raw =
      match readLine kindOf? row start raw with
      | .error fault => .error (fault.moved rows)
      | .ok statement? => .ok (statement?.map (·.moved bytes rows)) := by
  unfold readLine
  simp only []
  split
  · rfl
  · split
    · rw [Nat.add_right_comm]
      rfl
    · have further :
          ∀ offset size : Nat, (⟨start + bytes + offset, start + bytes + offset + size⟩ : Span) =
            ⟨start + offset + bytes, start + offset + size + bytes⟩ := by
        intro offset size
        rw [Nat.add_right_comm start bytes, Nat.add_right_comm (start + offset) bytes]
      simp only [further]
      rfl

theorem readLines_moved (kindOf? : String → Option Kind) (rows bytes : Nat)
    (lines : List (List Char)) :
    ∀ row start : Nat, readLines kindOf? (row + rows) (start + bytes) lines =
      match readLines kindOf? row start lines with
      | .error fault => .error (fault.moved rows)
      | .ok statements => .ok (statements.map (·.moved bytes rows)) := by
  induction lines with
  | nil => exact fun _ _ => rfl
  | cons raw lines ih =>
    intro row start
    rw [readLines, readLines, readLine_moved, Nat.add_right_comm row, Nat.add_right_comm start, ih]
    cases readLine kindOf? row start raw with
    | error fault => rfl
    | ok statement? =>
      cases readLines kindOf? (row + 1) (start + byteSize raw) lines with
      | error fault => rfl
      | ok statements => cases statement? <;> rfl

/-! ## Files put together -/

theorem readLines_append (kindOf? : String → Option Kind) (others lines : List (List Char)) :
    ∀ row start : Nat, readLines kindOf? row start (lines ++ others) =
      match readLines kindOf? row start lines with
      | .error fault => .error fault
      | .ok statements =>
        (readLines kindOf? (row + lines.length) (start + byteSize lines.flatten) others).map
          (statements ++ ·) := by
  induction lines with
  | nil =>
    intro row start
    rw [List.nil_append]
    show _ = (readLines kindOf? row start others).map _
    cases readLines kindOf? row start others <;> rfl
  | cons raw lines ih =>
    intro row start
    rw [List.cons_append, readLines, readLines, ih, List.length_cons, List.flatten_cons,
      byteSize_append, Nat.add_assoc row, Nat.add_comm 1, Nat.add_assoc start]
    cases readLine kindOf? row start raw with
    | error fault => rfl
    | ok statement? =>
      cases readLines kindOf? (row + 1) (start + byteSize raw) lines with
      | error fault => rfl
      | ok statements =>
        cases readLines kindOf?
          (row + (lines.length + 1)) (start + (byteSize raw + byteSize lines.flatten)) others with
        | error fault => rfl
        | ok more => exact congrArg Except.ok (List.append_assoc _ _ _).symm

theorem rawLines_go_append (text rest : List Char) : ∀ begun : List Char,
    rawLines.go begun (text ++ '\n' :: rest) = rawLines.go begun (text ++ ['\n']) ++
    rawLines rest := by
  induction text with
  | nil => exact fun _ => rfl
  | cons c text ih =>
    intro begun
    rw [List.cons_append, List.cons_append, rawLines.go, rawLines.go]
    split
    · rw [ih, List.cons_append]
    · exact ih _

theorem length_rawLines_go (text : List Char) : ∀ begun : List Char,
    (rawLines.go begun (text ++ ['\n'])).length = (text ++ ['\n']).count '\n' := by
  induction text with
  | nil => exact fun _ => rfl
  | cons c text ih =>
    intro begun
    rw [List.cons_append, rawLines.go, List.count_cons]
    split
    · next feed => rw [List.length_cons, ih, feed, beq_self_eq_true, if_pos rfl]
    · next other => rw [ih, if_neg (mt eq_of_beq other), Nat.add_zero]

/-- A text that ends with a line feed, if it is not empty, has its lines before those of the
rest. -/
theorem rawLines_append {text : List Char} (closed : text = [] ∨ ∃ body, text = body ++ ['\n'])
    (rest : List Char) :
    rawLines (text ++ rest) = rawLines text ++ rawLines rest ∧
    (rawLines text).length = text.count '\n' := by
  obtain rfl | ⟨body, rfl⟩ := closed
  · exact ⟨rfl, rfl⟩
  · refine ⟨?_, length_rawLines_go body []⟩
    rw [List.append_assoc]
    exact rawLines_go_append body rest []

/-- If a file ends with its last line, what follows it is read as a file of its own, further on. -/
theorem read_append (kindOf? : String → Option Kind) {first : String}
    (closed : first = "" ∨ ∃ text, first = text ++ "\n") (second : String) :
    read kindOf? (first ++ second) =
      match read kindOf? first, read kindOf? second with
      | .error fault, _ => .error fault
      | .ok _, .error fault => .error (fault.moved (first.toList.count '\n'))
      | .ok statements, .ok others =>
        .ok (statements ++ others.map (·.moved first.utf8ByteSize (first.toList.count '\n'))) := by
  have closed' : first.toList = [] ∨ ∃ body, first.toList = body ++ ['\n'] := by
    obtain rfl | ⟨text, rfl⟩ := closed
    · exact .inl rfl
    · exact .inr ⟨text.toList, String.toList_append⟩
  obtain ⟨lines, count⟩ := rawLines_append closed' second.toList
  have later := readLines_moved kindOf? (first.toList.count '\n') first.utf8ByteSize
    (rawLines second.toList) 0 0
  unfold read
  rw [String.toList_append, lines, readLines_append, count, flatten_rawLines,
    byteSize_toList, later]
  cases readLines kindOf? 0 0 (rawLines first.toList) with
  | error fault => rfl
  | ok statements => cases readLines kindOf? 0 0 (rawLines second.toList) <;> rfl

/-- A condition with a character of two bytes and a blank line are in front of a line that names a
kind only. -/
theorem read_append_blankLine :
    ∃ statements others : List Statement, read Abap.kindOfName? "if \u00e4\n\n" = .ok statements ∧
      read Abap.kindOfName? " endif" = .ok others ∧ others.map (·.span) = [⟨1, 6⟩] ∧
      read Abap.kindOfName? ("if \u00e4\n\n" ++ " endif") =
        .ok (statements ++ others.map (fun s : Statement => s.moved 7 2)) := by
  obtain ⟨statements, loaded⟩ :
    ∃ statements, read Abap.kindOfName? "if \u00e4\n\n" = .ok statements := ⟨_, rfl⟩
  obtain ⟨others, loaded', spans⟩ : ∃ others, read Abap.kindOfName? " endif" = .ok others ∧
      others.map (·.span) = [⟨1, 6⟩] := ⟨_, rfl, rfl⟩
  have closed : "if \u00e4\n\n" = "" ∨ ∃ text, "if \u00e4\n\n" = text ++ "\n" :=
    .inr ⟨"if \u00e4\n", rfl⟩
  have whole := read_append Abap.kindOfName? closed " endif"
  rw [loaded, loaded'] at whole
  exact ⟨statements, others, loaded, loaded', spans, whole⟩

/-! ## Carriage returns -/

/-- The text with a carriage return before each line feed. -/
def withReturns (text : List Char) : List Char :=
  text.flatMap fun c => if c = '\n' then ['\r', '\n'] else [c]

theorem withReturns_unbroken {body : List Char} (unbroken : '\n' ∉ body) :
    withReturns body = body := by
  induction body with
  | nil => rfl
  | cons c body ih =>
    obtain ⟨other, unbroken⟩ := not_or.1 (mt List.mem_cons.2 unbroken)
    rw [withReturns, List.flatMap_cons, if_neg (Ne.symm other)]
    exact congrArg (c :: ·) (ih unbroken)

theorem withReturns_line {body : List Char} (unbroken : '\n' ∉ body) :
    withReturns (body ++ ['\n']) = body ++ ['\r', '\n'] := by
  rw [withReturns, List.flatMap_append]
  exact congrArg (· ++ ['\r', '\n']) (withReturns_unbroken unbroken)

/-- The lines get their carriage returns one by one. -/
theorem rawLines_go_withReturns (text : List Char) : ∀ {begun : List Char}, '\n' ∉ begun →
    rawLines.go begun (withReturns text) = (rawLines.go begun text).map withReturns := by
  induction text with
  | nil =>
    intro begun unbroken
    show rawLines.go begun [] = (rawLines.go begun []).map withReturns
    rw [rawLines.go]
    split
    · rfl
    · rw [List.map_singleton, withReturns_unbroken (mt List.mem_reverse.1 unbroken)]
  | cons c text ih =>
    intro begun unbroken
    by_cases feed : c = '\n'
    · subst feed
      show rawLines.go begun ('\r' :: '\n' :: withReturns text) = _
      have line : withReturns ('\n' :: begun).reverse = ('\n' :: '\r' :: begun).reverse := by
        rw [List.reverse_cons, withReturns_line (mt List.mem_reverse.1 unbroken)]
        simp
      rw [rawLines.go, if_neg (by decide), rawLines.go, if_pos rfl, ih List.not_mem_nil,
        rawLines.go, if_pos rfl, List.map_cons, line]
    · have other : withReturns (c :: text) = c :: withReturns text := by
        rw [withReturns, List.flatMap_cons, if_neg feed]
        rfl
      rw [other, rawLines.go, if_neg feed, rawLines.go, if_neg feed]
      exact ih (List.not_mem_cons_of_ne_of_not_mem (Ne.symm feed) unbroken)

/-- What is read from a line depends on its content only. -/
theorem readLine_congr {raw raw' : List Char} (same : lineContent raw = lineContent raw') :
    readLine kindOf? row start raw = readLine kindOf? row start raw' := by
  unfold readLine
  rw [same]

/-- A statement stands in the row that its line is read at. -/
theorem row_of_readLine {raw : List Char} {statement : Statement}
    (ok : readLine kindOf? row start raw = .ok (some statement)) : statement.row = row := by
  obtain ⟨kind, part, byte, -, -, -, rfl⟩ := readLine_eq_some ok
  rfl

/-- A line that is read as many bytes further on as its row says. -/
theorem readLine_moved_row (kindOf? : String → Option Kind) (row start : Nat) (raw : List Char) :
    readLine kindOf? row (start + row) raw =
      (readLine kindOf? row start raw).map (Option.map fun s => s.moved s.row 0) := by
  have moved := readLine_moved kindOf? row start 0 row raw
  rw [Nat.add_zero] at moved
  rw [moved]
  cases line : readLine kindOf? row start raw with
  | error fault => rfl
  | ok statement? =>
    cases statement? with
    | none => rfl
    | some statement =>
      show Except.ok (some _) = Except.ok (some (statement.moved statement.row 0))
      rw [row_of_readLine line]

theorem readLines_withReturns (kindOf? : String → Option Kind) {lines : List (List Char)}
    (h : Lines lines) :
    ∀ row start : Nat, readLines kindOf? row (start + row) (lines.map withReturns) =
      (readLines kindOf? row start lines).map (List.map fun s => s.moved s.row 0) := by
  induction h with
  | none => exact fun _ _ => rfl
  | @last body unbroken =>
    intro row start
    rw [List.map_singleton, withReturns_unbroken unbroken]
    unfold readLines
    rw [readLine_moved_row]
    cases readLine kindOf? row start body with
    | error fault => rfl
    | ok statement? => cases statement? <;> rfl
  | @more body lines unbroken _ ih =>
    intro row start
    have content : lineContent (body ++ ['\r', '\n']) = lineContent (body ++ ['\n']) := by
      simp [lineContent, dropEndWhile]
    have next : start + row + byteSize (body ++ ['\r', '\n']) =
        start + byteSize (body ++ ['\n']) + (row + 1) := by
      have size : byteSize (body ++ ['\r', '\n']) = byteSize (body ++ ['\n']) + 1 := by
        rw [byteSize_append, byteSize_append]
        rfl
      omega
    rw [List.map_cons, withReturns_line unbroken, readLines, readLines, readLine_congr content,
      readLine_moved_row, next, ih]
    cases readLine kindOf? row start (body ++ ['\n']) with
    | error fault => rfl
    | ok statement? =>
      cases readLines kindOf? (row + 1) (start + byteSize (body ++ ['\n'])) lines with
      | error fault => rfl
      | ok statements => cases statement? <;> rfl

/-- With a carriage return before each line feed the same is read from a file, and each statement
stands one byte further on for each line before it. -/
theorem read_withReturns (kindOf? : String → Option Kind) (source : String) :
    read kindOf? (String.ofList (withReturns source.toList)) =
      (read kindOf? source).map (List.map fun s => s.moved s.row 0) := by
  have lines : rawLines (withReturns source.toList) = (rawLines source.toList).map withReturns :=
    rawLines_go_withReturns source.toList List.not_mem_nil
  rw [read, String.toList_ofList, lines]
  exact readLines_withReturns kindOf? (lines_rawLines source.toList) 0 0

end StatementFile

end OrderedChoice
