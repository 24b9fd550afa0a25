import OrderedChoice.StatementFile

/-!
# What the reader of a line cuts out of it

The statement of a line has some part of the line as its text, trimmed and not empty
(`StatementFile.readLine_eq_some`). The reader gets there from the whole line to ever smaller parts
of it, and adds up the bytes before each part.
-/

namespace OrderedChoice

open Text

namespace Text

theorem utf8ByteSize_ofList (text : List Char) :
    (String.ofList text).utf8ByteSize = byteSize text := by
  induction text with
  | nil => rfl
  | cons c text ih =>
    rw [String.ofList_cons, String.utf8ByteSize_append, String.utf8ByteSize_singleton, ih,
      byteSize_cons]

theorem byteSize_toList (source : String) : byteSize source.toList = source.utf8ByteSize := by
  rw [← utf8ByteSize_ofList, String.ofList_toList]

theorem byteSize_pos {text : List Char} (nonempty : text ≠ []) : 0 < byteSize text := by
  cases text with
  | nil => exact absurd rfl nonempty
  | cons c text =>
    rw [byteSize_cons]
    exact Nat.add_pos_left c.utf8Size_pos _

/-! ## Parts of a text -/

/-- The part stands in the text from a byte on. -/
def PartAt (text part : List Char) (byte : Nat) : Prop :=
  ∃ before after, text = before ++ part ++ after ∧ byte = byteSize before

namespace PartAt

variable {text inner part : List Char} {byte offset : Nat}

theorem of_isPrefix (h : part <+: text) : PartAt text part 0 := by
  obtain ⟨after, rfl⟩ := h
  exact ⟨[], after, rfl, rfl⟩

/-- What a text ends with stands after the bytes that it has more. -/
theorem of_isSuffix (h : part <:+ text) : PartAt text part (byteSize text - byteSize part) := by
  obtain ⟨before, rfl⟩ := h
  exact ⟨before, [], (List.append_nil _).symm, by rw [byteSize_append, Nat.add_sub_cancel]⟩

theorem trans (outer : PartAt text inner byte) (h : PartAt inner part offset) :
    PartAt text part (byte + offset) := by
  obtain ⟨before, after, rfl, rfl⟩ := outer
  obtain ⟨before', after', rfl, rfl⟩ := h
  exact ⟨before ++ before', after' ++ after, by simp only [List.append_assoc],
    (byteSize_append _ _).symm⟩

/-- A part ends within the text. -/
theorem le (h : PartAt text part byte) : byte + byteSize part ≤ byteSize text := by
  obtain ⟨before, after, rfl, rfl⟩ := h
  rw [byteSize_append, byteSize_append]
  exact Nat.le_add_right _ _

end PartAt

/-- A part of a text begins and ends between characters. -/
theorem PartAt.isValid {source : String} {part : List Char} {byte : Nat}
    (h : PartAt source.toList part byte) :
    String.Pos.Raw.IsValid source ⟨byte⟩ ∧
    String.Pos.Raw.IsValid source ⟨byte + byteSize part⟩ := by
  obtain ⟨before, after, same, rfl⟩ := h
  have whole : source = String.ofList before ++ String.ofList part ++ String.ofList after := by
    rw [← String.ofList_append, ← String.ofList_append, ← same, String.ofList_toList]
  constructor
  · refine String.Pos.Raw.isValid_iff_exists_append.2 ⟨_, _, whole.trans String.append_assoc, ?_⟩
    rw [← utf8ByteSize_ofList]
    rfl
  · refine String.Pos.Raw.isValid_iff_exists_append.2 ⟨_, _, whole, ?_⟩
    rw [← byteSize_append, ← utf8ByteSize_ofList, String.ofList_append]
    rfl

/-! ## Splitting at a blank -/

theorem splitAtBlank_isPrefix (text : List Char) : (splitAtBlank text).1 <+: text :=
  List.takeWhile_prefix _

theorem splitAtBlank_isSuffix (text : List Char) : (splitAtBlank text).2 <:+ text :=
  (List.drop_suffix _ _).trans (List.dropWhile_suffix _)

/-- A text that was trimmed at its left has no blank at its beginning, and so a word there. -/
theorem splitAtBlank_trimLeft_ne_nil {text : List Char} (nonempty : trimLeft text ≠ []) :
    (splitAtBlank (trimLeft text)).1 ≠ [] := by
  have first : isBlank ((trimLeft text).head nonempty) = false :=
    List.head_dropWhile_not isBlank nonempty
  rw [splitAtBlank, ← List.cons_head_tail nonempty, List.takeWhile_cons_of_pos (by rw [first]; rfl)]
  exact List.cons_ne_nil _ _

/-! ## Trimmed texts -/

/-- The text has no blank at either end. -/
def Trimmed (text : List Char) : Prop :=
  (∀ c ∈ text.head?, isBlank c = false) ∧ ∀ c ∈ text.getLast?, isBlank c = false

theorem head?_dropWhile_blank {text : List Char} {c : Char}
    (first : c ∈ (text.dropWhile isBlank).head?) : isBlank c = false := by
  have shape := List.head?_dropWhile_not isBlank text
  rwa [Option.mem_def.1 first] at shape

theorem trim_trimmed (text : List Char) : Trimmed (trim text) := by
  constructor
  · intro c first
    obtain ⟨after, whole⟩ : trim text <+: trimLeft text := dropEndWhile_isPrefix isBlank _
    have first' : c ∈ (trimLeft text).head? := by
      rw [← whole, List.head?_append, Option.mem_def.1 first]
      rfl
    exact head?_dropWhile_blank first'
  · intro c last
    rw [trim, dropEndWhile, List.getLast?_reverse] at last
    exact head?_dropWhile_blank last

/-- The word before a blank has no blank in it. -/
theorem splitAtBlank_trimmed (text : List Char) : Trimmed (splitAtBlank text).1 := by
  have solid : ∀ c ∈ (splitAtBlank text).1, isBlank c = false := fun c member =>
    (Bool.not_eq_true' _).mp (List.all_eq_true.1 List.all_takeWhile c member)
  exact ⟨fun c first => solid c (List.mem_of_mem_head? first),
    fun c last => solid c (List.mem_of_mem_getLast? last)⟩

end Text

/-! ## Lines of a file -/

namespace StatementFile

variable {kindOf? : String → Option Kind} {row start : Nat} {statement : Statement}

/-- What the statement of a line is: some part of the line that is trimmed and not empty, and where
it is. -/
theorem readLine_eq_some {raw : List Char}
    (ok : readLine kindOf? row start raw = .ok (some statement)) :
    ∃ kind part byte, part ≠ [] ∧ Trimmed part ∧ PartAt (lineContent raw) part byte ∧
      statement =
        ⟨kind, String.ofList part, ⟨start + byte, start + byte + byteSize part⟩, row⟩ := by
  unfold readLine at ok
  simp only [] at ok
  split at ok
  · cases ok
  · next shown =>
    split at ok
    · cases ok
    · split at ok
      -- without a text of its own, the statement has the word as its text
      · cases ok
        have nonempty : trimLeft (lineContent raw) ≠ [] := by
          intro empty
          simp [empty] at shown
        exact ⟨_, _, _, splitAtBlank_trimLeft_ne_nil nonempty, splitAtBlank_trimmed _,
          (PartAt.of_isSuffix (trimLeft_suffix _)).trans (.of_isPrefix (splitAtBlank_isPrefix _)),
          rfl⟩
      · next hasText =>
        cases ok
        have rest := (trimLeft_suffix _).trans
          ((splitAtBlank_isSuffix _).trans (trimLeft_suffix (lineContent raw)))
        exact ⟨_, _, _, fun empty => hasText (List.isEmpty_iff.2 empty), trim_trimmed _,
          (PartAt.of_isSuffix rest).trans (.of_isPrefix (dropEndWhile_isPrefix isBlank _)), rfl⟩

/-- Lines are read one after the other. -/
theorem readLines_cons_eq_ok {raw : List Char}
    {lines : List (List Char)} {statements : List Statement}
    (ok : readLines kindOf? row start (raw :: lines) = .ok statements) :
    ∃ statement? others, readLine kindOf? row start raw = .ok statement? ∧
      readLines kindOf? (row + 1) (start + byteSize raw) lines = .ok others ∧
      statements = statement?.toList ++ others := by
  unfold readLines at ok
  split at ok
  · cases ok
  · next statement? line =>
    cases later : readLines kindOf? (row + 1) (start + byteSize raw) lines with
    | error fault =>
      rw [later] at ok
      cases ok
    | ok others =>
      rw [later] at ok
      cases ok
      exact ⟨statement?, others, line, rfl, rfl⟩

end StatementFile

end OrderedChoice
