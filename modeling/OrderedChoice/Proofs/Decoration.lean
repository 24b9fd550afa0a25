import OrderedChoice.Proofs.Growth
import OrderedChoice.Proofs.Outline
import OrderedChoice.Proofs.Transcript
import OrderedChoice.Proofs.Wording

/-!
# Colours are decoration

A coloured text decorates a plain one if nothing but the plain text is left of it when its escape
sequences are deleted, whatever text follows. Texts without the escape character decorate
themselves, and texts that are put together from decorated parts are decorated. So every dump and
every log is decorated when it is coloured (`uncoloured_coloured`).
-/

namespace OrderedChoice

/-! ## Deleting escape sequences -/

/-- The escape sequences of the palette. -/
def Palette.sequences (palette : Palette) : List String :=
  [palette.blue, palette.green, palette.red, palette.dim, palette.reset]

/-- The escape sequence of the coloured palette that the text begins with. -/
def leadingSequence? (text : List Char) : Option String :=
  Palette.coloured.sequences.find? (·.toList.isPrefixOf text)

/-- The text without the escape sequences of the coloured palette. -/
def uncolouredChars : List Char → List Char
  | [] => []
  | c :: text =>
    match leadingSequence? (c :: text) with
    | some sequence => uncolouredChars (text.drop (sequence.length - 1))
    | none => c :: uncolouredChars text
termination_by text => text.length

def uncoloured (text : String) : String :=
  String.ofList (uncolouredChars text.toList)

theorem uncolouredChars_cons {c : Char} (other : c ≠ '\x1b') (text : List Char) :
    uncolouredChars (c :: text) = c :: uncolouredChars text := by
  have noSequence : leadingSequence? (c :: text) = none := by
    simp [leadingSequence?, Palette.sequences, Palette.coloured, other.symm]
  rw [uncolouredChars, noSequence]

theorem uncolouredChars_unescaped {chars : List Char} (plain : '\x1b' ∉ chars)
    (following : List Char) :
    uncolouredChars (chars ++ following) = chars ++ uncolouredChars following := by
  induction chars with
  | nil => rfl
  | cons c chars ih =>
    have other : c ≠ '\x1b' := fun same => plain (same ▸ List.mem_cons_self)
    rw [List.cons_append, uncolouredChars_cons other, ih (mt (List.mem_cons_of_mem c) plain),
      List.cons_append]

theorem leadingSequence?_append {sequence : String} (known : sequence ∈ Palette.coloured.sequences)
    (text : List Char) : leadingSequence? (sequence.toList ++ text) = some sequence := by
  simp only [Palette.sequences, List.mem_cons, List.not_mem_nil, or_false] at known
  rcases known with rfl | rfl | rfl | rfl | rfl <;>
    simp [leadingSequence?, Palette.sequences, Palette.coloured]

/-- A sequence is deleted whatever follows, for none of the five is the beginning of another. -/
theorem uncolouredChars_append {sequence : String} (known : sequence ∈ Palette.coloured.sequences)
    (text : List Char) : uncolouredChars (sequence.toList ++ text) = uncolouredChars text := by
  have nonempty : ∀ sequence ∈ Palette.coloured.sequences, sequence.toList ≠ [] := by decide
  obtain ⟨c, others, split⟩ := List.exists_cons_of_ne_nil (nonempty sequence known)
  have leading := leadingSequence?_append known text
  have length : sequence.length - 1 = others.length := by
    rw [← String.length_toList, split]
    rfl
  rw [split, List.cons_append] at leading ⊢
  rw [uncolouredChars, leading]
  simp only [length, List.drop_left]

/-! ## Decorated texts -/

/-- Nothing but the plain text is left of the coloured one without its escape sequences, whatever
follows. -/
def Decorates (coloured plain : String) : Prop :=
  ∀ following, uncolouredChars (coloured.toList ++ following) = plain.toList ++
  uncolouredChars following

namespace Decorates

variable {a b s t text : String}

theorem uncoloured_eq (decorates : Decorates s t) : uncoloured s = t := by
  have whole := decorates []
  rw [List.append_nil, uncolouredChars, List.append_nil] at whole
  rw [uncoloured, whole, String.ofList_toList]

theorem map_uncoloured {coloured plain : List String}
    (lines : List.Forall₂ Decorates coloured plain) : coloured.map uncoloured = plain := by
  induction lines with
  | nil => rfl
  | cons line _ ih => rw [List.map_cons, line.uncoloured_eq, ih]

theorem of_unescaped (plain : Text.Unescaped text) : Decorates text text :=
  uncolouredChars_unescaped plain

theorem of_sequence (known : s ∈ Palette.coloured.sequences) : Decorates s "" := by
  intro following
  rw [uncolouredChars_append known]
  rfl

theorem append (first : Decorates a s) (second : Decorates b t) : Decorates (a ++ b) (s ++ t) := by
  intro following
  rw [String.toList_append, String.toList_append, List.append_assoc, first, second,
    List.append_assoc]

/-- A text between an escape sequence and the one that ends it. -/
theorem between (known : s ∈ Palette.coloured.sequences) (plain : Text.Unescaped text) :
    Decorates (s ++ text ++ Palette.coloured.reset) ("" ++ text ++ "") :=
  ((of_sequence known).append (of_unescaped plain)).append
    (of_sequence (by simp [Palette.sequences]))

theorem name (plain : Text.Unescaped text) :
    Decorates (Palette.coloured.name text) (Palette.plain.name text) :=
  between (by simp [Palette.sequences]) plain

theorem kind (plain : Text.Unescaped text) :
    Decorates (Palette.coloured.kind text) (Palette.plain.kind text) :=
  between (by simp [Palette.sequences]) plain

theorem failure (plain : Text.Unescaped text) :
    Decorates (Palette.coloured.failure text) (Palette.plain.failure text) :=
  between (by simp [Palette.sequences]) plain

theorem faint (plain : Text.Unescaped text) :
    Decorates (Palette.coloured.faint text) (Palette.plain.faint text) :=
  between (by simp [Palette.sequences]) plain

theorem indentation (depth : Nat) :
    Decorates (indentation depth) (OrderedChoice.indentation depth) := by
  refine of_unescaped fun member => ?_
  rw [toList_indentation] at member
  cases List.eq_of_mem_replicate member

theorem join {α : Type} {f g : α → String} {items : List α}
    (all : ∀ item ∈ items, Decorates (f item) (g item)) :
    Decorates (String.join (items.map f)) (String.join (items.map g)) := by
  induction items with
  | nil => exact fun _ => rfl
  | cons item items ih =>
    obtain ⟨head, tail⟩ := List.forall_mem_cons.1 all
    rw [List.map_cons, List.map_cons, String.join_cons, String.join_cons]
    exact head.append (ih tail)

end Decorates

/-! ## Dumps -/

theorem Entry.line_decorates {entry : Entry} (plain : Text.Unescaped entry.name) :
    Decorates (entry.line .coloured) (entry.line .plain) := by
  refine .append (.append (.indentation entry.depth) ?_) (.of_unescaped (by decide))
  cases entry.text? with
  | none => exact .name plain
  | some text =>
    exact .append (.append (.kind plain) (.of_unescaped (by decide)))
      (.faint (Text.unescaped_quoted text))

theorem Branch.dump_decorates {branch : Branch}
    (plain : ∀ name ∈ branch.outline.names, Text.Unescaped name) :
    Decorates (branch.dumpWith .coloured) branch.dump := by
  rw [dump, dumpWith_eq, dumpWith_eq]
  exact .join fun entry member => Entry.line_decorates (plain _ (Outline.name_mem_names member))

/-! ## Logs -/

namespace Log

theorem unescaped_toString (n : Nat) : Text.Unescaped (toString n) := by
  intro member
  have digits : (toString n).toList = Nat.toDigits 10 n := Nat.toList_repr
  rw [digits] at member
  cases Nat.isDigit_of_mem_toDigits (by decide) (by decide) member

theorem positionText_decorates (position : Nat) :
    Decorates (positionText .coloured position) (positionText .plain position) :=
  .faint (Text.unescaped_append.2 ⟨by decide, unescaped_toString position⟩)

/-- What most lines begin with. -/
theorem heading_decorates {sign name name' : String} (plain : Text.Unescaped sign)
    (decorates : Decorates name name') (position : Nat) :
    Decorates (sign ++ name ++ " " ++ positionText .coloured position)
      (sign ++ name' ++ " " ++ positionText .plain position) :=
  .append (.append (.append (.of_unescaped plain) decorates) (.of_unescaped (by decide)))
    (positionText_decorates position)

/-- An event has a line with the one palette if it has one with the other. -/
theorem lineOf?_decorates {event : Event} (plain : event.Unescaped) (verbosity : Verbosity) :
    Option.Rel Decorates (lineOf? verbosity .coloured event) (lineOf? verbosity .plain event) := by
  cases event with
  | entered name position => exact .some (heading_decorates (by decide) (.name plain) position)
  | exited name verdict =>
    obtain ⟨plain, description⟩ := plain
    refine .some (.append (.append (.of_unescaped (by decide)) (.name plain)) ?_)
    split
    · exact .append (.of_unescaped (by decide)) (.failure description)
    · have count : Text.Unescaped (" (" ++ toString verdict.consumed) :=
        Text.unescaped_append.2 ⟨by decide, unescaped_toString verdict.consumed⟩
      exact .of_unescaped (Text.unescaped_append.2 ⟨count, by decide⟩)
  | consumed statement position =>
    refine .some (.append (heading_decorates (by decide) (.kind plain) position) ?_)
    split
    · exact .append (.of_unescaped (by decide)) (.faint (Text.unescaped_quoted statement.text))
    · exact .of_unescaped (by decide)
  | mismatched expected found position =>
    obtain ⟨plain, kinds⟩ := plain
    simp only [lineOf?]
    split
    · exact .none
    refine .some (.append (heading_decorates (by decide) (.failure plain) position) ?_)
    split
    · cases found with
      | some statement =>
        exact .of_unescaped (Text.unescaped_append.2 ⟨by decide, kinds statement rfl⟩)
      | none => exact .of_unescaped (by decide)
    · exact .of_unescaped (by decide)
  | backtracked position =>
    simp only [lineOf?]
    split
    · exact .none
    · exact .some (.append (.of_unescaped (by decide)) (positionText_decorates position))
  | replayed name position =>
    simp only [lineOf?]
    split
    · exact .none
    · exact .some (heading_decorates (by decide) (.name plain) position)

theorem linesOf_decorates {events : List Event} (plain : ∀ event ∈ events, event.Unescaped)
    (verbosity : Verbosity) :
    List.Forall₂ Decorates (linesOf verbosity .coloured events)
      (linesOf verbosity .plain events) := by
  induction events with
  | nil => exact .nil
  | cons event earlier ih =>
    obtain ⟨head, tail⟩ := List.forall_mem_cons.1 plain
    refine List.rel_append (ih tail) ?_
    have lines := lineOf?_decorates head verbosity
    generalize lineOf? verbosity .coloured event = coloured at lines ⊢
    generalize lineOf? verbosity .plain event = plain at lines ⊢
    cases lines with
    | none => exact .nil
    | some line => exact .cons (.append (.indentation _) line) .nil

end Log

/-! ## Parses -/

/-- Where no name has the escape character, a coloured dump is the plain one with escape sequences
in it, and so is each line of a coloured log. -/
theorem uncoloured_coloured :
    (∀ branch : Branch, (∀ name ∈ branch.outline.names, Text.Unescaped name) →
      uncoloured (branch.dumpWith .coloured) = branch.dump) ∧
    ∀ (g : Grammar) (root : Structure) (limits : Limits) (statements : Array Statement)
      (verbosity : Verbosity), Text.Unescaped root.name →
    (∀ s, g.Reaches root s → ∀ m, g.body s = .ok m → ∀ name ∈ m.mentions, Text.Unescaped name) →
    (∀ statement ∈ statements, Text.Unescaped statement.kind.name) →
    (parseWith g root limits (Log.empty verbosity .coloured) statements).2.lines.toList.map
        uncoloured =
      (parseWith g root limits (Log.empty verbosity .plain) statements).2.lines.toList := by
  refine ⟨fun branch plain => (Branch.dump_decorates plain).uncoloured_eq, ?_⟩
  intro g root limits statements verbosity name names kinds
  rw [parseWith_lines, parseWith_lines]
  exact Decorates.map_uncoloured
    (Log.linesOf_decorates (parseWith_unescaped limits name names kinds) verbosity)

/-- A block of statements whose texts have escape sequences. -/
def escaping : Array Statement :=
  #[.unplaced ⟨"begin"⟩ "\x1b[34mbegin", .unplaced ⟨"end"⟩ "end\x1b[0m"]

theorem uncoloured_coloured_escaping :
    uncoloured (Branch.dumpWith ⟨block, (escaping.toList.map (Node.leaf · 0))⟩ .coloured) =
      "Block\n  begin \"\\u\x7b1b\x7d[34mbegin\"\n  end \"end\\u\x7b1b\x7d[0m\"\n" ∧
    (parseWith blocks block ⟨60, 3, false⟩ (Log.empty .veryVerbose .coloured)
        escaping).2.lines.toList.map uncoloured =
      ["▶ Block @0", "  ● begin @0 \"\\u\x7b1b\x7d[34mbegin\"", "  ○ do @1 found end", "  ❮❮❮ @1",
        "  ▶ Block @1", "    ○ begin @1 found end", "  ◀ Block: Expected BEGIN", "  ❮❮❮ @1",
        "  ● end @1 \"end\\u\x7b1b\x7d[0m\"", "◀ Block (2)"] := by
  have names : ∀ s, blocks.Reaches block s → ∀ m, blocks.body s = .ok m → ∀ name ∈ m.mentions,
      Text.Unescaped name := by
    intro s reached m body
    obtain rfl := eq_block_of_reaches reached
    obtain rfl := Except.ok.inj body
    decide +kernel
  have kinds : ∀ statement ∈ escaping.toList, Text.Unescaped statement.kind.name := by
    decide +kernel
  obtain ⟨dumps, logs⟩ := uncoloured_coloured
  constructor
  · rw [dumps _ (by decide +kernel)]
    decide +kernel
  · rw [logs blocks block ⟨60, 3, false⟩ escaping .veryVerbose (by decide) names
      fun statement member =>
      kinds statement (Array.mem_toList_iff.2 member), parseWith_lines]
    decide +kernel

end OrderedChoice
