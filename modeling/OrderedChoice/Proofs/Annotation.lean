import OrderedChoice.Abap.Grammar
import OrderedChoice.Diagnostics.Report
import OrderedChoice.Proofs.Placement
import OrderedChoice.Proofs.Reporting

/-!
# Where a file is marked

A report of a parse marks the statements of the file that it complains of and points at, and these
begin and end between characters. A file without statements is marked at its first byte, which need
not be a character (`annotations_onCharacters_iff`).
-/

namespace OrderedChoice

open Text

variable {g : Grammar} {root : Structure} {limits : Limits} {result : Parse}
    {kindOf? : String → Option Kind}
  {source : String} {statement : Statement}

/-- The span covers whole characters of the source, or none. -/
structure Span.OnCharacters (span : Span) (source : String) : Prop where
  le : span.start ≤ span.stop
  within : span.stop ≤ source.utf8ByteSize
  start : String.Pos.Raw.IsValid source ⟨span.start⟩
  stop : String.Pos.Raw.IsValid source ⟨span.stop⟩

/-- A span that covers something is drawn as it is. -/
theorem Span.withinSource_eq {span : Span} {limit : Nat} (covers : span.start < span.stop)
    (within : span.stop ≤ limit) : span.withinSource limit = span := by
  unfold withinSource
  simp only [Nat.min_eq_left within, Nat.min_eq_left (covers.le.trans within), if_neg covers.ne]

/-- A statement that points into the source is marked from its first character to its last. -/
theorem Statement.PointsInto.withinSource_onCharacters (h : statement.PointsInto source) :
    (statement.span.withinSource source.utf8ByteSize).OnCharacters source := by
  rw [Span.withinSource_eq h.nonempty h.inBounds]
  exact ⟨h.nonempty.le, h.inBounds, h.startValid, h.stopValid⟩

/-! ## Files without statements -/

/-- A span at no place is drawn at the first byte. -/
theorem Span.withinSource_none (notEmpty : source ≠ "") :
    Span.none.withinSource source.utf8ByteSize = ⟨0, 1⟩ := by
  have pos : 0 < source.utf8ByteSize :=
    Nat.pos_of_ne_zero (mt String.utf8ByteSize_eq_zero_iff.1 notEmpty)
  unfold withinSource
  simp only [Span.none, Nat.zero_min, if_pos, Nat.zero_add, Nat.min_eq_left pos]

/-- The first byte is a character exactly if the first character is a byte. -/
theorem Span.onCharacters_firstByte_iff (notEmpty : source ≠ "") :
    (⟨0, 1⟩ : Span).OnCharacters source ↔ ∀ c ∈ source.toList.head?, c.utf8Size = 1 := by
  obtain ⟨c, rest, shape⟩ := List.exists_cons_of_ne_nil (mt String.toList_eq_nil_iff.1 notEmpty)
  simp only [shape, List.head?_cons, Option.mem_some, forall_eq']
  constructor
  · intro h
    obtain ⟨count, one⟩ := String.Pos.Raw.isValid_iff_exists_take_toList.1 h.stop
    rw [utf8ByteSize_ofList, shape] at one
    cases count with
    | zero => cases one
    | succ count =>
      have one : 1 = c.utf8Size + byteSize (rest.take count) := one
      have pos := c.utf8Size_pos
      omega
  · intro one
    have whole : PartAt source.toList [c] 0 := .of_isPrefix (shape ▸ List.prefix_append [c] rest)
    have stop := whole.isValid.2
    have within := whole.le
    rw [byteSize_cons, one] at stop within
    exact ⟨Nat.zero_le 1, byteSize_toList source ▸ within, whole.isValid.1, stop⟩

/-- The marks of a report of a parsed file cover whole characters of the file, except where the root
structure fails and there is not a statement in the file: there they do so exactly if the first
character of the file takes one byte. -/
theorem annotations_onCharacters_iff {loaded : List Statement} (notEmpty : source ≠ "")
    (load : StatementFile.read kindOf? source = .ok loaded)
    (ok : parse g root limits loaded.toArray = .ok result) :
    (∀ diagnostic ∈ result.diagnostics.entries, ∀ span, diagnostic.span = some span → ∀ path,
      ∀ mark ∈ (diagnostic.excerpt span source path).marks, mark.span.OnCharacters source) ↔
      (loaded = [] → result.verdict.failed = true → ∀ c ∈ source.toList.head?, c.utf8Size = 1) := by
  have marked : ∀ statement ∈ loaded.toArray,
      (statement.span.withinSource source.utf8ByteSize).OnCharacters source := by
    intro statement member
    obtain ⟨lies, oneLine⟩ := (StatementFile.read_lie load).1 statement (List.mem_toArray.1 member)
    exact (lies.pointsInto oneLine).withinSource_onCharacters
  constructor
  · intro all empty failed
    subst empty
    obtain ⟨diagnostic, member, nowhere⟩ := parse_nowhere ok failed
    have first := all diagnostic member _ nowhere none _ List.mem_cons_self
    rw [Span.withinSource_none notEmpty] at first
    exact (Span.onCharacters_firstByte_iff notEmpty).1 first
  · intro first diagnostic member span stands path mark drawn
    obtain ⟨related, place⟩ := parse_places ok member
    rcases List.mem_cons.1 drawn with rfl | pointed
    · rcases place with ⟨statement, there, same⟩ | ⟨empty, failed, nowhere⟩
      · cases stands.symm.trans same
        exact marked statement there
      · cases stands.symm.trans nowhere
        show (Span.none.withinSource _).OnCharacters source
        rw [Span.withinSource_none notEmpty]
        exact (Span.onCharacters_firstByte_iff notEmpty).2
          (first (congrArg Array.toList empty) failed)
    · obtain ⟨r, there, rfl⟩ := List.mem_map.1 pointed
      obtain ⟨statement, inside, same⟩ := related r there
      show (r.span.withinSource _).OnCharacters source
      rw [same]
      exact marked statement inside

/-- What is read from the line of a condition that has a blank of two bytes before it. -/
def condition : Statement :=
  ⟨Abap.StatementKind.ifStatement.kind, "\u00e4", ⟨5, 7⟩, 0⟩

/-- A condition whose end is missing is marked at its text. -/
theorem annotations_onCharacters_condition :
    ∃ result, StatementFile.read Abap.kindOfName? "\u00a0if \u00e4" = .ok [condition] ∧
      parse Abap.grammar Abap.Block.ifBlock.target .standard #[condition] = .ok result ∧
      result.diagnostics.entries.map (·.span) = [some ⟨5, 7⟩] ∧
      ∀ diagnostic ∈ result.diagnostics.entries, ∀ span, diagnostic.span = some span → ∀ path,
        ∀ mark ∈ (diagnostic.excerpt span "\u00a0if \u00e4" path).marks,
        mark.span.OnCharacters "\u00a0if \u00e4" := by
  have load : StatementFile.read Abap.kindOfName? "\u00a0if \u00e4" = .ok [condition] := rfl
  obtain ⟨result, ok, place⟩ : ∃ result,
      parse Abap.grammar Abap.Block.ifBlock.target .standard #[condition] = .ok result ∧
      result.diagnostics.entries.map (·.span) = [some ⟨5, 7⟩] := ⟨_, rfl, rfl⟩
  exact ⟨result, load, ok, place,
    (annotations_onCharacters_iff (by decide) load ok).2 fun empty =>
      absurd empty (List.cons_ne_nil _ _)⟩

/-- A file of a comment after a blank of two bytes holds no statement. That the condition is missing
is marked at the first of these bytes, which cuts the blank. -/
theorem annotation_cuts_blank :
    ∃ result diagnostic mark, StatementFile.read Abap.kindOfName? "\u00a0* note" = .ok [] ∧
      parse Abap.grammar Abap.Block.ifBlock.target .standard #[] = .ok result ∧
      result.diagnostics = .ofOne diagnostic ∧ diagnostic.span = some ⟨0, 0⟩ ∧
      mark ∈ (diagnostic.excerpt ⟨0, 0⟩ "\u00a0* note" none).marks ∧ mark.span = ⟨0, 1⟩ ∧
      ¬ mark.span.OnCharacters "\u00a0* note" := by
  refine ⟨_, _, _, rfl, rfl, rfl, rfl, List.mem_cons_self, rfl, ?_⟩
  intro covers
  have oneByte := (Span.onCharacters_firstByte_iff (by decide)).1 covers
  exact absurd (oneByte '\u00a0' rfl) (by decide)

end OrderedChoice
