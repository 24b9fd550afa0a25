import OrderedChoice.Forest.Dump
import OrderedChoice.Proofs.Quoting
import OrderedChoice.Text.Blank

/-!
# Outlines

A dump shows the outline of a branch: the names of its structures, and the kinds and texts of its
statements, with one entry a line. An entry can be read from its line (`Entry.text_injective`), and
the depths of the entries tell how they are nested (`Outline.entriesOf_inj`). So branches are dumped
alike exactly if they have the same outline (`Branch.dump_eq_iff`).
-/

namespace OrderedChoice

/-- What a dump shows of a node. -/
inductive Outline where
  | leaf (kind text : String)
  | branch (name : String) (children : List Outline)

namespace Node

mutual

/-- The node without what a dump does not show. -/
def outline : Node → Outline
  | .leaf statement _ => .leaf statement.kind.name statement.text
  | .branch target children => .branch target.name (outlines children)

def outlines : List Node → List Outline
  | [] => []
  | node :: nodes => node.outline :: outlines nodes

end

end Node

def Branch.outline (branch : Branch) : Outline :=
  .branch branch.target.name (Node.outlines branch.children)

/-- What a line of a dump shows: the name of a structure, or the name of a kind and a text. -/
structure Entry where
  depth : Nat
  name : String
  text? : Option String

namespace Outline

mutual

/-- The names of all structures and kinds. -/
def names : Outline → List String
  | .leaf kind _ => [kind]
  | .branch name children => name :: namesOf children

def namesOf : List Outline → List String
  | [] => []
  | outline :: outlines => outline.names ++ namesOf outlines

end

mutual

/-- The entries of an outline nested `depth` deep. -/
def entries (depth : Nat) : Outline → List Entry
  | .leaf kind text => [⟨depth, kind, some text⟩]
  | .branch name children => ⟨depth, name, none⟩ :: entriesOf (depth + 1) children

def entriesOf (depth : Nat) : List Outline → List Entry
  | [] => []
  | outline :: outlines => outline.entries depth ++ entriesOf depth outlines

end

mutual

theorem names_entries :
    ∀ (depth : Nat) (outline : Outline), (outline.entries depth).map (·.name) = outline.names
  | _, .leaf .. => rfl
  | depth, .branch name children => congrArg (name :: ·) (namesOf_entriesOf (depth + 1) children)

theorem namesOf_entriesOf : ∀ (depth : Nat) (outlines : List Outline),
    (entriesOf depth outlines).map (·.name) = namesOf outlines
  | _, [] => rfl
  | depth, outline :: outlines => by
    rw [entriesOf, namesOf, List.map_append, names_entries depth outline,
      namesOf_entriesOf depth outlines]

end

theorem name_mem_names {depth : Nat} {outline : Outline} {entry : Entry}
    (member : entry ∈ outline.entries depth) : entry.name ∈ outline.names := by
  rw [← names_entries depth]
  exact List.mem_map_of_mem member

/-! ## Nesting -/

theorem exists_entries_eq_cons (depth : Nat) (outline : Outline) :
    ∃ entry others, outline.entries depth = entry :: others ∧ entry.depth = depth := by
  cases outline with
  | leaf kind text => exact ⟨_, _, rfl, rfl⟩
  | branch name children => exact ⟨_, _, rfl, rfl⟩

/-- What follows is not nested as deep. -/
def Outside (depth : Nat) (following : List Entry) : Prop :=
  ∀ entry ∈ following.head?, entry.depth < depth

theorem outside_entriesOf_append {depth : Nat} {following : List Entry}
    (outside : Outside depth following) (outlines : List Outline) :
    Outside (depth + 1) (entriesOf depth outlines ++ following) := by
  cases outlines with
  | nil => exact fun entry member => Nat.lt_succ_of_lt (outside entry member)
  | cons outline outlines =>
    obtain ⟨first, others, split, same⟩ := exists_entries_eq_cons depth outline
    rw [entriesOf, split]
    rintro _ ⟨⟩
    exact Nat.lt_succ_of_le (Nat.le_of_eq same)

/-- Entries of an outline are not followed by what is not nested as deep. -/
theorem not_outside_entriesOf_cons {depth : Nat} {outline : Outline} {outlines : List Outline}
    {following : List Entry} :
    ¬ Outside depth (entriesOf depth (outline :: outlines) ++ following) := by
  obtain ⟨first, others, split, same⟩ := exists_entries_eq_cons depth outline
  rw [entriesOf, split]
  intro outside
  exact absurd same (Nat.ne_of_lt (outside first rfl))

mutual

/-- It can be told where the entries of an outline end, and the outline from them. -/
theorem entries_inj : ∀ {a b : Outline} {depth : Nat} {after after' : List Entry},
    Outside (depth + 1) after → Outside (depth + 1) after' →
    a.entries depth ++ after = b.entries depth ++ after' → a = b ∧ after = after'
  | .leaf .., .leaf .., _, _, _, _, _, same => by
    obtain ⟨entry, others⟩ := List.cons.inj same
    cases entry
    exact ⟨rfl, others⟩
  | .leaf .., .branch .., _, _, _, _, _, same => by
    obtain ⟨entry, -⟩ := List.cons.inj same
    cases entry
  | .branch .., .leaf .., _, _, _, _, _, same => by
    obtain ⟨entry, -⟩ := List.cons.inj same
    cases entry
  | .branch name as, .branch name' bs, _, _, _, outside, outside', same => by
    obtain ⟨entry, others⟩ := List.cons.inj same
    obtain ⟨children, following⟩ := entriesOf_inj outside outside' others
    cases entry
    exact ⟨congrArg _ children, following⟩

theorem entriesOf_inj : ∀ {as bs : List Outline} {depth : Nat} {after after' : List Entry},
    Outside depth after → Outside depth after' →
    entriesOf depth as ++ after = entriesOf depth bs ++ after' → as = bs ∧ after = after'
  | [], [], _, _, _, _, _, same => ⟨rfl, same⟩
  | [], b :: bs, depth, after, after', outside, _, same => by
    have same : after = entriesOf depth (b :: bs) ++ after' := same
    exact absurd (same ▸ outside) not_outside_entriesOf_cons
  | a :: as, [], depth, after, after', _, outside', same => by
    have same : entriesOf depth (a :: as) ++ after = after' := same
    exact absurd (same ▸ outside') not_outside_entriesOf_cons
  | a :: as, b :: bs, _, _, _, outside, outside', same => by
    rw [entriesOf, entriesOf, List.append_assoc, List.append_assoc] at same
    obtain ⟨first, others⟩ :=
      entries_inj (outside_entriesOf_append outside as) (outside_entriesOf_append outside' bs) same
    obtain ⟨rest, following⟩ := entriesOf_inj outside outside' others
    rw [first, rest]
    exact ⟨rfl, following⟩

end

/-- An outline can be told from its entries. -/
theorem entries_injective {a b : Outline} {depth : Nat} (same : a.entries depth = b.entries depth) :
    a = b := by
  have nothing : Outside (depth + 1) [] := nofun
  have same : a.entries depth ++ [] = b.entries depth ++ [] := congrArg (· ++ []) same
  exact (entries_inj nothing nothing same).1

end Outline

/-! ## Lines -/

namespace Entry

/-- The line of the entry, without its end. -/
def text (palette : Palette) (entry : Entry) : String :=
  indentation entry.depth ++ match entry.text? with
    | none => palette.name entry.name
    | some text => palette.kind entry.name ++ " " ++ palette.faint (Text.quoted text)

def line (palette : Palette) (entry : Entry) : String :=
  entry.text palette ++ "\n"

end Entry

namespace Node

mutual

/-- The lines of a node are those of its outline. -/
theorem dumpLines_eq : ∀ (palette : Palette) (depth : Nat) (node : Node),
    node.dumpLines palette depth = (node.outline.entries depth).map (Entry.line palette)
  | palette, depth, .leaf statement _ => by
    simp [dumpLines, leafLine, outline, Outline.entries, Entry.line, Entry.text,
      String.append_assoc]
  | palette, depth, .branch target children =>
    congrArg (branchLine palette depth target :: ·) (dumpLinesOf_eq palette (depth + 1) children)

theorem dumpLinesOf_eq : ∀ (palette : Palette) (depth : Nat) (nodes : List Node),
    dumpLinesOf palette depth nodes =
      (Outline.entriesOf depth (outlines nodes)).map (Entry.line palette)
  | _, _, [] => rfl
  | palette, depth, node :: nodes => by
    rw [dumpLinesOf, outlines, Outline.entriesOf, List.map_append, dumpLines_eq palette depth node,
      dumpLinesOf_eq palette depth nodes]

end

end Node

theorem Branch.dumpWith_eq (branch : Branch) (palette : Palette) :
    branch.dumpWith palette =
      String.join ((branch.outline.entries 0).map (Entry.line palette)) := by
  rw [dumpWith, Node.dumpLinesOf_eq]
  rfl

/-! ## Reading a line -/

/-- The indentation ends where something else than a blank stands. -/
theorem indentation_inj {depth depth' : Nat} {s t : List Char} (left : ∀ c ∈ s.head?, c ≠ ' ')
    (right : ∀ c ∈ t.head?, c ≠ ' ')
    (same : (indentation depth).toList ++ s = (indentation depth').toList ++ t) :
    depth = depth' ∧ s = t := by
  have inside (depth : Nat) : ∀ c ∈ (indentation depth).toList, decide (c = ' ') = true := by
    rw [toList_indentation]
    exact fun c member => decide_eq_true (List.eq_of_mem_replicate member)
  obtain ⟨blanks, rest⟩ := word_inj (inside depth) (fun c member => decide_eq_false (left c member))
    (inside depth') (fun c member => decide_eq_false (right c member)) same
  have lengths := congrArg List.length blanks
  rw [toList_indentation, toList_indentation, List.length_replicate, List.length_replicate]
    at lengths
  exact ⟨by omega, rest⟩

/-- The text is not empty and has no blanks. -/
def IsWord (text : String) : Prop :=
  text ≠ "" ∧ ∀ c ∈ text.toList, Text.isBlank c = false

instance (text : String) : Decidable (IsWord text) :=
  have : Decidable (∀ c ∈ text.toList, Text.isBlank c = false) := List.decidableBAll _ _
  inferInstanceAs (Decidable (_ ∧ _))

namespace IsWord

variable {text : String}

theorem notMem (word : IsWord text) {c : Char} (blank : Text.isBlank c = true) :
    c ∉ text.toList := by
  intro member
  rw [word.2 c member] at blank
  cases blank

theorem head_ne (word : IsWord text) (rest : List Char) :
    ∀ c ∈ (text.toList ++ rest).head?, c ≠ ' ' := by
  obtain ⟨c, others, split⟩ := List.exists_cons_of_ne_nil (mt String.toList_eq_nil_iff.1 word.1)
  have blank : Text.isBlank ' ' = true := by decide
  rw [split]
  rintro _ ⟨⟩ rfl
  exact word.notMem blank (split ▸ List.mem_cons_self)

end IsWord

namespace Entry

/-- What a line without colours has after the name. -/
def remark (entry : Entry) : List Char :=
  match entry.text? with
  | none => []
  | some text => ' ' :: (Text.quoted text).toList

theorem toList_text_plain (entry : Entry) :
    (entry.text .plain).toList = (indentation entry.depth).toList ++
    (entry.name.toList ++ entry.remark) := by
  obtain ⟨depth, name, _ | content⟩ := entry <;>
    simp [text, remark, Palette.name, Palette.kind, Palette.faint, Palette.plain,
      String.toList_append]

theorem blank_head_remark (entry : Entry) :
    ∀ c ∈ entry.remark.head?, (!Text.isBlank c) = false := by
  obtain ⟨depth, name, _ | text⟩ := entry
  · nofun
  · rintro _ ⟨⟩
    decide

theorem remark_injective {a b : Entry} (same : a.remark = b.remark) : a.text? = b.text? := by
  obtain ⟨depth, name, _ | text⟩ := a <;> obtain ⟨depth', name', _ | text'⟩ := b
  · rfl
  · cases same
  · cases same
  · obtain ⟨-, quoted⟩ := List.cons.inj same
    exact congrArg some (Text.quoted_injective (String.toList_inj.1 quoted))

/-- An entry can be told from its line. -/
theorem text_injective {a b : Entry} (left : IsWord a.name) (right : IsWord b.name)
    (same : a.text .plain = b.text .plain) : a = b := by
  have inside {entry : Entry} (word : IsWord entry.name) : ∀ c ∈ entry.name.toList,
      (!Text.isBlank c) = true :=
    fun c member => congrArg not (word.2 c member)
  have lists := congrArg String.toList same
  rw [toList_text_plain, toList_text_plain] at lists
  obtain ⟨depth, lists⟩ := indentation_inj (left.head_ne a.remark) (right.head_ne b.remark) lists
  obtain ⟨names, remarks⟩ :=
    word_inj (inside left) a.blank_head_remark (inside right) b.blank_head_remark lists
  have text := remark_injective remarks
  cases a
  cases b
  rw [Entry.mk.injEq]
  exact ⟨depth, String.toList_inj.1 names, text⟩

theorem newline_notMem_text {entry : Entry} (word : IsWord entry.name) :
    '\n' ∉ (entry.text .plain).toList := by
  have blank : Text.isBlank '\n' = true := by decide
  rw [toList_text_plain, toList_indentation]
  intro member
  rcases List.mem_append.1 member with member | member
  · cases List.eq_of_mem_replicate member
  rcases List.mem_append.1 member with member | member
  · exact word.notMem blank member
  obtain ⟨depth, name, _ | text⟩ := entry
  · cases member
  · rcases List.mem_cons.1 member with newline | member
    · cases newline
    · cases Text.isPrintable_of_mem_quoted member

/-- A line ends at the first newline. -/
theorem line_inj {a b : Entry} {s t : List Char} (left : IsWord a.name) (right : IsWord b.name)
    (same : (a.line .plain).toList ++ s = (b.line .plain).toList ++ t) : a = b ∧ s = t := by
  have inside {entry : Entry} (word : IsWord entry.name) :
      ∀ c ∈ (entry.text .plain).toList, decide (c ≠ '\n') = true := by
    intro c member
    refine decide_eq_true ?_
    rintro rfl
    exact newline_notMem_text word member
  have stop (rest : List Char) : ∀ c ∈ ('\n' :: rest).head?, decide (c ≠ '\n') = false := by
    rintro _ ⟨⟩
    rfl
  rw [line, line, String.toList_append, String.toList_append, List.append_assoc,
    List.append_assoc] at same
  obtain ⟨texts, rest⟩ := word_inj (inside left) (stop s) (inside right) (stop t) same
  exact ⟨text_injective left right (String.toList_inj.1 texts), (List.cons.inj rest).2⟩

theorem line_ne_empty (entry : Entry) : entry.line .plain ≠ "" := by
  simp [line]

theorem lines_injective {as bs : List Entry}
    (left : ∀ a ∈ as, IsWord a.name) (right : ∀ b ∈ bs, IsWord b.name)
    (same : String.join (as.map (line .plain)) = String.join (bs.map (line .plain))) : as = bs := by
  induction as generalizing bs with
  | nil =>
    cases bs with
    | nil => rfl
    | cons b bs =>
      rw [List.map_cons, String.join_cons] at same
      exact absurd (String.append_eq_empty_iff.1 same.symm).1 b.line_ne_empty
  | cons a as ih =>
    cases bs with
    | nil =>
      rw [List.map_cons, String.join_cons] at same
      exact absurd (String.append_eq_empty_iff.1 same).1 a.line_ne_empty
    | cons b bs =>
      obtain ⟨first, others⟩ := List.forall_mem_cons.1 left
      obtain ⟨first', others'⟩ := List.forall_mem_cons.1 right
      have lists := congrArg String.toList same
      rw [List.map_cons, List.map_cons, String.join_cons, String.join_cons, String.toList_append,
        String.toList_append] at lists
      obtain ⟨rfl, rest⟩ := line_inj first first' lists
      rw [ih others others' (String.toList_inj.1 rest)]

end Entry

namespace Branch

/-- Where all names are words, branches are dumped alike exactly if they have the same structures
around statements of the same kinds and texts. -/
theorem dump_eq_iff {a b : Branch} (left : ∀ name ∈ a.outline.names, IsWord name)
    (right : ∀ name ∈ b.outline.names, IsWord name) : a.dump = b.dump ↔ a.outline = b.outline := by
  rw [dump, dump, dumpWith_eq, dumpWith_eq]
  constructor
  · intro same
    refine Outline.entries_injective (Entry.lines_injective ?_ ?_ same)
    · exact fun entry member => left _ (Outline.name_mem_names member)
    · exact fun entry member => right _ (Outline.name_mem_names member)
  · intro same
    rw [same]

/-- A structure with an empty one inside it. -/
def nested : Branch :=
  ⟨⟨"1", "Block"⟩, [.leaf (.unplaced ⟨"Write"⟩ "a") 0, .branch ⟨"2", "Block"⟩ []]⟩

/-- A structure with one statement, whose text goes on as the dump of a structure does. -/
def imitating : Branch :=
  ⟨⟨"1", "Block"⟩, [.leaf (.unplaced ⟨"Write"⟩ "a\"\n  Block\n") 0]⟩

theorem dump_eq_iff_imitating : (∀ name ∈ nested.outline.names, IsWord name) ∧
    (∀ name ∈ imitating.outline.names, IsWord name) ∧ nested.dump ≠ imitating.dump := by
  have left : ∀ name ∈ nested.outline.names, IsWord name := by decide +kernel
  have right : ∀ name ∈ imitating.outline.names, IsWord name := by decide +kernel
  have different : nested.outline ≠ imitating.outline := by
    intro same
    obtain ⟨-, children⟩ := Outline.branch.inj same
    cases (List.cons.inj children).2
  exact ⟨left, right, mt (dump_eq_iff left right).1 different⟩

end Branch

end OrderedChoice
