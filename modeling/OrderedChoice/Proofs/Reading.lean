import OrderedChoice.Proofs.Flattening

/-!
# Reading the notation of matchers

The notation is read from left to right, with a stack of the groups whose end was not yet reached.
What is read in the notation of a matcher is the flat matcher (`Legible.read_ebnf`), so that two
matchers are written alike exactly if they are flat alike (`ebnf_eq_iff`).
-/

namespace OrderedChoice

/-- The characters that end a name. -/
def signs : List Char :=
  [' ', '\'', '(', ')', '|', '?', '*']

/-! ## Drafts -/

/-- What was read of a group: its branches, and the items of the branch that was not yet ended. The
latest are first. -/
structure Draft where
  branches : List Matcher
  items : List Matcher

namespace Draft

def empty : Draft := ⟨[], []⟩

def push (draft : Draft) (item : Matcher) : Draft :=
  { draft with items := item :: draft.items }

/-- The draft with the operator applied to the latest item. -/
def modifyLatest? (draft : Draft) (operator : Matcher → Matcher) : Option Draft :=
  match draft.items with
  | [] => none
  | item :: items => some { draft with items := operator item :: items }

/-- All branches, if the last one ends here. -/
def closeBranch (draft : Draft) : Option (List Matcher) :=
  (Combinator.sequence.combine? draft.items.reverse).map (· :: draft.branches)

/-- The group, if it ends here. -/
def close (draft : Draft) : Option Matcher :=
  draft.closeBranch.bind fun branches => Combinator.choice.combine? branches.reverse

theorem close_of_parts {draft : Draft} {m : Matcher}
    (closed : draft.closeBranch = some ((m.parts .choice).reverse ++ [])) :
    draft.close = some m := by
  rw [close, closed, Option.bind_some, List.append_nil, List.reverse_reverse,
    Matcher.combine?_parts]

end Draft

/-! ## The reader -/

/-- What was read of the innermost group, and of those around it. -/
structure Reader where
  draft : Draft
  outer : List Draft

namespace Reader

def push (r : Reader) (item : Matcher) : Reader :=
  { r with draft := r.draft.push item }

/-- The reader after a sign. There is none where the sign cannot stand. -/
def sign (r : Reader) : Char → Option Reader
  | ' ' => some r
  | '?' => (r.draft.modifyLatest? .optional).map (⟨·, r.outer⟩)
  | '*' => (r.draft.modifyLatest? .star).map (⟨·, r.outer⟩)
  | '|' => r.draft.closeBranch.map fun branches => ⟨⟨branches, []⟩, r.outer⟩
  | '(' => some ⟨.empty, r.draft :: r.outer⟩
  | ')' =>
    match r.outer with
    | [] => none
    | draft :: outer => r.draft.close.map fun m => ⟨draft.push m, outer⟩
  | _ => none

/-- The matcher that the text ends. A kind lasts until the next quote, and a name until the next
sign. -/
def read (r : Reader) (text : List Char) : Option Matcher :=
  match text with
  | [] =>
    match r.outer with
    | [] => r.draft.close
    | _ :: _ => none
  | c :: text =>
    if c = '\'' then
      (r.push (.statement ⟨String.ofList (text.takeWhile (· ≠ '\''))⟩)).read
        ((text.dropWhile (· ≠ '\'')).drop 1)
    else if c ∈ signs then
      (r.sign c).bind fun after => after.read text
    else
      (r.push (.sub (.ofName (String.ofList (c :: text.takeWhile (· ∉ signs)))))).read
        (text.dropWhile (· ∉ signs))
termination_by text.length
decreasing_by
  · rw [List.length_drop, List.length_cons]
    exact Nat.lt_succ_of_le (Nat.le_trans (Nat.sub_le _ _) (List.dropWhile_sublist _).length_le)
  · exact Nat.lt_succ_self _
  · exact Nat.lt_succ_of_le (List.dropWhile_sublist _).length_le

theorem read_sign (r : Reader) {c : Char} (text : List Char) (isSign : c ∈ signs)
    (notQuote : c ≠ '\'') : r.read (c :: text) = (r.sign c).bind fun after => after.read text := by
  rw [read, if_neg notQuote, if_pos isSign]

end Reader

/-! ## Words -/

section Words

variable {p : Char → Bool} {word rest : List Char}

theorem takeWhile_word (inside : ∀ c ∈ word, p c = true) (stop : ∀ c ∈ rest.head?, p c = false) :
    (word ++ rest).takeWhile p = word := by
  rw [List.takeWhile_append_of_pos inside]
  cases rest with
  | nil => exact List.append_nil word
  | cons c rest =>
    rw [List.takeWhile_cons_of_neg (by rw [stop c rfl]; exact Bool.false_ne_true), List.append_nil]

theorem dropWhile_word (inside : ∀ c ∈ word, p c = true) (stop : ∀ c ∈ rest.head?, p c = false) :
    (word ++ rest).dropWhile p = rest := by
  rw [List.dropWhile_append_of_pos inside]
  cases rest with
  | nil => rfl
  | cons c rest => exact List.dropWhile_cons_of_neg (by rw [stop c rfl]; exact Bool.false_ne_true)

/-- It can be told where the word ends. -/
theorem word_inj {word' rest' : List Char} (inside : ∀ c ∈ word, p c = true)
    (stop : ∀ c ∈ rest.head?, p c = false) (inside' : ∀ c ∈ word', p c = true)
    (stop' : ∀ c ∈ rest'.head?, p c = false) (same : word ++ rest = word' ++ rest') :
    word = word' ∧ rest = rest' := by
  constructor
  · rw [← takeWhile_word inside stop, same, takeWhile_word inside' stop']
  · rw [← dropWhile_word inside stop, same, dropWhile_word inside' stop']

end Words

/-! ## Reading one text after another -/

/-- A name that stands before the text ends there. -/
def Delimited (text : List Char) : Prop :=
  ∀ c ∈ text.head?, c ∈ signs

theorem delimited_cons {c : Char} (text : List Char) (isSign : c ∈ signs) :
    Delimited (c :: text) := by
  rintro _ ⟨⟩
  exact isSign

/-- Reading the text turns the first draft into the second one, in every group and before every text
that does not go on with a name. -/
def Reads (text : String) (before after : Draft) : Prop :=
  ∀ outer rest, Delimited rest →
  Reader.read ⟨before, outer⟩ (text.toList ++ rest) = Reader.read ⟨after, outer⟩ rest

namespace Reads

variable {s t : String} {a b c d : Draft} {m : Matcher}

theorem statement {kind : Kind} (unquoted : '\'' ∉ kind.name.toList) (draft : Draft) :
    Reads ("'" ++ kind.name ++ "'") draft (draft.push (.statement kind)) := by
  intro outer rest _
  have split :
      ("'" ++ kind.name ++ "'").toList ++ rest = '\'' :: (kind.name.toList ++ '\'' :: rest) := by
    simp [String.toList_append]
  have inside : ∀ c ∈ kind.name.toList, decide (c ≠ '\'') = true := by
    intro c member
    refine decide_eq_true ?_
    rintro rfl
    exact unquoted member
  have stop : ∀ c ∈ ('\'' :: rest).head?, decide (c ≠ '\'') = false := by
    rintro _ ⟨⟩
    rfl
  rw [split, Reader.read, if_pos rfl, takeWhile_word inside stop, dropWhile_word inside stop,
    String.ofList_toList]
  rfl

theorem name {name : String} (nonempty : name ≠ "") (plain : ∀ c ∈ name.toList, c ∉ signs)
    (draft : Draft) : Reads name draft (draft.push (.sub (.ofName name))) := by
  intro outer rest delimited
  obtain ⟨c, word, split⟩ := List.exists_cons_of_ne_nil (mt String.toList_eq_nil_iff.1 nonempty)
  obtain ⟨first, others⟩ := List.forall_mem_cons.1 (split ▸ plain)
  have notQuote : c ≠ '\'' := by
    rintro rfl
    exact first (by decide)
  have inside : ∀ c ∈ word, decide (c ∉ signs) = true :=
    fun c member => decide_eq_true (others c member)
  have stop : ∀ c ∈ rest.head?, decide (c ∉ signs) = false := fun c member =>
    decide_eq_false (not_not_intro (delimited c member))
  rw [split, List.cons_append, Reader.read, if_neg notQuote, if_neg first,
    takeWhile_word inside stop, dropWhile_word inside stop, ← split, String.ofList_toList]
  rfl

theorem empty (draft : Draft) : Reads "" draft draft := by
  intro _ _ _
  rfl

/-- The second text is read after the sign, which is read after the first one. -/
theorem sign {x : Char} (first : Reads s a b) (isSign : x ∈ signs) (notQuote : x ≠ '\'')
    (step : ∀ outer, Reader.sign ⟨b, outer⟩ x = some ⟨c, outer⟩) (second : Reads t c d) :
    Reads (s ++ String.singleton x ++ t) a d := by
  intro outer rest delimited
  have split :
      (s ++ String.singleton x ++ t).toList ++ rest = s.toList ++ x :: (t.toList ++ rest) := by
    simp [String.toList_append]
  calc Reader.read ⟨a, outer⟩ ((s ++ String.singleton x ++ t).toList ++ rest)
    _ = Reader.read ⟨b, outer⟩ (x :: (t.toList ++ rest)) := by
      rw [split, first _ _ (delimited_cons _ isSign)]
    _ = Reader.read ⟨c, outer⟩ (t.toList ++ rest) := by
      rw [Reader.read_sign _ _ isSign notQuote, step, Option.bind_some]
    _ = Reader.read ⟨d, outer⟩ rest := second _ _ delimited

theorem space (first : Reads s a b) (second : Reads t b c) : Reads (s ++ " " ++ t) a c :=
  first.sign (x := ' ') (by decide) (by decide) (fun _ => rfl) second

/-- After a bar, the branch before it is ended. -/
theorem bar {branches : List Matcher} (first : Reads s a b) (closed : b.closeBranch = some branches)
    (second : Reads t ⟨branches, []⟩ c) : Reads (s ++ " | " ++ t) a c := by
  have step (outer : List Draft) : Reader.sign ⟨b, outer⟩ '|' = some ⟨⟨branches, []⟩, outer⟩ := by
    rw [Reader.sign, closed]
    rfl
  have after : Reads ("" ++ String.singleton '|' ++ (" " ++ t)) b c :=
    (empty b).sign (by decide) (by decide) step ((empty ⟨branches, []⟩).space second)
  have split : s ++ " | " ++ t = s ++ " " ++ ("" ++ String.singleton '|' ++ (" " ++ t)) :=
    String.toList_inj.1 (by simp [String.toList_append])
  rw [split]
  exact first.space after

/-- What was read in parentheses is one item. -/
theorem group (inner : Reads t .empty a) (closed : a.close = some m) (draft : Draft) :
    Reads ("(" ++ t ++ ")") draft (draft.push m) := by
  intro outer rest _
  have split : ("(" ++ t ++ ")").toList ++ rest = '(' :: (t.toList ++ ')' :: rest) := by
    simp [String.toList_append]
  have step : Reader.sign ⟨a, draft :: outer⟩ ')' = some ⟨draft.push m, outer⟩ := by
    rw [Reader.sign, closed]
    rfl
  calc Reader.read ⟨draft, outer⟩ (("(" ++ t ++ ")").toList ++ rest)
    _ = Reader.read ⟨.empty, draft :: outer⟩ (t.toList ++ ')' :: rest) := by
      rw [split, Reader.read_sign _ _ (by decide) (by decide)]
      rfl
    _ = Reader.read ⟨a, draft :: outer⟩ (')' :: rest) := inner _ _ (delimited_cons _ (by decide))
    _ = Reader.read ⟨draft.push m, outer⟩ rest := by
      rw [Reader.read_sign _ _ (by decide) (by decide), step, Option.bind_some]

theorem optional (inner : Reads t a (b.push m)) : Reads (t ++ "?") a (b.push (.optional m)) := by
  have whole :=
    inner.sign (x := '?') (by decide) (by decide) (fun _ => rfl) (empty (b.push (.optional m)))
  rwa [String.append_empty] at whole

theorem star (inner : Reads t a (b.push m)) : Reads (t ++ "*") a (b.push (.star m)) := by
  have whole :=
    inner.sign (x := '*') (by decide) (by decide) (fun _ => rfl) (empty (b.push (.star m)))
  rwa [String.append_empty] at whole

end Reads

/-! ## Reading a matcher -/

namespace Matcher

/-- The names in the matcher can be told from the signs around them. -/
inductive Legible : Matcher → Prop where
  | statement {kind : Kind} (unquoted : '\'' ∉ kind.name.toList) : Legible (.statement kind)
  | sub {target : Structure} (nonempty : target.name ≠ "")
      (plain : ∀ c ∈ target.name.toList, c ∉ signs) :
      Legible (.sub target)
  | optional {body : Matcher} (inner : Legible body) : Legible (.optional body)
  | star {body : Matcher} (inner : Legible body) : Legible (.star body)
  | sequence {a b : Matcher} {rest : List Matcher} (parts : ∀ m ∈ a :: b :: rest, Legible m) :
      Legible (.sequence a b rest)
  | choice {a b : Matcher} {rest : List Matcher} (parts : ∀ m ∈ a :: b :: rest, Legible m) :
      Legible (.choice a b rest)

/-- What is read in the notation of the matcher, as a part of a sequence and as a part of a
choice. -/
structure Readable (m : Matcher) : Prop where
  item : ∀ branches items, Reads (m.ebnfIn .sequence) ⟨branches, items⟩
    ⟨branches, (m.flatten.parts .sequence).reverse ++ items⟩
  branch : ∀ branches, ∃ draft, Reads m.ebnf ⟨branches, []⟩ draft ∧
    draft.closeBranch = some ((m.flatten.parts .choice).reverse ++ branches)

namespace Readable

variable {m : Matcher}

theorem of_item (notChoice : m.isChoice = false)
    (item : ∀ branches items, Reads m.ebnf ⟨branches, items⟩
      ⟨branches, (m.flatten.parts .sequence).reverse ++ items⟩) : m.Readable where
  item branches items := by
    rw [ebnfIn, notChoice]
    exact item branches items
  branch branches := by
    refine ⟨_, item branches [], ?_⟩
    rw [Draft.closeBranch, List.append_nil, List.reverse_reverse, combine?_parts,
      parts_choice_of_isChoice ((isChoice_flatten m).trans notChoice)]
    rfl

/-- The whole matcher is read in its notation between parentheses. -/
theorem group (readable : m.Readable) (draft : Draft) :
    Reads ("(" ++ m.ebnf ++ ")") draft (draft.push m.flatten) := by
  obtain ⟨last, reads, closed⟩ := readable.branch []
  exact reads.group (Draft.close_of_parts closed) draft

theorem of_branch (isChoice : m.isChoice = true)
    (branch : ∀ branches, ∃ draft, Reads m.ebnf ⟨branches, []⟩ draft ∧
      draft.closeBranch = some ((m.flatten.parts .choice).reverse ++ branches)) : m.Readable where
  item branches items := by
    obtain ⟨last, reads, closed⟩ := branch []
    rw [ebnfIn, isChoice, parts_sequence_of_isChoice ((isChoice_flatten m).trans isChoice)]
    exact reads.group (Draft.close_of_parts closed) ⟨branches, items⟩
  branch := branch

/-- The operand of an operator is read as one item. -/
theorem operand (readable : m.Readable) (draft : Draft) :
    Reads (parenthesized m.isCompound m.ebnf) draft (draft.push m.flatten) := by
  cases compound : m.isCompound with
  | true => exact readable.group draft
  | false =>
    have notChoice : m.isChoice = false := by
      cases m with
      | choice => cases compound
      | _ => rfl
    have item := readable.item draft.branches draft.items
    rw [ebnfIn, notChoice, parts_of_isCompound _ ((isCompound_flatten m).trans compound)] at item
    exact item

/-- The parts of a sequence are read one after another. -/
theorem inTurn {ms : List Matcher} (readable : ∀ n ∈ m :: ms, n.Readable)
    (branches items : List Matcher) :
    Reads (" ".intercalate ((m :: ms).map (ebnfIn .sequence))) ⟨branches, items⟩
      ⟨branches, ((m :: ms).flatMap fun n => n.flatten.parts .sequence).reverse ++ items⟩ := by
  induction ms generalizing m items with
  | nil =>
    rw [List.map_singleton, String.intercalate_singleton, List.flatMap_singleton]
    exact (readable m List.mem_cons_self).item branches items
  | cons n ms ih =>
    obtain ⟨first, others⟩ := List.forall_mem_cons.1 readable
    rw [List.map_cons, List.map_cons, String.intercalate_cons_cons, List.flatMap_cons,
      List.reverse_append, List.append_assoc]
    exact (first.item branches items).space (ih others _)

/-- The branches of a choice are read one after another. -/
theorem firstOf {ms : List Matcher} (readable : ∀ n ∈ m :: ms, n.Readable)
    (branches : List Matcher) :
    ∃ draft, Reads (" | ".intercalate ((m :: ms).map ebnf)) ⟨branches, []⟩ draft ∧
      draft.closeBranch =
        some (((m :: ms).flatMap fun n => n.flatten.parts .choice).reverse ++ branches) := by
  induction ms generalizing m branches with
  | nil =>
    rw [List.map_singleton, String.intercalate_singleton, List.flatMap_singleton]
    exact (readable m List.mem_cons_self).branch branches
  | cons n ms ih =>
    obtain ⟨first, others⟩ := List.forall_mem_cons.1 readable
    obtain ⟨before, reads, closed⟩ := first.branch branches
    obtain ⟨last, more, all⟩ := ih others ((m.flatten.parts .choice).reverse ++ branches)
    rw [List.map_cons, List.map_cons, String.intercalate_cons_cons, List.flatMap_cons,
      List.reverse_append, List.append_assoc]
    exact ⟨last, reads.bar closed more, all⟩

end Readable

/-- The notation of every matcher with legible names can be read. -/
theorem Legible.readable {m : Matcher} (legible : m.Legible) : m.Readable := by
  induction legible with
  | statement unquoted =>
    exact .of_item rfl fun branches items => .statement unquoted ⟨branches, items⟩
  | sub nonempty plain =>
    exact .of_item rfl fun branches items => .name nonempty plain ⟨branches, items⟩
  | optional _ ih =>
    exact .of_item rfl fun branches items => (ih.operand ⟨branches, items⟩).optional
  | star _ ih => exact .of_item rfl fun branches items => (ih.operand ⟨branches, items⟩).star
  | sequence _ ih =>
    refine .of_item rfl fun branches items => ?_
    rw [ebnf_sequence, parts_flatten_sequence]
    exact Readable.inTurn ih branches items
  | choice _ ih =>
    refine .of_branch rfl fun branches => ?_
    rw [ebnf_choice, parts_flatten_choice]
    exact Readable.firstOf ih branches

/-- What is read in the notation of a matcher is the flat matcher. -/
theorem Legible.read_ebnf {m : Matcher} (legible : m.Legible) :
    Reader.read ⟨.empty, []⟩ m.ebnf.toList = some m.flatten := by
  obtain ⟨last, reads, closed⟩ := legible.readable.branch []
  have whole := reads [] [] nofun
  rw [List.append_nil] at whole
  calc Reader.read ⟨.empty, []⟩ m.ebnf.toList
    _ = last.close := by
      rw [Draft.empty, whole, Reader.read]
    _ = some m.flatten := Draft.close_of_parts closed

/-- Matchers with legible names are written alike exactly if they differ in groups only: if they are
equal as flat matchers. -/
theorem ebnf_eq_iff {a b : Matcher} (left : a.Legible) (right : b.Legible) :
    a.ebnf = b.ebnf ↔ a.flatten = b.flatten := by
  constructor
  · intro same
    rw [← Option.some_inj, ← left.read_ebnf, ← right.read_ebnf, same]
  · intro same
    rw [← ebnf_flatten a, ← ebnf_flatten b, same]

theorem Legible.pair {a b : Matcher} (left : a.Legible) (right : b.Legible) :
    ∀ m ∈ [a, b], m.Legible :=
  List.forall_mem_cons.2 ⟨left, List.forall_mem_singleton.2 right⟩

/-- A condition whose begin and body are a group, with a group of bodies. -/
def groupedFirst : Matcher :=
  .sequence
    (.sequence (.statement ⟨"If"⟩)
      (.choice (.sub ⟨"1", "block"⟩) (.choice (.statement ⟨"Return"⟩) (.statement ⟨"Exit"⟩) []) [])
        [])
    (.statement ⟨"End"⟩) []

/-- The condition with other groups, and another structure of the same name. -/
def groupedLast : Matcher :=
  .sequence (.statement ⟨"If"⟩)
    (.sequence
      (.choice (.choice (.sub ⟨"2", "block"⟩) (.statement ⟨"Return"⟩) []) (.statement ⟨"Exit"⟩) [])
      (.statement ⟨"End"⟩) []) []

theorem legible_grouped : groupedFirst.Legible ∧ groupedLast.Legible := by
  have opening : (statement ⟨"If"⟩).Legible := .statement (by decide)
  have returned : (statement ⟨"Return"⟩).Legible := .statement (by decide)
  have exited : (statement ⟨"Exit"⟩).Legible := .statement (by decide)
  have closing : (statement ⟨"End"⟩).Legible := .statement (by decide)
  have block (id : String) : (sub ⟨id, "block"⟩).Legible := by
    have nonempty : "block" ≠ "" := by decide
    have plain : ∀ c ∈ "block".toList, c ∉ signs := by simp [signs]
    exact .sub nonempty plain
  constructor
  · have bodies := Legible.choice (.pair (block "1") (.choice (.pair returned exited)))
    exact .sequence (.pair (.sequence (.pair opening bodies)) closing)
  · have bodies := Legible.choice (.pair (.choice (.pair (block "2") returned)) exited)
    exact .sequence (.pair opening (.sequence (.pair bodies closing)))

theorem ebnf_eq_iff_grouped :
    groupedFirst.Legible ∧ groupedLast.Legible ∧ groupedFirst ≠ groupedLast ∧
    groupedFirst.flatten = groupedLast.flatten := by
  obtain ⟨left, right⟩ := legible_grouped
  have same : groupedFirst.ebnf = groupedLast.ebnf := by decide
  exact ⟨left, right, nofun, (ebnf_eq_iff left right).1 same⟩

end Matcher

end OrderedChoice
