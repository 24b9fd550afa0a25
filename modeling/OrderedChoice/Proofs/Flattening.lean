import OrderedChoice.Matcher.Rendering

/-!
# Flat matchers

A sequence in a sequence and a choice in a choice are flattened, and structures are told by their
names alone. The notation of a matcher shows no more than that (`ebnf_flatten`).
-/

namespace OrderedChoice

/-- The structure that a name tells. -/
def Structure.ofName (name : String) : Structure :=
  ⟨name, name⟩

namespace Combinator

/-- The combination of some parts, or the only part. -/
def combine? : Combinator → List Matcher → Option Matcher
  | _, [] => none
  | _, [m] => some m
  | sequence, a :: b :: rest => some (.sequence a b rest)
  | choice, a :: b :: rest => some (.choice a b rest)

/-- What the notation puts between parts. -/
def separator : Combinator → String
  | sequence => " "
  | choice => " | "

end Combinator

namespace Matcher

variable (c : Combinator)

/-! ## Parts -/

/-- The parts of a combination. Any other matcher is the only part of its own. -/
def parts : Combinator → Matcher → List Matcher
  | .sequence, .sequence a b rest => a :: b :: rest
  | .choice, .choice a b rest => a :: b :: rest
  | _, m => [m]

@[simp] theorem combine?_parts (m : Matcher) : c.combine? (m.parts c) = some m := by
  cases c <;> cases m <;> rfl

theorem eq_of_parts_eq {m n : Matcher} (same : m.parts c = n.parts c) : m = n := by
  rw [← Option.some_inj, ← combine?_parts c m, ← combine?_parts c n, same]

theorem parts_ne_nil (m : Matcher) : m.parts c ≠ [] := by
  cases c <;> cases m <;> exact List.cons_ne_nil _ _

theorem parts_choice_of_isChoice {m : Matcher} (h : m.isChoice = false) :
    m.parts .choice = [m] := by
  cases m with
  | choice => cases h
  | _ => rfl

theorem parts_sequence_of_isChoice {m : Matcher} (h : m.isChoice = true) :
    m.parts .sequence = [m] := by
  cases m with
  | choice => rfl
  | _ => cases h

theorem parts_of_isCompound {m : Matcher} (h : m.isCompound = false) : m.parts c = [m] := by
  cases m with
  | sequence | choice => cases h
  | _ => cases c <;> rfl

/-! ## Joining -/

/-- The combination of the parts of both matchers. -/
def join : Combinator → Matcher → Matcher → Matcher
  | .sequence, .sequence a b rest, n => .sequence a b (rest ++ n.parts .sequence)
  | .sequence, m, .sequence a b rest => .sequence m a (b :: rest)
  | .sequence, m, n => .sequence m n []
  | .choice, .choice a b rest, n => .choice a b (rest ++ n.parts .choice)
  | .choice, m, .choice a b rest => .choice m a (b :: rest)
  | .choice, m, n => .choice m n []

/-- The combination of the parts of all matchers. -/
def joinAll (m : Matcher) : List Matcher → Matcher
  | [] => m
  | n :: ns => m.join c (n.joinAll ns)

@[simp] theorem parts_join (m n : Matcher) : (m.join c n).parts c = m.parts c ++ n.parts c := by
  cases c <;> cases m <;> cases n <;> rfl

theorem parts_joinAll (m : Matcher) (ns : List Matcher) :
    (m.joinAll c ns).parts c = (m :: ns).flatMap (parts c) := by
  induction ns generalizing m with
  | nil => simp [joinAll]
  | cons n ns ih =>
    rw [joinAll, parts_join, ih]
    rfl

theorem isChoice_join (m n : Matcher) : (m.join c n).isChoice = decide (c = .choice) := by
  cases c <;> cases m <;> cases n <;> rfl

theorem isCompound_join (m n : Matcher) : (m.join c n).isCompound = true := by
  cases c <;> cases m <;> cases n <;> rfl

/-! ## Flattening -/

mutual

/-- The matcher without groups: a sequence that is part of a sequence is replaced by its parts, and
so is a choice that is part of a choice. Structures are told by their names. -/
def flatten : Matcher → Matcher
  | .statement kind => .statement kind
  | .sub target => .sub (.ofName target.name)
  | .optional body => .optional body.flatten
  | .star body => .star body.flatten
  | .sequence a b rest => a.flatten.join .sequence (b.flatten.joinAll .sequence (flattenAll rest))
  | .choice a b rest => a.flatten.join .choice (b.flatten.joinAll .choice (flattenAll rest))

def flattenAll : List Matcher → List Matcher
  | [] => []
  | m :: ms => m.flatten :: flattenAll ms

end

theorem flattenAll_eq_map (ms : List Matcher) : flattenAll ms = ms.map flatten := by
  induction ms with
  | nil => rfl
  | cons m ms ih => rw [flattenAll, ih, List.map_cons]

/-- The parts of parts that are joined are those of all parts. -/
theorem parts_join_flatten (a b : Matcher) (rest : List Matcher) :
    (a.flatten.join c (b.flatten.joinAll c (flattenAll rest))).parts c =
      (a :: b :: rest).flatMap fun m => m.flatten.parts c := by
  rw [parts_join, parts_joinAll, flattenAll_eq_map, ← List.map_cons, List.flatMap_map]
  rfl

theorem parts_flatten_sequence (a b : Matcher) (rest : List Matcher) :
    (sequence a b rest).flatten.parts .sequence = (a :: b :: rest).flatMap fun m =>
      m.flatten.parts .sequence :=
  parts_join_flatten .sequence a b rest

theorem parts_flatten_choice (a b : Matcher) (rest : List Matcher) :
    (choice a b rest).flatten.parts .choice = (a :: b :: rest).flatMap fun m =>
      m.flatten.parts .choice :=
  parts_join_flatten .choice a b rest

@[simp] theorem isChoice_flatten (m : Matcher) : m.flatten.isChoice = m.isChoice := by
  cases m with
  | sequence a b rest => exact isChoice_join .sequence _ _
  | choice a b rest => exact isChoice_join .choice _ _
  | _ => rfl

@[simp] theorem isCompound_flatten (m : Matcher) : m.flatten.isCompound = m.isCompound := by
  cases m with
  | sequence a b rest => exact isCompound_join .sequence _ _
  | choice a b rest => exact isCompound_join .choice _ _
  | _ => rfl

/-! ## Notation -/

/-- The notation of the matcher as a part of a combination. -/
def ebnfIn : Combinator → Matcher → String
  | .sequence, m => parenthesized m.isChoice m.ebnf
  | .choice, m => m.ebnf

theorem ebnfIn_eq_intercalate (m : Matcher) :
    m.ebnfIn c = c.separator.intercalate ((m.parts c).map (ebnfIn c)) := by
  cases c with
  | sequence =>
    cases m with
    | sequence a b rest => exact ebnf_sequence a b rest
    | _ => exact String.intercalate_singleton.symm
  | choice =>
    cases m with
    | choice a b rest => exact ebnf_choice a b rest
    | _ => exact String.intercalate_singleton.symm

/-- Texts that are joined can be joined in groups. -/
theorem intercalate_flatMap {α : Type} (separator : String) (texts : α → List String)
    {list : List α} (nonempty : ∀ x ∈ list, texts x ≠ []) :
    separator.intercalate (list.flatMap texts) =
      separator.intercalate (list.map fun x => separator.intercalate (texts x)) := by
  induction list with
  | nil => rfl
  | cons x list ih =>
    obtain ⟨first, others⟩ := List.forall_mem_cons.1 nonempty
    cases list with
    | nil => rw [List.flatMap_singleton, List.map_singleton, String.intercalate_singleton]
    | cons y list =>
      have more : (y :: list).flatMap texts ≠ [] := by
        rw [List.flatMap_cons]
        exact List.append_ne_nil_of_left_ne_nil (others y List.mem_cons_self) _
      rw [List.flatMap_cons, String.intercalate_append_of_ne_nil first more, ih others,
        List.map_cons, List.map_cons, List.map_cons, String.intercalate_cons_cons]

/-- A matcher whose parts are those of flat ones is written as these are. -/
theorem ebnfIn_of_parts {m : Matcher} {ms : List Matcher}
    (parts : m.parts c = ms.flatMap fun n => n.flatten.parts c)
    (same : ∀ n ∈ ms, n.flatten.ebnfIn c = n.ebnfIn c) :
    m.ebnfIn c = c.separator.intercalate (ms.map (ebnfIn c)) := by
  calc m.ebnfIn c
    _ = c.separator.intercalate (ms.flatMap fun n => (n.flatten.parts c).map (ebnfIn c)) := by
      rw [ebnfIn_eq_intercalate, parts, List.map_flatMap]
    _ = c.separator.intercalate (ms.map fun n => n.flatten.ebnfIn c) := by
      rw [intercalate_flatMap _ _ fun n _ => mt List.map_eq_nil_iff.1 (n.flatten.parts_ne_nil c)]
      exact congrArg _ (List.map_congr_left fun n _ => (n.flatten.ebnfIn_eq_intercalate c).symm)
    _ = c.separator.intercalate (ms.map (ebnfIn c)) := congrArg _ (List.map_congr_left same)

/-- The notation of a matcher is that of the flat one. -/
theorem ebnf_flatten (m : Matcher) : m.flatten.ebnf = m.ebnf := by
  induction m with
  | statement kind => rfl
  | sub target => rfl
  | optional body ih => rw [flatten, ebnf, ebnf, ih, isCompound_flatten]
  | star body ih => rw [flatten, ebnf, ebnf, ih, isCompound_flatten]
  | sequence a b rest ih =>
    have same : ∀ m ∈ a :: b :: rest, m.flatten.ebnfIn .sequence = m.ebnfIn .sequence := by
      intro m member
      rw [ebnfIn, ebnfIn, ih m member, isChoice_flatten]
    calc (sequence a b rest).flatten.ebnf
      _ = (sequence a b rest).flatten.ebnfIn .sequence := by
        rw [ebnfIn, isChoice_flatten]
        rfl
      _ = (sequence a b rest).ebnf := by
        rw [ebnfIn_of_parts _ (parts_flatten_sequence a b rest) same, ebnf_sequence]
        rfl
  | choice a b rest ih =>
    calc (choice a b rest).flatten.ebnf
      _ = (choice a b rest).flatten.ebnfIn .choice := rfl
      _ = (choice a b rest).ebnf := by
        rw [ebnfIn_of_parts _ (parts_flatten_choice a b rest) ih, ebnf_choice]
        rfl

end Matcher

end OrderedChoice
