import Mathlib.Computability.Language
import Mathlib.Order.CompletePartialOrder
import OrderedChoice.Proofs.Derivation

/-!
# The words of a matcher

The kinds of the statements of a derivation, read in order, are a word. The words of all derivations
of a matcher are its language: they obey one equation for each combinator, and languages of the
structures that obey these equations, if only in one direction, hold at least the words
(`Grammar.words_le_wordsOver`).
-/

/-- Sets of words. Inside the library the short name is that of the languages that files are checked
for. -/
abbrev FormalLanguage (α : Type) := Language α

namespace OrderedChoice

open scoped Computability

variable {g : Grammar}

/-! ## Kinds of a forest -/

namespace Node

/-- The kinds of the statements of a forest, in order. -/
def kindsOf (nodes : List Node) : List Kind :=
  (leavesOf nodes).map (·.1.kind)

@[simp] theorem kindsOf_append (a b : List Node) : kindsOf (a ++ b) = kindsOf a ++ kindsOf b := by
  rw [kindsOf, leavesOf_append, List.map_append]
  rfl

@[simp] theorem kindsOf_leaf (statement : Statement) (index : Nat) :
    kindsOf [.leaf statement index] = [statement.kind] := rfl

@[simp] theorem kindsOf_branch (target : Structure) (children : List Node) :
    kindsOf [.branch target children] = kindsOf children := by
  rw [kindsOf, leavesOf, leaves, leavesOf, List.append_nil, kindsOf]

theorem kindsOf_flatten (parts : List (List Node)) :
    kindsOf parts.flatten = (parts.map kindsOf).flatten := by
  induction parts with
  | nil => rfl
  | cons part parts ih =>
    rw [List.flatten_cons, kindsOf_append, ih, List.map_cons, List.flatten_cons]

theorem kindsOf_eq_nil_iff {nodes : List Node} : kindsOf nodes = [] ↔ leavesOf nodes = [] := by
  rw [kindsOf, List.map_eq_nil_iff]

/-- The kinds of a forest are those of its statements. -/
theorem kindsOf_eq_map_statementsOf (nodes : List Node) :
    kindsOf nodes = (statementsOf nodes).map (·.kind) := by
  rw [kindsOf, statementsOf_eq_map_leavesOf, List.map_map]
  rfl

end Node

/-! ## Languages of matchers -/

namespace Matcher

variable (of : Structure → FormalLanguage Kind)

mutual

/-- The language of a matcher, if those of the structures are given. -/
def wordsOver : Matcher → FormalLanguage Kind
  | .statement kind => {[kind]}
  | .sub target => of target
  | .optional body => 1 + body.wordsOver
  | .star body => body.wordsOver∗
  | .sequence first second rest => first.wordsOver * (second.wordsOver * wordsInTurn rest)
  | .choice first second rest => first.wordsOver + (second.wordsOver + wordsOfAny rest)

def wordsInTurn : List Matcher → FormalLanguage Kind
  | [] => 1
  | m :: ms => m.wordsOver * wordsInTurn ms

def wordsOfAny : List Matcher → FormalLanguage Kind
  | [] => 0
  | m :: ms => m.wordsOver + wordsOfAny ms

end

theorem wordsInTurn_eq_prod (ms : List Matcher) :
    wordsInTurn of ms = (ms.map (wordsOver of)).prod := by
  induction ms with
  | nil => rfl
  | cons m ms ih => rw [wordsInTurn, ih, List.map_cons, List.prod_cons]

theorem wordsOfAny_eq_sum (ms : List Matcher) : wordsOfAny of ms = (ms.map (wordsOver of)).sum := by
  induction ms with
  | nil => rfl
  | cons m ms ih => rw [wordsOfAny, ih, List.map_cons, List.sum_cons]

theorem wordsOver_sequence (a b : Matcher) (rest : List Matcher) :
    (sequence a b rest).wordsOver of = ((a :: b :: rest).map (wordsOver of)).prod := by
  rw [wordsOver, wordsInTurn_eq_prod, List.map_cons, List.map_cons, List.prod_cons, List.prod_cons]

theorem wordsOver_choice (a b : Matcher) (rest : List Matcher) :
    (choice a b rest).wordsOver of = ((a :: b :: rest).map (wordsOver of)).sum := by
  rw [wordsOver, wordsOfAny_eq_sum, List.map_cons, List.map_cons, List.sum_cons, List.sum_cons]

end Matcher

/-- The words of a sum are those of its members. -/
theorem mem_sum_map_iff {α : Type} {language : α → FormalLanguage Kind} {members : List α}
    {word : List Kind} :
    word ∈ (members.map language).sum ↔ ∃ member ∈ members, word ∈ language member := by
  induction members with
  | nil => simp
  | cons member members ih =>
    rw [List.map_cons, List.sum_cons, Language.mem_add, ih, List.exists_mem_cons_iff]

/-- A word of a product is a word of the first factor and one of the others. -/
theorem mem_prod_map_cons {α : Type} {language : α → FormalLanguage Kind} {member : α}
    {members : List α} {word : List Kind} : word ∈ ((member :: members).map language).prod ↔
      ∃ first ∈ language member, ∃ others ∈ (members.map language).prod,
      first ++ others = word := by
  rw [List.map_cons, List.prod_cons, Language.mem_mul]

/-- A word of a repetition is empty, or begins with a round that is not. -/
theorem eq_nil_or_of_mem_kstar {language : FormalLanguage Kind} {word : List Kind}
    (h : word ∈ language∗) :
    word = [] ∨ ∃ first ∈ language, first ≠ [] ∧ ∃ others ∈ language∗, first ++ others = word := by
  obtain ⟨rounds, rfl, each⟩ := Language.mem_kstar_iff_exists_nonempty.1 h
  cases rounds with
  | nil => exact .inl rfl
  | cons first rounds =>
    obtain ⟨⟨member, nonempty⟩, others⟩ := List.forall_mem_cons.1 each
    exact .inr ⟨first, member, nonempty, rounds.flatten,
      Language.join_mem_kstar fun round inRounds => (others round inRounds).1, rfl⟩

/-! ## The equations -/

namespace Grammar

/-- The words of the derivations of a matcher. -/
def words (g : Grammar) (m : Matcher) : FormalLanguage Kind :=
  {word | ∃ nodes, Conforms g m nodes ∧ Node.kindsOf nodes = word}

theorem mem_words {m : Matcher} {word : List Kind} :
    word ∈ g.words m ↔ ∃ nodes, Conforms g m nodes ∧ Node.kindsOf nodes = word := Iff.rfl

theorem words_statement (kind : Kind) : g.words (.statement kind) = {[kind]} := by
  ext word
  rw [mem_words]
  constructor
  · rintro ⟨_, ⟨same⟩, rfl⟩
    rw [Node.kindsOf_leaf, same]
    rfl
  · rintro rfl
    exact ⟨[.leaf (.unplaced kind "") 0], .statement rfl, rfl⟩

/-- The words of a structure are those of its body, but for the empty one. -/
theorem words_sub {target : Structure} {m : Matcher} (body : g.body target = .ok m) :
    g.words (.sub target) = g.words m - 1 := by
  ext word
  rw [mem_words, Language.mem_sub, mem_words, Language.mem_one]
  constructor
  · rintro ⟨_, h, rfl⟩
    cases h with
    | @sub _ m' children body' grown filled =>
      obtain rfl := Except.ok.inj (body.symm.trans body')
      rw [Node.kindsOf_branch]
      exact ⟨⟨children, grown, rfl⟩, fun empty => filled (Node.kindsOf_eq_nil_iff.1 empty)⟩
  · rintro ⟨⟨children, grown, rfl⟩, nonempty⟩
    exact ⟨_, .sub body grown fun empty => nonempty (Node.kindsOf_eq_nil_iff.2 empty),
      Node.kindsOf_branch _ _⟩

theorem words_optional (body : Matcher) : g.words (.optional body) = 1 + g.words body := by
  ext word
  rw [mem_words, Language.mem_add, Language.mem_one, mem_words]
  constructor
  · rintro ⟨_, h, rfl⟩
    cases h with
    | omitted => exact .inl rfl
    | optional given => exact .inr ⟨_, given, rfl⟩
  · rintro (rfl | ⟨nodes, given, rfl⟩)
    · exact ⟨[], .omitted, rfl⟩
    · exact ⟨nodes, .optional given, rfl⟩

theorem words_star (body : Matcher) : g.words (.star body) = (g.words body)∗ := by
  ext word
  rw [mem_words]
  constructor
  · rintro ⟨_, h, rfl⟩
    cases h with
    | @star _ rounds _ each =>
      rw [Node.kindsOf_flatten]
      refine Language.join_mem_kstar (List.forall_mem_map.2 fun round member => ?_)
      exact ⟨round, each round member, rfl⟩
  · rw [Language.mem_kstar_iff_exists_nonempty]
    rintro ⟨rounds, rfl, each⟩
    induction rounds with
    | nil => exact ⟨[], @Conforms.star g body [] nofun nofun, rfl⟩
    | cons first rounds ih =>
      obtain ⟨⟨⟨nodes, conforms, isFirst⟩, nonempty⟩, others⟩ := List.forall_mem_cons.1 each
      obtain ⟨more, conformsMore, areOthers⟩ := ih others
      have hasNodes : nodes ≠ [] := by
        rintro rfl
        exact nonempty isFirst.symm
      refine ⟨nodes ++ more, .star_cons hasNodes conforms conformsMore, ?_⟩
      rw [Node.kindsOf_append, isFirst, areOthers, List.flatten_cons]

theorem mem_prod_words {ms : List Matcher} {word : List Kind} :
    word ∈ (ms.map g.words).prod ↔
      ∃ parts, List.Forall₂ (Conforms g) ms parts ∧ Node.kindsOf parts.flatten = word := by
  induction ms generalizing word with
  | nil =>
    rw [List.map_nil, List.prod_nil, Language.mem_one]
    constructor
    · rintro rfl
      exact ⟨[], .nil, rfl⟩
    · rintro ⟨_, ⟨⟩, rfl⟩
      rfl
  | cons m ms ih =>
    rw [mem_prod_map_cons]
    constructor
    · rintro ⟨_, ⟨nodes, conforms, rfl⟩, _, others, rfl⟩
      obtain ⟨parts, each, rfl⟩ := ih.1 others
      exact ⟨nodes :: parts, .cons conforms each, by rw [List.flatten_cons, Node.kindsOf_append]⟩
    · rintro ⟨_, each, rfl⟩
      cases each with
      | @cons _ nodes _ parts conforms each =>
        refine ⟨_, ⟨nodes, conforms, rfl⟩, _, ih.2 ⟨parts, each, rfl⟩, ?_⟩
        rw [List.flatten_cons, Node.kindsOf_append]

theorem words_sequence (a b : Matcher) (rest : List Matcher) :
    g.words (.sequence a b rest) = ((a :: b :: rest).map g.words).prod := by
  ext word
  rw [mem_prod_words, mem_words]
  constructor
  · rintro ⟨_, h, rfl⟩
    cases h with
    | sequence each => exact ⟨_, each, rfl⟩
  · rintro ⟨parts, each, rfl⟩
    exact ⟨parts.flatten, .sequence each, rfl⟩

theorem words_choice (a b : Matcher) (rest : List Matcher) :
    g.words (.choice a b rest) = ((a :: b :: rest).map g.words).sum := by
  ext word
  rw [mem_sum_map_iff, mem_words]
  constructor
  · rintro ⟨nodes, h, rfl⟩
    cases h with
    | choice member taken => exact ⟨_, member, nodes, taken, rfl⟩
  · rintro ⟨m, member, nodes, taken, rfl⟩
    exact ⟨nodes, .choice member taken, rfl⟩

/-- The words of a matcher are composed of those of the structures in it. -/
theorem words_eq_wordsOver (m : Matcher) : g.words m = m.wordsOver fun s => g.words (.sub s) := by
  induction m with
  | statement kind => exact words_statement kind
  | sub target => rfl
  | optional body ih => rw [words_optional, Matcher.wordsOver, ih]
  | star body ih => rw [words_star, Matcher.wordsOver, ih]
  | sequence a b rest ih => rw [words_sequence, Matcher.wordsOver_sequence, List.map_congr_left ih]
  | choice a b rest ih => rw [words_choice, Matcher.wordsOver_choice, List.map_congr_left ih]

/-- Languages that hold the words of each body over them hold all words of derivations. -/
theorem words_le_wordsOver {of : Structure → FormalLanguage Kind}
    (closed : ∀ s m, g.body s = .ok m → m.wordsOver of - 1 ≤ of s) (m : Matcher) :
    g.words m ≤ m.wordsOver of := by
  rintro _ ⟨nodes, h, rfl⟩
  refine Conforms.rec (motive_1 := fun m nodes _ => Node.kindsOf nodes ∈ m.wordsOver of)
    (motive_2 := fun ms parts _ =>
      Node.kindsOf parts.flatten ∈ (ms.map (Matcher.wordsOver of)).prod)
    ?statement ?sub ?sequence ?choice ?omitted ?optional ?star ?nil ?cons h
  case statement =>
    rintro kind statement index rfl
    rfl
  case sub =>
    intro target m children body _ filled ih
    rw [Node.kindsOf_branch]
    exact closed target m body ⟨ih, fun empty => filled (Node.kindsOf_eq_nil_iff.1 empty)⟩
  case sequence =>
    intro a b rest parts _ ih
    rwa [Matcher.wordsOver_sequence]
  case choice =>
    intro a b m rest nodes member _ ih
    rw [Matcher.wordsOver_choice, mem_sum_map_iff]
    exact ⟨m, member, ih⟩
  case omitted => exact fun {_} => .inl rfl
  case optional => exact fun _ given => .inr given
  case star =>
    intro body rounds _ _ ih
    rw [Node.kindsOf_flatten]
    exact Language.join_mem_kstar (List.forall_mem_map.2 ih)
  case nil => exact Language.nil_mem_one
  case cons =>
    intro m nodes ms parts _ _ ih ihOthers
    rw [mem_prod_map_cons, List.flatten_cons, Node.kindsOf_append]
    exact ⟨_, ih, _, ihOthers, rfl⟩

end Grammar

end OrderedChoice
