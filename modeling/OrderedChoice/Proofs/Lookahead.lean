import OrderedChoice.Matcher.Nullable
import OrderedChoice.Proofs.Words

/-!
# Lookahead

Which kinds the words of a matcher begin with, and which kinds a longer word has where a shorter one
ends. In a predictive matcher the next kind decides each choice and the end of each repetition.
Whether a grammar is predictive can be computed (`Grammar.isPredictive`).
-/

namespace OrderedChoice

/-- What the words of each structure begin with, and what they can go on with. -/
structure Lookahead where
  starts : Structure → List Kind
  continues : Structure → List Kind

/-- No kind is in both lists. -/
def apart (a b : List Kind) : Bool :=
  a.all fun kind => !b.contains kind

theorem not_mem_of_apart {a b : List Kind} (h : apart a b = true) {kind : Kind}
    (member : kind ∈ a) : kind ∉ b := by
  intro both
  have outside := List.all_eq_true.1 h kind member
  rw [List.contains_iff_mem.2 both] at outside
  cases outside

namespace Matcher

variable (look : Lookahead)

mutual

/-- The kinds that words of the matcher begin with. -/
def starts : Matcher → List Kind
  | .statement kind => [kind]
  | .sub target => look.starts target
  | .optional body => body.starts
  | .star body => body.starts
  | .sequence first second rest =>
    first.starts ++ if first.nullable then
      second.starts ++ if second.nullable then startsInTurn rest else []
    else []
  | .choice first second rest => first.starts ++ (second.starts ++ startsOfAny rest)

def startsInTurn : List Matcher → List Kind
  | [] => []
  | m :: ms => m.starts ++ if m.nullable then startsInTurn ms else []

def startsOfAny : List Matcher → List Kind
  | [] => []
  | m :: ms => m.starts ++ startsOfAny ms

end

mutual

/-- The kinds that a longer word of the matcher has where a shorter one ends. -/
def continues : Matcher → List Kind
  | .statement _ => []
  | .sub target => look.continues target
  | .optional body => body.starts look ++ body.continues
  | .star body => body.starts look ++ body.continues
  | .sequence first second rest =>
    (if second.nullable && allNullable rest then first.continues else []) ++
      ((if allNullable rest then second.continues else []) ++ continuesInTurn rest)
  | .choice first second rest => first.continues ++ (second.continues ++ continuesOfAny rest)

def continuesInTurn : List Matcher → List Kind
  | [] => []
  | m :: ms => (if allNullable ms then m.continues else []) ++ continuesInTurn ms

def continuesOfAny : List Matcher → List Kind
  | [] => []
  | m :: ms => m.continues ++ continuesOfAny ms

end

mutual

/-- Whether the next kind decides how the matcher goes on: another round of a repetition or what
follows it, one part of a sequence or the next, and each branch of a choice. -/
def predictive : Matcher → Bool
  | .statement _ => true
  | .sub _ => true
  | .optional body => body.predictive
  | .star body => apart (body.continues look) (body.starts look) && body.predictive
  | .sequence first second rest =>
    apart (first.continues look) (startsInTurn look (second :: rest)) && (first.predictive &&
      (apart (second.continues look) (startsInTurn look rest) &&
        (second.predictive && predictiveInTurn rest)))
  | .choice first second rest =>
    !first.nullable && (apart (first.starts look) (startsOfAny look (second :: rest)) &&
      (first.predictive && (!second.nullable &&
        (apart (second.starts look) (startsOfAny look rest) &&
          (second.predictive && predictiveOfAny rest)))))

def predictiveInTurn : List Matcher → Bool
  | [] => true
  | m :: ms =>
    apart (m.continues look) (startsInTurn look ms) && (m.predictive && predictiveInTurn ms)

def predictiveOfAny : List Matcher → Bool
  | [] => true
  | m :: ms => !m.nullable &&
      (apart (m.starts look) (startsOfAny look ms) && (m.predictive && predictiveOfAny ms))

end

variable {look} (a b : Matcher) (rest : List Matcher)

theorem starts_sequence : (sequence a b rest).starts look = startsInTurn look (a :: b :: rest) := by
  rw [starts, startsInTurn, startsInTurn]

theorem starts_choice : (choice a b rest).starts look = startsOfAny look (a :: b :: rest) := by
  rw [starts, startsOfAny, startsOfAny]

theorem continues_sequence :
    (sequence a b rest).continues look = continuesInTurn look (a :: b :: rest) := by
  rw [continues, continuesInTurn, continuesInTurn, allNullable]

theorem continues_choice :
    (choice a b rest).continues look = continuesOfAny look (a :: b :: rest) := by
  rw [continues, continuesOfAny, continuesOfAny]

theorem predictive_sequence :
    (sequence a b rest).predictive look = predictiveInTurn look (a :: b :: rest) := by
  rw [predictive, predictiveInTurn, predictiveInTurn]

theorem predictive_choice :
    (choice a b rest).predictive look = predictiveOfAny look (a :: b :: rest) := by
  rw [predictive, predictiveOfAny, predictiveOfAny]

theorem predictiveInTurn_cons_iff {m : Matcher} {ms : List Matcher} :
    predictiveInTurn look (m :: ms) = true ↔
    apart (m.continues look) (startsInTurn look ms) = true ∧ m.predictive look = true ∧
      predictiveInTurn look ms = true := by
  rw [predictiveInTurn, Bool.and_eq_true_iff, Bool.and_eq_true_iff]

theorem predictiveOfAny_cons_iff {m : Matcher} {ms : List Matcher} :
    predictiveOfAny look (m :: ms) = true ↔
    m.nullable = false ∧ apart (m.starts look) (startsOfAny look ms) = true ∧
    m.predictive look = true ∧ predictiveOfAny look ms = true := by
  rw [predictiveOfAny, Bool.and_eq_true_iff, Bool.and_eq_true_iff, Bool.and_eq_true_iff,
    Bool.not_eq_true_eq_eq_false]

/-- The branches of a predictive choice consume something. -/
theorem any_nullable_eq_false {ms : List Matcher} (h : predictiveOfAny look ms = true) :
    ms.any nullable = false := by
  induction ms with
  | nil => rfl
  | cons m ms ih =>
    obtain ⟨nonempty, _, _, others⟩ := predictiveOfAny_cons_iff.1 h
    rw [List.any_cons, nonempty, ih others, Bool.or_false]

end Matcher

/-! ## Grammars -/

/-- The lookahead knows each structure as well as its body, and the bodies are predictive. -/
structure Lookahead.Fits (look : Lookahead) (g : Grammar) : Prop where
  starts : ∀ {s : Structure} {m : Matcher}, g.body s = .ok m → m.starts look ⊆ look.starts s
  continues :
      ∀ {s : Structure} {m : Matcher}, g.body s = .ok m → m.continues look ⊆ look.continues s
  predictive : ∀ {s : Structure} {m : Matcher}, g.body s = .ok m → m.predictive look = true

namespace Grammar

variable {g : Grammar}

/-- The lookahead that follows from bodies inside each other, so many deep. -/
def lookahead (g : Grammar) : Nat → Lookahead
  | 0 => ⟨fun _ => [], fun _ => []⟩
  | depth + 1 => {
      starts := fun s => match g.body s with
        | .ok m => m.starts (g.lookahead depth)
        | .error _ => []
      continues := fun s => match g.body s with
        | .ok m => m.continues (g.lookahead depth)
        | .error _ => [] }

/-- Whether deeper bodies add nothing to the lookahead, and all bodies are predictive under it. -/
def isPredictive (g : Grammar) (depth : Nat) : Bool :=
  g.rules.all fun rule => match rule.body with
    | .ok m =>
      (m.starts (g.lookahead (depth + 1))).all (m.starts (g.lookahead depth)).contains &&
        ((m.continues (g.lookahead (depth + 1))).all (m.continues (g.lookahead depth)).contains &&
          m.predictive (g.lookahead (depth + 1)))
    | .error _ => true

theorem exists_rule_of_body {s : Structure} {m : Matcher} (h : g.body s = .ok m) :
    ∃ rule ∈ g.rules, rule.body = .ok m := by
  rw [body] at h
  cases found : g.rule? s.id with
  | none =>
    rw [found] at h
    cases h
  | some rule =>
    rw [found] at h
    exact ⟨rule, List.mem_of_find?_eq_some found, h⟩

theorem subset_of_all_contains {a b : List Kind} (h : a.all b.contains = true) : a ⊆ b :=
  fun kind member => List.contains_iff_mem.1 (List.all_eq_true.1 h kind member)

/-- A grammar that is predictive has a lookahead that fits. -/
theorem fits_lookahead {depth : Nat} (h : g.isPredictive depth = true) :
    (g.lookahead (depth + 1)).Fits g := by
  have checked : ∀ {s m}, g.body s = .ok m →
      m.starts (g.lookahead (depth + 1)) ⊆ m.starts (g.lookahead depth) ∧
      m.continues (g.lookahead (depth + 1)) ⊆ m.continues (g.lookahead depth) ∧
      m.predictive (g.lookahead (depth + 1)) = true := by
    intro s m body
    obtain ⟨rule, member, isBody⟩ := exists_rule_of_body body
    have passed := List.all_eq_true.1 h rule member
    rw [isBody] at passed
    obtain ⟨starts, others⟩ := Bool.and_eq_true_iff.1 passed
    obtain ⟨continues, predictive⟩ := Bool.and_eq_true_iff.1 others
    exact ⟨subset_of_all_contains starts, subset_of_all_contains continues, predictive⟩
  constructor
  · intro s m body
    have known : (g.lookahead (depth + 1)).starts s = m.starts (g.lookahead depth) := by
      simp only [lookahead, body]
    exact known ▸ (checked body).1
  · intro s m body
    have known : (g.lookahead (depth + 1)).continues s = m.continues (g.lookahead depth) := by
      simp only [lookahead, body]
    exact known ▸ (checked body).2.1
  · exact fun body => (checked body).2.2

end Grammar

/-! ## How words begin -/

/-- Words that begin with one of the kinds, and the empty word if it is allowed. -/
def opening (nullable : Bool) (starts : List Kind) : FormalLanguage Kind :=
  {word | (word = [] → nullable = true) ∧ ∀ kind ∈ word.head?, kind ∈ starts}

theorem opening_mono {nullable nullable' : Bool} {starts starts' : List Kind}
    (nulls : nullable = true → nullable' = true) (subset : starts ⊆ starts') :
    opening nullable starts ≤ opening nullable' starts' :=
  fun _ h => ⟨fun empty => nulls (h.1 empty), fun kind member => subset (h.2 kind member)⟩

theorem nil_mem_opening (starts : List Kind) : [] ∈ opening true starts :=
  ⟨fun _ => rfl, nofun⟩

theorem append_mem_opening {nullable nullable' : Bool} {starts starts' word word' : List Kind}
    (h : word ∈ opening nullable starts) (h' : word' ∈ opening nullable' starts') :
    word ++
    word' ∈ opening (nullable && nullable') (starts ++ if nullable then starts' else []) := by
  cases word with
  | nil =>
    rw [h.1 rfl]
    exact opening_mono id (List.subset_append_right _ _) h'
  | cons kind word => exact ⟨nofun, fun _ head => List.mem_append_left _ (h.2 _ head)⟩

section

variable {look : Lookahead} {g : Grammar} {language : Matcher → FormalLanguage Kind}
    {ms : List Matcher}

theorem prod_le_opening (each : ∀ m ∈ ms, language m ≤ opening m.nullable (m.starts look)) :
    (ms.map language).prod ≤ opening (ms.all Matcher.nullable) (Matcher.startsInTurn look ms) := by
  induction ms with
  | nil =>
    rintro _ rfl
    exact nil_mem_opening _
  | cons m ms ih =>
    obtain ⟨ofFirst, ofOthers⟩ := List.forall_mem_cons.1 each
    intro word member
    obtain ⟨first, isFirst, others, areOthers, rfl⟩ := mem_prod_map_cons.1 member
    exact append_mem_opening (ofFirst isFirst) (ih ofOthers areOthers)

theorem sum_le_opening (each : ∀ m ∈ ms, language m ≤ opening m.nullable (m.starts look)) :
    (ms.map language).sum ≤ opening (ms.any Matcher.nullable) (Matcher.startsOfAny look ms) := by
  induction ms with
  | nil => exact fun _ => nofun
  | cons m ms ih =>
    obtain ⟨ofFirst, ofOthers⟩ := List.forall_mem_cons.1 each
    intro word member
    rw [List.map_cons, List.sum_cons] at member
    rcases member with first | others
    · exact opening_mono (fun null => Bool.or_eq_true_iff.2 (.inl null))
        (List.subset_append_left _ _) (ofFirst first)
    · exact opening_mono (fun null => Bool.or_eq_true_iff.2 (.inr null))
        (List.subset_append_right _ _)
        (ih ofOthers others)

theorem wordsOver_le_opening (look : Lookahead) (m : Matcher) :
    m.wordsOver (fun s => opening false (look.starts s)) ≤ opening m.nullable (m.starts look) := by
  induction m with
  | statement kind =>
    rintro _ rfl
    exact ⟨nofun, fun _ head => List.mem_singleton.2 (Option.some.inj head).symm⟩
  | sub target => exact le_refl _
  | optional body ih =>
    rintro word (rfl | given)
    · exact nil_mem_opening _
    · exact opening_mono (fun _ => rfl) (List.Subset.refl _) (ih given)
  | star body ih =>
    intro word member
    rcases eq_nil_or_of_mem_kstar member with rfl | ⟨first, isFirst, nonempty, others, _, rfl⟩
    · exact nil_mem_opening _
    · refine ⟨fun _ => rfl, fun kind head => (ih isFirst).2 kind ?_⟩
      rwa [List.head?_append_of_ne_nil _ nonempty] at head
  | sequence a b rest ih =>
    rw [Matcher.wordsOver_sequence, Matcher.nullable_sequence, Matcher.starts_sequence]
    exact prod_le_opening ih
  | choice a b rest ih =>
    rw [Matcher.wordsOver_choice, Matcher.nullable_choice, Matcher.starts_choice]
    exact sum_le_opening ih

/-- Words of derivations begin as the lookahead says. -/
theorem Lookahead.Fits.words_le_opening (fits : look.Fits g) (m : Matcher) :
    g.words m ≤ opening m.nullable (m.starts look) := by
  refine le_trans (Grammar.words_le_wordsOver ?_ m) (wordsOver_le_opening look m)
  rintro s m body word ⟨member, nonempty⟩
  have opens := wordsOver_le_opening look m member
  exact ⟨fun empty => absurd empty nonempty, fun kind head => fits.starts body (opens.2 kind head)⟩

/-- A structure whose body consumes something has the words of its body. -/
theorem Lookahead.Fits.words_sub (fits : look.Fits g) {target : Structure} {m : Matcher}
    (body : g.body target = .ok m) (consumes : m.nullable = false) :
    g.words (.sub target) = g.words m := by
  ext word
  rw [Grammar.words_sub body, Language.mem_sub, Language.mem_one, and_iff_left_iff_imp]
  rintro member rfl
  cases consumes.symm.trans ((fits.words_le_opening m member).1 rfl)

end

end OrderedChoice
