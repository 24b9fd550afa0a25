import OrderedChoice.Matcher

/-!
# Cross references

What a matcher refers to, in the order of its text and with repetitions. Structures are listed by
name and not followed, so the lists are finite for recursive grammars too.
-/

namespace OrderedChoice.Matcher

mutual

/-- The qualified names of the structures and kinds that the matcher mentions. -/
def mentions : Matcher → List String
  | .statement kind => [kind.qualifiedName]
  | .sub target => [target.qualifiedName]
  | .optional body => body.mentions
  | .star body => body.mentions
  | .sequence first second rest => first.mentions ++ (second.mentions ++ mentionsAll rest)
  | .choice first second rest => first.mentions ++ (second.mentions ++ mentionsAll rest)

def mentionsAll : List Matcher → List String
  | [] => []
  | m :: ms => m.mentions ++ mentionsAll ms

end

mutual

/-- The structures that the matcher refers to. -/
def references : Matcher → List Structure
  | .statement _ => []
  | .sub target => [target]
  | .optional body => body.references
  | .star body => body.references
  | .sequence first second rest => first.references ++ (second.references ++ referencesAll rest)
  | .choice first second rest => first.references ++ (second.references ++ referencesAll rest)

def referencesAll : List Matcher → List Structure
  | [] => []
  | m :: ms => m.references ++ referencesAll ms

end

theorem mentionsAll_eq_flatMap (ms : List Matcher) : mentionsAll ms = ms.flatMap mentions := by
  induction ms with
  | nil => rfl
  | cons m ms ih => simp [mentionsAll, ih]

theorem referencesAll_eq_flatMap (ms : List Matcher) :
    referencesAll ms = ms.flatMap references := by
  induction ms with
  | nil => rfl
  | cons m ms ih => simp [referencesAll, ih]

theorem mentions_sequence (a b : Matcher) (rest : List Matcher) :
    (sequence a b rest).mentions = (a :: b :: rest).flatMap mentions := by
  simp [mentions, mentionsAll_eq_flatMap]

theorem mentions_choice (a b : Matcher) (rest : List Matcher) :
    (choice a b rest).mentions = (a :: b :: rest).flatMap mentions := by
  simp [mentions, mentionsAll_eq_flatMap]

theorem references_sequence (a b : Matcher) (rest : List Matcher) :
    (sequence a b rest).references = (a :: b :: rest).flatMap references := by
  simp [references, referencesAll_eq_flatMap]

theorem references_choice (a b : Matcher) (rest : List Matcher) :
    (choice a b rest).references = (a :: b :: rest).flatMap references := by
  simp [references, referencesAll_eq_flatMap]

end OrderedChoice.Matcher
