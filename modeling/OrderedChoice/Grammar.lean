import OrderedChoice.Matcher.Reference

/-!
# Grammars

A grammar gives structures their bodies. A body is looked up, and its well-formedness noticed, only
when something asks for it: a reference to a structure asks for nothing.
-/

namespace OrderedChoice

/-- A structure and its body, or what is wrong with the description of the body. -/
structure Rule where
  target : Structure
  body : Except TooFewParts Matcher

/-- The rules of a language. The first of several rules for one identifier counts. -/
structure Grammar where
  rules : List Rule

namespace Grammar

/-- The rule for an identifier. -/
def rule? (g : Grammar) (id : String) : Option Rule :=
  g.rules.find? (·.target.id = id)

/-- The structure with an identifier. -/
def find? (g : Grammar) (id : String) : Option Structure :=
  (g.rule? id).map (·.target)

/-- The body of a structure. A structure without a rule has nothing to choose from. -/
def body (g : Grammar) (target : Structure) : Except TooFewParts Matcher :=
  match g.rule? target.id with
  | some rule => rule.body
  | none => .error ⟨.choice, 0⟩

/-- The structures that the body of a structure refers to; none if the body is malformed. -/
def successors (g : Grammar) (target : Structure) : List Structure :=
  match g.body target with
  | .ok m => m.references
  | .error _ => []

/-- A structure reaches itself and whatever the bodies of structures it reaches refer to. -/
inductive Reaches (g : Grammar) (start : Structure) : Structure → Prop where
  | refl : Reaches g start start
  | step {s t : Structure} : Reaches g start s → t ∈ g.successors s → Reaches g start t

/-- How many references the rules hold in all. -/
def referenceCount (g : Grammar) : Nat :=
  (g.rules.flatMap fun rule => match rule.body with
    | .ok m => m.references
    | .error _ => []).length

theorem Reaches.trans {g : Grammar} {a b c : Structure} (hab : g.Reaches a b)
    (hbc : g.Reaches b c) : g.Reaches a c := by
  induction hbc with
  | refl => exact hab
  | step _ ht ih => exact .step ih ht

end Grammar

end OrderedChoice
