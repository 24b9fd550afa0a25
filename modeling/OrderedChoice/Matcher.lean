import OrderedChoice.Statement

/-!
# Matchers

A matcher describes lists of statements by ordered choice: the first alternative that succeeds is
taken, and a repetition takes as much as it can. Sequences and choices have at least two parts,
which the type keeps: a list of parts becomes a matcher through `Matcher.ofSequence` and
`Matcher.ofChoice`.
-/

namespace OrderedChoice

/-- A named part of a grammar. Messages and forests show the name; the identifier tells apart
structures that share a name. -/
structure Structure where
  id : String
  name : String
deriving DecidableEq, Repr

namespace Structure

/-- The name of the structure in cross references. -/
def qualifiedName (target : Structure) : String :=
  "structure/" ++ target.name

/-- The structure as messages ask for it. -/
def expectedName (target : Structure) : String :=
  Text.toUpperCase target.name

end Structure

/-- A matcher over statements. -/
inductive Matcher where
  /-- Exactly one statement of the kind. -/
  | statement (kind : Kind)
  /-- Another structure, as a node of its own. -/
  | sub (target : Structure)
  /-- The body, or nothing. -/
  | optional (body : Matcher)
  /-- The body, zero or more times. -/
  | star (body : Matcher)
  /-- All parts in order. -/
  | sequence (first second : Matcher) (rest : List Matcher)
  /-- The first part that succeeds. -/
  | choice (first second : Matcher) (rest : List Matcher)

/-- The combinators that need at least two parts. -/
inductive Combinator where
  | sequence
  | choice
deriving DecidableEq, Repr

def Combinator.name : Combinator → String
  | sequence => "Sequence"
  | choice => "Alternative"

/-- A combinator was given too few parts. -/
structure TooFewParts where
  combinator : Combinator
  count : Nat
deriving DecidableEq, Repr

def TooFewParts.message (fault : TooFewParts) : String :=
  fault.combinator.name ++ " needs at least two sub-matchers, got " ++ toString fault.count

namespace Matcher

/-- The sequence of the given parts, of which there must be two. -/
def ofSequence : List Matcher → Except TooFewParts Matcher
  | first :: second :: rest => .ok (.sequence first second rest)
  | parts => .error ⟨.sequence, parts.length⟩

/-- The ordered choice between the given parts, of which there must be two. -/
def ofChoice : List Matcher → Except TooFewParts Matcher
  | first :: second :: rest => .ok (.choice first second rest)
  | parts => .error ⟨.choice, parts.length⟩

/-- The begin, then the body, then the end. -/
def enclosed (opening body closing : Matcher) : Matcher :=
  .sequence opening body [closing]

/-- A list is a sequence exactly if it has two parts or more. -/
theorem ofSequence_eq_ok_iff {parts : List Matcher} {m : Matcher} :
    ofSequence parts = .ok m ↔ ∃ a b rest, parts = a :: b :: rest ∧ m = .sequence a b rest := by
  match parts with
  | [] => simp [ofSequence]
  | [_] => simp [ofSequence]
  | a :: b :: rest =>
    simp only [ofSequence, Except.ok.injEq, List.cons.injEq]
    constructor
    · rintro rfl
      exact ⟨a, b, rest, ⟨rfl, rfl, rfl⟩, rfl⟩
    · rintro ⟨_, _, _, ⟨rfl, rfl, rfl⟩, rfl⟩
      rfl

/-- A list is a choice exactly if it has two parts or more. -/
theorem ofChoice_eq_ok_iff {parts : List Matcher} {m : Matcher} :
    ofChoice parts = .ok m ↔ ∃ a b rest, parts = a :: b :: rest ∧ m = .choice a b rest := by
  match parts with
  | [] => simp [ofChoice]
  | [_] => simp [ofChoice]
  | a :: b :: rest =>
    simp only [ofChoice, Except.ok.injEq, List.cons.injEq]
    constructor
    · rintro rfl
      exact ⟨a, b, rest, ⟨rfl, rfl, rfl⟩, rfl⟩
    · rintro ⟨_, _, _, ⟨rfl, rfl, rfl⟩, rfl⟩
      rfl

/-- Induction over matchers, with the parts of a sequence or choice as one list. -/
@[elab_as_elim, induction_eliminator]
theorem inductionOnParts {motive : Matcher → Prop}
    (statement : ∀ kind, motive (.statement kind)) (sub : ∀ target, motive (.sub target))
    (optional : ∀ body, motive body → motive (.optional body))
    (star : ∀ body, motive body → motive (.star body))
    (sequence : ∀ a b rest, (∀ m ∈ a :: b :: rest, motive m) → motive (.sequence a b rest))
    (choice : ∀ a b rest, (∀ m ∈ a :: b :: rest, motive m) → motive (.choice a b rest))
    (m : Matcher) : motive m :=
  Matcher.rec (motive_1 := motive) (motive_2 := fun ms => ∀ m ∈ ms, motive m)
    statement sub optional star
    (fun a b rest ha hb hrest => sequence a b rest (by
      simp only [List.mem_cons, forall_eq_or_imp]
      exact ⟨ha, hb, hrest⟩))
    (fun a b rest ha hb hrest => choice a b rest (by
      simp only [List.mem_cons, forall_eq_or_imp]
      exact ⟨ha, hb, hrest⟩))
    (by simp) (fun _ _ h hs => by
      simp only [List.mem_cons, forall_eq_or_imp]
      exact ⟨h, hs⟩) m

/-! ## Expected names -/

mutual

/-- What a message says was expected when no part of the matcher got anywhere. -/
def expectedName : Matcher → String
  | .statement kind => kind.expectedName
  | .sub target => target.expectedName
  | .optional body => body.expectedName
  | .star body => body.expectedName
  | .sequence first _ _ => first.expectedName
  | .choice first second rest =>
    " or ".intercalate (first.expectedName :: second.expectedName :: expectedNames rest)

def expectedNames : List Matcher → List String
  | [] => []
  | m :: ms => m.expectedName :: expectedNames ms

end

theorem expectedNames_eq_map (ms : List Matcher) : expectedNames ms = ms.map expectedName := by
  induction ms with
  | nil => rfl
  | cons m ms ih => simp [expectedNames, ih]

theorem expectedName_choice (a b : Matcher) (rest : List Matcher) :
    (choice a b rest).expectedName = " or ".intercalate ((a :: b :: rest).map expectedName) := by
  simp [expectedName, expectedNames_eq_map]

end Matcher

end OrderedChoice
