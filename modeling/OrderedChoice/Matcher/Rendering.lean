import OrderedChoice.Matcher

/-!
# Railroad diagrams and EBNF

Two renderings of a matcher for documentation. Structures appear by name only. In EBNF a choice
inside a sequence and a compound operand of `?` or `*` are parenthesised, and nothing else is.
-/

namespace OrderedChoice.Matcher

/-! ## Railroad diagrams -/

/-- A box of a diagram, linked to the page of its subject. -/
def railroadBox (shape page name : String) : String :=
  "Railroad." ++ shape ++ "('" ++ name ++ "', \x7bhref: '#/" ++ page ++ "/" ++ name ++ "'\x7d)"

mutual

/-- The description of the matcher's railroad diagram. -/
def railroad : Matcher → String
  | .statement kind => railroadBox "Terminal" "statement" kind.name
  | .sub target => railroadBox "NonTerminal" "structure" target.name
  | .optional body => "Railroad.Optional(" ++ body.railroad ++ ")"
  | .star body => "Railroad.ZeroOrMore(" ++ body.railroad ++ ")"
  | .sequence first second rest =>
    "Railroad.Sequence(" ++
      ",".intercalate (first.railroad :: second.railroad :: railroads rest) ++ ")"
  | .choice first second rest =>
    "Railroad.Choice(0, " ++
      ",".intercalate (first.railroad :: second.railroad :: railroads rest) ++ ")"

def railroads : List Matcher → List String
  | [] => []
  | m :: ms => m.railroad :: railroads ms

end

/-! ## EBNF -/

def isChoice : Matcher → Bool
  | .choice .. => true
  | _ => false

/-- Whether the matcher has several parts. -/
def isCompound : Matcher → Bool
  | .choice .. | .sequence .. => true
  | _ => false

/-- The text, in parentheses if they are needed. -/
def parenthesized (needed : Bool) (text : String) : String :=
  if needed then "(" ++ text ++ ")" else text

mutual

/-- The right-hand side of the matcher's rule: structures by name, kinds in quotes. -/
def ebnf : Matcher → String
  | .statement kind => "'" ++ kind.name ++ "'"
  | .sub target => target.name
  | .optional body => parenthesized body.isCompound body.ebnf ++ "?"
  | .star body => parenthesized body.isCompound body.ebnf ++ "*"
  | .sequence first second rest =>
    " ".intercalate (parenthesized first.isChoice first.ebnf ::
      parenthesized second.isChoice second.ebnf :: ebnfOfItems rest)
  | .choice first second rest =>
    " | ".intercalate (first.ebnf :: second.ebnf :: ebnfOfBranches rest)

def ebnfOfItems : List Matcher → List String
  | [] => []
  | m :: ms => parenthesized m.isChoice m.ebnf :: ebnfOfItems ms

def ebnfOfBranches : List Matcher → List String
  | [] => []
  | m :: ms => m.ebnf :: ebnfOfBranches ms

end

/-- The matcher in one line, for inspection. -/
def inspect (m : Matcher) : String :=
  "Matcher(" ++ m.ebnf ++ ")"

theorem ebnfOfItems_eq_map (ms : List Matcher) :
    ebnfOfItems ms = ms.map fun m => parenthesized m.isChoice m.ebnf := by
  induction ms with
  | nil => rfl
  | cons m ms ih => simp [ebnfOfItems, ih]

theorem ebnfOfBranches_eq_map (ms : List Matcher) : ebnfOfBranches ms = ms.map ebnf := by
  induction ms with
  | nil => rfl
  | cons m ms ih => simp [ebnfOfBranches, ih]

theorem ebnf_sequence (a b : Matcher) (rest : List Matcher) :
    (sequence a b rest).ebnf =
      " ".intercalate ((a :: b :: rest).map fun m => parenthesized m.isChoice m.ebnf) := by
  simp [ebnf, ebnfOfItems_eq_map]

theorem ebnf_choice (a b : Matcher) (rest : List Matcher) :
    (choice a b rest).ebnf = " | ".intercalate ((a :: b :: rest).map ebnf) := by
  simp [ebnf, ebnfOfBranches_eq_map]

end OrderedChoice.Matcher
