import OrderedChoice.Matcher

/-!
# Parse forests

A forest is a list of nodes: leaves are statements with their index in the input, branches are
matched structures with the nodes below them. A branch is grown as an `OpenNode` before it is known
whether its structure matches.
-/

namespace OrderedChoice

/-- A node of a parse forest. -/
inductive Node where
  | leaf (statement : Statement) (index : Nat)
  | branch (target : Structure) (children : List Node)

/-- A matched structure with what was matched below it. -/
structure Branch where
  target : Structure
  children : List Node

/-- A branch that is still growing. -/
structure OpenNode where
  target : Structure
  children : Array Node

namespace OpenNode

def empty (target : Structure) : OpenNode :=
  ⟨target, #[]⟩

def size (node : OpenNode) : Nat :=
  node.children.size

/-- Adds a child at the end. -/
def push (node : OpenNode) (child : Node) : OpenNode :=
  { node with children := node.children.push child }

/-- Drops the children after the first `size`. -/
def truncate (node : OpenNode) (size : Nat) : OpenNode :=
  { node with children := node.children.shrink size }

/-- The branch as grown so far. -/
def toBranch (node : OpenNode) : Branch :=
  ⟨node.target, node.children.toList⟩

/-- The node as grown so far. -/
def toNode (node : OpenNode) : Node :=
  .branch node.target node.children.toList

@[simp] theorem target_push (node : OpenNode) (child : Node) :
    (node.push child).target = node.target := rfl

@[simp] theorem target_truncate (node : OpenNode) (size : Nat) :
    (node.truncate size).target = node.target := rfl

@[simp] theorem children_push (node : OpenNode) (child : Node) :
    (node.push child).children.toList = node.children.toList ++ [child] := by
  simp [push]

@[simp] theorem children_truncate (node : OpenNode) (size : Nat) :
    (node.truncate size).children.toList = node.children.toList.take size := by
  simp [truncate]

end OpenNode

namespace Node

/-! ## Nodes and forests -/

mutual

/-- The statements of a node, in input order. -/
def statements : Node → List Statement
  | .leaf statement _ => [statement]
  | .branch _ children => statementsOf children

/-- The statements of a forest, in input order. -/
def statementsOf : List Node → List Statement
  | [] => []
  | node :: nodes => node.statements ++ statementsOf nodes

end

mutual

/-- The first statement of a node. -/
def first? : Node → Option Statement
  | .leaf statement _ => some statement
  | .branch _ children => firstOf? children

/-- The first statement of a forest. -/
def firstOf? : List Node → Option Statement
  | [] => none
  | node :: nodes => node.first?.or (firstOf? nodes)

end

mutual

/-- The last statement of a node. -/
def last? : Node → Option Statement
  | .leaf statement _ => some statement
  | .branch _ children => lastOf? children

/-- The last statement of a forest. -/
def lastOf? : List Node → Option Statement
  | [] => none
  | node :: nodes => (lastOf? nodes).or node.last?

end

mutual

/-- The branches of a node, itself included, whose structure has the name: outer ones before those
inside them. -/
def named (name : String) : Node → List Branch
  | .leaf _ _ => []
  | .branch target children =>
    if target.name = name then ⟨target, children⟩ :: namedIn name children
    else namedIn name children

/-- The branches of a forest whose structure has the name. -/
def namedIn (name : String) : List Node → List Branch
  | [] => []
  | node :: nodes => node.named name ++ namedIn name nodes

end

theorem statementsOf_eq_flatMap (nodes : List Node) :
    statementsOf nodes = nodes.flatMap statements := by
  induction nodes with
  | nil => rfl
  | cons node nodes ih => simp [statementsOf, ih]

theorem statementsOf_append (a b : List Node) :
    statementsOf (a ++ b) = statementsOf a ++ statementsOf b := by
  simp [statementsOf_eq_flatMap]

mutual

/-- The first statement is the head of all statements. -/
theorem first?_eq : ∀ node : Node, node.first? = node.statements.head?
  | .leaf _ _ => rfl
  | .branch _ children => firstOf?_eq children

theorem firstOf?_eq : ∀ nodes : List Node, firstOf? nodes = (statementsOf nodes).head?
  | [] => rfl
  | node :: nodes => by
    rw [firstOf?, statementsOf, first?_eq node, firstOf?_eq nodes, List.head?_append]

end

mutual

/-- The last statement is the last of all statements. -/
theorem last?_eq : ∀ node : Node, node.last? = node.statements.getLast?
  | .leaf _ _ => rfl
  | .branch _ children => lastOf?_eq children

theorem lastOf?_eq : ∀ nodes : List Node, lastOf? nodes = (statementsOf nodes).getLast?
  | [] => rfl
  | node :: nodes => by
    rw [lastOf?, statementsOf, last?_eq node, lastOf?_eq nodes, List.getLast?_append]

end

end Node

namespace Branch

/-- All statements below the branch, in input order. -/
def statements (branch : Branch) : List Statement :=
  Node.statementsOf branch.children

def first? (branch : Branch) : Option Statement :=
  Node.firstOf? branch.children

def last? (branch : Branch) : Option Statement :=
  Node.lastOf? branch.children

/-- The branches below this one whose structure has the name. -/
def findAll (branch : Branch) (name : String) : List Branch :=
  Node.namedIn name branch.children

end Branch

end OrderedChoice
