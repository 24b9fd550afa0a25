import OrderedChoice.Forest
import OrderedChoice.Palette

/-!
# Forests as indented text

One line a node, indented by two blanks a level: the name of a structure, or the kind of a statement
and its text in quotes.
-/

namespace OrderedChoice

/-- The blanks before a line that is nested `depth` deep. -/
def indentation (depth : Nat) : String :=
  String.ofList (List.replicate (2 * depth) ' ')

theorem toList_indentation (depth : Nat) :
    (indentation depth).toList = List.replicate (2 * depth) ' ' :=
  String.toList_ofList

namespace Node

/-- The line of a leaf. -/
def leafLine (palette : Palette) (depth : Nat) (statement : Statement) : String :=
  indentation depth ++ palette.kind statement.kind.name ++ " " ++
    palette.faint (Text.quoted statement.text) ++ "\n"

/-- The line of a branch, without those below it. -/
def branchLine (palette : Palette) (depth : Nat) (target : Structure) : String :=
  indentation depth ++ palette.name target.name ++ "\n"

mutual

/-- The lines of a node nested `depth` deep. -/
def dumpLines (palette : Palette) (depth : Nat) : Node → List String
  | .leaf statement _ => [leafLine palette depth statement]
  | .branch target children =>
    branchLine palette depth target :: dumpLinesOf palette (depth + 1) children

def dumpLinesOf (palette : Palette) (depth : Nat) : List Node → List String
  | [] => []
  | node :: nodes => node.dumpLines palette depth ++ dumpLinesOf palette depth nodes

end

theorem dumpLinesOf_eq_flatMap (palette : Palette) (depth : Nat) (nodes : List Node) :
    dumpLinesOf palette depth nodes = nodes.flatMap (dumpLines palette depth) := by
  induction nodes with
  | nil => rfl
  | cons node nodes ih => simp [dumpLinesOf, ih]

end Node

namespace Branch

/-- The branch and all below it, coloured by the palette. -/
def dumpWith (branch : Branch) (palette : Palette) : String :=
  String.join (Node.branchLine palette 0 branch.target ::
    Node.dumpLinesOf palette 1 branch.children)

/-- The branch and all below it, without colours. -/
def dump (branch : Branch) : String :=
  branch.dumpWith .plain

end Branch

end OrderedChoice
