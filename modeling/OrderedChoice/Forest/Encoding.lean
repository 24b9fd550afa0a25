import OrderedChoice.Forest

/-!
# Forests as JSON and as records
-/

namespace OrderedChoice

open Text

namespace Node

mutual

/-- A leaf as its kind, text and row; a branch as its structure and children. -/
def json : Node → Json
  | .leaf statement _ => .object [("statement", .text statement.kind.name),
      ("text", .text statement.text), ("row", .number statement.row)]
  | .branch target children =>
    .object [("structure", .text target.name), ("children", .list (jsonOf children))]

def jsonOf : List Node → List Json
  | [] => []
  | node :: nodes => node.json :: jsonOf nodes

end

mutual

/-- All fields of the node in one line. -/
def inspect : Node → String
  | .leaf statement index => "Statement(" ++ record "StatementNode"
      [("statement", statement.inspect), ("index", toString index)] ++ ")"
  | .branch target children => "Structure(" ++ record "StructureNode"
      [("structure", quoted target.name), ("children", bracketed (inspectAll children))] ++ ")"

def inspectAll : List Node → List String
  | [] => []
  | node :: nodes => node.inspect :: inspectAll nodes

end

end Node

namespace Branch

def json (branch : Branch) : Json :=
  .object [("structure", .text branch.target.name),
    ("children", .list (Node.jsonOf branch.children))]

/-- All fields of the branch in one line. -/
def inspect (branch : Branch) : String :=
  record "StructureNode"
    [("structure", quoted branch.target.name),
      ("children", bracketed (Node.inspectAll branch.children))]

end Branch

end OrderedChoice
