import OrderedChoice.Diagnostics
import OrderedChoice.Matcher.Nullable
import OrderedChoice.Registry

/-!
# Validation of grammars

What is wrong with a grammar, seen from a root structure: references to structures that are not
registered, registered structures that cannot be reached, repetitions that need not consume
anything, and structures that can lead back to themselves before anything is consumed. The last two
would make a match halt.
-/

namespace OrderedChoice

/-! ## Reachability -/

/-- Adds the structures whose names are not yet taken, in order. -/
def addUnknown (known : List Structure) : List Structure → List Structure
  | [] => []
  | target :: targets =>
    if (known.map (·.name)).contains target.name then addUnknown known targets
    else target :: addUnknown (known ++ [target]) targets

/-- Visits the pending structures in turn, and appends those that they refer to. -/
def exploreFrom (g : Grammar) :
    Nat → List Structure → List Structure → Except TooFewParts (List Structure)
  | _, visited, [] => .ok visited
  | 0, visited, pending => .ok (visited ++ pending)
  | fuel + 1, visited, target :: pending =>
    match g.body target with
    | .error fault => .error fault
    | .ok body =>
      exploreFrom g fuel (visited ++ [target])
        (pending ++ addUnknown (visited ++ target :: pending) body.references)

/-- The structures that a root reaches, nearest first, the first of each name. -/
def Grammar.reachable (g : Grammar) (root : Structure) : Except TooFewParts (List Structure) :=
  exploreFrom g (g.referenceCount + 1) [] [root]

/-! ## Cycles -/

/-- The part of a path, given from its end, that starts at a name. -/
def pathFrom (name : String) (path : List String) : List String :=
  (path.takeWhile (· != name) ++ [name]).reverse

/-- Follows the edges to the given names in order, until one closes a cycle. The path is given from
its end. -/
def followEdges (search : List String → List String → String → Option (List String) × List String)
    (path : List String) : List String → List String → Option (List String) × List String
  | visited, [] => (none, visited)
  | visited, name :: names =>
    if path.contains name then (some (pathFrom name path), visited)
    else match search path visited name with
      | (some cycle, visited) => (some cycle, visited)
      | (none, visited) => followEdges search path visited names

/-- Depth-first search for a cycle from a name, on paths of at most `fuel` more names; also the
names visited. -/
def searchCycle (successors : String → List String) :
    Nat → List String → List String → String → Option (List String) × List String
  | 0, _, visited, _ => (none, visited)
  | fuel + 1, path, visited, current =>
    if visited.contains current then (none, visited)
    else
      followEdges (searchCycle successors fuel) (current :: path) (current :: visited)
        (successors current)

/-- The cycles found from each name in turn, without names that an earlier cycle covers. -/
def disjointCycles (find : String → Option (List String)) :
    List String → List String → List (List String)
  | _, [] => []
  | covered, start :: starts =>
    if covered.contains start then disjointCycles find covered starts
    else match find start with
      | none => disjointCycles find covered starts
      | some cycle =>
        if cycle.any covered.contains then disjointCycles find covered starts
        else cycle :: disjointCycles find (covered ++ cycle) starts

/-- A graph over names: each name with its successors. -/
abbrev NameGraph := List (String × List String)

namespace NameGraph

def successors (graph : NameGraph) (name : String) : List String :=
  (graph.lookup name).getD []

/-- An edge leads from a name to each of its successors. -/
def Edge (graph : NameGraph) (a b : String) : Prop :=
  b ∈ graph.successors a

/-- Cycles of the graph that have no name in common. -/
def cycles (graph : NameGraph) : List (List String) :=
  let names := graph.map (·.1)
  let size := names.length + (graph.flatMap (·.2)).length
  disjointCycles (fun start => (searchCycle graph.successors (size + 1) [] [] start).1) [] names

end NameGraph

/-! ## Findings -/

/-- A cycle as a chain of names that ends where it starts. -/
def chainText (cycle : List String) : String :=
  " -> ".intercalate ((cycle ++ cycle.head?.toList).map fun name => "`" ++ name ++ "`")

/-- The bodies of some structures, under their names. -/
def namedBodies (g : Grammar) : List Structure → Except TooFewParts (List (String × Matcher))
  | [] => .ok []
  | target :: targets =>
    match g.body target with
    | .error fault => .error fault
    | .ok body => (namedBodies g targets).map ((target.name, body) :: ·)

/-- Which structures can be entered first from each of some bodies. -/
def leadingGraph (bodies : List (String × Matcher)) : NameGraph :=
  bodies.map fun (name, body) => (name, (body.leading.map (·.name)).eraseDups)

namespace Registry

/-- The registered structures, and after them the reachable ones of other names. -/
def known (registry : Registry) (reachable : List Structure) : List Structure :=
  registry.structures ++ reachable.filter fun target => !registry.contains target.name

/-- The findings of a grammar whose reachable structures and known bodies are given. -/
def findings (registry : Registry) (reachable : List Structure) (bodies : List (String × Matcher)) :
    List (Finding × String) :=
  ((reachable.filter fun target => !registry.contains target.name).map fun target =>
      (.unregisteredStructure, target.name)) ++
    ((registry.names.filter fun name => !(reachable.map (·.name)).contains name).map fun name =>
      (.unreachableStructure, name)) ++
    ((bodies.filter fun (_, body) => body.hasNullableRepetition).map fun (name, _) =>
      (.nullableRepetition, name)) ++
    (leadingGraph bodies).cycles.map fun cycle => (.leftRecursion, chainText cycle)

/-- What is wrong with the grammar from a root on. A malformed body ends the validation. -/
def validate (registry : Registry) (g : Grammar) (root : String) : Except TooFewParts Diagnostics :=
  match registry.get? root with
  | none => .ok (.ofOne ((Diagnostic.about .undefinedStructure none).withDetail root))
  | some start =>
    match g.reachable start with
    | .error fault => .error fault
    | .ok reachable =>
      (namedBodies g (registry.known reachable)).map fun bodies =>
        ⟨(registry.findings reachable bodies).map fun (finding, detail) =>
          (Diagnostic.about finding none).withDetail detail⟩

end Registry

end OrderedChoice
