import OrderedChoice.Grammar
import OrderedChoice.Matcher.Rendering

/-!
# Registries

The structures that make up a grammar, by name and in the order they were registered. Matching needs
no registry, for structures refer to each other; documentation, cross references and validation do.
No two structures of a registry have one name.
-/

namespace OrderedChoice

/-- A structure of that name is already registered. -/
structure DuplicateStructure where
  name : String
deriving DecidableEq, Repr

def DuplicateStructure.message (fault : DuplicateStructure) : String :=
  "structure `" ++ fault.name ++ "` is already registered"

/-- Structures of different names. -/
structure Registry where
  structures : List Structure
  names_nodup : (structures.map (·.name)).Nodup

namespace Registry

def empty : Registry :=
  ⟨[], List.nodup_nil⟩

def names (registry : Registry) : List String :=
  registry.structures.map (·.name)

/-- The structure of a name. -/
def get? (registry : Registry) (name : String) : Option Structure :=
  registry.structures.find? (·.name = name)

def contains (registry : Registry) (name : String) : Bool :=
  registry.names.contains name

def size (registry : Registry) : Nat :=
  registry.structures.length

/-- Adds a structure at the end, unless its name is taken. -/
def register (registry : Registry) (target : Structure) : Except DuplicateStructure Registry :=
  if h : target.name ∈ registry.structures.map (·.name) then .error ⟨target.name⟩
  else .ok ⟨registry.structures ++ [target], by
    rw [List.map_append, List.nodup_append]
    refine ⟨registry.names_nodup, by simp, fun a ha b hb => ?_⟩
    rintro rfl
    rw [List.map_singleton, List.mem_singleton] at hb
    exact h (hb ▸ ha)⟩

/-- Registers structures one after the other, up to the first whose name is taken. -/
def registerAll (registry : Registry) : List Structure → Except DuplicateStructure Registry
  | [] => .ok registry
  | target :: targets =>
    match registry.register target with
    | .ok registry => registry.registerAll targets
    | .error fault => .error fault

/-- The registry of some structures. -/
def ofList (targets : List Structure) : Except DuplicateStructure Registry :=
  empty.registerAll targets

/-- What a call answers, and the registry that there is afterwards. -/
def attempt (registry : Registry) (target : Structure) :
    Except DuplicateStructure Unit × Registry :=
  match registry.register target with
  | .ok after => (.ok (), after)
  | .error fault => (.error fault, registry)

/-- Calls one after the other, whatever becomes of each: their answers, and the registry
afterwards. -/
def attemptAll (registry : Registry) :
    List Structure → List (Except DuplicateStructure Unit) × Registry
  | [] => ([], registry)
  | target :: targets =>
    let call := registry.attempt target
    let calls := call.2.attemptAll targets
    (call.1 :: calls.1, calls.2)

/-- The names of the registered structures in a list. -/
def inspect (registry : Registry) : String :=
  Text.bracketed (registry.names.map Text.quoted)

/-! ## Cross references -/

/-- What each structure refers to, each name once, in the order of its body. -/
def dependencies (registry : Registry) (g : Grammar) :
    Except TooFewParts (List (String × List String)) :=
  registry.structures.mapM fun target => do
    return (target.name, (← g.body target).mentions.eraseDups)

/-- The names of the structures that refer to a structure of the given name. -/
def dependents (registry : Registry) (g : Grammar) (name : String) :
    Except TooFewParts (List String) := do
  let users ← registry.structures.filterM fun target => do
    return (← g.body target).mentions.contains ("structure/" ++ name)
  return users.map (·.name)

/-! ## Documentation -/

/-- The railroad diagram of the structure of a name. -/
def railroad? (registry : Registry) (g : Grammar) (name : String) :
    Except TooFewParts (Option String) :=
  match registry.get? name with
  | some target => (g.body target).map fun body => some body.railroad
  | none => .ok none

/-- The EBNF rule of a structure. -/
def ebnfRule (g : Grammar) (target : Structure) : Except TooFewParts String :=
  (g.body target).map fun body => target.name ++ " ::= " ++ body.ebnf

/-- The EBNF rule of the structure of a name. -/
def ebnfRule? (registry : Registry) (g : Grammar) (name : String) :
    Except TooFewParts (Option String) :=
  match registry.get? name with
  | some target => (ebnfRule g target).map some
  | none => .ok none

/-- The EBNF rules of all structures, one a line. -/
def ebnf (registry : Registry) (g : Grammar) : Except TooFewParts String :=
  (registry.structures.mapM (ebnfRule g)).map ("\n".intercalate ·)

theorem get?_empty (name : String) : empty.get? name = none := rfl

theorem contains_iff {registry : Registry} {name : String} :
    registry.contains name = true ↔ ∃ target ∈ registry.structures, target.name = name := by
  simp [contains, names]

/-- A name is contained exactly if a structure can be got under it. -/
theorem isSome_get? (registry : Registry) (name : String) :
    (registry.get? name).isSome = registry.contains name := by
  rw [Bool.eq_iff_iff, contains_iff]
  simp [get?]

end Registry

end OrderedChoice
