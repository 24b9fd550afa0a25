import OrderedChoice.CommandLine.Match
import OrderedChoice.Validation

/-!
# Running commands

Documentation and cross references of the grammar, and the choice of what a command does.
-/

namespace OrderedChoice.CommandLine

/-- The output of a command that meets a malformed structure. -/
def orMalformed : Except TooFewParts Output → Output
  | .ok output => output
  | .error fault => haltedOutput "" (.malformedBody fault)

/-- The rule or the diagram of the structure of a name. -/
def docsOf (language : Language) (ebnf : Bool) (name : String) : Except TooFewParts Output :=
  match findStructure language.registry name with
  | .error fault => .ok fault.output
  | .ok target => do
    let text? ← if ebnf then language.registry.ebnfRule? language.grammar target.name
      else language.registry.railroad? language.grammar target.name
    return ⟨.success, lines text?.toList, ""⟩

/-- The diagram of every structure under its name. -/
def diagrams (language : Language) (palette : Palette) : Except TooFewParts String := do
  let entries ← language.registry.structures.mapM fun target => do
    return lines [palette.name target.name, (← language.grammar.body target).railroad]
  return String.join entries

/-- The rules or the diagrams of all structures. -/
def docsOfAll (language : Language) (ebnf : Bool) (palette : Palette) :
    Except TooFewParts Output := do
  if ebnf then return ⟨.success, line (← language.registry.ebnf language.grammar), ""⟩
  else return ⟨.success, ← diagrams language palette, ""⟩

/-- The structures that one structure refers to, and those that refer to it. -/
def crossReferences (language : Language) (palette : Palette) (name : String) (uses : List String) :
    Except TooFewParts String := do
  let users ← language.registry.dependents language.grammar name
  let incoming :=
    if users.isEmpty then [] else ["  " ++ palette.faint "<-" ++ " " ++ ", ".intercalate users]
  return lines (palette.name name ::
    uses.map (fun use => "  " ++ palette.faint "->" ++ " " ++ use) ++ incoming)

/-- The cross references of all structures, and what is wrong with the grammar. Strictly, a warning
is a failure too. -/
def deps (language : Language) (root : String) (strict : Bool) (palette : Palette) :
    Except TooFewParts Output := do
  let entries ← (← language.registry.dependencies language.grammar).mapM fun (name, uses) =>
    crossReferences language palette name uses
  let diagnostics ← language.registry.validate language.grammar root
  let fine := !diagnostics.has .error && !(strict && diagnostics.has .warning)
  return ⟨.ofBool fine, String.join entries,
    if diagnostics.isEmpty then "" else line diagnostics.render⟩

/-- Does what a task asks for. -/
def Task.run (task : Task) (language : Language) (surroundings : Surroundings)
    (render : Renderer) (coloured : Bool) : Output :=
  match task with
  | check request => request.check language surroundings render coloured
  | tree request json => request.tree language surroundings render json coloured
  | trace request loudness => request.trace language surroundings render loudness coloured
  | docs (some name) ebnf => orMalformed (docsOf language ebnf name)
  | docs none ebnf => orMalformed (docsOfAll language ebnf (.ofFlag coloured))
  | deps root strict => orMalformed (CommandLine.deps language root strict (.ofFlag coloured))

/-- Runs a command whose output goes to a terminal or not. -/
def Command.run (command : Command) (language : Language) (surroundings : Surroundings)
    (terminal : Bool) (render : Renderer := Excerpt.render?) : Output :=
  command.task.run language surroundings render (command.colour.applies terminal)

end OrderedChoice.CommandLine
