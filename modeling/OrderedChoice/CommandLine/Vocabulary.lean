import OrderedChoice.CommandLine.Command

/-!
# The vocabulary of the command line

The verbs that start a command, and the switches, settings and operands that each of them takes. A
switch stands alone, a setting has a value, and an operand is known by its place.
-/

namespace OrderedChoice.CommandLine

/-- Options without a value. -/
inductive Switch where
  | memo
  | json
  | ebnf
  | strict
deriving DecidableEq, Repr

def Switch.name : Switch → String
  | memo => "memo"
  | json => "json"
  | ebnf => "ebnf"
  | strict => "strict"

/-- Options with a value. -/
inductive Setting where
  | root
  | fuel
  | recursion
  | colour
deriving DecidableEq, Repr

def Setting.name : Setting → String
  | root => "root"
  | fuel => "fuel"
  | recursion => "recursion-limit"
  | colour => "color"

/-- What a verb is about. -/
inductive Operand where
  | file
  | structureName
  | nothing
deriving DecidableEq, Repr

/-- The first word of a command. -/
inductive Verb where
  | check
  | tree
  | trace
  | docs
  | deps
deriving DecidableEq, Repr

namespace Verb

def all : List Verb :=
  [check, tree, trace, docs, deps]

def name : Verb → String
  | check => "check"
  | tree => "tree"
  | trace => "trace"
  | docs => "docs"
  | deps => "deps"

/-- The verb of a name. -/
def ofName? (name : String) : Option Verb :=
  all.find? (·.name = name)

def summary : Verb → String
  | check => "Parse a statement file and report syntax errors"
  | tree => "Print the parse forest of a statement file"
  | trace => "Trace structure matching for debugging"
  | docs => "Print railroad diagrams or EBNF of the grammar"
  | deps => "Print the dependency graph and validate the grammar"

def switches : Verb → List Switch
  | check => [.memo]
  | tree => [.json, .memo]
  | trace => [.memo]
  | docs => [.ebnf]
  | deps => [.strict]

def settings : Verb → List Setting
  | check | tree | trace => [.colour, .root, .fuel, .recursion]
  | docs => [.colour]
  | deps => [.root, .colour]

def operand : Verb → Operand
  | check | tree | trace => .file
  | docs => .structureName
  | deps => .nothing

/-- Whether the letter `v` makes the verb say more. -/
def growsLouder (verb : Verb) : Bool :=
  verb = trace

theorem ofName?_name (verb : Verb) : ofName? verb.name = some verb := by
  cases verb <;> rfl

end Verb

/-- The word that asks for an explanation, as a command or as an option. -/
def helpWord : String :=
  "help"

/-- Why a command line names nothing to do. -/
inductive Refusal where
  | helpRequested
  | nothingAsked
  | unknownVerb
  | unknownArgument
  | missingFile
  | invalidValue
  | invalidCount
  | givenTwice
  | needlessValue
deriving DecidableEq, Repr

/-- The wording of a refusal. -/
def Refusal.message : Refusal → String
  | helpRequested => "help was asked for"
  | nothingAsked => "no command is given"
  | unknownVerb => "there is no such command"
  | unknownArgument => "an argument is not expected"
  | missingFile => "the file is missing"
  | invalidValue => "an option has no value, or one that it cannot have"
  | invalidCount => "a limit is no number that fits into four bytes"
  | givenTwice => "an option is given twice"
  | needlessValue => "a value is given to an option that takes none"

end OrderedChoice.CommandLine
