import OrderedChoice.Statement

/-!
# Diagnostics

What is wrong with a list of statements or with a grammar. The finding decides the severity, the
wording and the hint; a detail goes into the finding's wording where it leaves room for one.
-/

namespace OrderedChoice

/-- What can be found wrong: the first two with statements, the others with grammars. -/
inductive Finding where
  | syntaxError
  | unexpectedStatement
  | undefinedStructure
  | unregisteredStructure
  | unreachableStructure
  | nullableRepetition
  | leftRecursion
deriving DecidableEq, Repr

inductive Severity where
  | error
  | warning
deriving DecidableEq, Repr

def Severity.name : Severity → String
  | error => "error"
  | warning => "warning"

namespace Finding

def all : List Finding :=
  [syntaxError, unexpectedStatement, undefinedStructure, unregisteredStructure,
    unreachableStructure, nullableRepetition, leftRecursion]

def name : Finding → String
  | syntaxError => "SyntaxError"
  | unexpectedStatement => "UnexpectedStatement"
  | undefinedStructure => "UndefinedStructure"
  | unregisteredStructure => "UnregisteredStructure"
  | unreachableStructure => "UnreachableStructure"
  | nullableRepetition => "NullableRepetition"
  | leftRecursion => "LeftRecursion"

/-- Findings are ordered as they are listed. -/
def rank (finding : Finding) : Nat :=
  finding.ctorIdx

def severity : Finding → Severity
  | unregisteredStructure | unreachableStructure => .warning
  | _ => .error

/-- The advice that goes with a finding. -/
def hint? : Finding → Option String
  | nullableRepetition => some "every repetition body must consume at least one statement"
  | leftRecursion => some "recursive references must consume a statement before recursing"
  | _ => none

/-- The wording without a detail. -/
def fallback : Finding → String
  | syntaxError => "syntax error"
  | unexpectedStatement => "unexpected statement"
  | undefinedStructure => "undefined structure"
  | unregisteredStructure => "structure is not registered"
  | unreachableStructure => "unreachable structure"
  | nullableRepetition => "repetition can match without consuming a statement"
  | leftRecursion => "left recursion"

/-- What the wording says before and after the detail. -/
def frame : Finding → String × String
  | syntaxError => ("", "")
  | unexpectedStatement => ("unexpected `", "` statement")
  | undefinedStructure => ("`", "` is not registered")
  | unregisteredStructure => ("`", "` is referenced but not registered")
  | unreachableStructure => ("`", "` is not reachable from the root")
  | nullableRepetition => ("repetition in `", "` can match without consuming a statement")
  | leftRecursion => ("left recursion: ", "")

/-- The wording with a pair of braces for the detail. -/
def template (finding : Finding) : String :=
  finding.frame.1 ++ "\x7b\x7d" ++ finding.frame.2

/-- The wording of a finding, with or without a detail. -/
def message (finding : Finding) : Option String → String
  | none => finding.fallback
  | some detail => finding.frame.1 ++ detail ++ finding.frame.2

end Finding

/-- A place that has to do with a diagnostic. -/
structure Related where
  span : Span
  message : String
deriving DecidableEq, Repr

/-- One finding with its wording, place, related places and hints. -/
structure Diagnostic where
  finding : Finding
  span : Option Span
  message : String
  related : List Related
  hints : List String
deriving DecidableEq, Repr

namespace Diagnostic

/-- A finding at a place of the source, or about the grammar if it has no place. -/
def about (finding : Finding) (span : Option Span) : Diagnostic :=
  ⟨finding, span, finding.fallback, [], finding.hint?.toList⟩

/-- The diagnostic with a detail in its wording. -/
def withDetail (diagnostic : Diagnostic) (detail : String) : Diagnostic :=
  { diagnostic with message := diagnostic.finding.message (some detail) }

def withRelated (diagnostic : Diagnostic) (message : String) (span : Span) : Diagnostic :=
  { diagnostic with related := diagnostic.related ++ [⟨span, message⟩] }

def withHint (diagnostic : Diagnostic) (hint : String) : Diagnostic :=
  { diagnostic with hints := diagnostic.hints ++ [hint] }

def severity (diagnostic : Diagnostic) : Severity :=
  diagnostic.finding.severity

/-- The diagnostic in one line. -/
def toText (diagnostic : Diagnostic) : String :=
  let place := match diagnostic.span with
    | some span => " at " ++ span.toText
    | none => ""
  diagnostic.severity.name ++ place ++ ": " ++ diagnostic.message ++
    String.join (diagnostic.related.map fun r =>
      " (related: " ++ r.message ++ " at " ++ r.span.toText ++ ")") ++
    String.join (diagnostic.hints.map fun hint => " (hint: " ++ hint ++ ")")

/-- All fields of the diagnostic in one line. -/
def inspect (diagnostic : Diagnostic) : String :=
  Text.record "DiagnosticMessage" [("kind", diagnostic.finding.name),
    ("range", match diagnostic.span with
      | some span => "Some(" ++ span.toText ++ ")"
      | none => "None"),
    ("message", Text.quoted diagnostic.message),
    ("related", Text.bracketed (diagnostic.related.map fun r =>
      Text.record "RelatedInfo" [("range", r.span.toText), ("message", Text.quoted r.message)])),
    ("hints", Text.bracketed (diagnostic.hints.map Text.quoted))]

end Diagnostic

/-- Diagnostics in the order they were reported. -/
structure Diagnostics where
  entries : List Diagnostic
deriving DecidableEq, Repr

namespace Diagnostics

def empty : Diagnostics :=
  ⟨[]⟩

def ofOne (diagnostic : Diagnostic) : Diagnostics :=
  ⟨[diagnostic]⟩

def add (diagnostics : Diagnostics) (diagnostic : Diagnostic) : Diagnostics :=
  ⟨diagnostics.entries ++ [diagnostic]⟩

def append (a b : Diagnostics) : Diagnostics :=
  ⟨a.entries ++ b.entries⟩

def size (diagnostics : Diagnostics) : Nat :=
  diagnostics.entries.length

def isEmpty (diagnostics : Diagnostics) : Bool :=
  diagnostics.entries.isEmpty

/-- How many diagnostics have the severity. -/
def count (diagnostics : Diagnostics) (severity : Severity) : Nat :=
  diagnostics.entries.countP (·.severity = severity)

/-- Whether some diagnostic has the severity. -/
def has (diagnostics : Diagnostics) (severity : Severity) : Bool :=
  diagnostics.entries.any (·.severity = severity)

/-- One line for each diagnostic. -/
def render (diagnostics : Diagnostics) : String :=
  "\n".intercalate (diagnostics.entries.map Diagnostic.toText)

/-- All fields of all diagnostics in one line. -/
def inspect (diagnostics : Diagnostics) : String :=
  Text.record "Diagnostics"
    [("messages", Text.bracketed (diagnostics.entries.map Diagnostic.inspect))]

theorem has_eq_true_iff {diagnostics : Diagnostics} {severity : Severity} :
    diagnostics.has severity = true ↔ 0 < diagnostics.count severity := by
  simp [has, count, List.countP_pos_iff]

end Diagnostics

end OrderedChoice
