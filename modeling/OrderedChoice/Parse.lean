import OrderedChoice.Diagnostics
import OrderedChoice.Engine
import OrderedChoice.Forest.Encoding

/-!
# Parsing

A parse matches a list of statements against a root structure and says what, if anything, is left
over or wrong. The root's own node is the root of the forest. A parse is complete if it has nothing
to complain about, and complains of one thing at most.
-/

namespace OrderedChoice

/-- The result of a parse: forest, verdict of the root structure and diagnostics. -/
structure Parse where
  root : Branch
  verdict : Verdict
  diagnostics : Diagnostics

namespace Parse

/-- How many statements the root structure consumed. -/
def consumed (parse : Parse) : Nat :=
  parse.verdict.consumed

/-- Whether every statement was matched. -/
def isComplete (parse : Parse) : Bool :=
  !parse.diagnostics.has .error

/-- All fields of the parse in one line. -/
def inspect (parse : Parse) : String :=
  Text.record "ParseOutcome" [("root", parse.root.inspect), ("result", parse.verdict.inspect),
    ("diagnostics", parse.diagnostics.inspect)]

end Parse

/-- The diagnostic of a root structure that failed. It stands at the last statement that was
consumed on any path, or at the first if there was none, and points at the statement after it. -/
def failureDiagnostic (statements : Array Statement) (furthest : Nat) (verdict : Verdict) :
    Diagnostic :=
  let anchor := (if furthest = 0 then none else statements[furthest - 1]?).or statements[0]?
  let diagnostic := Diagnostic.about .syntaxError (some ((anchor.map (·.span)).getD .none))
  let diagnostic :=
    if verdict.description.isEmpty then diagnostic else diagnostic.withDetail verdict.description
  match statements[furthest]? with
  | some found =>
    if furthest = 0 then diagnostic
    else diagnostic.withRelated ("found `" ++ found.kind.name ++ "`") found.span
  | none => diagnostic

/-- What there is to say about the verdict of a root structure. -/
def Verdict.diagnostics (verdict : Verdict) (statements : Array Statement) (furthest : Nat) :
    Diagnostics :=
  if verdict.failed then .ofOne (failureDiagnostic statements furthest verdict)
  else match verdict.rest.first? with
    | some next =>
      .ofOne ((Diagnostic.about .unexpectedStatement (some next.span)).withDetail next.kind.name)
    | none => .empty

variable {τ : Type} [Tracer τ]

/-- Matches a root structure at the beginning of the statements, growing the root of the forest. -/
def matchRoot (g : Grammar) (root : Structure) (limits : Limits) (tracer : τ)
    (statements : Array Statement) : Except Halt Verdict × Site τ :=
  enterStructure (run g) g root (Cursor.start ⟨0, statements⟩) ⟨.fresh limits tracer, .empty root⟩

/-- Matches statements against a root structure, reporting to a tracer. -/
def parseWith (g : Grammar) (root : Structure) (limits : Limits) (tracer : τ)
    (statements : Array Statement) : Except Halt Parse × τ :=
  match matchRoot g root limits tracer statements with
  | (.error halt, site) => (.error halt, site.context.tracer)
  | (.ok verdict, site) =>
    (.ok ⟨site.node.toBranch, verdict, verdict.diagnostics statements site.context.furthest⟩,
      site.context.tracer)

/-- Matches statements against a root structure. -/
def parse (g : Grammar) (root : Structure) (limits : Limits) (statements : Array Statement) :
    Except Halt Parse :=
  (parseWith g root limits () statements).1

end OrderedChoice
