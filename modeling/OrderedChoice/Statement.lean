import OrderedChoice.Text.Json
import OrderedChoice.Text.Quoted
import OrderedChoice.Text.Record
import OrderedChoice.Text.Upper

/-!
# Classified statements

A statement is a piece of source text that a scanner has already classified: its kind is a name, and
matching looks at nothing else. The span and the row say where the text stands in the source.
-/

namespace OrderedChoice

open Text

/-- The class of a statement, told by its name. -/
structure Kind where
  name : String
deriving DecidableEq, Repr

namespace Kind

/-- Kinds are ordered by name, code point by code point. -/
def order (a b : Kind) : Ordering :=
  compare a.name b.name

/-- The name of the kind in cross references. -/
def qualifiedName (kind : Kind) : String :=
  "statement/" ++ kind.name

/-- The kind as messages ask for it. -/
def expectedName (kind : Kind) : String :=
  toUpperCase kind.name

end Kind

/-- The bytes of a source from `start` up to, but not including, `stop`. -/
structure Span where
  start : Nat
  stop : Nat
deriving DecidableEq, Repr

namespace Span

/-- The span of a text that has no place in a source. -/
def none : Span := ⟨0, 0⟩

def toText (span : Span) : String :=
  toString span.start ++ ".." ++ toString span.stop

def json (span : Span) : Json :=
  .object [("start", .number span.start), ("end", .number span.stop)]

end Span

/-- A classified statement: kind, source text, bytes and zero-based row of that text. -/
structure Statement where
  kind : Kind
  text : String
  span : Span
  row : Nat
deriving DecidableEq, Repr

namespace Statement

/-- A statement without a place in a source. -/
def unplaced (kind : Kind) (text : String) : Statement :=
  ⟨kind, text, .none, 0⟩

/-- The statement at another place. -/
def placed (statement : Statement) (span : Span) (row : Nat) : Statement :=
  { statement with span, row }

def json (statement : Statement) : Json :=
  .object [("kind", .text statement.kind.name), ("text", .text statement.text),
    ("span", statement.span.json), ("row", .number statement.row)]

/-- All fields of the statement in one line. -/
def inspect (statement : Statement) : String :=
  record "Statement" [("kind", "StatementKind(" ++ statement.kind.name ++ ")"),
    ("text", quoted statement.text), ("span", statement.span.toText),
    ("row", toString statement.row)]

end Statement

end OrderedChoice
