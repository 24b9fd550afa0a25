import OrderedChoice.Forest.Dump
import OrderedChoice.Trace

/-!
# Readable traces

A log holds one line an event, indented by the number of structures that are open. How many events
get a line depends on the verbosity; the indentation does not.
-/

namespace OrderedChoice

/-- How much a log tells. -/
inductive Verbosity where
  /-- Structures and consumed statements. -/
  | terse
  /-- Mismatches, backtracking and replays as well. -/
  | verbose
  /-- The text of statements as well. -/
  | veryVerbose
deriving DecidableEq, Repr

/-- The lines of a trace, and how many structures are open. -/
structure Log where
  verbosity : Verbosity
  palette : Palette
  lines : Array String
  depth : Nat

namespace Log

def empty (verbosity : Verbosity) (palette : Palette) : Log :=
  ⟨verbosity, palette, #[], 0⟩

/-- The log with one more line, at the present indentation. -/
def addLine (log : Log) (content : String) : Log :=
  { log with lines := log.lines.push (indentation log.depth ++ content) }

/-- A position, as every line shows it. -/
def positionText (palette : Palette) (position : Nat) : String :=
  palette.faint ("@" ++ toString position)

/-- What a line says of an event, or nothing if the verbosity leaves the event out. -/
def lineOf? (verbosity : Verbosity) (palette : Palette) : Event → Option String
  | .entered name position =>
    some ("▶ " ++ palette.name name ++ " " ++ positionText palette position)
  | .exited name verdict => some ("◀ " ++ palette.name name ++
      if verdict.failed then ": " ++ palette.failure verdict.description
      else " (" ++ toString verdict.consumed ++ ")")
  | .consumed statement position => some ("● " ++ palette.kind statement.kind.name ++ " " ++
      positionText palette position ++
      if verbosity = .veryVerbose then " " ++ palette.faint (Text.quoted statement.text) else "")
  | .mismatched expected found position =>
    if verbosity = .terse then none
    else some ("○ " ++ palette.failure expected.name ++ " " ++ positionText palette position ++
      if verbosity = .veryVerbose then
        match found with
        | some statement => " found " ++ statement.kind.name
        | none => " at end of input"
      else "")
  | .backtracked position =>
    if verbosity = .terse then none else some ("❮❮❮ " ++ positionText palette position)
  | .replayed name position =>
    if verbosity = .terse then none
    else some ("⬥ " ++ palette.name name ++ " " ++ positionText palette position)

/-- Whether the line has the sign of a mismatch, of backtracking or of a replay. -/
def isDetail (line : String) : Bool :=
  (line.toList.dropWhile (· = ' ')).head?.any (['○', '❮', '⬥'].contains ·)

/-- The log after an event. The line of an exit stands where the line of its entry stands. -/
def record (log : Log) (event : Event) : Log :=
  let log := match event with
    | .exited .. => { log with depth := log.depth - 1 }
    | _ => log
  let log := match lineOf? log.verbosity log.palette event with
    | some line => log.addLine line
    | none => log
  match event with
  | .entered .. => { log with depth := log.depth + 1 }
  | _ => log

instance tracer : Tracer Log where
  record := record

/-- All lines of the log. -/
def render (log : Log) : String :=
  "\n".intercalate log.lines.toList

end Log

end OrderedChoice
