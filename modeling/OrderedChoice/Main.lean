import OrderedChoice.Abap.Grammar
import OrderedChoice.CommandLine.Reading
import OrderedChoice.CommandLine.Run

/-!
# The program

Reads what a command needs, runs it and writes its output.
-/

namespace OrderedChoice.CommandLine

/-- What the command line can be. -/
def usage : String :=
  lines (["Match classified ABAP statements against grammar structures", "", "Commands:"] ++
    Verb.all.map fun verb => "  " ++ verb.name ++ "  " ++ verb.summary)

/-- The fault behind a failed read. -/
def ReadFault.ofError : IO.Error → ReadFault
  | .noFileOrDirectory .. => .notFound
  | .permissionDenied .. => .accessDenied
  | .inappropriateType _ 20 _ => .notDirectory
  | .inappropriateType .. => .isDirectory
  | error => .other (toString error)

/-- What a read gives, as text. -/
def readText (read : IO ByteArray) : IO (Except ReadFault String) := do
  try
    let bytes ← read
    return match String.fromUTF8? bytes with
      | some text => .ok text
      | none => .error .notText
  catch error => return .error (.ofError error)

/-- The surroundings as far as one path can see them. -/
def surroundingsFor (path : String) : IO Surroundings := do
  if path = stdinPath then
    let stdin ← IO.getStdin
    let content ← readText stdin.readBinToEnd
    return ⟨fun _ => .error .notFound, content⟩
  else
    let content ← readText (IO.FS.readBinFile path)
    return ⟨fun _ => content, .ok ""⟩

/-- Runs a command in the surroundings that it asks for. -/
def execute (command : Command) : IO Output := do
  let surroundings ← match command.task.path? with
    | some path => surroundingsFor path
    | none => pure ⟨fun _ => .error .notFound, .ok ""⟩
  let terminal := (← (← IO.getStdout).isTty) && (← (← IO.getStderr).isTty)
  return command.run Abap.language surroundings terminal Excerpt.render?

end OrderedChoice.CommandLine

open OrderedChoice.CommandLine in
def main (words : List String) : IO UInt32 := do
  match Command.ofWords words with
  | .error .helpRequested =>
    IO.print usage
    return 0
  | .error refusal =>
    IO.eprint (line ("error: " ++ refusal.message) ++ "\n" ++ usage)
    return 2
  | .ok command =>
    let output ← execute command
    IO.print output.stdout
    IO.eprint output.stderr
    return output.status.code
