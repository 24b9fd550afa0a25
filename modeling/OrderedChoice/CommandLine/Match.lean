import OrderedChoice.CommandLine.Command
import OrderedChoice.CommandLine.Output
import OrderedChoice.CommandLine.Surroundings
import OrderedChoice.Diagnostics.Report
import OrderedChoice.Language
import OrderedChoice.Parse
import OrderedChoice.Trace.Log

/-!
# Commands that match a file

Checking a file, showing its forest and tracing its match. All three need the root structure and the
file, in this order, and differ in what they show of the match. Excerpts of the file are drawn by
whatever renderer there is.
-/

namespace OrderedChoice.CommandLine

/-- Why a command cannot start. -/
inductive StartFault where
  | unknownStructure (name : String) (known : List String)
  | load (fault : LoadFault)
deriving DecidableEq, Repr

def StartFault.text : StartFault → String
  | unknownStructure name known => lines ["error: unknown structure '" ++ name ++ "'", "",
      "Available structures: " ++ ", ".intercalate known]
  | load fault => line ("error: " ++ fault.message)

/-- The output of a command that cannot start. -/
def StartFault.output (fault : StartFault) : Output :=
  ⟨.failure, "", fault.text⟩

/-- The registered structure of a name. -/
def findStructure (registry : Registry) (name : String) : Except StartFault Structure :=
  match registry.get? name with
  | some target => .ok target
  | none => .error (.unknownStructure name registry.names)

/-- The root structure and the file of a match. -/
def MatchRequest.prepare (request : MatchRequest) (language : Language)
    (surroundings : Surroundings) : Except StartFault (Structure × LoadedFile) :=
  match findStructure language.registry request.root with
  | .error fault => .error fault
  | .ok root =>
    match surroundings.load language.kindOf? request.path with
    | .error fault => .error (.load fault)
    | .ok file => .ok (root, file)

/-- The output of a match that was halted, after some text. -/
def haltedOutput (stdout : String) (halt : Halt) : Output :=
  ⟨.halted, stdout, line ("runtime error: " ++ halt.message?.getD "")⟩

/-- Diagnostics beside the file that they are about. Where the renderer cannot draw one of them, it
takes the whole program down with it, with a status that is none of a command's. There is no such
end here: plain lines stand for it. -/
def LoadedFile.report (file : LoadedFile) (render : Renderer) (coloured : Bool)
    (diagnostics : Diagnostics) : String :=
  if diagnostics.isEmpty then ""
  else
    let options : ReportOptions := ⟨some file.source, some file.name, coloured⟩
    line ((diagnostics.report? options render).getD diagnostics.render)

/-- The diagnostics of a parse that is not complete. -/
def LoadedFile.reportFailure (file : LoadedFile) (render : Renderer) (coloured : Bool)
    (parse : Parse) : String :=
  if parse.isComplete then "" else file.report render coloured parse.diagnostics

/-- Tells what is wrong with a file, and nothing if it is fine. -/
def MatchRequest.check (request : MatchRequest) (language : Language) (surroundings : Surroundings)
    (render : Renderer) (coloured : Bool) : Output :=
  match request.prepare language surroundings with
  | .error fault => fault.output
  | .ok (root, file) =>
    match parse language.grammar root request.limits file.statements.toArray with
    | .error halt => haltedOutput "" halt
    | .ok parse => ⟨.ofBool parse.isComplete, "", file.reportFailure render coloured parse⟩

/-- The forest as it is printed. The root of a failed match has nothing to show. -/
def forestText (json coloured : Bool) (parse : Parse) : String :=
  if parse.verdict.failed then ""
  else if json then line parse.root.json.pretty
  else parse.root.dumpWith (.ofFlag coloured)

/-- Shows the forest of a file, and what is wrong with it. -/
def MatchRequest.tree (request : MatchRequest) (language : Language) (surroundings : Surroundings)
    (render : Renderer) (json coloured : Bool) : Output :=
  match request.prepare language surroundings with
  | .error fault => fault.output
  | .ok (root, file) =>
    match parse language.grammar root request.limits file.statements.toArray with
    | .error halt => haltedOutput "" halt
    | .ok parse =>
      ⟨.ofBool parse.isComplete, forestText json coloured parse,
        file.report render coloured parse.diagnostics⟩

/-- How verbose a trace is that was asked for with some loudness. -/
def verbosityOf : Nat → Verbosity
  | 0 => .terse
  | 1 => .verbose
  | _ => .veryVerbose

/-- What a trace says after its last line. -/
def traceFooter (palette : Palette) (parse : Parse) (file : LoadedFile) : String :=
  lines [palette.faint "---", "consumed " ++ toString parse.consumed ++ " of " ++
    toString file.statements.length ++ " statements"]

/-- Shows how a file is matched, up to a halt if there is one. -/
def MatchRequest.trace (request : MatchRequest) (language : Language) (surroundings : Surroundings)
    (render : Renderer) (loudness : Nat) (coloured : Bool) : Output :=
  match request.prepare language surroundings with
  | .error fault => fault.output
  | .ok (root, file) =>
    let palette := Palette.ofFlag coloured
    match parseWith language.grammar root request.limits (Log.empty (verbosityOf loudness) palette)
        file.statements.toArray with
    | (.error halt, log) => haltedOutput (lines log.lines.toList) halt
    | (.ok parse, log) =>
      ⟨.ofBool parse.isComplete, lines log.lines.toList ++ traceFooter palette parse file,
        file.reportFailure render coloured parse⟩

end OrderedChoice.CommandLine
