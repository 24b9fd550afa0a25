import OrderedChoice.StatementFile

/-!
# Files and standard input

What a command sees of the world is what its reads would give: a text, or why there is none.
-/

namespace OrderedChoice.CommandLine

/-- Why a file cannot be read as text. -/
inductive ReadFault where
  | notFound
  | accessDenied
  | notDirectory
  | isDirectory
  | notText
  | other (message : String)
deriving DecidableEq, Repr

/-- The wording of a read fault, with its number where the system has one. -/
def ReadFault.message : ReadFault → String
  | notFound => "No such file or directory (os error 2)"
  | accessDenied => "Permission denied (os error 13)"
  | notDirectory => "Not a directory (os error 20)"
  | isDirectory => "Is a directory (os error 21)"
  | notText => "stream did not contain valid UTF-8"
  | other message => message

/-- What reads would give. -/
structure Surroundings where
  file : String → Except ReadFault String
  stdin : Except ReadFault String

/-- The path that stands for the standard input. -/
def stdinPath : String :=
  "-"

/-- The content of a file, or of the standard input. -/
def Surroundings.read (surroundings : Surroundings) (path : String) : Except ReadFault String :=
  if path = stdinPath then surroundings.stdin else surroundings.file path

/-- A statement file with the name it goes by in diagnostics. -/
structure LoadedFile where
  name : String
  source : String
  statements : List Statement
deriving DecidableEq, Repr

/-- Why a statement file cannot be loaded. -/
inductive LoadFault where
  | unreadable (path : String) (fault : ReadFault)
  | unknownKind (fault : StatementFile.UnknownKind)
deriving DecidableEq, Repr

def LoadFault.message : LoadFault → String
  | unreadable path fault => "failed to read '" ++ path ++ "': " ++ fault.message
  | unknownKind fault => fault.message

/-- The statement file of a path, whose kinds are given by name. -/
def Surroundings.load (surroundings : Surroundings) (kindOf? : String → Option Kind)
    (path : String) : Except LoadFault LoadedFile :=
  match surroundings.read path with
  | .error fault => .error (.unreadable path fault)
  | .ok source =>
    match StatementFile.read kindOf? source with
    | .error fault => .error (.unknownKind fault)
    | .ok statements => .ok ⟨if path = stdinPath then "<stdin>" else path, source, statements⟩

end OrderedChoice.CommandLine
