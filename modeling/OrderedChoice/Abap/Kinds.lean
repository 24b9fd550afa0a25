import OrderedChoice.Statement

/-!
# Kinds of ABAP statements
-/

namespace OrderedChoice.Abap

/-- The kinds that the sample grammar knows. -/
inductive StatementKind where
  | data
  | write
  | move
  | call
  | clear
  | unknown
  | ifStatement
  | elseIf
  | elseStatement
  | endIf
  | while
  | endWhile
  | doStatement
  | endDo
  | loop
  | endLoop
  | case
  | when
  | endCase
  | form
  | endForm
  | classDefinition
  | publicSection
  | protectedSection
  | privateSection
  | methodDef
  | classImplementation
  | method
  | endMethod
  | endClass
deriving DecidableEq, Repr

namespace StatementKind

def name : StatementKind → String
  | data => "Data"
  | write => "Write"
  | move => "Move"
  | call => "Call"
  | clear => "Clear"
  | unknown => "Unknown"
  | ifStatement => "If"
  | elseIf => "ElseIf"
  | elseStatement => "Else"
  | endIf => "EndIf"
  | StatementKind.while => "While"
  | endWhile => "EndWhile"
  | doStatement => "Do"
  | endDo => "EndDo"
  | loop => "Loop"
  | endLoop => "EndLoop"
  | case => "Case"
  | when => "When"
  | endCase => "EndCase"
  | form => "Form"
  | endForm => "EndForm"
  | classDefinition => "ClassDefinition"
  | publicSection => "PublicSection"
  | protectedSection => "ProtectedSection"
  | privateSection => "PrivateSection"
  | methodDef => "MethodDef"
  | classImplementation => "ClassImplementation"
  | method => "Method"
  | endMethod => "EndMethod"
  | endClass => "EndClass"

def kind (k : StatementKind) : Kind :=
  ⟨k.name⟩

/-- All kinds, in the order of the language's chapters. -/
def all : List StatementKind :=
  [data, write, move, call, clear, unknown, ifStatement, elseIf, elseStatement, endIf, .while,
    endWhile, doStatement, endDo, loop, endLoop, case, when, endCase, form, endForm,
    classDefinition, publicSection, protectedSection, privateSection, methodDef,
    classImplementation, method, endMethod, endClass]

end StatementKind

/-- Whether two texts differ at most in the case of ASCII letters. -/
def equalIgnoringCase (a b : String) : Bool :=
  a.toList.map Char.toLower == b.toList.map Char.toLower

/-- The kind of a name, in whatever case it is written. -/
def kindOfName? (word : String) : Option Kind :=
  (StatementKind.all.map (·.kind)).find? fun kind => equalIgnoringCase kind.name word

end OrderedChoice.Abap
