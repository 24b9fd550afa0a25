import OrderedChoice.Abap.Kinds
import OrderedChoice.Language

/-!
# A sample grammar of ABAP

Statements nest in blocks: conditions, loops, cases, forms and classes. A program is a list of
normal statements, forms and classes; a body is a list of normal statements.
-/

namespace OrderedChoice.Abap

open Matcher

/-- The structures of the language. -/
inductive Block where
  | any
  | normal
  | body
  | ifBlock
  | elseIf
  | elseBlock
  | while
  | doBlock
  | loop
  | case
  | when
  | form
  | classDefinition
  | classImplementation
  | method
deriving DecidableEq, Repr

namespace Block

def name : Block → String
  | any => "Any"
  | normal => "Normal"
  | body => "Body"
  | ifBlock => "If"
  | elseIf => "ElseIf"
  | elseBlock => "Else"
  | Block.while => "While"
  | doBlock => "Do"
  | loop => "Loop"
  | case => "Case"
  | when => "When"
  | form => "Form"
  | classDefinition => "ClassDefinition"
  | classImplementation => "ClassImplementation"
  | method => "Method"

def all : List Block :=
  [any, normal, body, ifBlock, elseIf, elseBlock, .while, doBlock, loop, case, when, form,
    classDefinition, classImplementation, method]

/-- Blocks are told apart by their names. -/
def target (block : Block) : Structure :=
  ⟨block.name, block.name⟩

end Block

/-- One statement of a kind. -/
def one (k : StatementKind) : Matcher :=
  .statement k.kind

/-- One block. -/
def nested (block : Block) : Matcher :=
  .sub block.target

/-- Normal statements, or none. -/
def someBody : Matcher :=
  .optional (nested .body)

/-- How the statements of a block follow each other. -/
def Block.matcher : Block → Matcher
  | .any =>
    .star (.choice (nested .normal) (nested .form)
      [nested .classDefinition, nested .classImplementation])
  | .normal => .choice (one .data) (one .write) [one .move, one .call, one .clear, nested .ifBlock,
      nested .while, nested .doBlock, nested .loop, nested .case, one .unknown]
  | .body => .star (nested .normal)
  | .ifBlock => .sequence (one .ifStatement) someBody
      [.star (nested .elseIf), .optional (nested .elseBlock), one .endIf]
  | .elseIf => .sequence (one .elseIf) someBody []
  | .elseBlock => .sequence (one .elseStatement) someBody []
  | .while => enclosed (one .while) someBody (one .endWhile)
  | .doBlock => enclosed (one .doStatement) someBody (one .endDo)
  | .loop => enclosed (one .loop) someBody (one .endLoop)
  | .case => enclosed (one .case) (.star (nested .when)) (one .endCase)
  | .when => .sequence (one .when) someBody []
  | .form => enclosed (one .form) someBody (one .endForm)
  | .classDefinition => enclosed (one .classDefinition)
      (.star (.choice (one .publicSection) (one .protectedSection)
        [one .privateSection, one .methodDef, one .data])) (one .endClass)
  | .classImplementation =>
    enclosed (one .classImplementation) (.star (nested .method)) (one .endClass)
  | .method => enclosed (one .method) someBody (one .endMethod)

/-- The grammar of the language. -/
def grammar : Grammar :=
  ⟨Block.all.map fun block => ⟨block.target, .ok block.matcher⟩⟩

/-- The structure that programs are matched from. -/
def root : Structure :=
  Block.any.target

/-- All blocks, in the order of the grammar. -/
def registry : Registry :=
  ⟨Block.all.map Block.target, by decide +kernel⟩

/-- The language: its grammar, its blocks and its kinds. -/
def language : Language :=
  ⟨grammar, registry, kindOfName?⟩

/-- The grammar has the rule of every block. -/
theorem body_target (block : Block) : grammar.body block.target = .ok block.matcher := by
  cases block <;> rfl

end OrderedChoice.Abap
