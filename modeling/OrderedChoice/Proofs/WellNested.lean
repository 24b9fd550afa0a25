import Mathlib.Order.ConditionallyCompleteLattice.Basic
import OrderedChoice.Proofs.Blocks
import OrderedChoice.Proofs.Prediction
import OrderedChoice.Proofs.Reachability

/-!
# Well-nested ABAP programs

The context-free language of well-nested programs, written down without order and without greed, and
the proof that the sample grammar accepts exactly its words (`isComplete_iff_mem_program`). The
grammar is predictive, so what remains is to solve its equations.
-/

namespace OrderedChoice.Abap

open scoped Computability

/-! ## The language -/

/-- The word of one statement. -/
def word (k : StatementKind) : FormalLanguage Kind :=
  {[k.kind]}

/-- One normal statement, or one block with the given bodies. -/
def normalOver (body : FormalLanguage Kind) : FormalLanguage Kind :=
  word .data + word .write + word .move + word .call + word .clear + word .unknown +
    word .ifStatement * body * (word .elseIf * body)∗ * (1 + word .elseStatement * body) *
      word .endIf +
    word .while * body * word .endWhile +
    word .doStatement * body * word .endDo +
    word .loop * body * word .endLoop +
    word .case * (word .when * body)∗ * word .endCase

/-- Normal statements, whose bodies are any number of normal statements: the least language that
holds what has this shape over it. -/
def normal : FormalLanguage Kind :=
  sInf {language | normalOver language∗ ≤ language}

def form : FormalLanguage Kind :=
  word .form * normal∗ * word .endForm

def classDefinition : FormalLanguage Kind :=
  word .classDefinition *
    (word .publicSection + word .protectedSection + word .privateSection + word .methodDef +
      word .data)∗ * word .endClass

def classImplementation : FormalLanguage Kind :=
  word .classImplementation * (word .method * normal∗ * word .endMethod)∗ * word .endClass

/-- The well-nested programs. -/
def program : FormalLanguage Kind :=
  (normal + form + classDefinition + classImplementation)∗

/-! ## The grammar is predictive -/

theorem fits_grammar : (grammar.lookahead 4).Fits grammar :=
  Grammar.fits_lookahead (by decide +kernel)

/-! ## Blocks over given languages -/

/-- The blocks that normal statements are, or consist of, apart from their bodies. -/
def innerBlocks : List Block :=
  [.ifBlock, .elseIf, .elseBlock, .while, .doBlock, .loop, .case, .when]

section

variable {of : Structure → FormalLanguage Kind} {body : FormalLanguage Kind}

theorem wordsOver_one (k : StatementKind) : (one k).wordsOver of = word k := by
  rw [one, Matcher.wordsOver, word]

theorem wordsOver_nested (block : Block) : (nested block).wordsOver of = of block.target := by
  rw [nested, Matcher.wordsOver]

variable (ofBody : 1 + of Block.body.target = body)

include ofBody

theorem wordsOver_someBody : someBody.wordsOver of = body := by
  rw [someBody, Matcher.wordsOver, wordsOver_nested, ofBody]

/-- A block that ends where the next one begins. -/
theorem wordsOver_opened (opening : StatementKind) :
    (Matcher.sequence (one opening) someBody []).wordsOver of = word opening * body := by
  rw [Matcher.wordsOver, Matcher.wordsInTurn, wordsOver_one, wordsOver_someBody ofBody, mul_one]

/-- A block with an end of its own. -/
theorem wordsOver_enclosed (opening closing : StatementKind) :
    (Matcher.enclosed (one opening) someBody (one closing)).wordsOver of =
      word opening * body * word closing := by
  rw [Matcher.enclosed, Matcher.wordsOver, Matcher.wordsInTurn, Matcher.wordsInTurn, wordsOver_one,
    wordsOver_one, wordsOver_someBody ofBody, mul_one, mul_assoc]

theorem wordsOver_ifBlock (elseIf : of Block.elseIf.target = Block.elseIf.matcher.wordsOver of)
    (elseBlock : of Block.elseBlock.target = Block.elseBlock.matcher.wordsOver of) :
    Block.ifBlock.matcher.wordsOver of = word .ifStatement * body * (word .elseIf * body)∗ *
      (1 + word .elseStatement * body) * word .endIf := by
  have openedElseIf := elseIf.trans (wordsOver_opened ofBody .elseIf)
  have openedElse := elseBlock.trans (wordsOver_opened ofBody .elseStatement)
  simp only [Block.matcher, Matcher.wordsOver, Matcher.wordsInTurn, wordsOver_one, wordsOver_nested,
    wordsOver_someBody ofBody, openedElseIf, openedElse, mul_one, mul_assoc]

theorem wordsOver_case (when : of Block.when.target = Block.when.matcher.wordsOver of) :
    Block.case.matcher.wordsOver of = word .case * (word .when * body)∗ * word .endCase := by
  have openedWhen := when.trans (wordsOver_opened ofBody .when)
  simp only [Block.matcher, Matcher.enclosed, Matcher.wordsOver, Matcher.wordsInTurn, wordsOver_one,
    wordsOver_nested, openedWhen, mul_one, mul_assoc]

/-- Normal statements have the shape of the language, if the blocks among them have that of their
bodies. -/
theorem wordsOver_normal
    (ofBlock : ∀ block ∈ innerBlocks, of block.target = block.matcher.wordsOver of) :
    Block.normal.matcher.wordsOver of = normalOver body := by
  simp only [innerBlocks, List.forall_mem_cons] at ofBlock
  obtain ⟨ifBlock, elseIf, elseBlock, whileBlock, doBlock, loop, case, when, -⟩ := ofBlock
  rw [wordsOver_ifBlock ofBody elseIf elseBlock] at ifBlock
  rw [wordsOver_case ofBody when] at case
  have enclosedWhile := whileBlock.trans (wordsOver_enclosed ofBody .while .endWhile)
  have enclosedDo := doBlock.trans (wordsOver_enclosed ofBody .doStatement .endDo)
  have enclosedLoop := loop.trans (wordsOver_enclosed ofBody .loop .endLoop)
  simp only [Block.matcher, Matcher.wordsOver, Matcher.wordsOfAny, wordsOver_one, wordsOver_nested,
    ifBlock, enclosedWhile, enclosedDo, enclosedLoop, case, normalOver]
  -- unknown statements come last in the grammar
  ac_rfl

end

/-! ## The words of the blocks -/

/-- Where the empty word is left out and let in again, nothing has changed. -/
theorem one_add_kstar_sub_one (language : FormalLanguage Kind) :
    1 + (language∗ - 1) = language∗ := by
  ext w
  rw [Language.mem_add, Language.mem_sub, Language.mem_one]
  constructor
  · rintro (rfl | ⟨member, _⟩)
    · exact Language.nil_mem_kstar _
    · exact member
  · exact fun member => or_iff_not_imp_left.2 fun nonempty => ⟨member, nonempty⟩

theorem words_target {block : Block} (consumes : block.matcher.nullable = false) :
    grammar.words (.sub block.target) = block.matcher.wordsOver fun s => grammar.words (.sub s) :=
  (fits_grammar.words_sub (body_target block) consumes).trans (Grammar.words_eq_wordsOver _)

theorem one_add_words_body :
    1 + grammar.words (.sub Block.body.target) = (grammar.words (.sub Block.normal.target))∗ := by
  rw [Grammar.words_sub (body_target .body), Block.matcher, Grammar.words_star,
    one_add_kstar_sub_one, nested]

/-- The words of the structure solve the equation of normal statements. -/
theorem words_normal :
    grammar.words (.sub Block.normal.target) =
      normalOver (grammar.words (.sub Block.normal.target))∗ := by
  refine (words_target rfl).trans (wordsOver_normal one_add_words_body fun block member =>
    words_target ?_)
  have consumes : ∀ block ∈ innerBlocks, block.matcher.nullable = false := by decide
  exact consumes block member

/-- What the words of each block may be, if those of normal statements are given. Nothing is asked
of the blocks that normal statements do not hold. -/
def Block.wordsOver (language : FormalLanguage Kind) : Block → FormalLanguage Kind
  | .normal => language
  | .body => language∗ - 1
  | .ifBlock => word .ifStatement * language∗ * (word .elseIf * language∗)∗ *
      (1 + word .elseStatement * language∗) * word .endIf
  | .elseIf => word .elseIf * language∗
  | .elseBlock => word .elseStatement * language∗
  | .while => word .while * language∗ * word .endWhile
  | .doBlock => word .doStatement * language∗ * word .endDo
  | .loop => word .loop * language∗ * word .endLoop
  | .case => word .case * (word .when * language∗)∗ * word .endCase
  | .when => word .when * language∗
  | .any | .form | .classDefinition | .classImplementation | .method => ⊤

/-- The same for structures, which are told apart by their identifiers. -/
def wordsOfTarget (language : FormalLanguage Kind) (target : Structure) : FormalLanguage Kind :=
  match Block.all.find? (·.name = target.id) with
  | some block => block.wordsOver language
  | none => ⊤

theorem wordsOfTarget_target (language : FormalLanguage Kind) (block : Block) :
    wordsOfTarget language block.target = block.wordsOver language := by
  cases block <;> rfl

theorem wordsOfTarget_eq_wordsOver (language : FormalLanguage Kind) :
    ∀ block ∈ innerBlocks,
      wordsOfTarget language block.target = block.matcher.wordsOver (wordsOfTarget language) := by
  have ofBody : 1 + wordsOfTarget language Block.body.target = language∗ :=
    one_add_kstar_sub_one language
  have elseIf := (wordsOver_opened ofBody .elseIf).symm
  have elseBlock := (wordsOver_opened ofBody .elseStatement).symm
  have when := (wordsOver_opened ofBody .when).symm
  rw [innerBlocks]
  simp only [List.forall_mem_cons, wordsOfTarget_target]
  exact ⟨(wordsOver_ifBlock ofBody elseIf elseBlock).symm, elseIf, elseBlock,
    (wordsOver_enclosed ofBody .while .endWhile).symm,
    (wordsOver_enclosed ofBody .doStatement .endDo).symm,
    (wordsOver_enclosed ofBody .loop .endLoop).symm, (wordsOver_case ofBody when).symm, when, nofun⟩

/-- A language that holds the shape over itself holds the words of normal statements. -/
theorem words_normal_le {language : FormalLanguage Kind} (holds : normalOver language∗ ≤ language) :
    grammar.words (.sub Block.normal.target) ≤ language := by
  have ofBody : 1 + wordsOfTarget language Block.body.target = language∗ :=
    one_add_kstar_sub_one language
  have ofBlock := wordsOfTarget_eq_wordsOver language
  have closed : ∀ s m, grammar.body s = .ok m →
      m.wordsOver (wordsOfTarget language) - 1 ≤ wordsOfTarget language s := by
    intro s m body
    obtain ⟨block, found, rfl⟩ := exists_block_of_body body
    have isBlock : wordsOfTarget language s = block.wordsOver language := by
      rw [wordsOfTarget, found]
    rw [isBlock, ← wordsOfTarget_target]
    by_cases inner : block ∈ innerBlocks
    · rw [ofBlock block inner]
      exact fun _ h => h.1
    · cases block with
      | any | form | classDefinition | classImplementation | method => exact le_top
      | normal =>
        rw [wordsOver_normal ofBody ofBlock]
        exact fun _ h => holds h.1
      | body => exact le_refl _
      | _ => exact absurd (by decide) inner
  have least := Grammar.words_le_wordsOver closed (.sub Block.normal.target)
  rwa [Matcher.wordsOver] at least

theorem words_normal_eq : grammar.words (.sub Block.normal.target) = normal :=
  le_antisymm (le_sInf fun _ holds => words_normal_le holds) (sInf_le words_normal.symm.le)

/-- The words of a whole program are the well-nested programs. -/
theorem words_any : grammar.words Block.any.matcher = program := by
  have ofBody : 1 + grammar.words (.sub Block.body.target) = normal∗ :=
    words_normal_eq ▸ one_add_words_body
  have ofForm : grammar.words (.sub Block.form.target) = form :=
    (words_target rfl).trans (wordsOver_enclosed ofBody .form .endForm)
  have ofMethod :
      grammar.words (.sub Block.method.target) = word .method * normal∗ * word .endMethod :=
    (words_target rfl).trans (wordsOver_enclosed ofBody .method .endMethod)
  have ofDefinition : grammar.words (.sub Block.classDefinition.target) = classDefinition := by
    rw [words_target rfl, classDefinition]
    simp only [Block.matcher, Matcher.enclosed, Matcher.wordsOver, Matcher.wordsInTurn,
      Matcher.wordsOfAny, wordsOver_one, mul_one, mul_assoc, add_zero, add_assoc]
  have ofImplementation :
      grammar.words (.sub Block.classImplementation.target) = classImplementation := by
    rw [words_target rfl, classImplementation]
    simp only [Block.matcher, Matcher.enclosed, Matcher.wordsOver, Matcher.wordsInTurn,
      wordsOver_one, wordsOver_nested, ofMethod, mul_one, mul_assoc]
  rw [Grammar.words_eq_wordsOver, program]
  simp only [Block.matcher, Matcher.wordsOver, Matcher.wordsOfAny, wordsOver_nested,
    words_normal_eq, ofForm, ofDefinition, ofImplementation, add_zero, add_assoc]

variable {τ : Type} [Tracer τ]

/-- Whatever the limits, a parse that comes to an answer is complete exactly for the well-nested
programs. -/
theorem isComplete_iff_mem_program {limits : Limits} {tracer : τ} {statements : Array Statement}
    {result : Parse} (ok : (parseWith grammar root limits tracer statements).1 = .ok result) :
    result.isComplete = true ↔ statements.toList.map (·.kind) ∈ program := by
  rw [← words_any]
  exact parseWith_isComplete_iff fits_grammar named_grammar (body_target .any) ok

/-- A condition in a form. -/
def condition : Array Statement :=
  statementsOfKinds ["Form", "If", "Data", "Else", "Write", "EndIf", "EndForm"]

/-- A condition in a form is parsed completely, with a memo table too, so it is a well-nested
program. -/
theorem isComplete_iff_mem_program_condition :
    ∃ result, (parseWith grammar root ⟨150, 9, true⟩ () condition).1 = .ok result ∧
    result.isComplete = true ∧ condition.toList.map (·.kind) ∈ program := by
  have answered :
      (parseWith grammar root ⟨150, 9, false⟩ () condition).1.toOption.any Parse.isComplete =
        true := by
    decide +kernel
  cases ok : (parseWith grammar root ⟨150, 9, false⟩ () condition).1 with
  | error halt =>
    rw [ok] at answered
    cases answered
  | ok result =>
    rw [ok] at answered
    have memoized := parseWith_memoized named_grammar ok
    exact ⟨result, memoized, answered, (isComplete_iff_mem_program memoized).1 answered⟩

end OrderedChoice.Abap
