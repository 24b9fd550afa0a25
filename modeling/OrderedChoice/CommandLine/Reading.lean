import OrderedChoice.CommandLine.Vocabulary
import OrderedChoice.CommandLine.Word

/-!
# Reading a command line

The words after a verb are read from left to right. What an option or operand says is looked at only
when the next one begins, or at the end; so a word that cannot be understood at all is complained of
before a wrong value that stands just before it.
-/

namespace OrderedChoice.CommandLine

/-- What the words have said so far. -/
structure Values where
  operand : Option String
  root : Option String
  fuel : Option Nat
  recursion : Option Nat
  colour : Option ColourChoice
  switches : List Switch
  loudness : Nat

namespace Values

def empty : Values :=
  ⟨none, none, none, none, none, [], 0⟩

/-- Whether a setting has its value. -/
def has (values : Values) : Setting → Bool
  | .root => values.root.isSome
  | .fuel => values.fuel.isSome
  | .recursion => values.recursion.isSome
  | .colour => values.colour.isSome

/-- Gives a setting its value, which it may have only once. -/
def set (values : Values) (setting : Setting) (text : String) : Except Refusal Values :=
  if values.has setting then .error .givenTwice
  else match setting with
    | .root => .ok { values with root := some text }
    | .fuel =>
      match countOfText? text with
      | some count => .ok { values with fuel := some count }
      | none => .error .invalidCount
    | .recursion =>
      match countOfText? text with
      | some count => .ok { values with recursion := some count }
      | none => .error .invalidCount
    | .colour =>
      match ColourChoice.all.find? (·.name = text) with
      | some choice => .ok { values with colour := some choice }
      | none => .error .invalidValue

/-- Turns a switch on, which is done only once. -/
def turnOn (values : Values) (switch : Switch) : Except Refusal Values :=
  if switch ∈ values.switches then .error .givenTwice
  else .ok { values with switches := switch :: values.switches }

/-- Says what the verb is about. A file has a name that is not empty. -/
def setOperand (values : Values) (operand : Operand) (text : String) : Except Refusal Values :=
  if operand = .file ∧ text.isEmpty then .error .invalidValue
  else .ok { values with operand := some text }

/-- Grows louder, up to what one byte can count. -/
def louder (values : Values) : Values :=
  { values with loudness := min (values.loudness + 1) 255 }

end Values

/-- What was begun last and is not looked at yet. -/
inductive Pending where
  | nothing
  /-- The setting is named and its value is still to come. -/
  | named (setting : Setting)
  | setting (setting : Setting) (text : String)
  | operand (text : String)

/-- A state of the reading of the words after a verb. -/
structure Reading where
  values : Values
  pending : Pending
  /-- Whether the options have ended. -/
  operandsOnly : Bool

namespace Reading

variable (verb : Verb) (reading : Reading)

/-- Before the first word. -/
def start : Reading :=
  ⟨.empty, .nothing, false⟩

/-- What has been said once the pending part is looked at. -/
def settledValues : Except Refusal Values :=
  match reading.pending with
  | .nothing => .ok reading.values
  | .named _ => .error .invalidValue
  | .setting setting text => reading.values.set setting text
  | .operand text => reading.values.setOperand verb.operand text

/-- Looks at the pending part and takes what the words say next. -/
def settle (next : Values → Except Refusal Values) : Except Refusal Reading := do
  return { reading with values := ← next (← reading.settledValues verb), pending := .nothing }

/-- Looks at the pending part and leaves another one pending. -/
def begin (pending : Pending) : Except Refusal Reading := do
  return { reading with values := ← reading.settledValues verb, pending }

/-- Whether the verb has been told what it is about. -/
def hasOperand : Bool :=
  reading.values.operand.isSome || match reading.pending with
    | .operand _ => true
    | _ => false

def takeOperand (text : String) : Except Refusal Reading :=
  if verb.operand = .nothing ∨ reading.hasOperand then .error .unknownArgument
  else reading.begin verb (.operand text)

def takeLong (name : String) (value? : Option String) : Except Refusal Reading :=
  match verb.switches.find? (·.name = name), verb.settings.find? (·.name = name), value? with
  | some _, _, some _ => .error .needlessValue
  | some switch, _, none => reading.settle verb (·.turnOn switch)
  | none, some setting, some text => reading.settle verb (·.set setting text)
  | none, some setting, none => reading.begin verb (.named setting)
  | none, none, some _ => .error (if name = helpWord then .needlessValue else .unknownArgument)
  | none, none, none =>
    if name = helpWord then reading.settle verb fun _ => .error .helpRequested
    else .error .unknownArgument

def takeLetter (letter : Char) : Except Refusal Reading :=
  if letter = 'h' then reading.settle verb fun _ => .error .helpRequested
  else if letter = 'v' ∧ verb.growsLouder then reading.settle verb fun values => .ok values.louder
  else .error .unknownArgument

def takeLetters : Reading → List Char → Except Refusal Reading
  | reading, [] => .ok reading
  | reading, letter :: letters =>
    match reading.takeLetter verb letter with
    | .ok reading => takeLetters reading letters
    | .error refusal => .error refusal

/-- Reads one word. A plain word after the name of a setting is its value. -/
def takeWord (text : String) : Except Refusal Reading :=
  if reading.operandsOnly then reading.takeOperand verb text
  else match Word.ofText text with
    | .endOfOptions => .ok { reading with operandsOnly := true }
    | .long name value? => reading.takeLong verb name value?
    | .letters letters => reading.takeLetters verb letters
    | .plain text =>
      match reading.pending with
      | .named setting => .ok { reading with pending := .setting setting text }
      | _ => reading.takeOperand verb text

/-- Reads words, and looks at the pending part after the last. -/
def takeWords : Reading → List String → Except Refusal Values
  | reading, [] => reading.settledValues verb
  | reading, word :: words =>
    match reading.takeWord verb word with
    | .ok reading => takeWords reading words
    | .error refusal => .error refusal

end Reading

/-- How a match is limited where the words do not say otherwise. -/
def Values.limits (values : Values) : Limits where
  fuel := values.fuel.getD Limits.standard.fuel
  recursion := values.recursion.getD Limits.standard.recursion
  memoize := .memo ∈ values.switches

/-- The structure that is matched where the words do not name one. -/
def defaultRoot : String :=
  "Any"

def Values.rootName (values : Values) : String :=
  values.root.getD defaultRoot

/-- The match that the words ask for. -/
def Values.request (values : Values) : Except Refusal MatchRequest :=
  match values.operand with
  | some path => .ok ⟨path, values.rootName, values.limits⟩
  | none => .error .missingFile

/-- The task of a verb. -/
def Values.task (values : Values) : Verb → Except Refusal Task
  | .check => values.request.map .check
  | .tree => values.request.map (.tree · (.json ∈ values.switches))
  | .trace => values.request.map (.trace · values.loudness)
  | .docs => .ok (.docs values.operand (.ebnf ∈ values.switches))
  | .deps => .ok (.deps values.rootName (.strict ∈ values.switches))

/-- The command of a verb and the words after it. -/
def commandOf (verb : Verb) (words : List String) : Except Refusal Command := do
  let values ← Reading.start.takeWords verb words
  return ⟨← values.task verb, values.colour.getD .auto⟩

/-- Whether a command starts with the word. -/
def isCommandWord (word : String) : Bool :=
  (Verb.ofName? word).isSome || word = helpWord

/-- Help is there for every command and for help itself. -/
def helpOn : List String → Refusal
  | [] => .helpRequested
  | [word] => if isCommandWord word then .helpRequested else .unknownVerb
  | _ :: _ :: _ => .unknownVerb

/-- The command that the words of a command line ask for. -/
def Command.ofWords : List String → Except Refusal Command
  | [] => .error .nothingAsked
  | word :: words =>
    match Word.ofText word with
    | .endOfOptions =>
      match words with
      | [] => .error .nothingAsked
      | word :: _ => .error (if isCommandWord word then .unknownArgument else .unknownVerb)
    | .long name value? =>
      .error (if name = helpWord then if value?.isSome then .needlessValue else .helpRequested
        else .unknownArgument)
    | .letters letters =>
      .error (if letters.head? = some 'h' then .helpRequested else .unknownArgument)
    | .plain word =>
      match Verb.ofName? word with
      | some verb => commandOf verb words
      | none => .error (if word = helpWord then helpOn words else .unknownVerb)

end OrderedChoice.CommandLine
