import OrderedChoice.Limits

/-!
# Commands

What a user can ask for, once the words of the command line are understood.
-/

namespace OrderedChoice.CommandLine

/-- When output is coloured. -/
inductive ColourChoice where
  | auto
  | always
  | never
deriving DecidableEq, Repr

namespace ColourChoice

def name : ColourChoice → String
  | auto => "auto"
  | always => "always"
  | never => "never"

def all : List ColourChoice :=
  [auto, always, never]

/-- Whether output is coloured, if it goes to a terminal or not. -/
def applies (choice : ColourChoice) (terminal : Bool) : Bool :=
  match choice with
  | auto => terminal
  | always => true
  | never => false

end ColourChoice

/-- Which file to match, from which structure, and how far. The path `-` is the standard input. -/
structure MatchRequest where
  path : String
  root : String
  limits : Limits
deriving DecidableEq, Repr

/-- What to do. -/
inductive Task where
  /-- Tell what is wrong with a file. -/
  | check (request : MatchRequest)
  /-- Show the forest of a file. -/
  | tree (request : MatchRequest) (json : Bool)
  /-- Show how a file is matched, the more the louder. -/
  | trace (request : MatchRequest) (loudness : Nat)
  /-- Show the rules of one structure or of all. -/
  | docs (name? : Option String) (ebnf : Bool)
  /-- Show how structures refer to each other, and what is wrong with them. -/
  | deps (root : String) (strict : Bool)
deriving DecidableEq, Repr

structure Command where
  task : Task
  colour : ColourChoice
deriving DecidableEq, Repr

/-- The file that a task reads. -/
def Task.path? : Task → Option String
  | check request | tree request _ | trace request _ => some request.path
  | docs .. | deps .. => none

end OrderedChoice.CommandLine
