import OrderedChoice.Context
import OrderedChoice.Grammar

/-!
# Matching

A matcher is run at a cursor and grows the node of its site. An answer is a verdict; a failing
matcher consumes nothing, and a sequence or a repetition that fails drops the children it has grown.
Each invocation costs one unit of fuel, so runs are bounded by the fuel that is left: `runWithin`
recurses on a bound, and `run` takes the fuel for it.

Each combinator is a function of its own over the way its parts are run.
-/

namespace OrderedChoice

/-- How a matcher is run: its answer, and the site after it. -/
abbrev Runner (τ : Type) :=
  Matcher → Cursor → Site τ → Except Halt Verdict × Site τ

variable {τ : Type} [Tracer τ]

/-! ## Combinators -/

/-- One statement of a kind becomes a leaf. -/
def matchStatement (kind : Kind) (input : Cursor) (site : Site τ) : Except Halt Verdict × Site τ :=
  let mismatch (found : Option Statement) :=
    (.ok (.failure input ("Expected " ++ kind.expectedName) 0),
      site.record (.mismatched kind found input.position))
  match input.first? with
  | some statement =>
    if statement.kind = kind then
      (Verdict.success input input.next,
        ((site.record (.consumed statement input.position)).reach input.position).push
          (.leaf statement input.position))
    else mismatch (some statement)
  | none => mismatch none

/-- The parts in order. The first failure is the failure of all, with the statements before it as
progress. -/
def matchSequence (run : Runner τ) (start : Cursor) (mark : Nat) :
    List Matcher → Cursor → Site τ → Except Halt Verdict × Site τ
  | [], rest, site => (Verdict.success start rest, site)
  | part :: parts, rest, site =>
    match run part rest site with
    | (.error halt, site) => (.error halt, site)
    | (.ok verdict, site) =>
      if verdict.failed then
        (.ok (.failure start verdict.description (rest.position - start.position)),
          site.truncate mark)
      else matchSequence run start mark parts verdict.rest site

/-- What a choice reports if none of its parts succeeds: the failure that got furthest, the first of
those that got equally far, or all that was expected if none got anywhere. -/
def choiceFailure (all : List Matcher) (input : Cursor) (description : String)
    (progress : Nat) : Verdict :=
  if progress = 0 then
    .failure input ("Expected " ++ " or ".intercalate (all.map Matcher.expectedName)) 0
  else .failure input description progress

/-- The first part that succeeds. -/
def matchChoice (run : Runner τ) (all : List Matcher) (input : Cursor) :
    List Matcher → String → Nat → Site τ → Except Halt Verdict × Site τ
  | [], description, progress, site => (.ok (choiceFailure all input description progress), site)
  | part :: parts, description, progress, site =>
    match run part input site with
    | (.error halt, site) => (.error halt, site)
    | (.ok verdict, site) =>
      if verdict.failed then
        let site := site.record (.backtracked input.position)
        if progress < verdict.progress then
          matchChoice run all input parts verdict.description verdict.progress site
        else matchChoice run all input parts description progress site
      else (.ok verdict, site)

/-- The body as often as it succeeds, in at most `rounds` rounds. A body that fails after it has
consumed something is malformed, which fails the repetition. -/
def matchStar (run : Runner τ) (body : Matcher) (start : Cursor) (mark : Nat) :
    Nat → Cursor → Site τ → Except Halt Verdict × Site τ
  | rounds, rest, site =>
    if rest.isAtEnd then (Verdict.success start rest, site)
    else match rounds with
      | 0 => (.error .fuelExhausted, site)
      | rounds + 1 =>
        match run body rest site with
        | (.error halt, site) => (.error halt, site)
        | (.ok verdict, site) =>
          if verdict.failed then
            if 0 < verdict.progress then
              (.ok (.failure start verdict.description verdict.progress), site.truncate mark)
            else (Verdict.success start rest, site)
          else if verdict.rest.position = rest.position then
            (.error (.emptyRepetition site.node.target.name), site)
          else matchStar run body start mark rounds verdict.rest site

/-- A failure is forgiven; what it says is kept. -/
def forgive : Except Halt Verdict × Site τ → Except Halt Verdict × Site τ
  | (.ok verdict, site) => (.ok { verdict with failed := false }, site)
  | (.error halt, site) => (.error halt, site)

/-! ## Structures -/

/-- Matches the body of a structure, growing the node of the site. -/
def enterStructure (run : Runner τ) (g : Grammar) (target : Structure) (input : Cursor)
    (site : Site τ) : Except Halt Verdict × Site τ :=
  if site.context.limits.recursion ≤ site.context.depth then (.error .recursionLimitExceeded, site)
  else
    let site := site.descend.record (.entered target.name input.position)
    match g.body target with
    | .error fault => (.error (.malformedBody fault), site.ascend)
    | .ok body =>
      match run body input site with
      | (.error halt, site) => (.error halt, site.ascend)
      | (.ok verdict, site) => (.ok verdict, site.ascend.record (.exited target.name verdict))

/-- A structure that succeeds on nothing has failed, for an empty node says nothing. -/
def Verdict.refuseEmpty (verdict : Verdict) (target : Structure) : Verdict :=
  if !verdict.failed && verdict.matched.isEmpty then
    { verdict with
      failed := true
      description :=
        if verdict.description.isEmpty then "Expected " ++ target.expectedName
        else verdict.description }
  else verdict

/-- A reference to a structure: its node is grown apart, and becomes a child if the structure
succeeds. A remembered result is replayed with its node. -/
def matchSub (run : Runner τ) (g : Grammar) (target : Structure) (input : Cursor) (site : Site τ) :
    Except Halt Verdict × Site τ :=
  match site.context.remembered? target input.position with
  | some memo =>
    let site := site.record (.replayed target.name input.position)
    match memo.node with
    | some node => (.ok memo.verdict, site.push node)
    | none => (.ok memo.verdict, site)
  | none =>
    let ⟨context, host⟩ := site
    match enterStructure run g target input ⟨context, .empty target⟩ with
    | (.error halt, ⟨context, _⟩) => (.error halt, ⟨context, host⟩)
    | (.ok verdict, ⟨context, grown⟩) =>
      let verdict := verdict.refuseEmpty target
      let node := if verdict.failed then none else some grown.toNode
      let site := ⟨context.remember target input.position ⟨verdict, node⟩, host⟩
      match node with
      | some node => (.ok verdict, site.push node)
      | none => (.ok verdict, site)

/-! ## Matchers -/

/-- Runs a matcher, with matchers nested at most `bound` deep. -/
def runWithin (g : Grammar) : Nat → Runner τ
  | 0, _, _, site => (.error .fuelExhausted, site)
  | bound + 1, matcher, input, site =>
    match site.context.fuel with
    | 0 => (.error .fuelExhausted, site)
    | fuel + 1 =>
      let site := site.withFuel fuel
      match matcher with
      | .statement kind => matchStatement kind input site
      | .sub target => matchSub (runWithin g bound) g target input site
      | .optional body => forgive (runWithin g bound body input site)
      | .star body => matchStar (runWithin g bound) body input site.node.size fuel input site
      | .sequence a b rest =>
        matchSequence (runWithin g bound) input site.node.size (a :: b :: rest) input site
      | .choice a b rest =>
        matchChoice (runWithin g bound) (a :: b :: rest) input (a :: b :: rest) "" 0 site

/-- Runs a matcher. No match nests deeper than its fuel. -/
def run (g : Grammar) : Runner τ :=
  fun matcher input site => runWithin g site.context.fuel matcher input site

end OrderedChoice
