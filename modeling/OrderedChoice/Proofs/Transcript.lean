import Mathlib.Data.List.Forall2
import OrderedChoice.Proofs.Retelling
import OrderedChoice.Trace.Log

/-!
# What a log tells of a match

A log is told line by line from the events of the match: each event that the verbosity does not
leave out has a line, indented by the structures that are open around it (`parseWith_lines`). More
verbosity means the same lines and more of them, or longer ones (`verbosity_adds_detail`).
-/

namespace OrderedChoice

variable {τ : Type} {g : Grammar} {root : Structure} {limits : Limits}
    {statements : Array Statement}

/-! ## All events -/

/-- The tracer after the events, of which the latest is first. -/
def recordAll [Tracer τ] (tracer : τ) (events : List Event) : τ :=
  events.foldr (fun event tracer => Tracer.record tracer event) tracer

/-- What every tracer is told from. -/
theorem retells_recordAll [Tracer τ] (tracer : τ) : Retells (recordAll tracer) :=
  fun _ _ => rfl

theorem parseWith_recordAll [Tracer τ] (tracer : τ) :
    (parseWith g root limits tracer statements).2 =
      recordAll tracer (parseWith g root limits ([] : List Event) statements).2 :=
  congrArg Prod.snd
    (parseWith_retold root limits statements (retells_recordAll tracer) ([] : List Event))

/-! ## Open structures -/

/-- The names of the structures that are open after the events, the innermost first. The latest
event is first. -/
def openAfter : List Event → List String
  | [] => []
  | .entered name _ :: earlier => name :: openAfter earlier
  | .exited .. :: earlier => (openAfter earlier).tail
  | _ :: earlier => openAfter earlier

/-- How many structures are open around the event, if it comes after the others. The structure that
it enters or leaves is not counted. -/
def Event.depth (earlier : List Event) : Event → Nat
  | exited .. => (openAfter earlier).tail.length
  | _ => (openAfter earlier).length

/-! ## Lines -/

namespace Log

variable {verbosity : Verbosity} {palette : Palette}

/-- The lines that a log has for the events, of which the latest is first. -/
def linesOf (verbosity : Verbosity) (palette : Palette) : List Event → List String
  | [] => []
  | event :: earlier => linesOf verbosity palette earlier ++
      ((lineOf? verbosity palette event).map (indentation (event.depth earlier) ++ ·)).toList

theorem recordAll_empty (verbosity : Verbosity) (palette : Palette) (events : List Event) :
    recordAll (empty verbosity palette) events =
      ⟨verbosity, palette, (linesOf verbosity palette events).toArray,
        (openAfter events).length⟩ := by
  induction events with
  | nil => rfl
  | cons event earlier ih =>
    show record (recordAll (empty verbosity palette) earlier) event = _
    rw [ih]
    cases line : lineOf? verbosity palette event with
    | none => cases event <;> simp [record, linesOf, line, openAfter]
    | some content => cases event <;> simp [record, linesOf, line, openAfter, addLine, Event.depth]

end Log

/-- The lines of a log are told from the events of the parse. -/
theorem parseWith_lines (verbosity : Verbosity) (palette : Palette) :
    (parseWith g root limits (Log.empty verbosity palette) statements).2.lines.toList =
      Log.linesOf verbosity palette (parseWith g root limits ([] : List Event) statements).2 := by
  rw [parseWith_recordAll, Log.recordAll_empty]

/-! ## Verbosity -/

namespace Log

variable {palette : Palette}

theorem isDetail_indentation (depth : Nat) (content : String) :
    isDetail (indentation depth ++ content) = isDetail content := by
  have blanks : ∀ c ∈ List.replicate (2 * depth) ' ', decide (c = ' ') = true := by
    intro c member
    exact decide_eq_true (List.eq_of_mem_replicate member)
  rw [isDetail, String.toList_append, toList_indentation, List.dropWhile_append_of_pos blanks,
    isDetail]

/-- Each kind of event has a sign of its own. -/
theorem isDetail_of_lineOf? {verbosity : Verbosity} {event : Event} {content : String}
    (line : lineOf? verbosity palette event = some content) :
    isDetail content = event.isDetail := by
  cases event with
  | entered | exited | consumed =>
    obtain rfl := Option.some.inj line
    simp [isDetail, Event.isDetail]
  | mismatched | backtracked | replayed =>
    obtain ⟨-, line⟩ := Option.ite_none_left_eq_some.1 line
    obtain rfl := Option.some.inj line
    simp [isDetail, Event.isDetail]

/-- A terse log leaves the details out. -/
theorem lineOf?_terse (palette : Palette) (event : Event) :
    lineOf? .terse palette event = if event.isDetail then none
    else lineOf? .verbose palette event := by
  cases event <;> rfl

/-- A verbose log leaves nothing out. -/
theorem exists_lineOf?_verbose (palette : Palette) (event : Event) :
    ∃ content, lineOf? .verbose palette event = some content := by
  cases event <;> exact ⟨_, rfl⟩

/-- A very verbose log says more after what a verbose one says. -/
theorem lineOf?_veryVerbose {event : Event} {content : String}
    (line : lineOf? .verbose palette event = some content) :
    ∃ more, lineOf? .veryVerbose palette event = some (content ++ more) := by
  cases event with
  | entered | exited | backtracked | replayed => exact ⟨"", by rw [String.append_empty]; exact line⟩
  | consumed statement position =>
    obtain rfl := Option.some.inj line
    refine ⟨" " ++ palette.faint (Text.quoted statement.text), ?_⟩
    simp [lineOf?]
  | mismatched expected found position =>
    obtain rfl := Option.some.inj line
    refine ⟨match found with
      | some statement => " found " ++ statement.kind.name
      | none => " at end of input", ?_⟩
    cases found <;> simp [lineOf?]

variable (palette) (events : List Event)

theorem linesOf_terse :
    linesOf .terse palette events =
      (linesOf .verbose palette events).filter (fun line => !isDetail line) := by
  induction events with
  | nil => rfl
  | cons event earlier ih =>
    obtain ⟨content, line⟩ := exists_lineOf?_verbose palette event
    have sign : isDetail (indentation (event.depth earlier) ++ content) = event.isDetail := by
      rw [isDetail_indentation, isDetail_of_lineOf? line]
    rw [linesOf, linesOf, List.filter_append, ih, lineOf?_terse, line]
    cases detail : event.isDetail <;> simp [sign, detail]

/-- Each event has its line in a verbose log. -/
theorem forall₂_linesOf_verbose :
    List.Forall₂ (fun event line => isDetail line = event.isDetail) events.reverse
      (linesOf .verbose palette events) := by
  induction events with
  | nil => exact .nil
  | cons event earlier ih =>
    obtain ⟨content, line⟩ := exists_lineOf?_verbose palette event
    have sign : isDetail (indentation (event.depth earlier) ++ content) = event.isDetail := by
      rw [isDetail_indentation, isDetail_of_lineOf? line]
    rw [linesOf, line, List.reverse_cons]
    exact List.rel_append ih (.cons sign .nil)

theorem forall₂_linesOf_veryVerbose :
    List.Forall₂ (fun line longer => line.toList <+: longer.toList)
      (linesOf .verbose palette events) (linesOf .veryVerbose palette events) := by
  induction events with
  | nil => exact .nil
  | cons event earlier ih =>
    obtain ⟨content, line⟩ := exists_lineOf?_verbose palette event
    obtain ⟨more, longer⟩ := lineOf?_veryVerbose line
    rw [linesOf, linesOf, line, longer]
    refine List.rel_append ih (.cons ⟨more.toList, ?_⟩ .nil)
    simp [String.toList_append]

end Log

/-- A terse log of a parse has the lines of the verbose one but for those that tell of a mismatch,
of backtracking or of a replay, which have signs of their own; and a very verbose log has as many
lines as the verbose one, each of which begins with what it says there. -/
theorem verbosity_adds_detail (g : Grammar) (root : Structure) (limits : Limits)
    (statements : Array Statement) (palette : Palette) :
    let events := (parseWith g root limits ([] : List Event) statements).2.reverse
    let lines := fun verbosity =>
      (parseWith g root limits (Log.empty verbosity palette) statements).2.lines.toList
    List.Forall₂ (fun event line => Log.isDetail line = event.isDetail) events (lines .verbose) ∧
    lines .terse = (lines .verbose).filter (fun line => !Log.isDetail line) ∧
    List.Forall₂ (fun line longer => line.toList <+: longer.toList) (lines .verbose)
      (lines .veryVerbose) := by
  simp only [parseWith_lines]
  exact ⟨Log.forall₂_linesOf_verbose palette _, Log.linesOf_terse palette _,
    Log.forall₂_linesOf_veryVerbose palette _⟩

end OrderedChoice
