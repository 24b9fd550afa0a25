import OrderedChoice.Diagnostics
import OrderedChoice.Excerpt

/-!
# Diagnostics beside their source

With a source at hand, a diagnostic that has a place is shown as an annotated excerpt; all others
are shown in one line. How an excerpt is drawn is left to a renderer.
-/

namespace OrderedChoice

/-- The span within a source of `limit` bytes, one byte wide if it is empty and there is room. -/
def Span.withinSource (span : Span) (limit : Nat) : Span :=
  let start := min span.start limit
  let stop := min span.stop limit
  if start = stop then ⟨start, min (start + 1) limit⟩ else ⟨start, stop⟩

theorem Span.withinSource_stop_le (span : Span) (limit : Nat) :
    (span.withinSource limit).stop ≤ limit := by
  unfold Span.withinSource
  dsimp only
  split
  · exact Nat.min_le_right _ _
  · exact Nat.min_le_right _ _

/-- Draws an excerpt, with colours or without. There are excerpts that cannot be drawn. -/
abbrev Renderer :=
  Excerpt → Bool → Option String

/-- What there is to show diagnostics with. -/
structure ReportOptions where
  source : Option String
  path : Option String
  coloured : Bool

namespace Diagnostic

/-- The excerpt of the source that shows a diagnostic at a place. -/
def excerpt (diagnostic : Diagnostic) (span : Span) (source : String) (path : Option String) :
    Excerpt where
  level := diagnostic.severity.name
  levelStyle := match diagnostic.severity with
    | .error => .error
    | .warning => .warning
  message := diagnostic.message
  path
  source
  marks :=
    ⟨span.withinSource source.utf8ByteSize, diagnostic.message.toList, true⟩ ::
      diagnostic.related.map fun r =>
        ⟨r.span.withinSource source.utf8ByteSize, r.message.toList, false⟩
  hints := diagnostic.hints

/-- The diagnostic as an excerpt if it has a place in a source, and in one line otherwise. -/
def report? (diagnostic : Diagnostic) (options : ReportOptions)
    (render : Renderer := Excerpt.render?) : Option String :=
  match options.source, diagnostic.span with
  | some source, some span =>
    if source.isEmpty then some diagnostic.toText
    else render (diagnostic.excerpt span source options.path) options.coloured
  | _, _ => some diagnostic.toText

/-- Without a source, a diagnostic is reported in one line. -/
theorem report?_of_source_eq_none (diagnostic : Diagnostic) (path : Option String)
    (coloured : Bool) (render : Renderer) :
    diagnostic.report? ⟨none, path, coloured⟩ render = some diagnostic.toText := by
  simp [report?]

end Diagnostic

/-- All diagnostics, each on new lines. -/
def Diagnostics.report? (diagnostics : Diagnostics) (options : ReportOptions)
    (render : Renderer := Excerpt.render?) : Option String :=
  (diagnostics.entries.mapM fun d => Diagnostic.report? d options render).map ("\n".intercalate ·)

/-- Without a source, a report is the plain rendering. -/
theorem Diagnostics.report?_of_source_eq_none (diagnostics : Diagnostics) (path : Option String)
    (coloured : Bool) (render : Renderer) :
    diagnostics.report? ⟨none, path, coloured⟩ render = some diagnostics.render := by
  have texts (ds : List Diagnostic) :
      (ds.mapM fun d => d.report? ⟨none, path, coloured⟩ render) =
        some (ds.map Diagnostic.toText) := by
    induction ds with
    | nil => rfl
    | cons d ds ih => rw [List.mapM_cons, ih, d.report?_of_source_eq_none]; rfl
  rw [Diagnostics.report?, texts]
  rfl

end OrderedChoice
