/-
Spans of a source text.

A span runs from a start to an end position. `Span.merge` covers two spans at
once: it takes the earlier start and the later end, so the span of a compound
node is the merge of the spans of its parts.
-/

import Scopewise.Source.Position

namespace Scopewise

/-- A range of a source text. -/
structure Span where
  start : Position
  stop : Position
deriving DecidableEq, Repr

namespace Span

/-- The span of a node that was built without source information. -/
def unknown : Span := ⟨.unknown, .unknown⟩

/-- The span that starts and ends at `p`. -/
def point (p : Position) : Span := ⟨p, p⟩

/-- The span from the earlier start to the later end. -/
def merge (a b : Span) : Span := ⟨a.start.earlier b.start, a.stop.later b.stop⟩

/-- A span is shown by its start. -/
def text (s : Span) : String := s.start.text

end Span

end Scopewise
