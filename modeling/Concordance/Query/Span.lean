import Concordance.Text.Offset

/-!
Contract: spans of a query's text.

Owns:
- half-open byte ranges, their join and the text they cover;
- the line of carets that points at a span under the query.

Does not own: which span an error carries (`Concordance.Query.Parser`).
-/

set_option autoImplicit false

namespace Concordance.Query

/-- The bytes from `start` up to, and without, `stop`. -/
structure Span where
  start : Nat
  stop : Nat
deriving DecidableEq, Repr, Inhabited

namespace Span

/-- The smallest span that covers both. -/
def join (left right : Span) : Span :=
  ⟨min left.start right.start, max left.stop right.stop⟩

/-- Number of bytes covered; a span that ends before it starts covers none. -/
def length (span : Span) : Nat := span.stop - span.start

def isEmpty (span : Span) : Bool := span.length == 0

/-- The covered part of a text, or nothing where the span does not name one. -/
def slice (span : Span) (source : Text) : Text :=
  (source.slice? span.start span.stop).getD []

/-- Written form of a span. -/
def render (span : Span) : Text :=
  Text.concat [Text.decimal span.start, "..", Text.decimal span.stop]

/-- Carets under the span, after as many blanks as characters precede it. A span
whose start is no character border is shown at the beginning of the line, one
that covers no text as a single caret. -/
def caretLine (query : Text) (span : Span) : Text :=
  let indent := ((query.slice? 0 span.start).map List.length).getD 0
  let extent := ((query.slice? span.start span.stop).map List.length).getD 1
  List.replicate indent ' ' ++ List.replicate (max extent 1) '^'

end Span

end Concordance.Query
