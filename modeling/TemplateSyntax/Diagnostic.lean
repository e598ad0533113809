import TemplateSyntax.Source

/-!
# Diagnostics

A diagnostic is a message about a span of a source, with an optional code,
remarks and an optional hint.  It can be moved into a larger source, and it has
a form of one line.
-/

namespace TemplateSyntax

/-- A message about a place in a source. -/
structure Diagnostic where
  message : String
  span : Span
  source : Source
  code : Option String
  notes : List String
  hint : Option String
  deriving DecidableEq

namespace Diagnostic

/-- The code, unless there is none to show. -/
def shownCode (diagnostic : Diagnostic) : String :=
  match diagnostic.code with
  | none | some "" => ""
  | some code => s!" [{code}]"

/-- The diagnostic inside a larger source in which its own source begins
`distance` characters further in. -/
def advance (diagnostic : Diagnostic) (source : Source) (distance : Nat) :
    Diagnostic :=
  { diagnostic with source, span := diagnostic.span.advance distance }

/-- The diagnostic moved into another source by a distance that may be
negative. -/
def shift (diagnostic : Diagnostic) (source : Source) (distance : Int) :
    Except SpanError Diagnostic := do
  let span ← diagnostic.span.shift distance
  return { diagnostic with source, span }

def lineColumn (diagnostic : Diagnostic) : Except SourceError LineColumn :=
  diagnostic.source.lineColumn diagnostic.span.start

/-- The diagnostic in one line. -/
def plain (diagnostic : Diagnostic) : Except SourceError String := do
  let place ← diagnostic.lineColumn
  return s!"ERROR{diagnostic.shownCode}: {diagnostic.message} at {diagnostic.source.shownLabel}:{place.line}:{place.column}"

end Diagnostic

end TemplateSyntax
