import TemplateSyntax.Parse

/-!
# Templates

A template is a source read line by line.  The first line that cannot be read
decides the outcome; its diagnostic points into the whole source.
-/

namespace TemplateSyntax

/-- A line of a template: where it stands and what it holds. -/
structure TemplateLine where
  span : Span
  items : List Item

/-- A source with the items of its lines. -/
structure Template where
  source : Source
  triggers : Triggers
  lines : List TemplateLine

/-- An error of a part of a source as an error of the whole. -/
def ParseError.advance (source : Source) (distance : Nat) :
    ParseError → ParseError
  | .atPlace diagnostic => .atPlace (diagnostic.advance source distance)
  | .number error => .number error
  | .nullTrigger => .nullTrigger

namespace Template

/-- Read the line under a span of a source. -/
def parseLineAt (triggers : Triggers) (source : Source) (span : Span) :
    Except ParseError TemplateLine := do
  let text := String.ofList (source.between span.start span.stop)
  let items ← (parseLine triggers text source.label).mapError
    (ParseError.advance source span.start)
  return ⟨span, items⟩

/-- Read all lines of a source. -/
def parse (triggers : Triggers) (source : Source) :
    Except ParseError Template := do
  let lines ← source.lines.mapM (parseLineAt triggers source)
  return ⟨source, triggers, lines⟩

def items (template : Template) : List Item :=
  template.lines.flatMap TemplateLine.items

end Template

end TemplateSyntax
