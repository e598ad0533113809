import TemplateSyntax.Span
import TemplateSyntax.Text.Lines

/-!
# Source texts and their positions

A source is a text with an optional label that says where it came from.
Positions count characters from zero, lines and columns count from one.  A text
that ends in a line break has one more, empty line, so that the end of input
always lies on a line.
-/

namespace TemplateSyntax

/-- A text and where it came from. -/
structure Source where
  contents : String
  label : Option String
  deriving DecidableEq

/-- Why a source has no answer for a position, a span or a line number. -/
inductive SourceError where
  | positionOutside (position : Int) (length : Nat)
  | spanOutside (span : Span) (length : Nat)
  | noSuchLine
  /-- A line number beyond what lines are counted with. -/
  | lineOutOfReach
  deriving DecidableEq

def SourceError.message : SourceError → String
  | .positionOutside position length =>
      s!"pos {position} out of range [0, {length}]"
  | .spanOutside span length =>
      s!"SourceSpan(start={span.start}, end={span.stop}) runs past the end of the source ({length})"
  | .noSuchLine => "tuple index out of range"
  | .lineOutOfReach => "cannot fit 'int' into an index-sized integer"

/-- A line and a column, both counted from one. -/
structure LineColumn where
  line : Nat
  column : Nat
  deriving DecidableEq, Repr

namespace Source

def chars (source : Source) : List Char :=
  source.contents.toList

def length (source : Source) : Nat :=
  source.chars.length

/-- The label shown to the reader. -/
def shownLabel (source : Source) : String :=
  source.label.getD "<string>"

/-- The characters from one position up to another. -/
def between (source : Source) (start stop : Nat) : List Char :=
  (source.chars.drop start).take (stop - start)

/-- The text under a span; the span may not run past the end. -/
def slice (source : Source) (span : Span) : Except SourceError String :=
  if source.length < span.stop then
    .error (.spanOutside span source.length)
  else
    .ok (String.ofList (source.between span.start span.stop))

/-- The spans of pieces that stand end to end from a position on. -/
def spansFrom (start : Nat) : List (List Char) → List Span
  | [] => []
  | piece :: pieces =>
      ⟨start, start + piece.length, Nat.le_add_right _ _⟩ ::
        spansFrom (start + piece.length) pieces

/-- The span of every line, line breaks included; an empty source has none. -/
def lines (source : Source) : List Span :=
  spansFrom 0 (Text.splitLines source.chars)

/-- Where each line begins: at the start of the source and after every line
break. -/
def lineStarts (source : Source) : List Nat :=
  0 :: (source.lines.filter fun span =>
    Text.endsInBreak (source.between span.start span.stop)).map Span.stop

/-- How many lines there are, the empty one after a last line break included. -/
def lineCount (source : Source) : Nat :=
  source.lineStarts.length

/-- The text of a line that exists, without its line break. -/
def lineTextAt (source : Source) (line : Nat) : List Char :=
  let start := source.lineStarts.getD (line - 1) source.length
  let stop := source.lineStarts.getD line source.length
  Text.firstLine (source.between start stop)

/-- Line numbers are counted in 64 bits, starting from one. -/
def isLineNumber (number : Int) : Bool :=
  -0x8000000000000000 < number && number ≤ 0x8000000000000000

/-- The text of a line without its line break.  Lines are numbered from one;
a negative number counts back from the last line, and number zero is an empty
text. -/
def lineText (source : Source) (number : Int) : Except SourceError String :=
  let count := source.lineCount
  let line := if number < 0 then number + count else number
  if !isLineNumber number then .error .lineOutOfReach
  else if number = 0 then .ok ""
  else if 1 ≤ line ∧ line ≤ count then
    .ok (String.ofList (source.lineTextAt line.toNat))
  else .error .noSuchLine

/-- The line and column of a position that lies in the source or at its end. -/
def locate (source : Source) (position : Nat) : LineColumn :=
  let before := source.lineStarts.takeWhile (· ≤ position)
  ⟨before.length, position - before.getLast?.getD 0 + 1⟩

def lineColumn (source : Source) (position : Int) :
    Except SourceError LineColumn :=
  if 0 ≤ position ∧ position ≤ source.length then
    .ok (source.locate position.toNat)
  else
    .error (.positionOutside position source.length)

end Source

end TemplateSyntax
