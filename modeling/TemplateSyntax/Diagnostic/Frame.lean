import TemplateSyntax.Diagnostic
import TemplateSyntax.Text.Styled
import TemplateSyntax.Text.Tabs

/-!
# Diagnostics with a code frame

A rendered diagnostic is a header, a rule, a frame that shows the lines around
the span with carets under the marked characters, one part for every remark,
and one for the hint.
-/

namespace TemplateSyntax

/-- How a rendered diagnostic looks: how many lines of context it shows, how
wide tabs are, and the styles of its pieces. -/
structure FrameStyle where
  contextLines : Int
  tabWidth : Int
  header : String
  label : String
  gutter : String
  caret : String
  note : String
  hint : String
  deriving DecidableEq, Repr

/-- One line of context, tabs of four columns, errors in red. -/
def FrameStyle.standard : FrameStyle where
  contextLines := 1
  tabWidth := 4
  header := "bold red"
  label := "italic"
  gutter := "dim"
  caret := "bold red"
  note := "dim"
  hint := "italic dim"

/-- Tab widths are counted in 32 bits. -/
def isTabWidth (width : Int) : Bool :=
  -0x80000000 ≤ width && width < 0x80000000

/-- Why a diagnostic cannot be rendered. -/
inductive FrameError where
  | source (error : SourceError)
  | tabWidthOutOfRange
  deriving DecidableEq

def FrameError.message : FrameError → String
  | .source error => error.message
  | .tabWidthOutOfRange => "Python int too large to convert to C int"

/-- A part of a rendered diagnostic. -/
inductive FramePart where
  | text (content : Text.Styled)
  | rule (style : String)
  | panel (body title : Text.Styled) (border : String)
  deriving DecidableEq, Repr

/-- A line with its tabs expanded, as far as the tab width can be counted. -/
def expanded (tabWidth : Int) (line : List Char) :
    Except FrameError (List Char) :=
  if isTabWidth tabWidth then .ok (Text.expandTabs tabWidth line)
  else .error .tabWidthOutOfRange

/-- Carets from one column of a row up to another, both counted from zero.
There is always at least one caret. -/
def caretsBetween (lead reach : Nat) : List Char :=
  List.replicate lead ' ' ++ List.replicate (max 1 (reach - lead)) '^'

/-- Carets under the characters of a line from `start` up to `stop`, counted
from one, where they stand once the tabs are expanded. -/
def carets (line : List Char) (start stop : Nat) (tabWidth : Int) :
    Except FrameError (List Char) := do
  let front ← expanded tabWidth (line.take (start - 1))
  let upTo ← expanded tabWidth (line.take (stop - 1))
  return caretsBetween front.length upTo.length

namespace Diagnostic

/-- The line of the last marked character and the column behind it.  An empty
span ends where it starts, and a span over a line break stays on its line. -/
def spanEnd (diagnostic : Diagnostic) : Except SourceError LineColumn :=
  if diagnostic.span.length = 0 then diagnostic.lineColumn
  else do
    let last ← diagnostic.source.lineColumn (diagnostic.span.stop - 1)
    return ⟨last.line, last.column + 1⟩

/-- Pieces of a styled text with their styles. -/
abbrev Pieces : Type :=
  List (List Char × String)

/-- The lines shown, from the first to the last, both clamped to the source. -/
def window (source : Source) (first last : Nat) (contextLines : Int) :
    List Nat :=
  let low := max 1 ((first : Int) - contextLines)
  let high := min (source.lineCount : Int) (last + contextLines)
  (List.range (high - low + 1).toNat).map (· + low.toNat)

/-- How wide the column of line numbers is. -/
def gutterWidth (source : Source) (last : Nat) (contextLines : Int) : Nat :=
  (toString (min (source.lineCount : Int) (last + contextLines))).length

/-- A line number and the bar behind it. -/
def gutter (width line : Nat) : List Char :=
  let digits := (toString line).toList
  List.replicate (width - digits.length) ' ' ++ digits ++ " | ".toList

/-- The carets under one line of the span. -/
def caretRow (text : List Char) (line : Nat) (first last : LineColumn)
    (tabWidth : Int) : Except FrameError (List Char) :=
  let start := if line = first.line then first.column else 1
  let stop := if line = last.line then last.column else text.length + 1
  carets text start stop tabWidth

/-- The carets on a row of their own, if the line belongs to the span. -/
def caretPieces (style : FrameStyle) (width : Nat) (first last : LineColumn)
    (text : List Char) (line : Nat) : Except FrameError Pieces :=
  if first.line ≤ line ∧ line ≤ last.line then do
    let row ← caretRow text line first last style.tabWidth
    return [('\n' :: List.replicate (width + 3) ' ', ""), (row, style.caret)]
  else .ok []

/-- The rows for one line of the window. -/
def lineRows (source : Source) (style : FrameStyle) (width : Nat)
    (first last : LineColumn) (line : Nat) : Except FrameError Pieces := do
  let text := source.lineTextAt line
  let row ← expanded style.tabWidth text
  let marks ← caretPieces style width first last text line
  return (gutter width line, style.gutter) :: (row, "") :: marks

/-- All rows of the frame. -/
def frameBody (source : Source) (style : FrameStyle)
    (first last : LineColumn) : Except FrameError Text.Styled := do
  let width := gutterWidth source last.line style.contextLines
  let rows ← (window source first.line last.line style.contextLines).mapM
    (lineRows source style width first last)
  return Text.Styled.ofPieces (([(['\n'], "")] : Pieces).intercalate rows)

/-- The place named above the frame. -/
def frameTitle (source : Source) (style : FrameStyle) (first : LineColumn) :
    Text.Styled :=
  Text.Styled.ofPieces
    [(source.shownLabel.toList, style.label),
      (s!":{first.line}:{first.column}".toList, "")]

/-- The line above the frame. -/
def header (diagnostic : Diagnostic) (style : FrameStyle) : Text.Styled :=
  Text.Styled.ofPieces
    [("ERROR".toList, style.header),
      (diagnostic.shownCode.toList, ""),
      (s!": {diagnostic.message}".toList, "")]

/-- A remark behind its bullet. -/
def notePart (style : FrameStyle) (note : String) : FramePart :=
  .text (Text.Styled.ofPieces [("• ".toList, style.note), (note.toList, "")])

/-- The hint, unless there is none to show. -/
def hintParts (style : FrameStyle) : Option String → List FramePart
  | none | some "" => []
  | some hint =>
      [.text (Text.Styled.ofPieces
        [("Hint: ".toList, style.hint), (hint.toList, "")])]

/-- The diagnostic with its code frame.  A place outside the source is reported
before a tab width out of range. -/
def render (diagnostic : Diagnostic) (style : FrameStyle) :
    Except FrameError (List FramePart) := do
  let first ← diagnostic.lineColumn.mapError .source
  let last ← diagnostic.spanEnd.mapError .source
  let source := diagnostic.source
  let body ← frameBody source style first last
  return [.text (diagnostic.header style), .rule style.header,
      .panel body (frameTitle source style first) style.header] ++
    diagnostic.notes.map (notePart style) ++
    hintParts style diagnostic.hint

end Diagnostic

end TemplateSyntax
