/-!
# Styled text

A text built from pieces, some of them in a style.  Each styled piece that is
not empty marks the range it occupies; marks stay in the order of the pieces
and are not joined.  Five control characters that a terminal would act on are
dropped from every piece, so the mark of a piece that holds nothing else is an
empty range.
-/

namespace TemplateSyntax.Text

/-- A range of a text in a style. -/
structure Mark where
  start : Nat
  stop : Nat
  style : String
  deriving DecidableEq, Repr

/-- A text with marked ranges. -/
structure Styled where
  chars : List Char
  marks : List Mark
  deriving DecidableEq, Repr

/-- Bell, backspace, vertical tab, form feed and carriage return. -/
def isDropped (c : Char) : Bool :=
  ['\x07', '\x08', '\x0b', '\x0c', '\r'].contains c

/-- What a piece shows. -/
def shown (piece : List Char) : List Char :=
  piece.filter fun c => !isDropped c

namespace Styled

def empty : Styled := ⟨[], []⟩

/-- The text with one more piece; the empty style leaves no mark. -/
def append (text : Styled) (piece : List Char) (style : String) : Styled :=
  let visible := shown piece
  let start := text.chars.length
  { chars := text.chars ++ visible
    marks :=
      if piece.isEmpty || style.isEmpty then text.marks
      else text.marks ++ [⟨start, start + visible.length, style⟩] }

/-- The text built from pieces with their styles. -/
def ofPieces (pieces : List (List Char × String)) : Styled :=
  pieces.foldl (fun text (piece, style) => text.append piece style) empty

theorem chars_ofPieces (pieces : List (List Char × String)) :
    (ofPieces pieces).chars = pieces.flatMap fun piece => shown piece.1 := by
  suffices general : ∀ text : Styled,
      (pieces.foldl (fun text (piece, style) => text.append piece style)
        text).chars = text.chars ++ pieces.flatMap fun piece => shown piece.1 by
    simpa [ofPieces, empty] using general empty
  induction pieces with
  | nil =>
      intro text
      simp
  | cons piece pieces ih =>
      intro text
      rw [List.foldl_cons, ih]
      simp [append]

end Styled

end TemplateSyntax.Text
