import TemplateSyntax.Proofs.Diagnostic
import TemplateSyntax.Proofs.Positions

/-!
# What a code frame shows

A frame shows the lines of the span with some context, each with its number, and
a row of carets below the lines that the span touches and no others
(`Diagnostic.exists_framed`).  Nothing but a tab width that is not counted keeps
a diagnostic inside its source from being rendered
(`Diagnostic.exists_width_without_frame`).
-/

namespace TemplateSyntax

/-! ### Positions and lines of a span -/

/-- The positions of a span; an empty one has its start. -/
def Span.Marks (span : Span) (position : Nat) : Prop :=
  span.start ≤ position ∧ position < span.stop ∨
    span.start = span.stop ∧ position = span.start

def Span.last (span : Span) : Nat :=
  if span.length = 0 then span.start else span.stop - 1

theorem Span.marks_start (span : Span) : span.Marks span.start := by
  have ordered := span.start_le_stop
  rw [Marks]
  omega

theorem Span.marks_of_between {span : Span} {position : Nat}
    (first : span.start ≤ position) (last : position ≤ span.last) :
    span.Marks position := by
  have ordered := span.start_le_stop
  rw [Span.last, Span.length] at last
  rw [Marks]
  split at last <;> omega

theorem Span.between_of_marks {span : Span} {position : Nat}
    (marks : span.Marks position) :
    span.start ≤ position ∧ position ≤ span.last := by
  rw [Span.last, Span.length]
  rw [Marks] at marks
  split <;> omega

namespace Source

variable {source : Source}

theorem Stands.line_le_length {position : Nat} {place : LineColumn}
    (stands : source.Stands position place) :
    place.line ≤ source.lineStarts.length := by
  obtain ⟨start, atStart, _⟩ := stands.start
  obtain ⟨inside, _⟩ := List.getElem?_eq_some_iff.mp atStart
  have positive := stands.line_pos
  omega

theorem stands_lineStart {line start : Nat} (positive : 1 ≤ line)
    (atStart : source.lineStarts[line - 1]? = some start) :
    source.Stands start ⟨line, 1⟩ where
  line_pos := positive
  column_pos := Nat.le_refl 1
  start := ⟨start, atStart, rfl⟩
  before_next := by
    intro next atNext
    exact lineStarts_lt atStart atNext (by simp only; omega)

/-- The places of a span lie on the lines from that of its start to that of its
last position, and on each of these lies one. -/
theorem exists_marks_iff {span : Span} {first last : LineColumn}
    (atFirst : source.Stands span.start first)
    (atLast : source.Stands span.last last) (line : Nat) :
    (∃ position place, span.Marks position ∧ source.Stands position place ∧
        place.line = line) ↔ first.line ≤ line ∧ line ≤ last.line := by
  constructor
  · rintro ⟨position, place, marks, stands, rfl⟩
    obtain ⟨behind, before⟩ := Span.between_of_marks marks
    exact ⟨atFirst.line_le stands behind, stands.line_le atLast before⟩
  · rintro ⟨behind, before⟩
    rcases Nat.lt_or_eq_of_le behind with later | rfl
    · -- a line behind the first one begins inside the span
      have positive := atFirst.line_pos
      obtain ⟨lastStart, atLastStart, reached⟩ := atLast.start
      have columnPos := atLast.column_pos
      have notLast : line - 1 ≤ last.line - 1 := by omega
      have notFirst : first.line ≤ line - 1 := by omega
      obtain ⟨start, atStart⟩ := exists_lineStart notLast atLastStart
      obtain ⟨next, atNext⟩ := exists_lineStart notFirst atStart
      have afterFirst := atFirst.before_next next atNext
      have afterNext := lineStarts_mono atNext atStart (by omega)
      have beforeLast := lineStarts_mono atStart atLastStart (by omega)
      exact ⟨start, ⟨line, 1⟩, Span.marks_of_between (by omega) (by omega),
        stands_lineStart (by omega) atStart, rfl⟩
    · exact ⟨span.start, first, span.marks_start, atFirst, rfl⟩

end Source

/-! ### Rows and what they are about -/

/-- What a row of a frame is about. -/
inductive FrameRow where
  | source (line : Nat)
  | carets (line : Nat)
  deriving DecidableEq, Repr

namespace FrameRow

/-- The rows of the lines from `low` to `high`, with carets below the lines from
`first` to `last`. -/
def all (low high first last : Nat) : List FrameRow :=
  (List.range' low (high + 1 - low)).flatMap fun line =>
    .source line :: if first ≤ line ∧ line ≤ last then [.carets line] else []

/-- How a row is written when line numbers take `width` columns. -/
inductive Writes (source : Source) (tabWidth : Int) (width : Nat) :
    FrameRow → List Char → Prop where
  /-- The number ends at the bar, and the text of the line follows. -/
  | source {line blanks : Nat} :
      blanks + (toString line).length = width →
      Writes source tabWidth width (.source line)
        (List.replicate blanks ' ' ++ (toString line).toList ++
          " | ".toList ++
          Text.shown (Text.expandTabs tabWidth (source.lineTextAt line)))
  /-- Blanks as wide as number and bar, and then at least one caret. -/
  | carets {line blanks count : Nat} :
      0 < count →
      Writes source tabWidth width (.carets line)
        (List.replicate (width + 3 + blanks) ' ' ++
          List.replicate count '^')

end FrameRow

theorem length_toString_le {line high : Nat} (le : line ≤ high) :
    (toString line).length ≤ (toString high).length := by
  rw [← String.length_toList, ← String.length_toList, toList_toString_nat,
    toList_toString_nat, Nat.length_toDigits_le_iff (by decide)
      Nat.length_toDigits_pos]
  have below := (Nat.length_toDigits_le_iff (n := high) (by decide)
    (Nat.length_toDigits_pos (b := 10) (n := high))).mp (Nat.le_refl _)
  exact Nat.lt_of_le_of_lt le below

namespace Diagnostic

variable {diagnostic : Diagnostic} {style : FrameStyle}

/-- Some position of the span lies on the line. -/
def Touches (diagnostic : Diagnostic) (line : Nat) : Prop :=
  ∃ (position : Nat) (place : LineColumn),
    diagnostic.span.Marks position ∧
      diagnostic.source.lineColumn position = .ok place ∧ place.line = line

/-- What the rows of a frame are: the lines from `low` to `high`, around those
from `first` to `last`, which are the lines that the span touches. -/
structure Framed (diagnostic : Diagnostic) (style : FrameStyle)
    (body : Text.Styled) (first last low high : Nat) : Prop where
  first_line : ∃ place, diagnostic.source.lineColumn diagnostic.span.start =
    .ok place ∧ place.line = first
  last_line : ∃ place, diagnostic.source.lineColumn diagnostic.span.last =
    .ok place ∧ place.line = last
  low_eq : (low : Int) = max 1 ((first : Int) - style.contextLines)
  high_eq : (high : Int) =
    min (diagnostic.source.lineStarts.length : Int) (last + style.contextLines)
  ordered : low ≤ first ∧ first ≤ last ∧ last ≤ high
  rows : List.Forall₂
    (FrameRow.Writes diagnostic.source style.tabWidth (toString high).length)
    (FrameRow.all low high first last) body.rows
  touches_iff : ∀ line, diagnostic.Touches line ↔ first ≤ line ∧ line ≤ last

/-- The diagnostic is rendered with a frame around the lines of its span. -/
def ShowsSpan (diagnostic : Diagnostic) (style : FrameStyle) : Prop :=
  ∃ body title others first last low high,
    diagnostic.render style = .ok
      (.text (diagnostic.header style) :: .rule style.header ::
        .panel body title style.header :: others) ∧
    diagnostic.Framed style body first last low high

theorem touches_iff_stands
    (inside : diagnostic.span.stop ≤ diagnostic.source.length) (line : Nat) :
    diagnostic.Touches line ↔
      ∃ position place, diagnostic.span.Marks position ∧
        diagnostic.source.Stands position place ∧ place.line = line := by
  have ordered := diagnostic.span.start_le_stop
  constructor
  · rintro ⟨position, place, marks, answer, onLine⟩
    obtain ⟨_, rfl⟩ := Source.lineColumn_eq_ok_iff.mp answer
    exact ⟨position, _, marks, Source.stands_locate _ _, onLine⟩
  · rintro ⟨position, place, marks, stands, onLine⟩
    obtain rfl := stands.unique (Source.stands_locate _ _)
    have inText : position ≤ diagnostic.source.length := by
      rw [Span.Marks] at marks
      omega
    exact ⟨position, _, marks,
      Source.lineColumn_eq_ok_iff.mpr ⟨inText, rfl⟩, onLine⟩

/-- What a frame is laid out by: where the span begins, where its last position
stands, what the frame takes for its end, and the lines it shows. -/
structure LaidOut (diagnostic : Diagnostic) (style : FrameStyle)
    (first place last : LineColumn) (low high : Nat) : Prop where
  atFirst : diagnostic.lineColumn = .ok first
  firstStands : diagnostic.source.Stands diagnostic.span.start first
  atPlace : diagnostic.source.lineColumn diagnostic.span.last = .ok place
  placeStands : diagnostic.source.Stands diagnostic.span.last place
  atLast : diagnostic.spanEnd = .ok last
  /-- The end is on the line of the last position and right behind it. -/
  last_eq : last = ⟨place.line, place.column +
    (if diagnostic.span.length = 0 then 0 else 1)⟩
  low_eq : (low : Int) = max 1 ((first.line : Int) - style.contextLines)
  high_eq : (high : Int) =
    min (diagnostic.source.lineStarts.length : Int)
      (last.line + style.contextLines)

theorem exists_laidOut
    (inside : diagnostic.span.stop ≤ diagnostic.source.length)
    (context : 0 ≤ style.contextLines) :
    ∃ first place last low high,
      diagnostic.LaidOut style first place last low high := by
  have ordered := diagnostic.span.start_le_stop
  have lastInside : diagnostic.span.last ≤ diagnostic.source.length := by
    rw [Span.last]
    split <;> omega
  have atFirst : diagnostic.lineColumn =
      .ok (diagnostic.source.locate diagnostic.span.start) :=
    Source.lineColumn_eq_ok_iff.mpr ⟨by omega, rfl⟩
  have atPlace : diagnostic.source.lineColumn diagnostic.span.last =
      .ok (diagnostic.source.locate diagnostic.span.last) :=
    Source.lineColumn_eq_ok_iff.mpr ⟨lastInside, rfl⟩
  have atLast : diagnostic.spanEnd = .ok
      ⟨(diagnostic.source.locate diagnostic.span.last).line,
        (diagnostic.source.locate diagnostic.span.last).column +
          (if diagnostic.span.length = 0 then 0 else 1)⟩ := by
    rw [spanEnd]
    rw [Span.last] at atPlace ⊢
    by_cases empty : diagnostic.span.length = 0
    · simp only [if_pos empty, Nat.add_zero]
      exact atFirst
    · simp only [if_neg empty] at atPlace ⊢
      have cast : ((diagnostic.span.stop - 1 : Nat) : Int) =
          diagnostic.span.stop - 1 := by
        rw [Span.length] at empty
        omega
      rw [← cast, atPlace]
      rfl
  refine ⟨_, _, _, _, _, {
    atFirst := atFirst
    firstStands := Source.stands_locate _ _
    atPlace := atPlace
    placeStands := Source.stands_locate _ _
    atLast := atLast
    last_eq := rfl
    low_eq := Int.toNat_of_nonneg ?_
    high_eq := Int.toNat_of_nonneg ?_ }⟩
  · omega
  · omega

namespace LaidOut

variable {first place last : LineColumn} {low high : Nat}

theorem last_line (laid : diagnostic.LaidOut style first place last low high) :
    last.line = place.line := by
  rw [laid.last_eq]

theorem marks_iff (laid : diagnostic.LaidOut style first place last low high)
    (line : Nat) :
    (∃ position place', diagnostic.span.Marks position ∧
        diagnostic.source.Stands position place' ∧ place'.line = line) ↔
      first.line ≤ line ∧ line ≤ last.line := by
  rw [laid.last_line]
  exact Source.exists_marks_iff laid.firstStands laid.placeStands line

theorem ordered (laid : diagnostic.LaidOut style first place last low high)
    (context : 0 ≤ style.contextLines) :
    low ≤ first.line ∧ first.line ≤ last.line ∧ last.line ≤ high := by
  have firstPos := laid.firstStands.line_pos
  have lastLe := laid.placeStands.line_le_length
  have between := (laid.marks_iff first.line).mp
    ⟨_, _, Span.marks_start _, laid.firstStands, rfl⟩
  have low_eq := laid.low_eq
  have high_eq := laid.high_eq
  rw [← laid.last_line] at lastLe
  omega

theorem touches_iff (laid : diagnostic.LaidOut style first place last low high)
    (inside : diagnostic.span.stop ≤ diagnostic.source.length) (line : Nat) :
    diagnostic.Touches line ↔ first.line ≤ line ∧ line ≤ last.line := by
  rw [touches_iff_stands inside, laid.marks_iff]

end LaidOut

/-! ### Rows of the window -/

theorem window_eq {source : Source} {first last low high : Nat}
    {contextLines : Int}
    (low_eq : (low : Int) = max 1 ((first : Int) - contextLines))
    (high_eq : (high : Int) =
      min (source.lineStarts.length : Int) (last + contextLines)) :
    window source first last contextLines =
      List.range' low (high + 1 - low) := by
  have count : (high - low + 1 : Int).toNat = high + 1 - low := by omega
  rw [window, Source.lineCount, ← low_eq, ← high_eq, count,
    List.range'_eq_map_range]
  simp only [Int.toNat_natCast, Nat.add_comm]

theorem forall₂_flatMap {α β γ : Type} {R : β → γ → Prop} {f : α → List β}
    {g : α → List γ} {items : List α}
    (each : ∀ item ∈ items, List.Forall₂ R (f item) (g item)) :
    List.Forall₂ R (items.flatMap f) (items.flatMap g) := by
  induction items with
  | nil => exact .nil
  | cons item items ih =>
      rw [List.forall_mem_cons] at each
      rw [List.flatMap_cons, List.flatMap_cons]
      exact List.rel_append each.1 (ih each.2)

theorem writes_numberedRow (source : Source) (tabWidth : Int)
    {width line : Nat} (fits : (toString line).length ≤ width) :
    FrameRow.Writes source tabWidth width (.source line)
      (numberedRow source tabWidth width line) := by
  apply FrameRow.Writes.source
  rw [String.length_toList]
  exact Nat.sub_add_cancel fits

theorem writes_marksRow (source : Source) (tabWidth : Int) (width : Nat)
    (first last : LineColumn) (line : Nat) :
    FrameRow.Writes source tabWidth width (.carets line)
      (marksRow source tabWidth width first last line) := by
  rw [marksRow, lineCarets, caretsBetween, ← List.append_assoc,
    List.replicate_append_replicate]
  exact .carets (Nat.lt_of_lt_of_le Nat.zero_lt_one (Nat.le_max_left _ _))

theorem writes_rowsOf (source : Source) (tabWidth : Int) {width line : Nat}
    (fits : (toString line).length ≤ width) (first last : LineColumn) :
    List.Forall₂ (FrameRow.Writes source tabWidth width)
      (.source line :: if first.line ≤ line ∧ line ≤ last.line then
        [.carets line] else [])
      (rowsOf source tabWidth width first last line) := by
  refine .cons (writes_numberedRow source tabWidth fits) ?_
  split
  · exact .cons (writes_marksRow source tabWidth width first last line) .nil
  · exact .nil

/-- With a tab width that is counted the frame is made of the rows of the lines
it shows. -/
theorem LaidOut.exists_rows {first place last : LineColumn} {low high : Nat}
    (laid : diagnostic.LaidOut style first place last low high)
    (context : 0 ≤ style.contextLines)
    (counted : isTabWidth style.tabWidth = true) :
    ∃ body title others,
      diagnostic.render style = .ok
        (.text (diagnostic.header style) :: .rule style.header ::
          .panel body title style.header :: others) ∧
      body.rows = (List.range' low (high + 1 - low)).flatMap
        (rowsOf diagnostic.source style.tabWidth (toString high).length
          first last) := by
  obtain ⟨body, others, made, rendered⟩ :=
    exists_parts laid.atFirst laid.atLast counted
  have lines := window_eq laid.low_eq laid.high_eq
  have width : gutterWidth diagnostic.source last.line style.contextLines =
      (toString high).length := by
    rw [gutterWidth, Source.lineCount, ← laid.high_eq]
    rfl
  have someLine : first.line ∈ window diagnostic.source first.line last.line
      style.contextLines := by
    have ordered := laid.ordered context
    rw [lines, List.mem_range'_1]
    omega
  refine ⟨body, _, others, rendered, ?_⟩
  rw [rows_of_frameBody made counted someLine, lines, width]

/-- A diagnostic inside its source shows its span with every tab width that is
counted. -/
theorem exists_framed
    (inside : diagnostic.span.stop ≤ diagnostic.source.length)
    (context : 0 ≤ style.contextLines)
    (counted : isTabWidth style.tabWidth = true) :
    diagnostic.ShowsSpan style := by
  obtain ⟨first, place, last, low, high, laid⟩ :=
    exists_laidOut inside context
  obtain ⟨body, title, others, rendered, rows⟩ :=
    laid.exists_rows context counted
  refine ⟨body, title, others, first.line, last.line, low, high, rendered, {
    first_line := ⟨first, laid.atFirst, rfl⟩
    last_line := ⟨place, laid.atPlace, laid.last_line.symm⟩
    low_eq := laid.low_eq
    high_eq := laid.high_eq
    ordered := laid.ordered context
    rows := ?_
    touches_iff := laid.touches_iff inside }⟩
  rw [rows, FrameRow.all]
  apply forall₂_flatMap
  intro line member
  rw [List.mem_range'_1] at member
  exact writes_rowsOf _ _ (length_toString_le (by omega)) first last

/-- A span over a line break is shown with the lines around it. -/
theorem exists_framed_two_lines :
    (2 ≤ 6 ∧ (0 : Int) ≤ 1 ∧ isTabWidth 4 = true) ∧
      ShowsSpan
        { message := "m", span := ⟨1, 2, by decide⟩
          source := ⟨"a\n\tb\nc", none⟩, code := none, notes := []
          hint := none } .standard :=
  ⟨by decide, exists_framed (by decide) (by decide) (by decide)⟩

/-- A tab width that is not counted keeps every diagnostic inside its source
from being rendered. -/
theorem exists_width_without_frame :
    ¬∀ (diagnostic : Diagnostic) (style : FrameStyle),
      diagnostic.span.stop ≤ diagnostic.source.length →
      0 ≤ style.contextLines → diagnostic.ShowsSpan style := by
  intro shows
  obtain ⟨_, _, _, _, _, _, _, rendered, _⟩ := shows
    { message := "m", span := .single 0, source := ⟨"x", none⟩, code := none
      notes := [], hint := none }
    { FrameStyle.standard with tabWidth := 0x80000000 } (by decide) (by decide)
  cases rendered

end Diagnostic

end TemplateSyntax
