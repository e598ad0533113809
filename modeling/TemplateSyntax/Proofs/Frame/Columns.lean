import TemplateSyntax.Proofs.Frame.Carets
import TemplateSyntax.Proofs.Frame.Window

/-!
# Carets under the columns of a span

A displayed line is a row of cells, each of which stands for one character of
the source: a tab has as many cells as it is wide, and a dropped control
character has none.  Carets are counted on the expanded line, before anything is
dropped.  So they stand under the cells of the span as long as nothing is dropped
up to the end of the span, and under other cells otherwise
(`Diagnostic.exists_caretsUnder_iff`).
-/

namespace TemplateSyntax

/-! ### Cells of a line -/

namespace Text

/-- The cells of a line from a column on, each with the position in the source
of the character it stands for. -/
def cellsFrom (width : Int) (column position : Nat) :
    List Char → List (Char × Nat)
  | [] => []
  | '\t' :: rest =>
      List.replicate (tabStep width column) (' ', position) ++
        cellsFrom width (column + tabStep width column) (position + 1) rest
  | c :: rest =>
      (c, position) :: cellsFrom width (nextColumn c column) (position + 1) rest

/-- The cells of a line that are displayed. -/
def cells (width : Int) (position : Nat) (line : List Char) :
    List (Char × Nat) :=
  (cellsFrom width 0 position line).filter fun cell => !isDropped cell.1

variable {width : Int} {column position : Nat}

theorem map_fst_cellsFrom (width : Int) (column position : Nat)
    (line : List Char) :
    (cellsFrom width column position line).map Prod.fst =
      expandFrom width column line := by
  fun_induction cellsFrom width column position line with
  | case1 column position => rfl
  | case2 column position rest ih =>
      rw [List.map_append, List.map_replicate, ih, expandFrom]
  | case3 column position c rest notTab ih =>
      rw [List.map_cons, ih, expandFrom]
      exact notTab

/-- The cells are what the row shows of the line. -/
theorem map_fst_cells (width : Int) (position : Nat) (line : List Char) :
    (cells width position line).map Prod.fst =
      shown (expandTabs width line) := by
  rw [shown, expandTabs, ← map_fst_cellsFrom width 0 position, cells,
    List.filter_map]
  rfl

theorem length_cellsFrom (width : Int) (column position : Nat)
    (line : List Char) :
    (cellsFrom width column position line).length =
      (expandFrom width column line).length := by
  rw [← map_fst_cellsFrom width column position, List.length_map]

theorem cellsFrom_append (width : Int) (column position : Nat)
    (left right : List Char) :
    cellsFrom width column position (left ++ right) =
      cellsFrom width column position left ++
        cellsFrom width (columnBehind width column left)
          (position + left.length) right := by
  fun_induction cellsFrom width column position left with
  | case1 column position => rfl
  | case2 column position rest ih =>
      rw [List.cons_append, cellsFrom, ih, columnBehind, List.append_assoc,
        List.length_cons, Nat.add_right_comm, Nat.add_assoc]
  | case3 column position c rest notTab ih =>
      rw [List.cons_append, cellsFrom, ih, columnBehind, List.cons_append,
        List.length_cons, Nat.add_right_comm, Nat.add_assoc]
      · exact notTab
      · exact notTab

theorem position_of_mem_cellsFrom {line : List Char} {cell : Char × Nat}
    (member : cell ∈ cellsFrom width column position line) :
    position ≤ cell.2 ∧ cell.2 < position + line.length := by
  fun_induction cellsFrom width column position line with
  | case1 column position => cases member
  | case2 column position rest ih =>
      rw [List.length_cons]
      rcases List.mem_append.mp member with here | later
      · rw [(List.mem_replicate.mp here).2]
        simp only
        omega
      · have bounds := ih later
        omega
  | case3 column position c rest notTab ih =>
      rw [List.length_cons]
      rcases List.mem_cons.mp member with rfl | later
      · simp only
        omega
      · have bounds := ih later
        omega

theorem countP_cellsFrom (width : Int) (column position : Nat)
    (line : List Char) :
    (cellsFrom width column position line).countP
        (fun cell => isDropped cell.1) = line.countP isDropped := by
  fun_induction cellsFrom width column position line with
  | case1 column position => rfl
  | case2 column position rest ih =>
      have tab : isDropped '\t' = false := by decide
      have space : isDropped ' ' = false := by decide
      rw [List.countP_append, List.countP_replicate, ih]
      simp [tab, space]
  | case3 column position c rest notTab ih =>
      rw [List.countP_cons, ih, List.countP_cons]

theorem length_filter_cellsFrom (width : Int) (column position : Nat)
    (line : List Char) :
    ((cellsFrom width column position line).filter
        fun cell => !isDropped cell.1).length + line.countP isDropped =
      (expandFrom width column line).length := by
  have split := List.length_eq_countP_add_countP
    (fun cell : Char × Nat => isDropped cell.1)
    (l := cellsFrom width column position line)
  have kept : (fun cell : Char × Nat => decide ¬isDropped cell.1 = true) =
      fun cell => !isDropped cell.1 := by
    funext cell
    simp
  rw [kept, countP_cellsFrom, length_cellsFrom] at split
  rw [← List.countP_eq_length_filter]
  omega

theorem length_le_expandFrom (positive : 1 ≤ width) (column : Nat)
    (line : List Char) :
    line.length ≤ (expandFrom width column line).length := by
  fun_induction expandFrom width column line with
  | case1 column => exact Nat.le_refl _
  | case2 column rest ih =>
      have step : 1 ≤ tabStep width column := by
        have below := Nat.mod_lt column (y := width.toNat) (by omega)
        rw [tabStep, if_pos (by omega)]
        omega
      rw [List.length_cons, List.length_append, List.length_replicate]
      omega
  | case3 column c rest notTab ih =>
      rw [List.length_cons, List.length_cons]
      omega

theorem length_expandFrom_of_isDropped {c : Char}
    (dropped : isDropped c = true) (column : Nat) :
    (expandFrom width column [c]).length = 1 := by
  have notTab : c = '\t' → False := by
    rintro rfl
    exact absurd dropped (by decide)
  rw [expandFrom, expandFrom]
  · rfl
  · exact notTab

end Text

/-! ### Columns of a span -/

/-- The carets belong under this column: it shows a character of the span, or no
column does and it is the one behind all that is in front of the span. -/
def Span.MarksColumn (span : Span) (cells : List (Char × Nat)) (column : Nat) :
    Prop :=
  (∃ cell, cells[column]? = some cell ∧
    span.start ≤ cell.2 ∧ cell.2 < span.stop) ∨
  (∀ cell ∈ cells, ¬(span.start ≤ cell.2 ∧ cell.2 < span.stop)) ∧
    column = cells.countP fun cell => cell.2 < span.start

/-- The row holds carets under the columns of the span and nothing else but
blanks.  The cells of the line begin behind a margin. -/
structure CaretsUnder (span : Span) (cells : List (Char × Nat)) (margin : Nat)
    (row : List Char) : Prop where
  blank_or_caret : ∀ c ∈ row, c = ' ' ∨ c = '^'
  caret_iff : ∀ column, row[column]? = some '^' ↔
    margin ≤ column ∧ span.MarksColumn cells (column - margin)

/-- None of the characters in front of `start` is dropped, and none of those from
`start` up to `stop`, unless it stands there alone. -/
def DropsNothing (line : List Char) (start stop : Nat) : Prop :=
  (∀ c ∈ line.take start, Text.isDropped c = false) ∧
    ((∀ c ∈ (line.take stop).drop start, Text.isDropped c = false) ∨
      ((line.take stop).drop start).length = 1)

instance (line : List Char) (start stop : Nat) :
    Decidable (DropsNothing line start stop) :=
  -- going through the characters of the part, not through all there are
  haveI (part : List Char) :
      Decidable (∀ c ∈ part, Text.isDropped c = false) :=
    List.decidableBAll _ part
  inferInstanceAs (Decidable (_ ∧ _))

/-! ### Carets and cells -/

/-- If just the items in the middle have a property, then these are the places
where it is found. -/
theorem exists_getElem?_iff {α : Type} {p : α → Prop}
    {front middle back : List α} (before : ∀ item ∈ front, ¬p item)
    (within : ∀ item ∈ middle, p item) (behind : ∀ item ∈ back, ¬p item)
    (index : Nat) :
    (∃ item, (front ++ middle ++ back)[index]? = some item ∧ p item) ↔
      front.length ≤ index ∧ index < front.length + middle.length := by
  rw [List.append_assoc]
  constructor
  · rintro ⟨item, there, holds⟩
    rcases Nat.lt_or_ge index front.length with early | late
    · rw [List.getElem?_append_left early] at there
      exact absurd holds (before item (List.mem_of_getElem? there))
    · rw [List.getElem?_append_right late] at there
      rcases Nat.lt_or_ge (index - front.length) middle.length with here | later
      · omega
      · rw [List.getElem?_append_right later] at there
        exact absurd holds (behind item (List.mem_of_getElem? there))
  · rintro ⟨late, here⟩
    have inside : index - front.length < middle.length := by omega
    refine ⟨middle[index - front.length], ?_,
      within _ (List.getElem_mem inside)⟩
    rw [List.getElem?_append_right late, List.getElem?_append_left inside,
      List.getElem?_eq_getElem inside]

theorem getElem?_caretsBetween_iff (margin lead reach column : Nat) :
    (List.replicate margin ' ' ++ caretsBetween lead reach)[column]? =
        some '^' ↔
      margin + lead ≤ column ∧
        column < margin + lead + max 1 (reach - lead) := by
  have found : (∃ item, (List.replicate (margin + lead) ' ' ++
        List.replicate (max 1 (reach - lead)) '^' ++ [])[column]? = some item ∧
        item = '^') ↔ _ :=
    exists_getElem?_iff (by simp) (by simp) (by simp) column
  rw [caretsBetween, ← List.append_assoc, List.replicate_append_replicate]
  simpa using found

/-- Two ranges of columns that are not empty agree only if they are the same. -/
theorem ranges_agree {start start' count count' : Nat} (proper : 0 < count)
    (proper' : 0 < count')
    (agree : ∀ column, start ≤ column ∧ column < start + count ↔
      start' ≤ column ∧ column < start' + count') :
    start = start' ∧ count = count' := by
  have first := (agree start).mp (by omega)
  have first' := (agree start').mpr (by omega)
  obtain rfl : start = start' := by omega
  have last := agree (start + count)
  have last' := agree (start + count')
  omega

section Cells

variable {span : Span} {front middle back : List (Char × Nat)}
  (before : ∀ cell ∈ front, cell.2 < span.start)
  (within : ∀ cell ∈ middle, span.start ≤ cell.2 ∧ cell.2 < span.stop)
  (behind : ∀ cell ∈ back, span.stop ≤ cell.2)
include before within behind

/-- The columns of a span are those of its cells, or the one behind the cells in
front of it. -/
theorem marksColumn_iff (column : Nat) :
    span.MarksColumn (front ++ middle ++ back) column ↔
      front.length ≤ column ∧ column < front.length + max 1 middle.length := by
  have ordered := span.start_le_stop
  have found := exists_getElem?_iff
    (p := fun cell : Char × Nat => span.start ≤ cell.2 ∧ cell.2 < span.stop)
    (fun cell member => by have early := before cell member; omega) within
    (fun cell member => by have late := behind cell member; omega) column
  rw [Span.MarksColumn, found]
  cases middle with
  | nil =>
      have unmarked : ∀ cell ∈ front ++ [] ++ back,
          ¬(span.start ≤ cell.2 ∧ cell.2 < span.stop) := by
        intro cell member
        rw [List.append_nil] at member
        rcases List.mem_append.mp member with early | late
        · have bound := before cell early
          omega
        · have bound := behind cell late
          omega
      have frontAll : front.countP (fun cell => cell.2 < span.start) =
          front.length := by
        rw [List.countP_eq_length]
        intro cell member
        exact decide_eq_true (before cell member)
      have backNone : back.countP (fun cell => cell.2 < span.start) = 0 := by
        rw [List.countP_eq_zero]
        intro cell member
        have bound := behind cell member
        simp only [decide_eq_true_eq]
        omega
      rw [and_iff_right unmarked, List.append_nil, List.countP_append, frontAll,
        backNone, List.length_nil]
      omega
  | cons cell cells =>
      have marked : ¬∀ other ∈ front ++ cell :: cells ++ back,
          ¬(span.start ≤ other.2 ∧ other.2 < span.stop) := by
        intro unmarked
        exact unmarked cell (by simp) (within cell List.mem_cons_self)
      simp only [marked, false_and, or_false, List.length_cons]
      omega

/-- A row of carets is right if and only if it begins where the cells of the
span begin and is as wide. -/
theorem caretsUnder_iff_of_cells (margin lead reach : Nat) :
    CaretsUnder span (front ++ middle ++ back) margin
        (List.replicate margin ' ' ++ caretsBetween lead reach) ↔
      lead = front.length ∧ max 1 (reach - lead) = max 1 middle.length := by
  have marks := marksColumn_iff before within behind
  have carets := getElem?_caretsBetween_iff margin lead reach
  have proper : 0 < max 1 (reach - lead) := Nat.le_max_left 1 _
  have proper' : 0 < max 1 middle.length := Nat.le_max_left 1 _
  generalize max 1 (reach - lead) = count at carets proper ⊢
  generalize max 1 middle.length = count' at marks proper' ⊢
  constructor
  · intro under
    have agree : ∀ column,
        margin + lead ≤ column ∧ column < margin + lead + count ↔
          margin + front.length ≤ column ∧
            column < margin + front.length + count' := by
      intro column
      rw [← carets, under.caret_iff, marks]
      omega
    have same := ranges_agree proper proper' agree
    omega
  · rintro ⟨rfl, rfl⟩
    refine ⟨?_, ?_⟩
    · intro c member
      rcases List.mem_append.mp member with blank | inCarets
      · exact .inl (List.mem_replicate.mp blank).2
      · exact Diagnostic.mem_caretsBetween inCarets
    · intro column
      rw [carets, marks]
      omega

end Cells

theorem countP_isDropped_eq_zero_iff {line : List Char} :
    line.countP Text.isDropped = 0 ↔
      ∀ c ∈ line, Text.isDropped c = false := by
  simp only [List.countP_eq_zero, Bool.not_eq_true]

/-- The cells in front of a part are as many as the columns counted for it, and
those of the part as well, if and only if nothing is dropped.  A dropped
character is counted as one column; when it is alone, its column has the only
caret there always is. -/
theorem widths_agree_iff {width : Int} (positive : 1 ≤ width)
    (column column' position position' : Nat) (front middle : List Char) :
    (Text.expandFrom width column front).length =
          ((Text.cellsFrom width column position front).filter
            fun cell => !Text.isDropped cell.1).length ∧
        max 1 (Text.expandFrom width column' middle).length =
          max 1 ((Text.cellsFrom width column' position' middle).filter
            fun cell => !Text.isDropped cell.1).length ↔
      (∀ c ∈ front, Text.isDropped c = false) ∧
        ((∀ c ∈ middle, Text.isDropped c = false) ∨ middle.length = 1) := by
  have frontWidth := Text.length_filter_cellsFrom width column position front
  have middleWidth :=
    Text.length_filter_cellsFrom width column' position' middle
  have wide := Text.length_le_expandFrom positive column' middle
  have few : middle.countP Text.isDropped ≤ middle.length :=
    List.countP_le_length
  have single : middle.length = 1 → middle.countP Text.isDropped = 0 ∨
      (Text.expandFrom width column' middle).length = 1 := by
    intro one
    obtain ⟨c, rfl⟩ := List.length_eq_one_iff.mp one
    by_cases dropped : Text.isDropped c = true
    · exact .inr (Text.length_expandFrom_of_isDropped dropped column')
    · exact .inl (by simp [dropped])
  rw [← countP_isDropped_eq_zero_iff, ← countP_isDropped_eq_zero_iff]
  omega

/-- The carets for a part of a line, counted on the expanded line, stand under
its cells if and only if nothing is dropped. -/
theorem caretsUnder_iff {width : Int} (positive : 1 ≤ width)
    (line : List Char) (span : Span) (start margin : Nat) :
    CaretsUnder span (Text.cells width start line) margin
        (List.replicate margin ' ' ++ caretsBetween
          (Text.expandTabs width (line.take (span.start - start))).length
          (Text.expandTabs width (line.take (span.stop - start))).length) ↔
      DropsNothing line (span.start - start) (span.stop - start) := by
  have ordered := span.start_le_stop
  have le : span.start - start ≤ span.stop - start := by omega
  rw [DropsNothing]
  generalize frontEq : line.take (span.start - start) = front
  generalize middleEq :
    (line.take (span.stop - start)).drop (span.start - start) = middle
  generalize backEq : line.drop (span.stop - start) = back
  have upTo : line.take (span.stop - start) = front ++ middle := by
    have cut := List.take_append_drop (span.start - start)
      (line.take (span.stop - start))
    rw [List.take_take, Nat.min_eq_left le, frontEq, middleEq] at cut
    exact cut.symm
  have whole : line = front ++ middle ++ back := by
    rw [← upTo, ← backEq, List.take_append_drop]
  have frontLength : front.length = min (span.start - start) line.length := by
    rw [← frontEq, List.length_take]
  have middleLength : middle.length =
      min (span.stop - start) line.length - (span.start - start) := by
    rw [← middleEq, List.length_drop, List.length_take]
  have backLength : back.length = line.length - (span.stop - start) := by
    rw [← backEq, List.length_drop]
  rw [upTo, Text.cells, whole, Text.cellsFrom_append, Text.cellsFrom_append,
    List.filter_append, List.filter_append, caretsUnder_iff_of_cells,
    Text.expandTabs, Text.expandTabs, Text.expandFrom_append,
    List.length_append, Nat.add_sub_cancel_left]
  · exact widths_agree_iff positive 0 _ start _ front middle
  · intro cell member
    have bounds :=
      Text.position_of_mem_cellsFrom (List.mem_filter.mp member).1
    omega
  · intro cell member
    have bounds :=
      Text.position_of_mem_cellsFrom (List.mem_filter.mp member).1
    omega
  · intro cell member
    have bounds :=
      Text.position_of_mem_cellsFrom (List.mem_filter.mp member).1
    rw [List.length_append] at bounds
    omega

/-- A bell in front of the marked character moves its caret away from it. -/
example : ¬DropsNothing "\x07ab".toList 1 2 := by
  decide

/-! ### Carets of a frame -/

theorem Source.length_lineTextAt_le {source : Source} {line start next : Nat}
    (positive : 1 ≤ line)
    (atStart : source.lineStarts[line - 1]? = some start)
    (atNext : source.lineStarts[line]? = some next) :
    (source.lineTextAt line).length ≤ next - start := by
  obtain ⟨inside, _⟩ := List.getElem?_eq_some_iff.mp atStart
  obtain ⟨start', ending, atStart', between, _⟩ := exists_ending inside
  obtain rfl : start' = start :=
    Option.some.inj (atStart'.symm.trans atStart)
  rw [Nat.sub_add_cancel positive, atNext, Option.getD_some,
    Source.between] at between
  have width := List.length_take_le (next - start') (source.chars.drop start')
  rw [between, List.length_append] at width
  omega

namespace Diagnostic

variable {diagnostic : Diagnostic} {style : FrameStyle}

namespace LaidOut

variable {first place last : LineColumn} {low high line start : Nat}

theorem markStart_eq (laid : diagnostic.LaidOut style first place last low high)
    (atStart : diagnostic.source.lineStarts[line - 1]? = some start)
    (behind : first.line ≤ line) :
    markStart first line = diagnostic.span.start - start := by
  obtain ⟨firstStart, atFirstStart, reached⟩ := laid.firstStands.start
  have positive := laid.firstStands.line_pos
  have columnPos := laid.firstStands.column_pos
  rw [markStart]
  split
  · rename_i here
    rw [here, atFirstStart, Option.some.injEq] at atStart
    omega
  · -- the span begins on an earlier line
    have earlier : first.line ≤ line - 1 := by omega
    obtain ⟨next, atNext⟩ := Source.exists_lineStart earlier atStart
    have before := laid.firstStands.before_next next atNext
    have order := Source.lineStarts_mono atNext atStart (by omega)
    omega

theorem take_markStop (laid : diagnostic.LaidOut style first place last low high)
    (positive : 1 ≤ line)
    (atStart : diagnostic.source.lineStarts[line - 1]? = some start)
    (before : line ≤ last.line) :
    (diagnostic.source.lineTextAt line).take
        (markStop (diagnostic.source.lineTextAt line) last line) =
      (diagnostic.source.lineTextAt line).take
        (diagnostic.span.stop - start) := by
  have ordered := diagnostic.span.start_le_stop
  obtain ⟨lastStart, atLastStart, reached⟩ := laid.placeStands.start
  have columnPos := laid.placeStands.column_pos
  have line_eq := laid.last_line
  have column_eq : last.column = place.column +
      (if diagnostic.span.length = 0 then 0 else 1) := by
    rw [laid.last_eq]
  rw [Span.last] at reached
  rw [markStop]
  split
  · rename_i here
    rw [here, line_eq, atLastStart, Option.some.injEq] at atStart
    congr 1
    by_cases empty : diagnostic.span.length = 0
    · rw [if_pos empty] at reached column_eq
      rw [Span.length] at empty
      omega
    · rw [if_neg empty] at reached column_eq
      rw [Span.length] at empty
      omega
  · -- the span goes on behind the line
    have earlier : line ≤ place.line - 1 := by omega
    obtain ⟨next, atNext⟩ := Source.exists_lineStart earlier atLastStart
    have order := Source.lineStarts_mono atNext atLastStart (by omega)
    have short := Source.length_lineTextAt_le positive atStart atNext
    have nextLe : next ≤ diagnostic.span.stop := by
      split at reached <;> omega
    rw [Nat.add_sub_cancel, List.take_length, List.take_of_length_le]
    omega

theorem marksRow_eq (laid : diagnostic.LaidOut style first place last low high)
    (positive : 1 ≤ line)
    (atStart : diagnostic.source.lineStarts[line - 1]? = some start)
    (between : first.line ≤ line ∧ line ≤ last.line)
    (tabWidth : Int) (width : Nat) :
    marksRow diagnostic.source tabWidth width first last line =
      List.replicate (width + 3) ' ' ++ caretsBetween
        (Text.expandTabs tabWidth ((diagnostic.source.lineTextAt line).take
          (diagnostic.span.start - start))).length
        (Text.expandTabs tabWidth ((diagnostic.source.lineTextAt line).take
          (diagnostic.span.stop - start))).length := by
  rw [marksRow, lineCarets, laid.markStart_eq atStart between.1,
    laid.take_markStop positive atStart between.2]

end LaidOut

theorem length_gutter {width line : Nat}
    (fits : (toString line).length ≤ width) :
    (gutter width line).length = width + 3 := by
  have bar : " | ".toList.length = 3 := rfl
  rw [gutter, List.length_append, List.length_append, List.length_replicate,
    String.length_toList, bar]
  omega

/-- The diagnostic is rendered with a frame that has a row of carets below the
row of every line that the span touches.  The carets are under the columns in
which characters of the span are displayed, or under the one behind all that is
in front of the span, if and only if nothing is dropped up to its end. -/
def PlacesCarets (diagnostic : Diagnostic) (style : FrameStyle) : Prop :=
  ∃ body title others width,
    diagnostic.render style = .ok
      (.text (diagnostic.header style) :: .rule style.header ::
        .panel body title style.header :: others) ∧
    ∀ line start, diagnostic.Touches line →
      diagnostic.source.lineStarts[line - 1]? = some start →
      ∃ front row back,
        body.rows = front ++
          (gutter width line ++ (Text.cells style.tabWidth start
            (diagnostic.source.lineTextAt line)).map Prod.fst) ::
          row :: back ∧
        (gutter width line).length = width + 3 ∧
        (CaretsUnder diagnostic.span
            (Text.cells style.tabWidth start
              (diagnostic.source.lineTextAt line)) (width + 3) row ↔
          DropsNothing (diagnostic.source.lineTextAt line)
            (diagnostic.span.start - start)
            (diagnostic.span.stop - start))

/-- With every positive tab width that is counted, the carets of a diagnostic
inside its source are right just where nothing is dropped. -/
theorem exists_caretsUnder_iff
    (inside : diagnostic.span.stop ≤ diagnostic.source.length)
    (context : 0 ≤ style.contextLines) (positive : 1 ≤ style.tabWidth)
    (counted : isTabWidth style.tabWidth = true) :
    diagnostic.PlacesCarets style := by
  obtain ⟨first, place, last, low, high, laid⟩ :=
    exists_laidOut inside context
  obtain ⟨body, title, others, rendered, rows⟩ :=
    laid.exists_rows context counted
  refine ⟨body, title, others, (toString high).length, rendered, ?_⟩
  intro line start touched atStart
  have between := (laid.touches_iff inside line).mp touched
  have ordered := laid.ordered context
  have firstPos := laid.firstStands.line_pos
  have member : line ∈ List.range' low (high + 1 - low) := by
    rw [List.mem_range'_1]
    omega
  obtain ⟨before, after, split⟩ := List.append_of_mem member
  rw [split, List.flatMap_append, List.flatMap_cons, rowsOf, if_pos between,
    numberedRow, ← Text.map_fst_cells style.tabWidth start] at rows
  refine ⟨_, _, _, rows, length_gutter (length_toString_le (by omega)), ?_⟩
  rw [laid.marksRow_eq (by omega) atStart between]
  exact caretsUnder_iff positive _ _ _ _

/-- A span from a tab on over a line break, with a bell on the second line. -/
theorem exists_caretsUnder_iff_bell :
    (5 ≤ 7 ∧ (0 : Int) ≤ 1 ∧ (1 : Int) ≤ 4 ∧ isTabWidth 4 = true) ∧
      PlacesCarets
        { message := "m", span := ⟨1, 5, by decide⟩
          source := ⟨"a\tb\n\x07cd", none⟩, code := none, notes := []
          hint := none } .standard :=
  ⟨by decide,
    exists_caretsUnder_iff (by decide) (by decide) (by decide) (by decide)⟩

end Diagnostic

end TemplateSyntax
