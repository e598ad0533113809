import TemplateSyntax.Proofs.Diagnostic
import TemplateSyntax.Proofs.Template

/-!
# Lines and positions of a source

Three views of a source agree: the spans of its lines, the positions at which
its lines start, and the line and column of a position
(`Source.consistent`).  The starts are those of the spans, and one more behind a
last line break.  A source without lines still has the start of its only, empty
line, so there the starts are not those of the spans alone
(`Source.exists_start_of_no_line`).
-/

namespace TemplateSyntax

/-! ### Lines of a text -/

namespace Text

inductive IsBreak : List Char → Prop where
  | one {c : Char} : isLineBreak c = true → IsBreak [c]
  | pair : IsBreak ['\r', '\n']

/-- Every line is plain text with one line break behind it, which only the last
line may lack. -/
def Parted : List (List Char) → Prop
  | [] => True
  | line :: lines =>
      (∃ ending, line = firstLine line ++ ending ∧
        (IsBreak ending ∨ ending = [] ∧ lines = [])) ∧ Parted lines

theorem firstLine_cons_of_break {c : Char} (lineBreak : isLineBreak c = true)
    (rest : List Char) : firstLine (c :: rest) = [] := by
  simp [firstLine, lineBreak]

theorem firstLine_cons_of_plain {c : Char} (plain : isLineBreak c = false)
    (rest : List Char) : firstLine (c :: rest) = c :: firstLine rest := by
  simp [firstLine, plain]

theorem parted_splitLines (text : List Char) : Parted (splitLines text) := by
  fun_induction splitLines text with
  | case1 => trivial
  | case2 rest ih => exact ⟨⟨['\r', '\n'], rfl, .inl .pair⟩, ih⟩
  | case3 c rest _ lineBreak ih =>
      refine ⟨⟨[c], ?_, .inl (.one lineBreak)⟩, ih⟩
      rw [firstLine_cons_of_break lineBreak, List.nil_append]
  | case4 c rest _ plain _ _ =>
      rw [Bool.not_eq_true] at plain
      refine ⟨⟨[], ?_, .inr ⟨rfl, rfl⟩⟩, trivial⟩
      rw [firstLine_cons_of_plain plain]
      rfl
  | case5 c rest _ plain line lines split ih =>
      rw [Bool.not_eq_true] at plain
      rw [split] at ih
      obtain ⟨⟨ending, lineEq, ended⟩, others⟩ := ih
      refine ⟨⟨ending, ?_, ended⟩, others⟩
      rw [firstLine_cons_of_plain plain, List.cons_append, ← lineEq]

theorem Parted.ended {lines front back : List (List Char)} {line : List Char}
    (parted : Parted lines) (split : lines = front ++ line :: back) :
    ∃ ending, line = firstLine line ++ ending ∧
      (IsBreak ending ∨ ending = [] ∧ back = []) := by
  subst split
  induction front with
  | nil => exact parted.1
  | cons _ _ ih => exact ih parted.2

theorem IsBreak.ne_nil {ending : List Char} (lineBreak : IsBreak ending) :
    ending ≠ [] := by
  cases lineBreak <;> exact List.cons_ne_nil _ _

theorem IsBreak.endsInBreak {ending : List Char} (lineBreak : IsBreak ending) :
    endsInBreak ending = true := by
  cases lineBreak with
  | one lineBreak => simp [Text.endsInBreak, lineBreak]
  | pair => decide

theorem endsInBreak_append_of_ne_nil {text : List Char} (front : List Char)
    (proper : text ≠ []) : endsInBreak (front ++ text) = endsInBreak text := by
  rw [endsInBreak, endsInBreak, List.getLast?_append_of_ne_nil _ proper]

theorem Parted.endsInBreak {line next : List Char} {lines : List (List Char)}
    (parted : Parted (line :: next :: lines)) : endsInBreak line = true := by
  obtain ⟨ending, lineEq, lineBreak | ⟨_, last⟩⟩ := parted.1
  · rw [lineEq, endsInBreak_append_of_ne_nil _ lineBreak.ne_nil,
      lineBreak.endsInBreak]
  · cases last

theorem Joined.whole {lines front back : List (List Char)}
    {line next : List Char} (joined : Joined lines)
    (split : lines = front ++ line :: next :: back) (proper : next ≠ []) :
    ¬(line.getLast? = some '\r' ∧ next.head? = some '\n') := by
  subst split
  induction front with
  | nil =>
      rintro ⟨carriage, feed⟩
      obtain ⟨c, last, _, uncut⟩ := joined.1 (List.cons_ne_nil _ _)
      rw [carriage] at last
      cases last
      apply uncut rfl
      rw [List.flatten_cons, List.head?_append_of_ne_nil _ proper]
      exact feed
  | cons _ _ ih => exact ih joined.2

end Text

/-! ### Spans that stand end to end -/

/-- The spans stand end to end from one position to another, and none of them is
empty. -/
inductive Span.Tiles : Nat → List Span → Nat → Prop where
  | nil (position : Nat) : Tiles position [] position
  | cons {start stop : Nat} {span : Span} {spans : List Span} :
      span.start = start → start < span.stop → Tiles span.stop spans stop →
      Tiles start (span :: spans) stop

namespace Span.Tiles

variable {start stop : Nat} {spans front back : List Span} {span next : Span}

theorem start_le_stop (tiles : Tiles start spans stop) : start ≤ stop := by
  induction tiles with
  | nil => exact Nat.le_refl _
  | cons _ proper _ ih => omega

theorem starts_increase (tiles : Tiles start spans stop) :
    (spans.map Span.start).Pairwise (· < ·) ∧
      ∀ position ∈ spans.map Span.start,
        start ≤ position ∧ position < stop := by
  induction tiles with
  | nil => simp
  | cons starts proper later ih =>
      obtain ⟨increasing, between⟩ := ih
      have inside := later.start_le_stop
      rw [List.map_cons, List.pairwise_cons, List.forall_mem_cons]
      refine ⟨⟨fun position member => ?_, increasing⟩, by omega,
        fun position member => ?_⟩
      · have bounds := between position member
        omega
      · have bounds := between position member
        omega

theorem behind (tiles : Tiles start (front ++ span :: back) stop) :
    Tiles span.stop back stop := by
  induction front generalizing start with
  | nil =>
      cases tiles with
      | cons _ _ later => exact later
  | cons _ _ ih =>
      cases tiles with
      | cons _ _ later => exact ih later

theorem eq_of_nil (tiles : Tiles start [] stop) : start = stop := by
  cases tiles
  rfl

theorem start_next (tiles : Tiles start (next :: back) stop) :
    next.start = start := by
  cases tiles
  assumption

end Span.Tiles

/-! ### Where lines start -/

namespace Source

variable {source : Source}

theorem tiles_spansFrom (start : Nat) {pieces : List (List Char)}
    (proper : ∀ piece ∈ pieces, piece ≠ []) :
    Span.Tiles start (spansFrom start pieces)
      (start + pieces.flatten.length) := by
  induction pieces generalizing start with
  | nil => exact .nil start
  | cons piece pieces ih =>
      rw [List.forall_mem_cons] at proper
      have later := ih (start + piece.length) proper.2
      have positive := List.length_pos_iff.mpr proper.1
      rw [List.flatten_cons, List.length_append, ← Nat.add_assoc]
      exact .cons rfl (Nat.lt_add_of_pos_right positive) later

theorem tiles_lines (source : Source) :
    Span.Tiles 0 source.lines source.length := by
  have proper : ∀ line ∈ Text.splitLines source.chars, line ≠ [] :=
    fun _ => Text.ne_nil_of_mem_splitLines
  have tiles := tiles_spansFrom 0 proper
  rwa [Text.flatten_splitLines, Nat.zero_add] at tiles

/-- The starts behind each line break of pieces are the starts of their spans,
and their end if they end in a line break. -/
theorem starts_spansFrom {pieces : List (List Char)} (front : List Char)
    (chars : source.chars = front ++ pieces.flatten)
    (parted : Text.Parted pieces) (proper : ∀ piece ∈ pieces, piece ≠ []) :
    front.length :: ((spansFrom front.length pieces).filter fun span =>
        Text.endsInBreak (source.between span.start span.stop)).map
          Span.stop =
      (if pieces = [] then [front.length]
        else (spansFrom front.length pieces).map Span.start) ++
      (if Text.endsInBreak pieces.flatten then [source.length] else []) := by
  induction pieces generalizing front with
  | nil => rfl
  | cons piece pieces ih =>
      have here : source.between front.length (front.length + piece.length) =
          piece := by
        cases forall_between_spansFrom front chars with
        | cons between _ => exact between
      rw [List.forall_mem_cons] at proper
      rw [List.flatten_cons] at chars ⊢
      rw [spansFrom, List.filter_cons, here, if_neg (List.cons_ne_nil _ _)]
      cases pieces with
      | nil =>
          have whole : source.length = front.length + piece.length := by
            rw [Source.length, chars]
            simp
          rw [List.flatten_nil, List.append_nil, whole]
          cases Text.endsInBreak piece <;> rfl
      | cons next pieces =>
          have nonempty : (next :: pieces).flatten ≠ [] := by
            simp [proper.2 next List.mem_cons_self]
          rw [← List.append_assoc] at chars
          have later := ih (front ++ piece) chars parted.2 proper.2
          rw [List.length_append, if_neg (List.cons_ne_nil _ _)] at later
          rw [parted.endsInBreak, if_pos rfl, List.map_cons, later,
            Text.endsInBreak_append_of_ne_nil _ nonempty]
          rfl

/-- Lines start where their spans do, and behind a last line break. -/
theorem lineStarts_eq (source : Source) :
    source.lineStarts =
      (if source.lines = [] then [0] else source.lines.map Span.start) ++
        (if Text.endsInBreak source.chars then [source.length] else []) := by
  have chars : source.chars = [] ++ (Text.splitLines source.chars).flatten :=
    (Text.flatten_splitLines source.chars).symm
  have starts := starts_spansFrom [] chars
    (Text.parted_splitLines source.chars)
    (fun _ => Text.ne_nil_of_mem_splitLines)
  rw [Text.flatten_splitLines] at starts
  have empty : source.lines = [] ↔ Text.splitLines source.chars = [] := by
    rw [lines]
    cases Text.splitLines source.chars <;> simp [spansFrom]
  simp only [empty]
  exact starts

theorem endsInBreak_of_ne_nil (ending : Text.endsInBreak source.chars = true) :
    source.lines ≠ [] ∧ 0 < source.length := by
  have nonempty : source.chars ≠ [] := by
    intro empty
    rw [empty] at ending
    cases ending
  have positive := List.length_pos_iff.mpr nonempty
  refine ⟨?_, positive⟩
  intro none
  have tiles := source.tiles_lines
  rw [none] at tiles
  have empty : 0 = source.chars.length := tiles.eq_of_nil
  omega

theorem lineStarts_increase (source : Source) :
    source.lineStarts.Pairwise (· < ·) := by
  obtain ⟨increasing, inside⟩ := source.tiles_lines.starts_increase
  rw [lineStarts_eq, List.pairwise_append]
  refine ⟨?_, ?_, ?_⟩
  · split
    · exact List.pairwise_singleton _ _
    · exact increasing
  · split
    · exact List.pairwise_singleton _ _
    · exact .nil
  · intro start before last behind
    split at behind
    · rename_i ending
      obtain ⟨some, _⟩ := endsInBreak_of_ne_nil ending
      rw [if_neg some] at before
      rw [List.mem_singleton.mp behind]
      exact (inside start before).2
    · cases behind

/-- Where a line starts, and where the next one does if there is one. -/
theorem lineStarts_of_split {front back : List Span} {span : Span}
    (split : source.lines = front ++ span :: back) :
    source.lineStarts[front.length]? = some span.start ∧
      source.lineStarts[front.length + 1]? =
        if back = [] ∧ Text.endsInBreak source.chars = false then none
        else some span.stop := by
  have tiles := source.tiles_lines
  have nonempty : source.lines ≠ [] := by
    rw [split]
    simp
  rw [split] at tiles
  have later := tiles.behind
  rw [lineStarts_eq, if_neg nonempty, split, List.map_append, List.map_cons,
    List.append_assoc]
  have width : (front.map Span.start).length = front.length :=
    List.length_map _
  constructor
  · rw [List.getElem?_append_right (by omega), width, Nat.sub_self]
    rfl
  · rw [List.getElem?_append_right (by omega), width, Nat.add_sub_cancel_left,
      List.cons_append, List.getElem?_cons_succ]
    cases back with
    | nil =>
        have last : source.length = span.stop := later.eq_of_nil.symm
        cases Text.endsInBreak source.chars <;> simp [last]
    | cons next back => simp [later.start_next]

/-! ### Positions -/

section TakeWhile

variable {α : Type} {p : α → Bool} {items : List α}

/-- The last item of a run stands right before its end, and belongs to it. -/
theorem exists_last_of_takeWhile (begins : items.takeWhile p ≠ []) :
    ∃ last, (items.takeWhile p).getLast? = some last ∧
      items[(items.takeWhile p).length - 1]? = some last ∧ p last = true := by
  obtain ⟨last, found⟩ :=
    Option.isSome_iff_exists.mp (List.getLast?_isSome.mpr begins)
  have atLast := found
  rw [List.getLast?_eq_getElem?] at atLast
  obtain ⟨inside, _⟩ := List.getElem?_eq_some_iff.mp atLast
  have whole : (items.takeWhile p ++ items.dropWhile p)[
      (items.takeWhile p).length - 1]? = some last :=
    (List.getElem?_append_left inside).trans atLast
  rw [List.takeWhile_append_dropWhile] at whole
  exact ⟨last, found, whole,
    List.all_eq_true.mp List.all_takeWhile _ (List.mem_of_getLast? found)⟩

theorem not_of_length_takeWhile {next : α}
    (there : items[(items.takeWhile p).length]? = some next) :
    p next = false := by
  have behind : (items.takeWhile p ++ items.dropWhile p)[
      (items.takeWhile p).length]? = (items.dropWhile p)[0]? := by
    rw [List.getElem?_append_right (Nat.le_refl _), Nat.sub_self]
  rw [List.takeWhile_append_dropWhile, there, ← List.head?_eq_getElem?] at behind
  have refused := List.head?_dropWhile_not p items
  rwa [← behind] at refused

end TakeWhile

/-- What finding the place of a position amounts to: the last line that does not
start behind it, and the distance from its start. -/
structure Stands (source : Source) (position : Nat) (place : LineColumn) :
    Prop where
  line_pos : 1 ≤ place.line
  column_pos : 1 ≤ place.column
  start : ∃ start, source.lineStarts[place.line - 1]? = some start ∧
    start + place.column - 1 = position
  before_next : ∀ next, source.lineStarts[place.line]? = some next →
    position < next

theorem stands_locate (source : Source) (position : Nat) :
    source.Stands position (source.locate position) := by
  have begins : source.lineStarts.takeWhile (· ≤ position) ≠ [] := by
    rw [lineStarts, List.takeWhile_cons_of_pos (by simp)]
    exact List.cons_ne_nil _ _
  have positive := List.length_pos_iff.mpr begins
  obtain ⟨start, last, atStart, before⟩ := exists_last_of_takeWhile begins
  have column : (source.locate position).column = position - start + 1 := by
    simp only [locate, last, Option.getD_some]
  have reached : start ≤ position := of_decide_eq_true before
  refine ⟨positive, by omega, ⟨start, atStart, by omega⟩, ?_⟩
  intro next atNext
  have beyond := not_of_length_takeWhile atNext
  simpa using beyond

theorem lineStarts_lt {line line' start start' : Nat}
    (first : source.lineStarts[line]? = some start)
    (second : source.lineStarts[line']? = some start') (lt : line < line') :
    start < start' := by
  obtain ⟨inside, rfl⟩ := List.getElem?_eq_some_iff.mp first
  obtain ⟨inside', rfl⟩ := List.getElem?_eq_some_iff.mp second
  exact List.pairwise_iff_getElem.mp source.lineStarts_increase line line'
    inside inside' lt

theorem lineStarts_mono {line line' start start' : Nat}
    (first : source.lineStarts[line]? = some start)
    (second : source.lineStarts[line']? = some start') (le : line ≤ line') :
    start ≤ start' := by
  rcases Nat.lt_or_eq_of_le le with lt | rfl
  · exact Nat.le_of_lt (lineStarts_lt first second lt)
  · exact Nat.le_of_eq (Option.some.inj (first.symm.trans second))

theorem exists_lineStart {line line' start : Nat} (le : line' ≤ line)
    (there : source.lineStarts[line]? = some start) :
    ∃ start', source.lineStarts[line']? = some start' := by
  obtain ⟨inside, _⟩ := List.getElem?_eq_some_iff.mp there
  exact ⟨_, List.getElem?_eq_getElem (Nat.lt_of_le_of_lt le inside)⟩

theorem Stands.line_le {position position' : Nat} {place place' : LineColumn}
    (stands : source.Stands position place)
    (stands' : source.Stands position' place') (le : position ≤ position') :
    place.line ≤ place'.line := by
  by_contra earlier
  obtain ⟨start, atStart, reached⟩ := stands.start
  have linePos := stands'.line_pos
  have columnPos := stands.column_pos
  have le : place'.line ≤ place.line - 1 := by omega
  obtain ⟨next, atNext⟩ := exists_lineStart le atStart
  have before := stands'.before_next next atNext
  have order := lineStarts_mono atNext atStart (by omega)
  omega

/-- A later position on the same line stands further along. -/
theorem Stands.before {position position' : Nat} {place place' : LineColumn}
    (stands : source.Stands position place)
    (stands' : source.Stands position' place') (lt : position < position') :
    place.line < place'.line ∨
      place.line = place'.line ∧ place.column < place'.column := by
  have le := stands.line_le stands' (Nat.le_of_lt lt)
  rcases Nat.lt_or_eq_of_le le with earlier | same
  · exact .inl earlier
  · obtain ⟨start, atStart, reached⟩ := stands.start
    obtain ⟨start', atStart', reached'⟩ := stands'.start
    rw [same, atStart', Option.some.injEq] at atStart
    have columnPos := stands.column_pos
    have columnPos' := stands'.column_pos
    exact .inr ⟨same, by omega⟩

theorem Stands.unique {position : Nat} {place place' : LineColumn}
    (stands : source.Stands position place)
    (stands' : source.Stands position place') : place = place' := by
  obtain ⟨line, column⟩ := place
  obtain ⟨line', column'⟩ := place'
  have le := stands.line_le stands' (Nat.le_refl _)
  have ge := stands'.line_le stands (Nat.le_refl _)
  obtain rfl : line = line' := Nat.le_antisymm le ge
  obtain ⟨start, atStart, reached⟩ := stands.start
  obtain ⟨start', atStart', reached'⟩ := stands'.start
  obtain rfl : start = start' :=
    Option.some.inj (atStart.symm.trans atStart')
  have positive := stands.column_pos
  have positive' := stands'.column_pos
  simp only at reached reached' positive positive'
  rw [LineColumn.mk.injEq]
  exact ⟨rfl, by omega⟩

/-! ### Texts of lines -/

theorem map_between_lines (source : Source) :
    source.lines.map (fun span => source.between span.start span.stop) =
      Text.splitLines source.chars := by
  have between := forall_between_spansFrom []
    (Text.flatten_splitLines source.chars).symm
  rw [← List.forall₂_eq_eq_eq, List.forall₂_map_left_iff]
  exact between

theorem between_of_split {front back : List Span} {span : Span}
    (split : source.lines = front ++ span :: back) :
    ∃ ending, source.between span.start span.stop =
        Text.firstLine (source.between span.start span.stop) ++ ending ∧
      (Text.IsBreak ending ∨ ending = [] ∧ back = []) := by
  have pieces := source.map_between_lines
  rw [split, List.map_append, List.map_cons] at pieces
  obtain ⟨ending, lineEq, ended⟩ :=
    (Text.parted_splitLines source.chars).ended pieces.symm
  rw [List.map_eq_nil_iff] at ended
  exact ⟨ending, lineEq, ended⟩

/-- Up to the next start, or to the end of the source, there is just the line. -/
theorem stop_of_split {front back : List Span} {span : Span}
    (split : source.lines = front ++ span :: back) :
    source.lineStarts[front.length + 1]?.getD source.length = span.stop := by
  rw [(lineStarts_of_split split).2]
  split
  · -- only the last line can lack a next one
    rename_i final
    have tiles := source.tiles_lines
    rw [split, final.1] at tiles
    exact tiles.behind.eq_of_nil.symm
  · rfl

theorem length_of_no_line (none : source.lines = []) : source.length = 0 := by
  have tiles := source.tiles_lines
  rw [none] at tiles
  exact tiles.eq_of_nil.symm

/-- A line that has no span is the empty one at the end of the source. -/
theorem lineStart_of_no_span {line : Nat} (beyond : source.lines.length ≤ line)
    (inside : line < source.lineStarts.length) :
    source.lineStarts[line]? = some source.length := by
  have starts := source.lineStarts_eq
  by_cases none : source.lines = []
  · have plain : ¬Text.endsInBreak source.chars = true :=
      fun ending => (endsInBreak_of_ne_nil ending).1 none
    rw [if_pos none, if_neg plain, List.append_nil] at starts
    rw [starts, List.length_singleton] at inside
    obtain rfl : line = 0 := by omega
    rw [starts, length_of_no_line none]
    rfl
  · rw [if_neg none] at starts
    by_cases ending : Text.endsInBreak source.chars = true
    · rw [if_pos ending] at starts
      rw [starts, List.length_append, List.length_map,
        List.length_singleton] at inside
      have index : line = (source.lines.map Span.start).length := by
        rw [List.length_map]
        omega
      rw [starts, index, List.getElem?_concat_length]
    · rw [if_neg ending, List.append_nil] at starts
      rw [starts, List.length_map] at inside
      omega

theorem between_length (source : Source) (stop : Nat) :
    source.between source.length stop = [] := by
  rw [between, length, List.drop_length, List.take_nil]

/-- The text of a line that exists stands where the line starts, and up to the
start of the next line nothing follows it but a line break. -/
theorem exists_ending {line : Nat} (inside : line < source.lineStarts.length) :
    ∃ start ending, source.lineStarts[line]? = some start ∧
      source.between start (source.lineStarts[line + 1]?.getD source.length) =
        source.lineTextAt (line + 1) ++ ending ∧
      (ending = [] ∨ Text.IsBreak ending) := by
  have text : ∀ start, source.lineStarts[line]? = some start →
      source.lineTextAt (line + 1) = Text.firstLine (source.between start
        (source.lineStarts[line + 1]?.getD source.length)) := by
    intro start atStart
    simp only [lineTextAt, List.getD_eq_getElem?_getD, Nat.add_sub_cancel,
      atStart, Option.getD_some]
  by_cases within : line < source.lines.length
  · have split := (List.take_append_drop line source.lines).symm
    rw [List.drop_eq_getElem_cons within] at split
    have width := List.length_take_of_le (Nat.le_of_lt within)
    obtain ⟨atStart, _⟩ := lineStarts_of_split split
    have stop := stop_of_split split
    rw [width] at atStart stop
    obtain ⟨ending, lineEq, ended⟩ := between_of_split split
    refine ⟨_, ending, atStart, ?_, ?_⟩
    · rw [text _ atStart, stop]
      exact lineEq
    · rcases ended with lineBreak | ⟨nothing, _⟩
      · exact .inr lineBreak
      · exact .inl nothing
  · have atStart := lineStart_of_no_span (Nat.le_of_not_lt within) inside
    refine ⟨_, [], atStart, ?_, .inl rfl⟩
    rw [text _ atStart, between_length]
    rfl

/-! ### All three views -/

/-- The lines of a source, their starts, the places of its positions and the
texts of its lines agree. -/
structure Consistent (source : Source) : Prop where
  /-- The lines make up the source. -/
  lines : Span.Tiles 0 source.lines source.length
  /-- Each of them ends in its only line break, which the last one may lack. -/
  broken : ∀ front span back, source.lines = front ++ span :: back →
    ∃ plain ending,
      source.slice span = .ok (String.ofList (plain ++ ending)) ∧
      (∀ c ∈ plain, Text.isLineBreak c = false) ∧
      (Text.IsBreak ending ∨ ending = [] ∧ back = [])
  /-- No line break is cut in two. -/
  uncut : ∀ front span next back,
    source.lines = front ++ span :: next :: back →
    ¬((source.between span.start span.stop).getLast? = some '\r' ∧
      (source.between next.start next.stop).head? = some '\n')
  starts_increase : source.lineStarts.Pairwise (· < ·)
  starts_head : source.lineStarts.head? = some 0
  /-- The starts are those of the lines, or that of the only line of a source
  without any, and one more behind a last line break. -/
  starts : source.lineStarts =
    (if source.lines = [] then [0] else source.lines.map Span.start) ++
      (if Text.endsInBreak source.chars then [source.length] else [])
  /-- A position stands behind the start of its line and in front of the next. -/
  places : ∀ position : Nat, position ≤ source.length →
    ∃ place, source.lineColumn position = .ok place ∧
      source.Stands position place
  /-- Later positions have later places. -/
  places_increase : ∀ (first second : Nat) (place place' : LineColumn),
    first < second → source.lineColumn first = .ok place →
    source.lineColumn second = .ok place' →
    place.line < place'.line ∨
      place.line = place'.line ∧ place.column < place'.column
  /-- Every line that exists has a text, as far as lines are counted, and
  nothing but a line break stands between it and the next line. -/
  texts : ∀ line : Nat, 1 ≤ line → line ≤ source.lineStarts.length →
    ∃ text start ending,
      (isLineNumber line = true →
        source.lineText line = .ok (String.ofList text)) ∧
      (∀ c ∈ text, Text.isLineBreak c = false) ∧
      source.lineStarts[line - 1]? = some start ∧
      text <+: source.chars.drop start ∧
      source.between start (source.lineStarts[line]?.getD source.length) =
        text ++ ending ∧
      (ending = [] ∨ Text.IsBreak ending)

theorem lineColumn_eq_ok_iff {position : Nat} {place : LineColumn} :
    source.lineColumn position = .ok place ↔
      position ≤ source.length ∧ source.locate position = place := by
  rw [lineColumn]
  by_cases inside : position ≤ source.length <;> simp [inside]

/-- In every source, line spans, line starts, places and line texts agree. -/
theorem consistent (source : Source) : source.Consistent where
  lines := source.tiles_lines
  broken := by
    intro front span back split
    obtain ⟨ending, lineEq, ended⟩ := between_of_split split
    have member : span ∈ source.lines := by
      rw [split]
      exact List.mem_append_cons_self
    refine ⟨Text.firstLine (source.between span.start span.stop), ending, ?_,
      fun _ => Text.not_isLineBreak_of_mem_firstLine, ended⟩
    rw [← lineEq]
    exact slice_of_stop_le (stop_le_of_mem_lines member)
  uncut := by
    intro front span next back split
    have pieces := source.map_between_lines
    rw [split, List.map_append, List.map_cons, List.map_cons] at pieces
    have member : source.between next.start next.stop ∈
        Text.splitLines source.chars := by
      rw [← pieces]
      simp
    have proper := Text.ne_nil_of_mem_splitLines member
    exact (Text.joined_splitLines source.chars).whole pieces.symm proper
  starts_increase := source.lineStarts_increase
  starts_head := rfl
  starts := source.lineStarts_eq
  places := by
    intro position inside
    exact ⟨_, lineColumn_eq_ok_iff.mpr ⟨inside, rfl⟩,
      source.stands_locate position⟩
  places_increase := by
    intro first second place place' before atFirst atSecond
    obtain ⟨_, rfl⟩ := lineColumn_eq_ok_iff.mp atFirst
    obtain ⟨_, rfl⟩ := lineColumn_eq_ok_iff.mp atSecond
    exact (source.stands_locate first).before (source.stands_locate second)
      before
  texts := by
    intro line least most
    have inside : line - 1 < source.lineStarts.length := by omega
    obtain ⟨start, ending, atStart, between, ended⟩ := exists_ending inside
    rw [Nat.sub_add_cancel least] at between
    refine ⟨source.lineTextAt line, start, ending, lineText_of_le least most,
      fun _ => Text.not_isLineBreak_of_mem_firstLine, atStart, ?_, between,
      ended⟩
    have begins := List.prefix_append (source.lineTextAt line) ending
    rw [← between] at begins
    exact begins.trans (List.take_prefix _ _)

/-- The starts of the lines, and the end behind a last line break, are not all
starts: a source without lines has a start, too. -/
theorem exists_start_of_no_line :
    ¬∀ (source : Source) (position : Nat), position ∈ source.lineStarts ↔
      position ∈ source.lines.map Span.start ∨
        position = source.length ∧ Text.endsInBreak source.chars = true := by
  intro agree
  have empty := (agree ⟨"", none⟩ 0).mp (by decide)
  exact absurd empty (by decide)

end Source

end TemplateSyntax
