import TemplateSyntax.Proofs.Outcome
import TemplateSyntax.Proofs.Positions

/-!
# The line an error of a template names

An error of a template names the first line that cannot be read, in all of its
forms.  The one exception is an error at the end of a line, when a line break has
been read as a blank of an open directive: behind a line break the next line
begins, so the error names that one (`Template.error_names_line`,
`Template.exists_error_behind_line`).
-/

namespace TemplateSyntax

/-! ### Places inside a line and at its end -/

namespace Source

variable {source : Source} {front back : List Span} {span : Span}

/-- A position stands on the last line that does not start behind it. -/
theorem locate_line {line start position : Nat}
    (atStart : source.lineStarts[line]? = some start)
    (reached : start ≤ position)
    (beforeNext : ∀ next, source.lineStarts[line + 1]? = some next →
      position < next) : (source.locate position).line = line + 1 := by
  have column : start + (position - start + 1) - 1 = position := by omega
  have stands : source.Stands position ⟨line + 1, position - start + 1⟩ :=
    ⟨Nat.le_add_left _ _, Nat.le_add_left _ _, ⟨start, atStart, column⟩,
      beforeNext⟩
  rw [(source.stands_locate position).unique stands]

theorem locate_of_split {position : Nat}
    (split : source.lines = front ++ span :: back)
    (reached : span.start ≤ position) (inside : position < span.stop) :
    (source.locate position).line = front.length + 1 := by
  obtain ⟨atStart, atNext⟩ := lineStarts_of_split split
  apply locate_line atStart reached
  intro next here
  rw [atNext] at here
  split at here
  · cases here
  · cases here
    exact inside

theorem between_ne_nil_of_mem_lines (member : span ∈ source.lines) :
    source.between span.start span.stop ≠ [] := by
  apply Text.ne_nil_of_mem_splitLines
  rw [← map_between_lines]
  exact List.mem_map_of_mem member

theorem endsInBreak_of_split (split : source.lines = front ++ span :: back) :
    Text.endsInBreak (source.between span.start span.stop) = true ↔
      ¬(back = [] ∧ Text.endsInBreak source.chars = false) := by
  have member : span ∈ source.lines := by
    rw [split]
    exact List.mem_append_cons_self
  have proper := between_ne_nil_of_mem_lines member
  cases back with
  | nil =>
      have whole := Text.flatten_splitLines source.chars
      rw [← map_between_lines, split, List.map_append, List.map_singleton,
        List.flatten_append, List.flatten_singleton] at whole
      rw [← whole, Text.endsInBreak_append_of_ne_nil _ proper]
      simp
  | cons next back =>
      obtain ⟨ending, lineEq, lineBreak | ⟨_, last⟩⟩ := between_of_split split
      · rw [lineEq, Text.endsInBreak_append_of_ne_nil _ lineBreak.ne_nil,
          lineBreak.endsInBreak]
        simp
      · cases last

/-- The end of a line stands on the next one if it lies behind a line break. -/
theorem locate_stop_of_split (split : source.lines = front ++ span :: back) :
    (source.locate span.stop).line =
      if Text.endsInBreak (source.between span.start span.stop) then
        front.length + 2
      else front.length + 1 := by
  obtain ⟨atStart, atNext⟩ := lineStarts_of_split split
  rw [← ite_not, ← if_congr (endsInBreak_of_split split) rfl rfl] at atNext
  split
  · rename_i lineBreak
    rw [if_pos lineBreak] at atNext
    apply locate_line atNext (Nat.le_refl _)
    intro next here
    exact lineStarts_lt atNext here (Nat.lt_add_one _)
  · rename_i unbroken
    rw [if_neg unbroken] at atNext
    apply locate_line atStart span.start_le_stop
    intro next here
    rw [atNext] at here
    cases here

end Source

/-! ### Where a reader fails -/

theorem Failure.message_ne_of_some (position : Nat) (c : Char)
    (expected : List Terminal) :
    (Failure.unexpected position (some c) expected).message ≠
      "unexpected end of input" := by
  intro same
  have worded : "unexpected character " ++ Text.quoted c.toString =
      "unexpected end of input" := same
  have letter := congrArg (fun message => message.toList[11]?) worded
  simp [String.toList_append] at letter

/-- A reader that runs into the end of a text says so, and fails in front of it
otherwise. -/
theorem Language.message_iff_of_read {σ α : Type} {language : Language σ α}
    {triggers : Triggers} {text : List Char} {failure : Failure}
    (refused : language.read triggers text = .error failure)
    (proper : text ≠ []) (noNumber : ∀ error, failure ≠ .number error) :
    failure.message = "unexpected end of input" ↔
      failure.span.start = text.length := by
  have positive := List.length_pos_iff.mpr proper
  rcases read_eq_error_cases refused with rfl | ⟨tokens, found⟩
  · rw [unexpected]
    cases found : text[text.length - (Stop.furthest
        (language.stops triggers language.start text)).left]? with
    | none =>
        have atEnd := List.getElem?_eq_none_iff.mp found
        exact iff_of_true rfl (Nat.le_antisymm (Nat.sub_le _ _) atEnd)
    | some c =>
        obtain ⟨inside, _⟩ := List.getElem?_eq_some_iff.mp found
        exact iff_of_false (Failure.message_ne_of_some _ c _)
          (Nat.ne_of_lt inside)
  · rcases fault?_cases found with rfl | ⟨_, _, error, _, rfl⟩
    · refine iff_of_false (fun same => ?_) (Nat.ne_of_lt positive)
      have worded : "input nested too deeply" = "unexpected end of input" :=
        same
      exact absurd worded (by decide)
    · exact absurd rfl (noNumber error)

theorem message_iff_of_parseLine {triggers : Triggers} {text : String}
    {label : Option String} {diagnostic : Diagnostic}
    (answer : parseLine triggers text label = .error (.atPlace diagnostic))
    (proper : text.toList ≠ []) :
    diagnostic.message = "unexpected end of input" ↔
      diagnostic.span.start = text.toList.length := by
  rw [parseLine] at answer
  split at answer
  · rw [Language.parse] at answer
    cases refused : Item.language.read triggers text.toList with
    | ok value => simp [refused, Except.mapError, Source.chars] at answer
    | error failure =>
        simp only [Source.chars, refused, Except.mapError,
          Except.error.injEq] at answer
        cases failure with
        | number error => cases answer
        | unexpected position found expected =>
            cases answer
            exact Language.message_iff_of_read refused proper (by simp)
        | nestedTooDeeply =>
            cases answer
            exact Language.message_iff_of_read refused proper (by simp)
  · cases answer

/-! ### All forms of an error -/

/-- Everything that shows the place of a diagnostic names this one: the line and
column, the one-line form, and the title of the code frame. -/
structure Diagnostic.Names (diagnostic : Diagnostic) (place : LineColumn) :
    Prop where
  lineColumn : diagnostic.lineColumn = .ok place
  plain : diagnostic.plain = .ok
    s!"ERROR{diagnostic.shownCode}: {diagnostic.message} at {diagnostic.source.shownLabel}:{place.line}:{place.column}"
  title : ∀ style : FrameStyle, isTabWidth style.tabWidth = true →
    ∃ body others, diagnostic.render style = .ok
      (.text (diagnostic.header style) :: .rule style.header ::
        .panel body (Diagnostic.frameTitle diagnostic.source style place)
          style.header :: others)

theorem Diagnostic.names_of_inside {diagnostic : Diagnostic}
    (inside : diagnostic.span.stop ≤ diagnostic.source.length) :
    diagnostic.Names (diagnostic.source.locate diagnostic.span.start) := by
  have ordered := diagnostic.span.start_le_stop
  have atPlace : diagnostic.lineColumn =
      .ok (diagnostic.source.locate diagnostic.span.start) :=
    Source.lineColumn_of_le (by omega) (by omega)
  refine ⟨atPlace, ?_, ?_⟩
  · rw [Diagnostic.plain, atPlace]
    rfl
  · intro style fits
    obtain ⟨last, atLast⟩ := exists_spanEnd inside
    obtain ⟨body, others, _, rendered⟩ := exists_parts atPlace atLast fits
    exact ⟨body, others, rendered⟩

/-- Where an error of a line lies in the source: on its line, or right behind it
if the error is at the end of the line. -/
theorem Source.locate_line_of_error {triggers : Triggers} {source : Source}
    {front back : List Span} {span : Span} {part : Diagnostic}
    (split : source.lines = front ++ span :: back)
    (failed : LineAnswer triggers source span (.error (.atPlace part))) :
    (source.locate (part.span.start + span.start)).line =
      if part.message = "unexpected end of input" ∧
          Text.endsInBreak (source.between span.start span.stop) = true then
        front.length + 2
      else front.length + 1 := by
  have member : span ∈ source.lines := by
    rw [split]
    exact List.mem_append_cons_self
  have answer := (lineAnswer_iff member).mp failed
  have inside := (located_of_parseLine answer).inside
  have ordered := part.span.start_le_stop
  rw [Source.length, Source.chars, String.toList_ofList] at inside
  have whole := Source.stop_le_of_mem_lines member
  have width : (source.between span.start span.stop).length =
      span.stop - span.start := by
    rw [Source.length] at whole
    rw [Source.between, List.length_take, List.length_drop]
    omega
  have proper : source.between span.start span.stop ≠ [] :=
    Source.between_ne_nil_of_mem_lines member
  have positive := List.length_pos_iff.mpr proper
  have atEnd := message_iff_of_parseLine answer (by simpa using proper)
  rw [String.toList_ofList, width] at atEnd
  by_cases ends : part.message = "unexpected end of input"
  · have behind : part.span.start + span.start = span.stop := by
      have here := atEnd.mp ends
      omega
    rw [behind, locate_stop_of_split split]
    simp only [ends, true_and]
  · have notBehind : part.span.start ≠ span.stop - span.start :=
      fun here => ends (atEnd.mpr here)
    rw [if_neg (fun both => ends both.1)]
    exact locate_of_split split (by omega) (by omega)

namespace Template

/-- The error of a template names the first line that cannot be read, unless
that line ends in a line break and its own error stands at its end. -/
theorem error_names_line {triggers : Triggers} {source : Source}
    {front back : List Span} {span : Span} {part : ParseError}
    {diagnostic : Diagnostic}
    (refused : parse triggers source = .error (.atPlace diagnostic))
    (split : source.lines = front ++ span :: back)
    (fine : ∀ earlier ∈ front, ∃ items,
      LineAnswer triggers source earlier (.ok items))
    (failed : LineAnswer triggers source span (.error part)) :
    ∃ column, diagnostic.Names
      ⟨if part.message = "unexpected end of input" ∧
          Text.endsInBreak (source.between span.start span.stop) = true then
        front.length + 2
      else front.length + 1, column⟩ := by
  have member : span ∈ source.lines := by
    rw [split]
    exact List.mem_append_cons_self
  have whole : parse triggers source =
      .error (part.advance source span.start) :=
    parse_eq_error_iff.mpr ⟨front, span, back, part, split, fine, failed,
      (relocated_iff member failed).mpr rfl⟩
  rw [whole, Except.error.injEq] at refused
  cases part with
  | number _ => cases refused
  | nullTrigger => cases refused
  | atPlace part =>
      cases refused
      have located :=
        located_of_parseLine ((lineAnswer_iff member).mp failed)
      have inside := located.inside
      rw [Source.length, Source.chars, String.toList_ofList] at inside
      have moved : (part.advance source span.start).span.stop ≤
          (part.advance source span.start).source.length :=
        Source.advance_stop_le member inside
      refine ⟨(source.locate (part.span.start + span.start)).column, ?_⟩
      rw [ParseError.message, ← Source.locate_line_of_error split failed]
      exact Diagnostic.names_of_inside moved

theorem error_names_second_line :
    ∃ diagnostic column,
      parse Triggers.standard ⟨"one\n%\x7b", none⟩ =
        .error (.atPlace diagnostic) ∧
      diagnostic.Names ⟨2, column⟩ := by
  have split : (Source.mk "one\n%\x7b" none).lines =
      [⟨0, 4, by decide⟩] ++ ⟨4, 6, by decide⟩ :: [] := by decide
  have fine : ∀ earlier ∈ [(⟨0, 4, by decide⟩ : Span)], ∃ items,
      LineAnswer Triggers.standard ⟨"one\n%\x7b", none⟩ earlier
        (.ok items) := by
    rw [List.forall_mem_singleton]
    exact ⟨[.literal "one\n"], "one\n", by decide +kernel, by decide +kernel⟩
  have failed : LineAnswer Triggers.standard ⟨"one\n%\x7b", none⟩
      ⟨4, 6, by decide⟩ (.error (.atPlace
        ⟨"unexpected end of input", Span.point 2, ⟨"%\x7b", none⟩,
          some "syntax", [], some "expected one of: directive keyword"⟩)) :=
    ⟨"%\x7b", by decide +kernel, by decide +kernel⟩
  have member : (⟨4, 6, by decide⟩ : Span) ∈
      (Source.mk "one\n%\x7b" none).lines := by decide
  have refused := parse_eq_error_iff.mpr ⟨_, _, _, _, split, fine, failed,
    (relocated_iff member failed).mpr rfl⟩
  obtain ⟨column, names⟩ := error_names_line refused split fine failed
  exact ⟨_, column, refused, names⟩

/-- Behind a directive that is open at the end of its line, the error names the
next line. -/
theorem exists_error_behind_line :
    ¬∀ (triggers : Triggers) (source : Source) (front back : List Span)
        (span : Span) (part : ParseError) (diagnostic : Diagnostic),
      parse triggers source = .error (.atPlace diagnostic) →
      source.lines = front ++ span :: back →
      (∀ earlier ∈ front, ∃ items,
        LineAnswer triggers source earlier (.ok items)) →
      LineAnswer triggers source span (.error part) →
      ∃ column, diagnostic.lineColumn = .ok ⟨front.length + 1, column⟩ := by
  intro named
  have split : (Source.mk "%\x7b\nabc" none).lines =
      [] ++ ⟨0, 3, by decide⟩ :: [⟨3, 6, by decide⟩] := by decide
  have fine : ∀ earlier ∈ ([] : List Span), ∃ items,
      LineAnswer Triggers.standard ⟨"%\x7b\nabc", none⟩ earlier
        (.ok items) := List.forall_mem_nil _
  have failed : LineAnswer Triggers.standard ⟨"%\x7b\nabc", none⟩
      ⟨0, 3, by decide⟩ (.error (.atPlace
        ⟨"unexpected end of input", Span.point 3, ⟨"%\x7b\n", none⟩,
          some "syntax", [], some "expected one of: directive keyword"⟩)) :=
    ⟨"%\x7b\n", by decide +kernel, by decide +kernel⟩
  have member : (⟨0, 3, by decide⟩ : Span) ∈
      (Source.mk "%\x7b\nabc" none).lines := by decide
  have refused := parse_eq_error_iff.mpr ⟨_, _, _, _, split, fine, failed,
    (relocated_iff member failed).mpr rfl⟩
  obtain ⟨column, first⟩ := named _ _ _ _ _ _ _ refused split fine failed
  have second : Source.lineColumn ⟨"%\x7b\nabc", none⟩ 3 = .ok ⟨2, 1⟩ := by
    decide
  have both := first.symm.trans second
  cases both

end Template

end TemplateSyntax
