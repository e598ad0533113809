import Mathlib.Data.List.Basic
import TemplateSyntax.Proofs.Frame.Rows
import TemplateSyntax.Proofs.Reading.Acceptance

/-!
# Diagnostics inside their source

The lines of a source stand end to end and inside it.  A diagnostic whose span
ends inside its source can be shown, in one line and with a code frame
(`Diagnostic.shown_of_inside`), and every diagnostic a reader answers is of this
kind (`Language.located_of_parse`).
-/

namespace TemplateSyntax

namespace Source

variable {source : Source}

theorem stop_le_of_mem_spansFrom {start : Nat} {pieces : List (List Char)}
    {span : Span} (member : span ∈ spansFrom start pieces) :
    span.stop ≤ start + pieces.flatten.length := by
  induction pieces generalizing start with
  | nil => cases member
  | cons piece pieces ih =>
      rw [List.flatten_cons, List.length_append, ← Nat.add_assoc]
      rcases List.mem_cons.mp member with rfl | later
      · exact Nat.le_add_right _ _
      · exact ih later

theorem stop_le_of_mem_lines {span : Span} (member : span ∈ source.lines) :
    span.stop ≤ source.length := by
  have inside := stop_le_of_mem_spansFrom member
  rwa [Text.flatten_splitLines, Nat.zero_add] at inside

theorem slice_of_stop_le {span : Span} (inside : span.stop ≤ source.length) :
    source.slice span =
      .ok (String.ofList (source.between span.start span.stop)) :=
  if_neg (Nat.not_lt.mpr inside)

theorem lineColumn_of_le {position : Int} (nonneg : 0 ≤ position)
    (inside : position ≤ source.length) :
    source.lineColumn position = .ok (source.locate position.toNat) :=
  if_pos ⟨nonneg, inside⟩

theorem lineText_of_le {line : Nat} (first : 1 ≤ line)
    (last : line ≤ source.lineCount) (counted : isLineNumber line = true) :
    source.lineText line = .ok (String.ofList (source.lineTextAt line)) := by
  have notNegative : ¬(line : Int) < 0 := by omega
  have notZero : ¬(line : Int) = 0 := by omega
  have exists_ : (1 : Int) ≤ line ∧ (line : Int) ≤ source.lineCount := by omega
  rw [lineText]
  simp only [counted, Bool.not_true, Bool.false_eq_true, if_false, notZero,
    notNegative, exists_, and_self, if_true, Int.toNat_natCast]

end Source

namespace Diagnostic

theorem mem_window {source : Source} {first last line : Nat}
    {contextLines : Int} (member : line ∈ window source first last contextLines) :
    1 ≤ line ∧ line ≤ source.lineCount := by
  obtain ⟨index, inRange, rfl⟩ := List.mem_map.mp member
  have bound := List.mem_range.mp inRange
  omega

/-- The diagnostic can be shown: its span lies inside its source, it has a plain
form and a frame, and the frame shows lines that exist. -/
structure Shown (diagnostic : Diagnostic) : Prop where
  inside : diagnostic.span.stop ≤ diagnostic.source.length
  plain : ∃ text, diagnostic.plain = .ok text
  frame : ∃ parts, diagnostic.render .standard = .ok parts
  styled : ∀ style : FrameStyle, isTabWidth style.tabWidth = true →
    ∃ parts, diagnostic.render style = .ok parts
  lines : ∀ (style : FrameStyle) (first last : LineColumn),
    diagnostic.lineColumn = .ok first → diagnostic.spanEnd = .ok last →
    ∀ line ∈ window diagnostic.source first.line last.line style.contextLines,
      Source.isLineNumber line = true →
      diagnostic.source.lineText line =
        .ok (String.ofList (diagnostic.source.lineTextAt line))

variable {diagnostic : Diagnostic}

theorem exists_lineColumn
    (inside : diagnostic.span.stop ≤ diagnostic.source.length) :
    ∃ place, diagnostic.lineColumn = .ok place := by
  have ordered := diagnostic.span.start_le_stop
  exact ⟨_, Source.lineColumn_of_le (by omega) (by omega)⟩

theorem exists_spanEnd
    (inside : diagnostic.span.stop ≤ diagnostic.source.length) :
    ∃ place, diagnostic.spanEnd = .ok place := by
  rw [spanEnd]
  split
  · exact exists_lineColumn inside
  · rename_i proper
    rw [Span.length] at proper
    have inText : 0 ≤ (diagnostic.span.stop : Int) - 1 ∧
        (diagnostic.span.stop : Int) - 1 ≤ diagnostic.source.length := by omega
    rw [Source.lineColumn_of_le inText.1 inText.2]
    exact ⟨_, rfl⟩

/-- The parts of a diagnostic that is rendered: header, rule, frame and what
follows them. -/
theorem exists_parts {first last : LineColumn}
    (atFirst : diagnostic.lineColumn = .ok first)
    (atLast : diagnostic.spanEnd = .ok last) {style : FrameStyle}
    (fits : isTabWidth style.tabWidth = true) :
    ∃ body others, frameBody diagnostic.source style first last = .ok body ∧
      diagnostic.render style = .ok
        (.text (diagnostic.header style) :: .rule style.header ::
          .panel body (frameTitle diagnostic.source style first)
            style.header :: others) := by
  obtain ⟨body, made, _⟩ :=
    exists_frameBody diagnostic.source first last fits
  have rendered : diagnostic.render style = .ok
      (.text (diagnostic.header style) :: .rule style.header ::
        .panel body (frameTitle diagnostic.source style first) style.header ::
        (diagnostic.notes.map (notePart style) ++
          hintParts style diagnostic.hint)) := by
    rw [render, atFirst, atLast]
    simp only [Except.mapError, bind, Except.bind, made]
    rfl
  exact ⟨body, _, made, rendered⟩

theorem exists_render
    (inside : diagnostic.span.stop ≤ diagnostic.source.length)
    {style : FrameStyle} (fits : isTabWidth style.tabWidth = true) :
    ∃ parts, diagnostic.render style = .ok parts := by
  obtain ⟨first, atFirst⟩ := exists_lineColumn inside
  obtain ⟨last, atLast⟩ := exists_spanEnd inside
  obtain ⟨body, others, _, rendered⟩ := exists_parts atFirst atLast fits
  exact ⟨_, rendered⟩

theorem shown_of_inside
    (inside : diagnostic.span.stop ≤ diagnostic.source.length) :
    diagnostic.Shown where
  inside := inside
  plain := by
    obtain ⟨place, atPlace⟩ := exists_lineColumn inside
    rw [Diagnostic.plain, atPlace]
    exact ⟨_, rfl⟩
  frame := exists_render inside (by decide)
  styled _ fits := exists_render inside fits
  lines := by
    intro style first last _ _ line member counted
    obtain ⟨least, most⟩ := mem_window member
    exact Source.lineText_of_le least most counted

end Diagnostic

/-! ### Diagnostics of a reader -/

/-- The diagnostic is a syntax error at a place of the source. -/
structure Diagnostic.Located (source : Source) (diagnostic : Diagnostic) :
    Prop where
  source_eq : diagnostic.source = source
  inside : diagnostic.span.stop ≤ source.length
  code : diagnostic.code = some "syntax"

namespace Language

variable {σ α : Type} {language : Language σ α} {triggers : Triggers}

theorem unexpected_stop_le (text : List Char) :
    (language.unexpected triggers text).span.stop ≤ text.length := by
  rw [unexpected]
  cases found : text[text.length - (Stop.furthest
      (language.stops triggers language.start text)).left]? with
  | none => exact Nat.sub_le _ _
  | some c => exact (List.getElem?_eq_some_iff.mp found).1

/-- A text is refused as unexpected or for a fault along one of its readings. -/
theorem read_eq_error_cases {text : List Char} {failure : Failure}
    (refused : language.read triggers text = .error failure) :
    failure = language.unexpected triggers text ∨
      ∃ tokens, language.fault? language.start tokens = some failure := by
  rw [read] at refused
  split at refused
  · cases refused
    exact .inl rfl
  · rename_i tokens _ _ _
    split at refused
    · rename_i fault found
      cases refused
      exact .inr ⟨tokens, found⟩
    · cases refused

theorem stop_le_of_read {text : List Char} {failure : Failure}
    (refused : language.read triggers text = .error failure) :
    failure.span.stop ≤ text.length := by
  rcases read_eq_error_cases refused with rfl | ⟨tokens, found⟩
  · exact unexpected_stop_le text
  · rcases fault?_cases found with rfl | ⟨_, _, _, _, rfl⟩
    · exact Nat.zero_le _
    · exact Nat.zero_le _

/-- Whatever a reader reports at a place, the place lies in its source. -/
theorem located_of_parse {source : Source} {diagnostic : Diagnostic}
    (answer : language.parse triggers source = .error (.atPlace diagnostic)) :
    diagnostic.Located source := by
  rw [parse] at answer
  cases refused : language.read triggers source.chars with
  | ok value => simp [refused, Except.mapError] at answer
  | error failure =>
      simp only [refused, Except.mapError, Except.error.injEq] at answer
      have inside := stop_le_of_read refused
      cases failure with
      | number error => cases answer
      | unexpected position found expected =>
          cases answer
          exact ⟨rfl, inside, rfl⟩
      | nestedTooDeeply =>
          cases answer
          exact ⟨rfl, inside, rfl⟩

end Language

end TemplateSyntax
