import TemplateSyntax.Proofs.Diagnostic
import TemplateSyntax.Proofs.Template

/-!
# The outcome of a template

A template is read exactly if each of its lines can be read by itself, and then
it holds just these lines.  Otherwise the first line that cannot be read decides:
its error becomes that of the template, whatever the lines behind it are, and a
place in it becomes a place in the whole source (`Template.parse_outcome`).
-/

namespace TemplateSyntax

/-- What the text under a span is answered when it is read as a line by
itself. -/
def LineAnswer (triggers : Triggers) (source : Source) (span : Span)
    (answer : Except ParseError (List Item)) : Prop :=
  ∃ text, source.slice span = .ok text ∧
    parseLine triggers text source.label = answer

/-- What a diagnostic becomes when its source is a part of another one that
begins `distance` characters further in: it says the same, its span moves along
and marks the same characters, and it can still be shown. -/
structure Diagnostic.Relocated (source : Source) (distance : Nat)
    (part whole : Diagnostic) : Prop where
  message : whole.message = part.message
  hint : whole.hint = part.hint
  notes : whole.notes = part.notes
  code : whole.code = part.code
  source_eq : whole.source = source
  start : whole.span.start = part.span.start + distance
  stop : whole.span.stop = part.span.stop + distance
  marked : source.between whole.span.start whole.span.stop =
    part.source.between part.span.start part.span.stop
  shown : whole.Shown

/-- What the error of a part of a source becomes: only a place moves. -/
inductive ParseError.Relocated (source : Source) (distance : Nat) :
    ParseError → ParseError → Prop where
  | atPlace {part whole : Diagnostic} :
      part.Relocated source distance whole →
      Relocated source distance (.atPlace part) (.atPlace whole)
  | number (error : NumberError) :
      Relocated source distance (.number error) (.number error)
  | nullTrigger : Relocated source distance .nullTrigger .nullTrigger

/-! ### The first failure of a sequence -/

theorem mapM_cons_eq_error_iff {α β ε : Type} {f : α → Except ε β}
    {head : α} {inputs : List α} {error : ε} :
    (head :: inputs).mapM f = .error error ↔
      f head = .error error ∨
        (∃ output, f head = .ok output) ∧ inputs.mapM f = .error error := by
  rw [List.mapM_cons]
  cases f head with
  | error other => simp [bind, Except.bind]
  | ok output =>
      cases inputs.mapM f <;> simp [bind, Except.bind, pure, Except.pure]

/-- A sequence of computations fails as its first failing member does. -/
theorem mapM_eq_error_iff {α β ε : Type} {f : α → Except ε β}
    {inputs : List α} {error : ε} :
    inputs.mapM f = .error error ↔
      ∃ front input back, inputs = front ++ input :: back ∧
        (∀ earlier ∈ front, ∃ output, f earlier = .ok output) ∧
        f input = .error error := by
  induction inputs with
  | nil => simp [pure, Except.pure]
  | cons head inputs ih =>
      rw [mapM_cons_eq_error_iff, ih]
      constructor
      · rintro (failed | ⟨passed, front, input, back, rfl, fine, failed⟩)
        · exact ⟨[], head, inputs, rfl, List.forall_mem_nil _, failed⟩
        · exact ⟨head :: front, input, back, rfl,
            List.forall_mem_cons.mpr ⟨passed, fine⟩, failed⟩
      · rintro ⟨front, input, back, split, fine, failed⟩
        rcases List.cons_eq_append_iff.mp split with
          ⟨rfl, same⟩ | ⟨front', rfl, rfl⟩
        · cases same
          exact .inl failed
        · obtain ⟨passed, others⟩ := List.forall_mem_cons.mp fine
          exact .inr ⟨passed, front', input, back, rfl, others, failed⟩

/-! ### One line -/

variable {triggers : Triggers} {source : Source} {span : Span}

theorem lineAnswer_iff (member : span ∈ source.lines)
    {answer : Except ParseError (List Item)} :
    LineAnswer triggers source span answer ↔
      parseLine triggers
        (String.ofList (source.between span.start span.stop)) source.label =
          answer := by
  have text := Source.slice_of_stop_le (Source.stop_le_of_mem_lines member)
  constructor
  · rintro ⟨_, sliced, read⟩
    rw [text] at sliced
    cases sliced
    exact read
  · intro read
    exact ⟨_, text, read⟩

theorem located_of_parseLine {text : String} {label : Option String}
    {diagnostic : Diagnostic}
    (answer : parseLine triggers text label = .error (.atPlace diagnostic)) :
    diagnostic.Located ⟨text, label⟩ := by
  rw [parseLine] at answer
  split at answer
  · exact Language.located_of_parse answer
  · cases answer

namespace Template

theorem parseLineAt_eq_ok_iff (member : span ∈ source.lines)
    {line : TemplateLine} :
    parseLineAt triggers source span = .ok line ↔
      line.span = span ∧ LineAnswer triggers source span (.ok line.items) := by
  rw [lineAnswer_iff member, parseLineAt]
  obtain ⟨place, items⟩ := line
  cases parseLine triggers
      (String.ofList (source.between span.start span.stop)) source.label <;>
    simp [Except.mapError, bind, Except.bind, pure, Except.pure, eq_comm]

theorem parseLineAt_eq_error_iff (member : span ∈ source.lines)
    {error : ParseError} :
    parseLineAt triggers source span = .error error ↔
      ∃ part, LineAnswer triggers source span (.error part) ∧
        part.advance source span.start = error := by
  simp only [lineAnswer_iff member]
  rw [parseLineAt]
  cases parseLine triggers
      (String.ofList (source.between span.start span.stop)) source.label <;>
    simp [Except.mapError, bind, Except.bind, pure, Except.pure]

end Template

/-- A span inside a line lies inside the source once it has been moved. -/
theorem Source.advance_stop_le (member : span ∈ source.lines) {inner : Span}
    (inside : inner.stop ≤ (source.between span.start span.stop).length) :
    (inner.advance span.start).stop ≤ source.length := by
  have ordered := span.start_le_stop
  have whole := Source.stop_le_of_mem_lines member
  have shorter : (source.between span.start span.stop).length ≤
      span.stop - span.start := List.length_take_le _ _
  change inner.stop + span.start ≤ source.length
  omega

/-- Moving a span together with its text does not change what it marks. -/
theorem Source.between_advance {inner : Span}
    (inside : inner.stop ≤ (source.between span.start span.stop).length)
    (label : Option String) :
    source.between (inner.advance span.start).start
        (inner.advance span.start).stop =
      Source.between
        ⟨String.ofList (source.between span.start span.stop), label⟩
        inner.start inner.stop := by
  have shorter : (source.between span.start span.stop).length ≤
      span.stop - span.start := List.length_take_le _ _
  have least : min (inner.stop - inner.start)
      (span.stop - span.start - inner.start) = inner.stop - inner.start := by
    omega
  rw [Span.advance, Source.between, Nat.add_sub_add_right]
  simp only [Source.between, Source.chars, String.toList_ofList,
    List.drop_take, List.take_take, List.drop_drop, least,
    Nat.add_comm span.start]

/-- The error of a line is relocated in one way only, by moving its place. -/
theorem relocated_iff (member : span ∈ source.lines) {part error : ParseError}
    (answer : LineAnswer triggers source span (.error part)) :
    part.Relocated source span.start error ↔
      part.advance source span.start = error := by
  constructor
  · intro relocated
    cases relocated with
    | number _ => rfl
    | nullTrigger => rfl
    | @atPlace part whole same =>
        -- the fields that are compared are all a diagnostic has
        obtain ⟨message, ⟨start, stop, _⟩, _, code, notes, hint⟩ := whole
        obtain ⟨rfl, rfl, rfl, rfl, rfl, rfl, rfl, _, _⟩ := same
        rfl
  · rintro rfl
    cases part with
    | number error => exact .number error
    | nullTrigger => exact .nullTrigger
    | atPlace diagnostic =>
        -- the place lies in the line, and the line in the source
        have located := located_of_parseLine ((lineAnswer_iff member).mp answer)
        have inside := located.inside
        rw [Source.length, Source.chars, String.toList_ofList] at inside
        refine .atPlace ⟨rfl, rfl, rfl, rfl, rfl, rfl, rfl, ?_, ?_⟩
        · rw [located.source_eq]
          exact Source.between_advance inside source.label
        · apply Diagnostic.shown_of_inside
          exact Source.advance_stop_le member inside

/-! ### All lines -/

theorem Source.exists_slices (source : Source) :
    ∃ slices, source.lines.mapM source.slice = .ok slices ∧
      String.join slices = source.contents := by
  refine ⟨(Text.splitLines source.chars).map String.ofList, ?_, ?_⟩
  · have between := forall_between_spansFrom []
      (Text.flatten_splitLines source.chars).symm
    rw [mapM_eq_ok_iff, List.forall₂_map_right_iff]
    have inside : ∀ span ∈ source.lines, span.stop ≤ source.length :=
      fun _ member => stop_le_of_mem_lines member
    refine ((List.forall₂_and_left _ _).mpr ⟨inside, between⟩).imp ?_
    rintro span piece ⟨stop, rfl⟩
    exact slice_of_stop_le stop
  · apply String.toList_inj.mp
    rw [String.toList_join, List.flatMap_map]
    simp only [String.toList_ofList, List.flatMap_id']
    exact Text.flatten_splitLines source.chars

theorem forall₂_congr_of_mem {α β : Type} {left right : α → β → Prop}
    {inputs : List α} {outputs : List β}
    (same : ∀ input ∈ inputs, ∀ output, left input output ↔ right input output) :
    List.Forall₂ left inputs outputs ↔ List.Forall₂ right inputs outputs := by
  constructor
  · intro related
    refine ((List.forall₂_and_left _ _).mpr ⟨same, related⟩).imp ?_
    rintro input output ⟨iff, holds⟩
    exact (iff output).mp holds
  · intro related
    refine ((List.forall₂_and_left _ _).mpr ⟨same, related⟩).imp ?_
    rintro input output ⟨iff, holds⟩
    exact (iff output).mpr holds

namespace Template

/-- A template holds the lines of its source, each with the items that are read
from it. -/
theorem parse_eq_ok_iff {template : Template} :
    parse triggers source = .ok template ↔
      template.source = source ∧ template.triggers = triggers ∧
        List.Forall₂ (fun span line => line.span = span ∧
            LineAnswer triggers source span (.ok line.items))
          source.lines template.lines := by
  have lines : source.lines.mapM (parseLineAt triggers source) =
      .ok template.lines ↔ _ :=
    mapM_eq_ok_iff.trans (forall₂_congr_of_mem fun span member line =>
      parseLineAt_eq_ok_iff member)
  rw [← lines, parse]
  obtain ⟨source', triggers', lines'⟩ := template
  cases source.lines.mapM (parseLineAt triggers source) <;>
    simp [bind, Except.bind, pure, Except.pure, eq_comm]

theorem parse_eq_error_iff {error : ParseError} :
    parse triggers source = .error error ↔
      ∃ front span back part, source.lines = front ++ span :: back ∧
        (∀ earlier ∈ front, ∃ items,
          LineAnswer triggers source earlier (.ok items)) ∧
        LineAnswer triggers source span (.error part) ∧
        part.Relocated source span.start error := by
  have failed : parse triggers source = .error error ↔
      source.lines.mapM (parseLineAt triggers source) = .error error := by
    rw [parse]
    cases source.lines.mapM (parseLineAt triggers source) <;>
      simp [bind, Except.bind, pure, Except.pure]
  rw [failed, mapM_eq_error_iff]
  constructor
  · rintro ⟨front, span, back, split, fine, refused⟩
    have member : span ∈ source.lines := by
      rw [split]
      exact List.mem_append_cons_self
    obtain ⟨part, answer, moved⟩ :=
      (parseLineAt_eq_error_iff member).mp refused
    refine ⟨front, span, back, part, split, ?_, answer,
      (relocated_iff member answer).mpr moved⟩
    intro earlier inFront
    obtain ⟨line, read⟩ := fine earlier inFront
    have earlierMember : earlier ∈ source.lines := by
      rw [split]
      exact List.mem_append_left _ inFront
    exact ⟨line.items, ((parseLineAt_eq_ok_iff earlierMember).mp read).2⟩
  · rintro ⟨front, span, back, part, split, fine, answer, relocated⟩
    have member : span ∈ source.lines := by
      rw [split]
      exact List.mem_append_cons_self
    refine ⟨front, span, back, split, ?_, ?_⟩
    · intro earlier inFront
      obtain ⟨items, read⟩ := fine earlier inFront
      have earlierMember : earlier ∈ source.lines := by
        rw [split]
        exact List.mem_append_left _ inFront
      exact ⟨⟨earlier, items⟩,
        (parseLineAt_eq_ok_iff earlierMember).mpr ⟨rfl, read⟩⟩
    · exact (parseLineAt_eq_error_iff member).mpr
        ⟨part, answer, (relocated_iff member answer).mp relocated⟩

theorem exists_parse_iff :
    (∃ template, parse triggers source = .ok template) ↔
      ∀ span ∈ source.lines, ∃ items,
        LineAnswer triggers source span (.ok items) := by
  constructor
  · rintro ⟨template, read⟩
    obtain ⟨_, _, lines⟩ := parse_eq_ok_iff.mp read
    have both : List.Forall₂ (fun span line =>
        (∃ items, LineAnswer triggers source span (.ok items)) ∧
          line.span = span) source.lines template.lines := by
      refine lines.imp ?_
      rintro span line ⟨same, answer⟩
      exact ⟨⟨line.items, answer⟩, same⟩
    exact ((List.forall₂_and_left _ _).mp both).1
  · intro fine
    cases read : parse triggers source with
    | ok template => exact ⟨template, rfl⟩
    | error error =>
        obtain ⟨front, span, back, part, split, _, ⟨text, sliced, refused⟩, _⟩ :=
          parse_eq_error_iff.mp read
        have member : span ∈ source.lines := by
          rw [split]
          exact List.mem_append_cons_self
        obtain ⟨items, text', sliced', answered⟩ := fine span member
        rw [sliced] at sliced'
        cases sliced'
        rw [refused] at answered
        cases answered

/-- Reading a template reads all of its lines, which make up its source, or
answers the error of the first line that cannot be read, moved into the source. -/
theorem parse_outcome (triggers : Triggers) (source : Source) :
    ((∃ template, parse triggers source = .ok template) ↔
      ∀ span ∈ source.lines, ∃ items,
        LineAnswer triggers source span (.ok items)) ∧
    (∀ template, parse triggers source = .ok template ↔
      template.source = source ∧ template.triggers = triggers ∧
        List.Forall₂ (fun span line => line.span = span ∧
            LineAnswer triggers source span (.ok line.items))
          source.lines template.lines) ∧
    (∃ slices, source.lines.mapM source.slice = .ok slices ∧
      String.join slices = source.contents) ∧
    (∀ error, parse triggers source = .error error ↔
      ∃ front span back part, source.lines = front ++ span :: back ∧
        (∀ earlier ∈ front, ∃ items,
          LineAnswer triggers source earlier (.ok items)) ∧
        LineAnswer triggers source span (.error part) ∧
        part.Relocated source span.start error) :=
  ⟨exists_parse_iff, fun _ => parse_eq_ok_iff, source.exists_slices,
    fun _ => parse_eq_error_iff⟩

/-- Lines of literal text, and a source whose second and third line cannot be
read: the second decides. -/
theorem parse_outcome_few_lines :
    parse Triggers.standard ⟨"a\nb", none⟩ =
        .ok ⟨⟨"a\nb", none⟩, Triggers.standard,
          [⟨⟨0, 2, by decide⟩, [.literal "a\n"]⟩,
            ⟨⟨2, 3, by decide⟩, [.literal "b"]⟩]⟩ ∧
      parse Triggers.standard ⟨"a\n%\x7bx\x7d\n%\x7b", none⟩ =
        .error (.atPlace ⟨"unexpected character 'x'", ⟨4, 5, by decide⟩,
          ⟨"a\n%\x7bx\x7d\n%\x7b", none⟩, some "syntax", [],
          some "expected one of: directive keyword"⟩) := by
  constructor
  · have split : (Source.mk "a\nb" none).lines =
        [⟨0, 2, by decide⟩, ⟨2, 3, by decide⟩] := by decide
    refine ((parse_outcome _ _).2.1 _).mpr ⟨rfl, rfl, ?_⟩
    rw [split]
    exact .cons ⟨rfl, "a\n", by decide +kernel, by decide +kernel⟩
      (.cons ⟨rfl, "b", by decide +kernel, by decide +kernel⟩ .nil)
  · have split : (Source.mk "a\n%\x7bx\x7d\n%\x7b" none).lines =
        [⟨0, 2, by decide⟩] ++ ⟨2, 7, by decide⟩ :: [⟨7, 9, by decide⟩] := by
      decide
    have fine : LineAnswer Triggers.standard ⟨"a\n%\x7bx\x7d\n%\x7b", none⟩
        ⟨0, 2, by decide⟩ (.ok [.literal "a\n"]) :=
      ⟨"a\n", by decide +kernel, by decide +kernel⟩
    have failed : LineAnswer Triggers.standard ⟨"a\n%\x7bx\x7d\n%\x7b", none⟩
        ⟨2, 7, by decide⟩ (.error (.atPlace
          ⟨"unexpected character 'x'", ⟨2, 3, by decide⟩,
            ⟨"%\x7bx\x7d\n", none⟩, some "syntax", [],
            some "expected one of: directive keyword"⟩)) :=
      ⟨"%\x7bx\x7d\n", by decide +kernel, by decide +kernel⟩
    refine ((parse_outcome _ _).2.2.2 _).mpr ⟨_, _, _, _, split,
      List.forall_mem_singleton.mpr ⟨_, fine⟩, failed, ?_⟩
    exact (relocated_iff (by decide) failed).mpr rfl

end Template

end TemplateSyntax
