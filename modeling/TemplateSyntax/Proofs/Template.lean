import Mathlib.Data.Bool.AllAny
import Mathlib.Data.List.Forall2
import TemplateSyntax.Proofs.Correctness
import TemplateSyntax.Proofs.Item.Seam
import TemplateSyntax.Template

/-!
# Templates read line by line

A template that can be read line by line is read the same as one text: no token
reads on over a line break, except that literal text goes on, and merging the
items of all lines puts it together again (`parse_ok_iff_of_template`).
-/

namespace TemplateSyntax

open Item.Grammar (Sequence)

/-! ### Where lines meet -/

namespace Text

/-- Every line but the last ends in a line break, and no carriage return is cut
off from its line feed. -/
def Joined : List (List Char) → Prop
  | [] => True
  | line :: lines =>
      (lines ≠ [] → ∃ c, line.getLast? = some c ∧ isLineBreak c = true ∧
        (c = '\r' → lines.flatten.head? ≠ some '\n')) ∧ Joined lines

theorem joined_splitLines (text : List Char) : Joined (splitLines text) := by
  fun_induction splitLines text with
  | case1 => trivial
  | case2 rest ih =>
      refine ⟨fun _ => ⟨'\n', rfl, by decide, ?_⟩, ih⟩
      intro carriage
      exact absurd carriage (by decide)
  | case3 c rest whole lineBreak ih =>
      refine ⟨fun _ => ⟨c, rfl, lineBreak, ?_⟩, ih⟩
      rintro rfl feed
      rw [flatten_splitLines] at feed
      obtain ⟨tail, rfl⟩ := List.head?_eq_some_iff.mp feed
      exact whole tail rfl rfl
  | case4 c rest _ _ noLines ih => exact ⟨fun proper => absurd rfl proper, trivial⟩
  | case5 c rest _ _ line lines split ih =>
      rw [split] at ih
      have member : line ∈ splitLines rest := by
        rw [split]
        exact List.mem_cons_self
      have proper := ne_nil_of_mem_splitLines member
      refine ⟨fun more => ?_, ih.2⟩
      obtain ⟨last, lastEq, ending⟩ := ih.1 more
      refine ⟨last, ?_, ending⟩
      rw [List.getLast?_cons_of_ne_nil proper]
      exact lastEq

theorem isSpacing_of_isLineBreak {c : Char} (lineBreak : isLineBreak c = true) :
    Unicode.isSpacing c = true := by
  have codes : c.toNat = 0x0A ∨ c.toNat = 0x0B ∨ c.toNat = 0x0C ∨
      c.toNat = 0x0D ∨ c.toNat = 0x1C ∨ c.toNat = 0x1D ∨ c.toNat = 0x1E ∨
      c.toNat = 0x85 ∨ c.toNat = 0x2028 ∨ c.toNat = 0x2029 := by
    obtain ⟨range, member, has⟩ :=
      Unicode.CodeRange.exists_of_covers lineBreak
    simp only [List.mem_cons, List.not_mem_nil, or_false] at member
    rcases member with rfl | rfl | rfl | rfl <;>
      simp [Unicode.CodeRange.has] at has <;> omega
  rw [Unicode.isSpacing, Unicode.isBlank]
  rcases codes with code | code | code | code | code | code | code | code |
    code | code <;> rw [code] <;> rfl

end Text

namespace Item

variable {triggers : Triggers}

theorem Seam.nil (line : List Char) : Seam triggers line [] := by
  refine ⟨fun more => absurd rfl more, ?_, ?_⟩
  · intro _ _ _ _ head
    cases head
  · intro _ head
    cases head

theorem Seam.of_lineBreak {line more : List Char} {c : Char}
    (last : line.getLast? = some c) (lineBreak : Text.isLineBreak c = true)
    (whole : c = '\r' → more.head? ≠ some '\n') : Seam triggers line more := by
  have spacing := Text.isSpacing_of_isLineBreak lineBreak
  have notTrigger {trigger : Char} (allowed : canTrigger trigger = true) :
      c ≠ trigger := by
    rintro rfl
    rw [canTrigger, spacing] at allowed
    cases allowed
  refine ⟨?_, ?_, ?_⟩
  · rintro _ trigger
    rw [last] at trigger
    exact notTrigger triggers.value_ok (Option.some.inj trigger)
  · intro other otherLast opens
    rw [last] at otherLast
    cases otherLast
    simp only [List.mem_cons, List.not_mem_nil, or_false] at opens
    rcases opens with control | rfl | rfl
    · exact absurd control (notTrigger triggers.control_ok)
    · exact absurd lineBreak (by decide)
    · exact absurd lineBreak (by decide)
  · intro carriage
    rw [last] at carriage
    exact whole (Option.some.inj carriage)

/-- Lines that can be read one by one make up a text that can be read, with the
merged items of all of them. -/
theorem exists_sequence_flatten {lines : List (List Char)}
    {answers : List (List Item)} {label : Option String}
    (joined : Text.Joined lines)
    (read : List.Forall₂ (fun line items =>
      parseLine triggers (String.ofList line) label = .ok items) lines answers) :
    ∃ tokens parts, Laid triggers lines.flatten tokens [] ∧
      Sequence tokens parts ∧ merge parts = merge answers.flatten ∧
      language.fault? language.start tokens = none := by
  induction read with
  | nil => exact ⟨[], [], .nil [], .nil, rfl, rfl⟩
  | @cons line items lines answers first _ ih =>
      obtain ⟨more, parts', laid', sequence', merged', faultless'⟩ :=
        ih joined.2
      obtain ⟨_, tokens, laid, ⟨parts, sequence, rfl⟩, faultless⟩ :=
        parseLine_eq_ok_iff.mp first
      rw [String.toList_ofList] at laid
      have seam : Seam triggers line lines.flatten := by
        cases lines with
        | nil => exact .nil line
        | cons next lines =>
            obtain ⟨c, last, lineBreak, whole⟩ := joined.1 (List.cons_ne_nil _ _)
            exact .of_lineBreak last lineBreak whole
      obtain ⟨whole, items, wholeLaid, wholeSequence, merged, noFault⟩ :=
        exists_sequence_append sequence laid sequence' laid' seam
      refine ⟨whole, items, wholeLaid, wholeSequence, ?_,
        noFault faultless faultless'⟩
      rw [merged, ← merge_append_merge, merged', merge_append_merge,
        List.flatten_cons, merge_merge_append]

end Item

/-! ### Lines of a source -/

theorem mapM_eq_ok_iff {α β ε : Type} {f : α → Except ε β} {inputs : List α}
    {outputs : List β} :
    inputs.mapM f = .ok outputs ↔
      List.Forall₂ (fun input output => f input = .ok output) inputs
        outputs := by
  induction inputs generalizing outputs with
  | nil => cases outputs <;> simp [pure, Except.pure]
  | cons input inputs ih =>
      rw [List.mapM_cons]
      cases first : f input with
      | error error => cases outputs <;> simp [bind, Except.bind, first]
      | ok output =>
          cases rest : inputs.mapM f <;> cases outputs <;>
            simp [bind, Except.bind, pure, Except.pure, first, rest, ← ih]

/-- What two lists have in common with a third, they have with each other. -/
theorem forall₂_of_forall₂ {α β γ : Type} {left : α → β → Prop}
    {right : α → γ → Prop} {both : β → γ → Prop} {middle : List α}
    {first : List β} {second : List γ}
    (lefts : List.Forall₂ left middle first)
    (rights : List.Forall₂ right middle second)
    (meet : ∀ a b c, left a b → right a c → both b c) :
    List.Forall₂ both first second := by
  induction lefts generalizing second with
  | nil =>
      cases rights
      exact .nil
  | cons head _ ih =>
      cases rights with
      | cons head' tail' => exact .cons (meet _ _ _ head head') (ih tail')

theorem forall_between_spansFrom {source : Source} {pieces : List (List Char)}
    (front : List Char) (chars : source.chars = front ++ pieces.flatten) :
    List.Forall₂ (fun span piece => source.between span.start span.stop = piece)
      (Source.spansFrom front.length pieces) pieces := by
  induction pieces generalizing front with
  | nil => exact .nil
  | cons piece pieces ih =>
      rw [List.flatten_cons] at chars
      refine .cons ?_ ?_
      · rw [Source.between, chars, List.drop_left, Nat.add_sub_cancel_left,
          List.take_left]
      · rw [← List.append_assoc] at chars
        have later := ih _ chars
        rwa [List.length_append] at later

theorem Template.parseLine_of_parseLineAt {triggers : Triggers} {source : Source}
    {span : Span} {line : TemplateLine}
    (read : parseLineAt triggers source span = .ok line) :
    parseLine triggers
      (String.ofList (source.between span.start span.stop)) source.label =
        .ok line.items := by
  rw [parseLineAt] at read
  cases answer : parseLine triggers
      (String.ofList (source.between span.start span.stop)) source.label with
  | error error =>
      simp [answer, Except.mapError, bind, Except.bind] at read
  | ok items =>
      simp only [answer, Except.mapError, bind, Except.bind, pure,
        Except.pure, Except.ok.injEq] at read
      rw [← read]

theorem Template.forall_parseLine {triggers : Triggers} {source : Source}
    {template : Template} (read : parse triggers source = .ok template) :
    List.Forall₂ (fun line items =>
        parseLine triggers (String.ofList line) source.label = .ok items)
      (Text.splitLines source.chars)
      (template.lines.map TemplateLine.items) := by
  rw [parse] at read
  cases lines : source.lines.mapM (parseLineAt triggers source) with
  | error error => simp [lines, bind, Except.bind] at read
  | ok answers =>
      simp only [lines, bind, Except.bind, pure, Except.pure,
        Except.ok.injEq] at read
      subst read
      have spans := forall_between_spansFrom []
        (Text.flatten_splitLines source.chars).symm
      rw [List.forall₂_map_right_iff]
      apply forall₂_of_forall₂ spans (mapM_eq_ok_iff.mp lines)
      intro span piece line between read
      rw [← between]
      exact parseLine_of_parseLineAt read

/-- A template that has been read line by line is read the same as one text,
unless no text can be read with its triggers; then the template is empty. -/
theorem parse_ok_iff_of_template {triggers : Triggers} {source : Source}
    {template : Template} (read : Template.parse triggers source = .ok template)
    (label : Option String) :
    parseLine triggers source.contents label = .ok (Item.merge template.items) ↔
      triggers.canRead = true := by
  constructor
  · intro answer
    exact (parseLine_eq_ok_iff.mp answer).1
  · intro readable
    obtain ⟨tokens, parts, laid, sequence, merged, faultless⟩ :=
      Item.exists_sequence_flatten (Text.joined_splitLines _)
        (Template.forall_parseLine read)
    rw [Text.flatten_splitLines] at laid
    rw [parseLine_eq_ok_iff, Template.items, List.flatMap_def, ← merged]
    exact ⟨readable, tokens, laid, ⟨parts, sequence, rfl⟩, faultless⟩

/-- Two lines of literal text are one literal. -/
theorem parse_two_lines :
    ∃ template,
      Template.parse Triggers.standard ⟨"one\ntwo", none⟩ = .ok template ∧
      parseLine Triggers.standard "one\ntwo" none =
        .ok (Item.merge template.items) := by
  have first : parseLine Triggers.standard "one\n" none =
      .ok [.literal "one\n"] :=
    parseLine_of_plain (by decide) (by decide)
      (List.all_iff_forall_prop.mp (by decide)) none
  have second : parseLine Triggers.standard "two" none =
      .ok [.literal "two"] :=
    parseLine_of_plain (by decide) (by decide)
      (List.all_iff_forall_prop.mp (by decide)) none
  have lines : (Source.mk "one\ntwo" none).lines =
      [⟨0, 4, by decide⟩, ⟨4, 7, by decide⟩] := by decide
  have read : Template.parse Triggers.standard ⟨"one\ntwo", none⟩ =
      .ok ⟨⟨"one\ntwo", none⟩, Triggers.standard,
        [⟨⟨0, 4, by decide⟩, [.literal "one\n"]⟩,
          ⟨⟨4, 7, by decide⟩, [.literal "two"]⟩]⟩ := by
    have front : String.ofList ((Source.mk "one\ntwo" none).between 0 4) =
        "one\n" := by decide
    have back : String.ofList ((Source.mk "one\ntwo" none).between 4 7) =
        "two" := by decide
    simp [Template.parse, lines, Template.parseLineAt, front, back, first,
      second, bind, Except.bind, pure, Except.pure, Except.mapError]
  exact ⟨_, read, (parse_ok_iff_of_template read none).mpr (by decide)⟩

end TemplateSyntax
