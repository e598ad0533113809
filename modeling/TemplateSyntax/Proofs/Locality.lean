import Mathlib.Data.Bool.AllAny
import TemplateSyntax.Proofs.Correctness
import TemplateSyntax.Proofs.Item.Local
import TemplateSyntax.Proofs.Terminal.Hint
import TemplateSyntax.Template

/-!
# Reading behind a line

What stands in front of a trigger does not change how the text from there on is
read, as long as it is a line that can be read and does not end in the value
trigger: the items of both texts are put together, and an error in the second is
the same error, further on (`parseLine_append`).
-/

namespace TemplateSyntax

open Item.Grammar (Line)

theorem Span.advance_single (position distance : Nat) :
    (Span.single position).advance distance =
      Span.single (distance + position) := by
  ext <;> simp only [advance, single] <;> omega

theorem Span.advance_point (position distance : Nat) :
    (Span.point position).advance distance =
      Span.point (distance + position) := by
  ext <;> simp only [advance, point] <;> omega

/-- A text that fails further on, with the same things expected, fails with the
same error moved there. -/
theorem Failure.unexpected_advance (position distance : Nat)
    (found : Option Char) {expected expected' : List Terminal}
    (same : ∀ terminal, terminal ∈ expected ↔ terminal ∈ expected')
    (source source' : Source) :
    (Failure.unexpected (distance + position) found expected).inSource source =
      ((Failure.unexpected position found expected').inSource source').advance
        source distance := by
  have span : (Failure.unexpected (distance + position) found expected).span =
      (Failure.unexpected position found expected').span.advance distance := by
    cases found with
    | none => exact (Span.advance_point position distance).symm
    | some c => exact (Span.advance_single position distance).symm
  have hint : (Failure.unexpected (distance + position) found expected).hint =
      (Failure.unexpected position found expected').hint :=
    Terminal.hint_congr same
  have message :
      (Failure.unexpected (distance + position) found expected).message =
        (Failure.unexpected position found expected').message := by
    cases found <;> rfl
  have place (position : Nat) (expected : List Terminal) (source : Source) :
      (Failure.unexpected position found expected).inSource source =
        .atPlace ((Failure.unexpected position found expected).diagnostic
          source) := rfl
  rw [place, place, ParseError.advance, diagnostic, diagnostic,
    Diagnostic.advance, span, hint, message]
  rfl

namespace Item

variable {triggers : Triggers} {text more : List Char}

/-- Nothing reads on over the place in front of a trigger, unless a value
trigger stands there. -/
theorem Seam.of_trigger (ending : text.getLast? ≠ some triggers.value)
    (opening : more.head? = some triggers.control ∨
      more.head? = some triggers.value) : Seam triggers text more := by
  have plain {trigger : Char} (allowed : canTrigger trigger = true) :
      trigger ∉ ['\\', '{', '\r', '\n'] := by
    intro member
    simp only [List.mem_cons, List.not_mem_nil, or_false] at member
    rcases member with rfl | rfl | rfl | rfl <;>
      exact absurd allowed (by decide)
  have heads : ∀ d, more.head? = some d → d ∉ ['\\', '{', '\r', '\n'] := by
    intro d head
    rcases opening with trigger | trigger
    · rw [trigger] at head
      cases head
      exact plain triggers.control_ok
    · rw [trigger] at head
      cases head
      exact plain triggers.value_ok
  refine ⟨fun _ => ending, fun _ _ _ => heads, ?_⟩
  intro _ head
  exact absurd (heads _ head) (by decide)

section Behind

variable {tokens : List Token} {parts : List Item}
  (sequence : Grammar.Sequence tokens parts)
  (laid : Laid triggers (text ++ more) tokens more)

include sequence laid

/-- Behind a line, the position and the character are those of what follows. -/
theorem unexpected_eq_behind :
    language.unexpected triggers (text ++ more) =
      .unexpected
        (text.length + (more.length -
          Stop.leastLeft (language.stops triggers language.start more)))
        more[more.length -
          Stop.leastLeft (language.stops triggers language.start more)]?
        (Stop.furthest (language.stops triggers language.start
          (text ++ more))).expected := by
  have bound : Stop.leastLeft (language.stops triggers language.start more) ≤
      more.length := Language.leastLeft_le_length
  have position : (text ++ more).length -
        Stop.leastLeft (language.stops triggers language.start (text ++ more)) =
      text.length + (more.length -
        Stop.leastLeft (language.stops triggers language.start more)) := by
    rw [leastLeft_behind sequence laid, List.length_append]
    omega
  rw [Language.unexpected]
  simp only [Stop.furthest_left, position]
  rw [List.getElem?_append_right (Nat.le_add_right _ _),
    Nat.add_sub_cancel_left]

/-- Behind a line, the place where a text fails is where it fails alone. -/
theorem unexpected_behind (source source' : Source) :
    (language.unexpected triggers (text ++ more)).inSource source =
      ((language.unexpected triggers more).inSource source').advance source
        text.length := by
  rw [unexpected_eq_behind sequence laid, Language.unexpected]
  simp only [Stop.furthest_left]
  exact Failure.unexpected_advance _ _ _
    (fun _ => mem_expected_behind_iff sequence laid) source source'

end Behind

end Item

/-- Behind a line that can be read and does not end in the value trigger, a text
that begins with a trigger is read as if it stood alone. -/
theorem parseLine_append {triggers : Triggers} {front back : String}
    {items : List Item} {label : Option String}
    (accepted : parseLine triggers front label = .ok items)
    (ending : front.toList.getLast? ≠ some triggers.value)
    (opening : back.toList.head? = some triggers.control ∨
      back.toList.head? = some triggers.value)
    (label' label'' : Option String) :
    (∀ more, parseLine triggers back label' = .ok more →
      parseLine triggers (front ++ back) label'' =
        .ok (Item.merge (items ++ more))) ∧
    ∀ error, parseLine triggers back label' = .error error →
      error.Unexpected →
      parseLine triggers (front ++ back) label'' =
        .error (error.advance ⟨front ++ back, label''⟩ front.length) := by
  obtain ⟨readable, tokens, laid, ⟨parts, sequence, rfl⟩, faultless⟩ :=
    parseLine_eq_ok_iff.mp accepted
  have seam := Item.Seam.of_trigger ending opening
  constructor
  · intro more answer
    obtain ⟨_, tokens', laid', ⟨parts', sequence', rfl⟩, faultless'⟩ :=
      parseLine_eq_ok_iff.mp answer
    obtain ⟨joined, whole, joinedLaid, joinedSequence, merged, noFault⟩ :=
      Item.exists_sequence_append sequence laid sequence' laid' seam
    rw [← String.toList_append] at joinedLaid
    refine parseLine_eq_ok_iff.mpr ⟨readable, joined, joinedLaid,
      ⟨whole, joinedSequence, ?_⟩, noFault faultless faultless'⟩
    rw [Item.merge_merge_append, Item.merge_append_merge, merged]
  · intro error answer unexpected
    have longer := sequence.laid_append laid seam <| by
      intro _ d head
      rw [head] at opening
      simpa using opening
    rw [parseLine, if_pos readable] at answer ⊢
    have underivable : ¬∃ items,
        Derivable Line triggers (Source.mk back label').chars items :=
      Item.language_recognises.not_derivable_of_unexpected
        (line_unambiguous triggers) answer unexpected
    have underivable' : ¬∃ items,
        Derivable Line triggers (Source.mk (front ++ back) label'').chars
          items := by
      rw [Source.chars, String.toList_append]
      exact fun derivable =>
        underivable (Item.derivable_behind sequence longer derivable)
    rw [Item.language_recognises.parse_of_not_derivable underivable] at answer
    cases answer
    rw [Item.language_recognises.parse_of_not_derivable underivable',
      Source.chars, String.toList_append]
    exact congrArg _ (Item.unexpected_behind sequence longer _ _)

/-- An escaped trigger behind literal text belongs to the same literal. -/
theorem parseLine_literal_escape :
    parseLine Triggers.standard ("one" ++ "#\\") none =
      .ok [.literal "one#"] := by
  have front : parseLine Triggers.standard "one" none =
      .ok [.literal "one"] :=
    parseLine_of_plain (by decide) (by decide)
      (List.all_iff_forall_prop.mp (by decide)) none
  have escape : Item.Grammar.One [⟨.valueEscape, ['#', '\\']⟩]
      (.literal "#") := .valueEscape ['#', '\\']
  have back : parseLine Triggers.standard "#\\" none = .ok [.literal "#"] :=
    parseLine_eq_ok_iff.mpr ⟨by decide, _, .cons rfl (.nil []),
      ⟨_, .cons escape .nil, rfl⟩, Item.fault?_literal escape⟩
  exact (parseLine_append front (by decide) (by decide) none none).1 _ back

end TemplateSyntax
