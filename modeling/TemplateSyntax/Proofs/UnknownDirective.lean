import TemplateSyntax.Proofs.Item.Directive
import TemplateSyntax.Proofs.Locality

/-!
# Openings without a keyword

Where a directive opens, a keyword must follow the blanks behind the opening.  If
none does, the line is refused at that place, whatever stands in front and
whatever follows (`parseLine_unknownDirective`): the opening is the only token
there, and nothing can be read behind it.
-/

namespace TemplateSyntax

open Item.Grammar (Line)
open Scan

/-! ### Statement -/

/-- A keyword stands at the front of the text and no longer name. -/
def BeginsWithKeyword (text : List Char) : Prop :=
  ∃ (keyword : Keyword) (rest : List Char),
    text = keyword.spelling.toList ++ rest ∧ notAhead isNameChar rest = true

/-- A text from the opening of a directive on. -/
def Item.openingText (triggers : Triggers) (gap rest : List Char) : String :=
  String.ofList (triggers.control :: '{' :: (gap ++ rest))

/-- The diagnostic points at a place of the source where a keyword is missing and
something else is found, or the end of the text. -/
structure Diagnostic.MissesKeyword (diagnostic : Diagnostic) (source : Source)
    (position : Nat) (found : Option Char) : Prop where
  source_eq : diagnostic.source = source
  start_eq : diagnostic.span.start = position
  hint_eq : diagnostic.hint = some "expected one of: directive keyword"
  atEnd : found = none → diagnostic.message = "unexpected end of input"
  inside : ∀ c, found = some c →
    diagnostic.message = "unexpected character " ++ Text.quoted c.toString
  code_eq : diagnostic.code = some "syntax"
  notes_eq : diagnostic.notes = []

theorem Failure.missesKeyword {expected : List Terminal}
    (keywords : ∀ terminal, terminal ∈ expected ↔ terminal ∈ Terminal.keywords)
    (position : Nat) (found : Option Char) (source : Source) :
    ((Failure.unexpected position found expected).diagnostic
      source).MissesKeyword source position found where
  source_eq := rfl
  start_eq := by cases found <;> rfl
  hint_eq := (Terminal.hint_congr keywords).trans (by decide)
  atEnd := by
    rintro rfl
    rfl
  inside := by
    rintro c rfl
    rfl
  code_eq := rfl
  notes_eq := rfl

namespace Item

variable {triggers : Triggers} {gap rest lexeme left : List Char}

/-! ### Behind the opening -/

theorem beginsWithKeyword_of_scan {keyword : Keyword} {text : List Char}
    (read : (Terminal.keyword keyword).scan triggers text = some (lexeme, left)) :
    BeginsWithKeyword text := by
  have plain : ∃ front back, (word keyword.spelling.toList).before
      (notAhead isNameChar) text = some (front, back) := by
    rw [Terminal.scan, Scan.keyword] at read
    split at read
    · exact exists_of_andThen read
    · exact ⟨_, _, read⟩
  obtain ⟨_, back, found⟩ := plain
  obtain ⟨spelled, stops⟩ := before_eq_some_iff.mp found
  obtain ⟨_, split⟩ := word_eq_some_iff.mp spelled
  exact ⟨keyword, back, split, stops⟩

theorem eq_nil_of_unknown (unknown : ¬BeginsWithKeyword rest)
    {items : List Item} {tokens : List Token} {final : State}
    (path : language.Path ⟨items, .directive⟩ tokens final)
    (laid : Laid triggers rest tokens left) : tokens = [] := by
  cases path with
  | nil => rfl
  | cons _ member _ =>
      cases laid with
      | cons read _ =>
          obtain ⟨keyword, _, moveEq⟩ := List.mem_map.mp member
          obtain ⟨rfl, _⟩ := Prod.mk.inj moveEq
          exact absurd (beginsWithKeyword_of_scan read) unknown

section Opening

variable (blank : Blank gap) (maximal : notAhead Unicode.isBlank rest = true)
include blank maximal

theorem scan_opening :
    Terminal.controlOpen.scan triggers (openingText triggers gap rest).toList =
      some (triggers.control :: '{' :: gap, rest) := by
  rw [openingText, String.toList_ofList]
  exact andThen_eq_some_iff.mpr ⟨[triggers.control, '{'], gap ++ rest, gap,
    word_eq_some_iff.mpr ⟨rfl, rfl⟩, many_of_stop blank maximal, rfl⟩

variable (unknown : ¬BeginsWithKeyword rest)
include unknown

/-- From the opening on, no path gets further than behind it. -/
theorem path_of_unknown {tokens : List Token} {final : State}
    (path : language.Path language.start tokens final)
    (laid : Laid triggers (openingText triggers gap rest).toList tokens left) :
    tokens = [] ∨ left = rest ∧ final = ⟨[], .directive⟩ := by
  have opening : Terminal.controlOpen.scan triggers
      (openingText triggers gap rest).toList =
        some (triggers.control :: '{' :: gap, rest) :=
    scan_opening blank maximal
  cases path with
  | nil => exact .inl rfl
  | cons _ member later =>
      cases laid with
      | cons read behind =>
          have opens : (Terminal.controlOpen, fun _ => State.mk [] .directive) ∈
              State.textMoves [] := by
            simp [State.textMoves]
          obtain rfl := (eq_textAhead member read).trans
            (eq_textAhead opens opening).symm
          rw [opening] at read
          cases read
          obtain rfl := language_distinct.next_eq member opens
          obtain rfl := eq_nil_of_unknown unknown later behind
          cases later
          cases behind
          exact .inr ⟨rfl, rfl⟩

theorem not_derivable_of_unknown :
    ¬∃ items, Derivable Line triggers (openingText triggers gap rest).toList
      items := by
  rintro ⟨items, tokens, laid, line⟩
  obtain ⟨final, path, finished⟩ := (language_recognises tokens items).mp line
  rcases path_of_unknown blank maximal unknown path laid with rfl | ⟨_, rfl⟩
  · have whole : (openingText triggers gap rest).toList = [] := laid.text_eq
    rw [openingText, String.toList_ofList] at whole
    cases whole
  · cases finished

theorem mem_stops_of_unknown {stop : Stop} :
    stop ∈ language.stops triggers language.start
        (openingText triggers gap rest).toList ↔
      stop = ⟨(openingText triggers gap rest).length,
        language.expected language.start⟩ ∨
      stop = ⟨rest.length, Terminal.keywords⟩ := by
  rw [Language.mem_stops_iff]
  constructor
  · rintro ⟨tokens, left, final, laid, path, rfl⟩
    rcases path_of_unknown blank maximal unknown path laid with
      rfl | ⟨rfl, rfl⟩
    · cases path
      cases laid
      exact .inl rfl
    · exact .inr rfl
  · rintro (rfl | rfl)
    · exact ⟨[], _, _, .nil _, .nil _, rfl⟩
    · have opens : (Terminal.controlOpen, fun _ => State.mk [] .directive) ∈
          language.moves language.start := by
        simp [language, State.moves, State.start, State.textMoves]
      exact ⟨_, rest, _, .cons (scan_opening blank maximal) (.nil rest),
        .cons _ opens (.nil _), rfl⟩

theorem leastLeft_of_unknown :
    Stop.leastLeft (language.stops triggers language.start
      (openingText triggers gap rest).toList) = rest.length := by
  refine Stop.leastLeft_eq
    ((mem_stops_of_unknown blank maximal unknown).mpr (.inr rfl)) ?_
  intro other member
  rcases (mem_stops_of_unknown blank maximal unknown).mp member with rfl | rfl
  · simp only [openingText, String.length_ofList, List.length_cons,
      List.length_append]
    omega
  · exact Nat.le_refl _

theorem mem_expected_of_unknown {terminal : Terminal} :
    terminal ∈ (Stop.furthest (language.stops triggers language.start
        (openingText triggers gap rest).toList)).expected ↔
      terminal ∈ Terminal.keywords := by
  rw [Stop.mem_expected_furthest, leastLeft_of_unknown blank maximal unknown]
  constructor
  · rintro ⟨stop, member, leftEq, expected⟩
    rcases (mem_stops_of_unknown blank maximal unknown).mp member with rfl | rfl
    · simp only [openingText, String.length_ofList, List.length_cons,
        List.length_append] at leftEq
      omega
    · exact expected
  · intro expected
    exact ⟨_, (mem_stops_of_unknown blank maximal unknown).mpr (.inr rfl), rfl,
      expected⟩

/-- Behind a line, the diagnostic points behind the opening. -/
theorem missesKeyword_behind {text : List Char} {tokens : List Token}
    {parts : List Item} (sequence : Grammar.Sequence tokens parts)
    (laid : Laid triggers (text ++ (openingText triggers gap rest).toList) tokens
      (openingText triggers gap rest).toList)
    (source : Source) :
    ((language.unexpected triggers (text ++
        (openingText triggers gap rest).toList)).diagnostic source).MissesKeyword
      source (text.length + 2 + gap.length) rest.head? := by
  have split : (openingText triggers gap rest).toList =
      (triggers.control :: '{' :: gap) ++ rest := by
    rw [openingText, String.toList_ofList]
    rfl
  have before : (openingText triggers gap rest).toList.length - rest.length =
      (triggers.control :: '{' :: gap).length := by
    rw [split, List.length_append, Nat.add_sub_cancel]
  have found : (openingText triggers gap rest).toList[
      (triggers.control :: '{' :: gap).length]? = rest.head? := by
    rw [split, List.getElem?_append_right (Nat.le_refl _), Nat.sub_self,
      List.head?_eq_getElem?]
  have position : text.length + (triggers.control :: '{' :: gap).length =
      text.length + 2 + gap.length := by
    simp only [List.length_cons]
    omega
  rw [unexpected_eq_behind sequence laid,
    leastLeft_of_unknown blank maximal unknown, before, found, position]
  exact Failure.missesKeyword (fun terminal =>
    (mem_expected_behind_iff sequence laid).trans
      (mem_expected_of_unknown blank maximal unknown)) _ _ _

end Opening

end Item

/-! ### Lines -/

/-- Behind a line that does not end in the value trigger, an opening without a
keyword is refused where the keyword is missing. -/
theorem parseLine_unknownDirective {triggers : Triggers} {front : String}
    {items : List Item} {label : Option String}
    (accepted : parseLine triggers front label = .ok items)
    (ending : front.toList.getLast? ≠ some triggers.value)
    {gap rest : List Char} (blank : Item.Blank gap)
    (maximal : notAhead Unicode.isBlank rest = true)
    (unknown : ¬BeginsWithKeyword rest) (label' : Option String) :
    ∃ diagnostic : Diagnostic,
      parseLine triggers (front ++ Item.openingText triggers gap rest) label' =
        .error (.atPlace diagnostic) ∧
      diagnostic.MissesKeyword
        ⟨front ++ Item.openingText triggers gap rest, label'⟩
        (front.length + 2 + gap.length) rest.head? := by
  obtain ⟨readable, tokens, laid, ⟨parts, sequence, _⟩, _⟩ :=
    parseLine_eq_ok_iff.mp accepted
  have opening : (Item.openingText triggers gap rest).toList.head? =
      some triggers.control := by
    rw [Item.openingText, String.toList_ofList]
    rfl
  have longer := sequence.laid_append laid
    (Item.Seam.of_trigger ending (.inl opening)) <| by
      intro _ d head
      rw [opening] at head
      exact .inl (Option.some.inj head).symm
  have underivable : ¬∃ items, Derivable Line triggers
      (Source.mk (front ++ Item.openingText triggers gap rest) label').chars
      items := by
    rw [Source.chars, String.toList_append]
    exact fun derivable =>
      Item.not_derivable_of_unknown blank maximal unknown
        (Item.derivable_behind sequence longer derivable)
  rw [parseLine, if_pos readable,
    Item.language_recognises.parse_of_not_derivable underivable, Source.chars,
    String.toList_append]
  exact ⟨_, rfl,
    Item.missesKeyword_behind blank maximal unknown sequence longer _⟩

/-- A longer name that begins like a keyword, behind a line break. -/
theorem parseLine_unknownDirective_iffy :
    ∃ diagnostic : Diagnostic,
      parseLine Triggers.standard "one%\x7b\niffy x\x7d" none =
        .error (.atPlace diagnostic) ∧
      diagnostic.MissesKeyword ⟨"one%\x7b\niffy x\x7d", none⟩ 6 (some 'i') := by
  have front : parseLine Triggers.standard "one" none =
      .ok [.literal "one"] :=
    parseLine_of_plain (by decide) (by decide)
      (List.all_iff_forall_prop.mp (by decide)) none
  have blank : Item.Blank ['\n'] := List.forall_mem_singleton.mpr (by decide)
  have unknown : ¬BeginsWithKeyword "iffy x\x7d".toList := by
    rintro ⟨keyword, rest, split, stops⟩
    cases keyword <;> cases split
    cases stops
  exact parseLine_unknownDirective front (by decide) blank (by decide) unknown
    none

end TemplateSyntax
