import TemplateSyntax.Proofs.Reading.Furthest
import TemplateSyntax.Proofs.Reading.Height
import TemplateSyntax.Proofs.Reading.Nearsighted

/-!
# Texts that are resumed

A text without a derivation is refused at a place where a reading is stuck
(`Language.Recognises.exists_stuck`).  If tokens complete those in front of the
place, then the text in front of it can be continued to one that is not
unexpected.  It has a continuation with a value or one that is nested too deeply
unless a number in it has no value, and no continuation heals such a number
(`Language.Recognises.continues_iff`).
-/

namespace TemplateSyntax

/-- The text was refused because it is nested too deeply. -/
def TooDeep {α : Type} (answer : Except ParseError α) : Prop :=
  ∃ error, answer = .error error ∧ error.NestedTooDeeply

/-- The answer is a value, or the text is nested too deeply. -/
def Fits {α : Type} (answer : Except ParseError α) : Prop :=
  (∃ value, answer = .ok value) ∨ TooDeep answer

/-- Tokens that resume others and lead to a derivation, without another number. -/
structure Resumes {α : Type} (grammar : List Token → α → Prop)
    (triggers : Triggers) (tokens later : List Token) : Prop where
  laid : Laid triggers ((tokens ++ later).flatMap Token.lexeme)
    (tokens ++ later) []
  derived : ∃ value, grammar (tokens ++ later) value
  numberless : ∀ token ∈ later, token.terminal ≠ .number

theorem Resumes.derivable {α : Type} {grammar : List Token → α → Prop}
    {triggers : Triggers} {tokens later : List Token}
    (resumes : Resumes grammar triggers tokens later) :
    ∃ value, Derivable grammar triggers
      ((tokens ++ later).flatMap Token.lexeme) value := by
  obtain ⟨value, derivation⟩ := resumes.derived
  exact ⟨value, tokens ++ later, resumes.laid, derivation⟩

theorem Token.error?_of_ne_number {token : Token}
    (other : token.terminal ≠ .number) : token.error? = none :=
  if_neg other

theorem Failure.span_start (position : Nat) (found : Option Char)
    (expected : List Terminal) :
    (Failure.unexpected position found expected).span.start = position := by
  cases found <;> rfl

namespace Language

variable {σ α : Type} {language : Language σ α} {triggers : Triggers}

/-- A reading goes neither on from a state nor ends there. -/
structure Stuck (language : Language σ α) (triggers : Triggers) (state : σ)
    (rest : List Char) : Prop where
  unread : ∀ terminal ∈ language.expected state,
    terminal.scan triggers rest = none
  unfinished : rest = [] → language.value? state = none

namespace Recognises

variable {grammar : List Token → α → Prop}
  (recognises : language.Recognises grammar)

include recognises

/-- A text without a derivation is refused at a place where a reading is stuck. -/
theorem exists_stuck {text : List Char}
    (underivable : ¬∃ value, Derivable grammar triggers text value) :
    ∃ tokens rest state, Laid triggers text tokens rest ∧
      language.Path language.start tokens state ∧
      language.Stuck triggers state rest ∧
      (language.unexpected triggers text).span.start =
        (tokens.flatMap Token.lexeme).length := by
  have proper : language.stops triggers language.start text ≠ [] :=
    List.ne_nil_of_mem start_mem_stops
  obtain ⟨stop, member, least⟩ := Stop.exists_leastLeft proper
  obtain ⟨tokens, rest, state, laid, path, rfl⟩ := mem_stops_iff.mp member
  refine ⟨tokens, rest, state, laid, path, ⟨?_, ?_⟩, ?_⟩
  · intro terminal expected
    obtain ⟨⟨terminal, next⟩, move, rfl⟩ := List.mem_map.mp expected
    cases read : terminal.scan triggers rest with
    | none => rfl
    | some answer =>
        obtain ⟨lexeme, left⟩ := answer
        -- the reading would go on beyond the furthest place
        have further := Stop.leastLeft_le (mem_stops_iff.mpr
          ⟨_, left, _, laid.append (.cons read (.nil left)),
            path.append (.single lexeme move), rfl⟩)
        have shorter := Terminal.length_lt_of_scan read
        rw [← least] at further
        exact absurd further (Nat.not_le_of_lt shorter)
  · rintro rfl
    cases finished : language.value? state with
    | none => rfl
    | some value =>
        exact absurd ⟨value, tokens, laid, (recognises _ _).mpr
          ⟨state, path, finished⟩⟩ underivable
  · have position : (language.unexpected triggers text).span.start =
        text.length -
          Stop.leastLeft (language.stops triggers language.start text) :=
      Failure.span_start _ _ _
    have whole := congrArg List.length laid.text_eq
    rw [List.length_append] at whole
    rw [position, ← least, whole, Nat.add_sub_cancel]

variable {tokens later : List Token}
  (resumes : Resumes grammar triggers tokens later)

include resumes

/-- If the numbers among the tokens have values, the resumed text has an answer
that fits. -/
theorem fits_of_resumes (unambiguous : Unambiguous grammar triggers)
    {source : Source}
    (split : source.chars = (tokens ++ later).flatMap Token.lexeme)
    (valued : ∀ token ∈ tokens, token.error? = none) :
    Fits (language.parse triggers source) := by
  obtain ⟨value, derivation⟩ := resumes.derived
  have laid := resumes.laid
  rw [← split] at laid
  rw [recognises.parse_of_derivation unambiguous laid derivation]
  cases found : language.fault? language.start (tokens ++ later) with
  | none => exact .inl ⟨value, rfl⟩
  | some fault =>
      rcases fault?_cases found with rfl | ⟨token, member, error, wrong, _⟩
      · exact .inr ⟨_, rfl, rfl⟩
      · have none : token.error? = none := by
          rcases List.mem_append.mp member with first | second
          · exact valued token first
          · exact Token.error?_of_ne_number (resumes.numberless token second)
        rw [none] at wrong
        cases wrong

variable {ahead : σ → List Char → Terminal}
  (foresees : language.Foresees triggers ahead)
  (distinct : language.Distinct)
  (nearsighted : language.Nearsighted triggers ahead)

include foresees distinct nearsighted

/-- If a text that begins with a number of the tokens and all in front of it has
a value, then so has the number. -/
theorem error?_of_parse_ok {before behind : List Token} {number : List Char}
    (split : tokens = before ++ ⟨.number, number⟩ :: behind) {source : Source}
    (begins : before.flatMap Token.lexeme ++ number <+: source.chars)
    {value : α} (answer : language.parse triggers source = .ok value) :
    Token.error? ⟨.number, number⟩ = none := by
  have unambiguous := recognises.unambiguous foresees distinct
  obtain ⟨tokens', laid', derivation', faultless⟩ :=
    (recognises.parse_eq_ok_iff unambiguous).mp answer
  obtain ⟨value', derivation⟩ := resumes.derived
  obtain ⟨more, whole⟩ := begins
  have member := recognises.mem_readings_iff.mpr ⟨resumes.laid, derivation⟩
  have member' := recognises.mem_readings_iff.mpr ⟨laid', derivation'⟩
  rw [split, List.append_assoc, List.cons_append] at member
  rw [← whole, List.append_assoc] at member'
  obtain ⟨longer, others, rfl, goesOn⟩ :=
    foresees.number_kept distinct nearsighted member member'
  obtain ⟨final, path, _⟩ := (recognises _ _).mp derivation'
  have valued := ((distinct.fault?_eq_none_iff path).mp faultless).2
  exact Token.error?_of_isPrefix goesOn (valued _ (by simp))

/-- The text of the tokens has a continuation that fits exactly if their numbers
have values or some continuation is nested too deeply.  What is read of a
continuation (`sources`) may leave out blanks at its end, but no digit. -/
theorem continues_iff (sources : List Char → Source)
    (keeps : ∀ more front digit, Unicode.isDecimal digit = true →
      front ++ [digit] <+: tokens.flatMap Token.lexeme →
      front ++ [digit] <+: (sources more).chars)
    (whole : (sources (later.flatMap Token.lexeme)).chars =
      (tokens ++ later).flatMap Token.lexeme) :
    (∃ more, Fits (language.parse triggers (sources more))) ↔
      (∀ token ∈ tokens, token.error? = none) ∨
        ∃ more, TooDeep (language.parse triggers (sources more)) := by
  constructor
  · rintro ⟨more, ⟨value, answer⟩ | deep⟩
    · refine .inl fun token member => ?_
      obtain ⟨terminal, lexeme⟩ := token
      by_cases isNumber : terminal = .number
      · subst isNumber
        obtain ⟨_, _, read⟩ :=
          resumes.laid.exists_scan (List.mem_append_left later member)
        obtain ⟨front, digit, rfl, decimal⟩ :=
          Scan.exists_last_of_number read
        obtain ⟨before, behind, split⟩ := List.append_of_mem member
        have inFront : (before.flatMap Token.lexeme ++ front) ++ [digit] <+:
            tokens.flatMap Token.lexeme :=
          ⟨behind.flatMap Token.lexeme, by simp [split]⟩
        have begins := keeps more _ digit decimal inFront
        rw [List.append_assoc] at begins
        exact recognises.error?_of_parse_ok resumes foresees distinct
          nearsighted split begins answer
      · exact Token.error?_of_ne_number isNumber
    · exact .inr ⟨more, deep⟩
  · rintro (valued | ⟨more, deep⟩)
    · have unambiguous := recognises.unambiguous foresees distinct
      exact ⟨_, recognises.fits_of_resumes resumes unambiguous whole valued⟩
    · exact ⟨more, .inr deep⟩

end Recognises

end Language

end TemplateSyntax
