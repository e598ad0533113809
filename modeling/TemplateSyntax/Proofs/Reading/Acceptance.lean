import TemplateSyntax.Parse
import TemplateSyntax.Proofs.Reading.Lookahead
import TemplateSyntax.Proofs.Terminal.Number

/-!
# What an answer says about a text

A text with a derivation is refused only for a fault along that derivation, and
a text without one only because no reading goes on at some place.  `Accepts`
says this of an answer, and `accepts_parse_iff` tells when the answer of a
reader that recognises an unambiguous grammar is of this kind.
-/

namespace TemplateSyntax

namespace ParseError

/-- The text was refused because no reading goes on at some place. -/
def Unexpected : ParseError → Prop
  | .atPlace diagnostic =>
      diagnostic.message = "unexpected end of input" ∨
        ∃ c : Char, diagnostic.message =
          "unexpected character " ++ Text.quoted c.toString
  | .number _ | .nullTrigger => False

/-- The text was refused because it is nested too deeply. -/
def NestedTooDeeply : ParseError → Prop
  | .atPlace diagnostic => diagnostic.message = "input nested too deeply"
  | .number _ | .nullTrigger => False

/-- The text was refused because a number in it has too many digits. -/
def TooManyDigits : ParseError → Prop
  | .number (.tooManyDigits _) => True
  | _ => False

/-- The text was refused because it goes beyond a limit. -/
def BeyondLimit (error : ParseError) : Prop :=
  error.NestedTooDeeply ∨ error.TooManyDigits

end ParseError

/-- The answer to a text is the one a grammar calls for: the text is derivable
exactly if it is not refused as unexpected, a value is the value of every
derivation, and a derivable text is refused in one of the given ways only. -/
structure Accepts {α : Type} (grammar : List Token → α → Prop)
    (triggers : Triggers) (text : List Char) (answer : Except ParseError α)
    (refused : ParseError → Prop) : Prop where
  derivable_iff : (∃ value, Derivable grammar triggers text value) ↔
    ¬∃ error, answer = .error error ∧ error.Unexpected
  value_iff : ∀ value, answer = .ok value →
    ∀ value', Derivable grammar triggers text value' ↔ value' = value
  failure : ∀ error, (∃ value, Derivable grammar triggers text value) →
    answer = .error error → refused error

/-- The answer is the value if it fits, and else that the text nests too
deeply. -/
def AnswersWithin {α : Type} (answer : Except ParseError α) (value : α)
    (fits : Prop) : Prop :=
  fits ∧ answer = .ok value ∨
    ¬fits ∧ ∃ error, answer = .error error ∧ error.NestedTooDeeply

theorem AnswersWithin.eq_ok {α : Type} {answer : Except ParseError α}
    {value : α} {fits : Prop} (answers : AnswersWithin answer value fits)
    (met : fits) : answer = .ok value := by
  rcases answers with ⟨_, read⟩ | ⟨outside, _⟩
  · exact read
  · exact absurd met outside

namespace Accepts

variable {α : Type} {grammar : List Token → α → Prop} {triggers : Triggers}
  {text : List Char} {refused : ParseError → Prop}

theorem of_underivable {error : ParseError}
    (underivable : ¬∃ value, Derivable grammar triggers text value)
    (unexpected : error.Unexpected) :
    Accepts grammar triggers text (.error error) refused := by
  refine ⟨iff_of_false underivable (not_not_intro ⟨error, rfl, unexpected⟩),
    ?_, ?_⟩
  · intro value succeeded
    cases succeeded
  · intro _ derivable _
    exact absurd derivable underivable

theorem of_value {value : α}
    (only : ∀ value', Derivable grammar triggers text value' ↔
      value' = value) :
    Accepts grammar triggers text (.ok value) refused := by
  refine ⟨iff_of_true ⟨value, (only value).mpr rfl⟩ ?_, ?_, ?_⟩
  · rintro ⟨_, failed, _⟩
    cases failed
  · intro result succeeded
    cases succeeded
    exact only
  · intro _ _ failed
    cases failed

theorem of_refusal {error : ParseError}
    (derivable : ∃ value, Derivable grammar triggers text value)
    (expected : ¬error.Unexpected) (allowed : refused error) :
    Accepts grammar triggers text (.error error) refused := by
  refine ⟨iff_of_true derivable ?_, ?_, ?_⟩
  · rintro ⟨_, failed, unexpected⟩
    cases failed
    exact expected unexpected
  · intro _ succeeded
    cases succeeded
  · intro _ _ failed
    cases failed
    exact allowed

end Accepts

theorem Failure.unexpected_inSource (position : Nat) (found : Option Char)
    (expected : List Terminal) (source : Source) :
    ((Failure.unexpected position found expected).inSource source).Unexpected := by
  cases found with
  | none => exact .inl rfl
  | some c => exact .inr ⟨c, rfl⟩

theorem Failure.not_unexpected_nestedTooDeeply (source : Source) :
    ¬(Failure.nestedTooDeeply.inSource source).Unexpected := by
  rintro (ending | ⟨c, character⟩)
  · have same : "input nested too deeply" = "unexpected end of input" := ending
    exact absurd same (by decide)
  · have same : "input nested too deeply" =
        "unexpected character " ++ Text.quoted c.toString := character
    have initial := congrArg (fun message => message.toList.head?) same
    simp [String.toList_append] at initial

namespace Laid

variable {triggers : Triggers} {text rest : List Char} {tokens : List Token}
  {token : Token}

theorem exists_scan (laid : Laid triggers text tokens rest)
    (member : token ∈ tokens) :
    ∃ ahead behind, token.terminal.scan triggers ahead =
      some (token.lexeme, behind) := by
  induction laid with
  | nil => cases member
  | cons read _ ih =>
      rcases List.mem_cons.mp member with rfl | later
      · exact ⟨_, _, read⟩
      · exact ih later

end Laid

namespace Language

variable {σ α : Type} {language : Language σ α}
  {grammar : List Token → α → Prop} {triggers : Triggers}

theorem fault?_cases {state : σ} {tokens : List Token} {fault : Failure}
    (found : language.fault? state tokens = some fault) :
    fault = .nestedTooDeeply ∨
      ∃ token ∈ tokens, ∃ error, token.error? = some error ∧
        fault = .number error := by
  induction tokens generalizing state with
  | nil =>
      rw [fault?] at found
      split at found
      · cases found
        exact .inl rfl
      · cases found
  | cons token tokens ih =>
      rw [fault?] at found
      split at found
      · cases found
        exact .inl rfl
      · cases wrong : token.error? with
        | some error =>
            simp only [wrong, Option.map_some, Option.some_or,
              Option.some.injEq] at found
            exact .inr ⟨token, List.mem_cons_self, error, wrong, found.symm⟩
        | none =>
            simp only [wrong, Option.map_none, Option.none_or] at found
            obtain ⟨next, _, later⟩ := Option.bind_eq_some_iff.mp found
            rcases ih later with nested | ⟨other, member, number⟩
            · exact .inl nested
            · exact .inr ⟨other, List.mem_cons_of_mem _ member, number⟩

theorem not_unexpected_of_fault {state : σ} {tokens : List Token}
    {fault : Failure} (found : language.fault? state tokens = some fault)
    (source : Source) : ¬(fault.inSource source).Unexpected := by
  rcases fault?_cases found with rfl | ⟨_, _, error, _, rfl⟩
  · exact Failure.not_unexpected_nestedTooDeeply source
  · exact id

theorem Recognises.parse_of_not_derivable
    (recognises : language.Recognises grammar) {source : Source}
    (underivable : ¬∃ value, Derivable grammar triggers source.chars value) :
    language.parse triggers source =
      .error ((language.unexpected triggers source.chars).inSource source) := by
  have none := recognises.readings_eq_nil_iff.mpr underivable
  rw [Language.parse, Language.read, none]
  rfl

theorem Recognises.parse_of_derivation
    (recognises : language.Recognises grammar)
    (unambiguous : Unambiguous grammar triggers) {source : Source}
    {tokens : List Token} {value : α}
    (laid : Laid triggers source.chars tokens [])
    (derivation : grammar tokens value) :
    language.parse triggers source =
      match language.fault? language.start tokens with
      | some fault => .error (fault.inSource source)
      | none => .ok value := by
  rw [Language.parse, Language.read]
  cases readings : language.readings triggers language.start source.chars with
  | nil =>
      have derivable : ∃ value, Derivable grammar triggers source.chars value :=
        ⟨value, tokens, laid, derivation⟩
      exact absurd derivable (recognises.readings_eq_nil_iff.mp readings)
  | cons first others =>
      obtain ⟨tokens', value'⟩ := first
      have member : (tokens', value') ∈
          language.readings triggers language.start source.chars := by
        rw [readings]
        exact List.mem_cons_self
      obtain ⟨laid', derivation'⟩ := recognises.mem_readings_iff.mp member
      obtain ⟨rfl, rfl⟩ :=
        unambiguous _ _ _ _ _ laid derivation laid' derivation'
      cases fault : language.fault? language.start tokens <;>
        simp [fault, Except.mapError]

/-- A derivation decides whether its value is answered. -/
theorem Recognises.parse_eq_ok_iff_of_derivation
    (recognises : language.Recognises grammar)
    (unambiguous : Unambiguous grammar triggers) {source : Source}
    {tokens : List Token} {value : α}
    (laid : Laid triggers source.chars tokens [])
    (derivation : grammar tokens value) :
    language.parse triggers source = .ok value ↔
      language.fault? language.start tokens = none := by
  rw [recognises.parse_of_derivation unambiguous laid derivation]
  cases language.fault? language.start tokens <;> simp

/-- Where every number has a value, only the depth of a derivation decides
whether its value is answered. -/
theorem Recognises.answersWithin (recognises : language.Recognises grammar)
    (unambiguous : Unambiguous grammar triggers) {source : Source}
    {tokens : List Token} {value : α} {fits : Prop}
    (laid : Laid triggers source.chars tokens [])
    (derivation : grammar tokens value)
    (valued : ∀ token ∈ tokens, token.error? = none)
    (faultless : language.fault? language.start tokens = none ↔ fits) :
    AnswersWithin (language.parse triggers source) value fits := by
  rw [recognises.parse_of_derivation unambiguous laid derivation]
  cases found : language.fault? language.start tokens with
  | none => exact .inl ⟨faultless.mp found, rfl⟩
  | some fault =>
      refine .inr ⟨fun inside => ?_, ?_⟩
      · rw [faultless.mpr inside] at found
        cases found
      · rcases fault?_cases found with rfl | ⟨token, member, error, wrong, _⟩
        · exact ⟨_, rfl, rfl⟩
        · rw [valued token member] at wrong
          cases wrong

theorem Recognises.parse_eq_ok_iff
    (recognises : language.Recognises grammar)
    (unambiguous : Unambiguous grammar triggers) {source : Source}
    {value : α} :
    language.parse triggers source = .ok value ↔
      ∃ tokens, Laid triggers source.chars tokens [] ∧ grammar tokens value ∧
        language.fault? language.start tokens = none := by
  constructor
  · intro answer
    by_cases derivable : ∃ value, Derivable grammar triggers source.chars value
    · obtain ⟨value', tokens, laid, derivation⟩ := derivable
      rw [recognises.parse_of_derivation unambiguous laid derivation] at answer
      cases found : language.fault? language.start tokens with
      | some fault => simp [found] at answer
      | none =>
          simp only [found, Except.ok.injEq] at answer
          exact ⟨tokens, laid, answer ▸ derivation, found⟩
    · rw [recognises.parse_of_not_derivable derivable] at answer
      cases answer
  · rintro ⟨tokens, laid, derivation, faultless⟩
    rw [recognises.parse_of_derivation unambiguous laid derivation, faultless]

theorem Recognises.not_derivable_of_unexpected
    (recognises : language.Recognises grammar)
    (unambiguous : Unambiguous grammar triggers) {source : Source}
    {error : ParseError} (answer : language.parse triggers source = .error error)
    (unexpected : error.Unexpected) :
    ¬∃ value, Derivable grammar triggers source.chars value := by
  rintro ⟨value, tokens, laid, derivation⟩
  rw [recognises.parse_of_derivation unambiguous laid derivation] at answer
  cases found : language.fault? language.start tokens with
  | none => simp [found] at answer
  | some fault =>
      simp only [found, Except.error.injEq] at answer
      rw [← answer] at unexpected
      exact not_unexpected_of_fault found source unexpected

/-- The answer of a reader is the one its grammar calls for exactly if every
fault along a derivation of the text is one of those allowed. -/
theorem Recognises.accepts_parse_iff
    (recognises : language.Recognises grammar)
    (unambiguous : Unambiguous grammar triggers) {source : Source}
    {refused : ParseError → Prop} :
    Accepts grammar triggers source.chars (language.parse triggers source)
        refused ↔
      ∀ tokens value fault, Laid triggers source.chars tokens [] →
        grammar tokens value →
        language.fault? language.start tokens = some fault →
        refused (fault.inSource source) := by
  constructor
  · intro accepts tokens value fault laid derivation found
    have answer := recognises.parse_of_derivation unambiguous laid derivation
    rw [found] at answer
    exact accepts.failure _ ⟨value, tokens, laid, derivation⟩ answer
  · intro allowed
    by_cases derivable : ∃ value, Derivable grammar triggers source.chars value
    · obtain ⟨value, tokens, laid, derivation⟩ := derivable
      rw [recognises.parse_of_derivation unambiguous laid derivation]
      cases found : language.fault? language.start tokens with
      | none =>
          apply Accepts.of_value
          intro value'
          constructor
          · rintro ⟨tokens', laid', derivation'⟩
            exact (unambiguous _ _ _ _ _ laid' derivation' laid derivation).2
          · rintro rfl
            exact ⟨tokens, laid, derivation⟩
      | some fault =>
          exact Accepts.of_refusal ⟨value, tokens, laid, derivation⟩
            (not_unexpected_of_fault found source)
            (allowed tokens value fault laid derivation found)
    · rw [recognises.parse_of_not_derivable derivable]
      exact Accepts.of_underivable derivable
        (Failure.unexpected_inSource _ _ _ source)

/-! ### Digits without a value -/

/-- The first fault along a derivation of the text is a number with a digit
that has no value. -/
def FailsOnDigit (language : Language σ α) (grammar : List Token → α → Prop)
    (triggers : Triggers) (text : List Char) : Prop :=
  ∃ tokens value literal, Laid triggers text tokens [] ∧
    grammar tokens value ∧
    (language.fault? language.start tokens =
        some (.number (.unknownInteger literal)) ∨
      language.fault? language.start tokens =
        some (.number (.unknownRational literal)))

/-- The answer of a reader is the one its grammar calls for, up to limits, unless
it meets a digit without a value. -/
theorem Recognises.accepts_parse_beyondLimit_iff
    (recognises : language.Recognises grammar)
    (unambiguous : Unambiguous grammar triggers) (source : Source) :
    Accepts grammar triggers source.chars (language.parse triggers source)
        ParseError.BeyondLimit ↔
      ¬language.FailsOnDigit grammar triggers source.chars := by
  rw [recognises.accepts_parse_iff unambiguous]
  constructor
  · rintro allowed ⟨tokens, value, literal, laid, derivation, found⟩
    rcases found with integer | rational
    · exact (allowed _ _ _ laid derivation integer).elim id id
    · exact (allowed _ _ _ laid derivation rational).elim id id
  · intro valued tokens value fault laid derivation found
    rcases fault?_cases found with rfl | ⟨_, _, error, _, rfl⟩
    · exact .inl rfl
    · cases error with
      | tooManyDigits digits => exact .inr trivial
      | unknownInteger literal =>
          exact absurd ⟨tokens, value, literal, laid, derivation, .inl found⟩
            valued
      | unknownRational literal =>
          exact absurd ⟨tokens, value, literal, laid, derivation, .inr found⟩
            valued

/-- Where no number can be read, only the nesting is left. -/
theorem Recognises.accepts_parse_of_no_number
    (recognises : language.Recognises grammar)
    (unambiguous : Unambiguous grammar triggers) (source : Source)
    (none : ∀ tokens value, grammar tokens value →
      ∀ token ∈ tokens, token.terminal ≠ .number) :
    Accepts grammar triggers source.chars (language.parse triggers source)
      ParseError.NestedTooDeeply := by
  rw [recognises.accepts_parse_iff unambiguous]
  intro tokens value fault laid derivation found
  rcases fault?_cases found with rfl | ⟨token, member, error, wrong, _⟩
  · rfl
  · rw [Token.error?, if_neg (none _ _ derivation token member)] at wrong
    cases wrong

end Language

end TemplateSyntax
