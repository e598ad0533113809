import TemplateSyntax.Proofs.Alone
import TemplateSyntax.Proofs.Conversion
import TemplateSyntax.Proofs.Outcome

/-!
# Errors other than syntax errors

A text that cannot be read is refused with a syntax error at a place in it,
unless a number stops it or a line is read with the null character as a trigger
(`syntax_errors_only_iff`).  Patterns hold no numbers, and in texts of plain
digits no number stops anything.
-/

namespace TemplateSyntax

open Expr.Grammar (Expression)
open Item.Grammar (Line)
open Pattern.Grammar (Pieces Whole)

/-- The answer is a value or a syntax error at a place of the source. -/
def SyntaxErrorsOnly {α : Type} (source : Source)
    (answer : Except ParseError α) : Prop :=
  ∀ error, answer = .error error →
    ∃ diagnostic, error = .atPlace diagnostic ∧ diagnostic.Located source

/-! ### Readers -/

namespace Language

variable {σ α : Type} {language : Language σ α}
  {grammar : List Token → α → Prop} {triggers : Triggers} {source : Source}

/-- The first fault along a derivation of the text is a number without a
value. -/
def FailsOnNumber (language : Language σ α) (grammar : List Token → α → Prop)
    (triggers : Triggers) (text : List Char) : Prop :=
  ∃ tokens value error, Laid triggers text tokens [] ∧ grammar tokens value ∧
    language.fault? language.start tokens = some (.number error)

theorem Recognises.failsOnNumber_iff (recognises : language.Recognises grammar)
    (unambiguous : Unambiguous grammar triggers) :
    language.FailsOnNumber grammar triggers source.chars ↔
      ∃ error, language.parse triggers source = .error (.number error) := by
  constructor
  · rintro ⟨tokens, value, error, laid, derivation, found⟩
    rw [recognises.parse_of_derivation unambiguous laid derivation, found]
    exact ⟨error, rfl⟩
  · rintro ⟨error, answer⟩
    by_cases derivable : ∃ value, Derivable grammar triggers source.chars value
    · obtain ⟨value, tokens, laid, derivation⟩ := derivable
      rw [recognises.parse_of_derivation unambiguous laid derivation] at answer
      cases found : language.fault? language.start tokens with
      | none => simp [found] at answer
      | some fault =>
          simp only [found, Except.error.injEq] at answer
          cases fault with
          | number other => exact ⟨tokens, value, other, laid, derivation, found⟩
          | unexpected => cases answer
          | nestedTooDeeply => cases answer
    · rw [recognises.parse_of_not_derivable derivable] at answer
      cases answer

theorem parse_ne_nullTrigger :
    language.parse triggers source ≠ .error .nullTrigger := by
  rw [parse]
  cases language.read triggers source.chars with
  | ok value => simp [Except.mapError]
  | error failure => cases failure <;> simp [Except.mapError, Failure.inSource]

/-- Nothing but a number stops a reader otherwise than at a place. -/
theorem Recognises.syntaxErrorsOnly_iff
    (recognises : language.Recognises grammar)
    (unambiguous : Unambiguous grammar triggers) (source : Source) :
    SyntaxErrorsOnly source (language.parse triggers source) ↔
      ¬language.FailsOnNumber grammar triggers source.chars := by
  rw [recognises.failsOnNumber_iff unambiguous]
  constructor
  · rintro only ⟨error, answer⟩
    obtain ⟨_, atPlace, _⟩ := only _ answer
    cases atPlace
  · intro noNumber error answer
    cases error with
    | atPlace diagnostic => exact ⟨diagnostic, rfl, located_of_parse answer⟩
    | number error => exact absurd ⟨error, answer⟩ noNumber
    | nullTrigger => exact absurd answer parse_ne_nullTrigger

theorem FailsOnNumber.exists_token {text : List Char}
    (fails : language.FailsOnNumber grammar triggers text) :
    ∃ tokens value token, Laid triggers text tokens [] ∧
      grammar tokens value ∧ token ∈ tokens ∧ token.error? ≠ none := by
  obtain ⟨tokens, value, error, laid, derivation, found⟩ := fails
  rcases fault?_cases found with nested | ⟨token, member, other, wrong, _⟩
  · cases nested
  · refine ⟨tokens, value, token, laid, derivation, member, ?_⟩
    rw [wrong]
    exact Option.some_ne_none other

theorem not_failsOnNumber_of_plainDigits {text : List Char}
    (plain : PlainDigits text) :
    ¬language.FailsOnNumber grammar triggers text := by
  intro fails
  obtain ⟨tokens, _, token, laid, _, member, wrong⟩ := fails.exists_token
  have inside : token.lexeme <:+: text := by
    obtain ⟨front, back, rfl⟩ := List.append_of_mem member
    rw [laid.text_eq, List.append_nil]
    refine ⟨front.flatMap Token.lexeme, back.flatMap Token.lexeme, ?_⟩
    simp
  apply wrong
  exact Token.error?_eq_none_of_plainDigits (laid.forall_read token member)
    (plain.within inside)

theorem not_failsOnNumber_of_no_number {text : List Char}
    (none : ∀ tokens value, grammar tokens value →
      ∀ token ∈ tokens, token.terminal ≠ .number) :
    ¬language.FailsOnNumber grammar triggers text := by
  intro fails
  obtain ⟨tokens, value, token, _, derivation, member, wrong⟩ :=
    fails.exists_token
  apply wrong
  exact if_neg (none tokens value derivation token member)

end Language

/-! ### Lines, patterns and expressions -/

theorem parseLine_syntaxErrorsOnly_iff (triggers : Triggers) (text : String)
    (label : Option String) :
    SyntaxErrorsOnly ⟨text, label⟩ (parseLine triggers text label) ↔
      triggers.canRead = true ∧
        ¬Item.language.FailsOnNumber Line triggers text.toList := by
  rw [parseLine]
  split
  · rename_i readable
    rw [and_iff_right readable]
    exact Item.language_recognises.syntaxErrorsOnly_iff
      (line_unambiguous triggers) ⟨text, label⟩
  · rename_i unreadable
    refine iff_of_false ?_ (fun both => unreadable both.1)
    intro only
    obtain ⟨_, atPlace, _⟩ := only _ rfl
    cases atPlace

theorem parseLine_ofList_syntaxErrorsOnly_iff (triggers : Triggers)
    (line : List Char) (label : Option String) :
    SyntaxErrorsOnly ⟨String.ofList line, label⟩
        (parseLine triggers (String.ofList line) label) ↔
      triggers.canRead = true ∧
        ¬Item.language.FailsOnNumber Line triggers line := by
  have answer :=
    parseLine_syntaxErrorsOnly_iff triggers (String.ofList line) label
  rwa [String.toList_ofList] at answer

theorem parsePattern_syntaxErrorsOnly (text : String) (label : Option String) :
    SyntaxErrorsOnly ⟨text, label⟩ (parsePattern text label) := by
  rw [parsePattern, Pattern.language_recognises.syntaxErrorsOnly_iff
    (whole_unambiguous Triggers.standard)]
  apply Language.not_failsOnNumber_of_no_number
  intro tokens value derivation
  exact Pattern.terminal_ne_number_of_whole derivation

theorem parseExpr_syntaxErrorsOnly_iff (text : String)
    (label : Option String) :
    SyntaxErrorsOnly ⟨trimEnd text, label⟩ (parseExpr text label) ↔
      ¬Expr.language.FailsOnNumber Expression Triggers.standard
        (trimEnd text).toList :=
  Expr.language_recognises.syntaxErrorsOnly_iff
    (expression_unambiguous Triggers.standard) ⟨trimEnd text, label⟩

/-! ### Templates -/

/-- Only the first line that cannot be read decides whether a template is
refused with a syntax error. -/
theorem Template.parse_syntaxErrorsOnly_iff (triggers : Triggers)
    (source : Source) :
    SyntaxErrorsOnly source (parse triggers source) ↔
      ∀ front span back, source.lines = front ++ span :: back →
        (∀ earlier ∈ front, ∃ items,
          LineAnswer triggers source earlier (.ok items)) →
        triggers.canRead = true ∧ ¬Item.language.FailsOnNumber Line triggers
          (source.between span.start span.stop) := by
  constructor
  · intro only front span back split fine
    have member : span ∈ source.lines := by
      rw [split]
      exact List.mem_append_cons_self
    refine (parseLine_ofList_syntaxErrorsOnly_iff triggers _
      source.label).mp ?_
    intro part refused
    -- the error of this line becomes that of the template, so it has a place
    have answer := (lineAnswer_iff member).mpr refused
    have relocated := (relocated_iff member answer).mpr rfl
    have failed := parse_eq_error_iff.mpr
      ⟨front, span, back, part, split, fine, answer, relocated⟩
    obtain ⟨diagnostic, atPlace, _⟩ := only _ failed
    cases part with
    | atPlace place => exact ⟨place, rfl, located_of_parseLine refused⟩
    | number error => cases atPlace
    | nullTrigger => cases atPlace
  · intro each error failed
    obtain ⟨front, span, back, part, split, fine, answer, relocated⟩ :=
      parse_eq_error_iff.mp failed
    have member : span ∈ source.lines := by
      rw [split]
      exact List.mem_append_cons_self
    have only := (parseLine_ofList_syntaxErrorsOnly_iff triggers _
      source.label).mpr (each front span back split fine)
    obtain ⟨place, rfl, located⟩ :=
      only part ((lineAnswer_iff member).mp answer)
    cases relocated with
    | @atPlace _ whole moved =>
        refine ⟨whole, rfl, moved.source_eq, ?_, ?_⟩
        · rw [← moved.source_eq]
          exact moved.shown.inside
        · rw [moved.code]
          exact located.code

/-! ### Texts of plain digits -/

theorem trimEnd_isPrefix (text : String) :
    (trimEnd text).toList <+: text.toList := by
  obtain ⟨trail, split, _⟩ := exists_trimmed text
  exact ⟨trail, split.symm⟩

theorem Source.between_infix (source : Source) (start stop : Nat) :
    source.between start stop <:+: source.chars :=
  (List.take_prefix _ _).isInfix.trans (List.drop_suffix _ _).isInfix

/-- In a text of plain digits only the triggers can be at fault. -/
theorem syntaxErrorsOnly_of_plainDigits {text : String}
    (plain : PlainDigits text.toList) (triggers : Triggers)
    (label : Option String) :
    SyntaxErrorsOnly ⟨trimEnd text, label⟩ (parseExpr text label) ∧
      (triggers.canRead = true →
        SyntaxErrorsOnly ⟨text, label⟩ (parseLine triggers text label) ∧
        SyntaxErrorsOnly ⟨text, label⟩
          (Template.parse triggers ⟨text, label⟩)) := by
  constructor
  · apply (parseExpr_syntaxErrorsOnly_iff text label).mpr
    exact Language.not_failsOnNumber_of_plainDigits
      (plain.within (trimEnd_isPrefix text).isInfix)
  · intro readable
    constructor
    · apply (parseLine_syntaxErrorsOnly_iff triggers text label).mpr
      exact ⟨readable, Language.not_failsOnNumber_of_plainDigits plain⟩
    · apply (Template.parse_syntaxErrorsOnly_iff triggers _).mpr
      intro front span back _ _
      exact ⟨readable, Language.not_failsOnNumber_of_plainDigits
        (plain.within (Source.between_infix _ _ _))⟩

/-- A text is refused with a syntax error at a place in it, with two exceptions:
no line can be read when the null character is a trigger, and a number may have
no value.  Numbers of plain digits have one, and whatever else is made of what
the rules have read can always be made of it. -/
theorem syntax_errors_only_iff (triggers : Triggers) (text : String)
    (label : Option String) :
    (SyntaxErrorsOnly ⟨text, label⟩ (parseLine triggers text label) ↔
      triggers.canRead = true ∧
        ¬Item.language.FailsOnNumber Line triggers text.toList) ∧
    SyntaxErrorsOnly ⟨text, label⟩ (parsePattern text label) ∧
    (SyntaxErrorsOnly ⟨trimEnd text, label⟩ (parseExpr text label) ↔
      ¬Expr.language.FailsOnNumber Expression Triggers.standard
        (trimEnd text).toList) ∧
    (SyntaxErrorsOnly ⟨text, label⟩ (Template.parse triggers ⟨text, label⟩) ↔
      ∀ front span back, Source.lines ⟨text, label⟩ = front ++ span :: back →
        (∀ earlier ∈ front, ∃ items,
          LineAnswer triggers ⟨text, label⟩ earlier (.ok items)) →
        triggers.canRead = true ∧ ¬Item.language.FailsOnNumber Line triggers
          (Source.between ⟨text, label⟩ span.start span.stop)) ∧
    (PlainDigits text.toList →
      SyntaxErrorsOnly ⟨trimEnd text, label⟩ (parseExpr text label) ∧
        (triggers.canRead = true →
          SyntaxErrorsOnly ⟨text, label⟩ (parseLine triggers text label) ∧
          SyntaxErrorsOnly ⟨text, label⟩
            (Template.parse triggers ⟨text, label⟩))) ∧
    (∀ token : Token, token.Read triggers → token.Converts) ∧
    (∀ tokens names, Pieces tokens names →
      (∀ token ∈ tokens, token.Read triggers) →
      QualifiedName.ofPieces names =
        .ok (Pattern.constructorName names.reverse)) := by
  refine ⟨parseLine_syntaxErrorsOnly_iff triggers text label,
    parsePattern_syntaxErrorsOnly text label,
    parseExpr_syntaxErrorsOnly_iff text label,
    Template.parse_syntaxErrorsOnly_iff triggers ⟨text, label⟩, ?_, ?_, ?_⟩
  · intro plain
    exact syntaxErrorsOnly_of_plainDigits plain triggers label
  · intro token read
    exact Token.converts_of_read read
  · intro tokens names pieces read
    exact Pattern.ofPieces_of_pieces pieces read

end TemplateSyntax
