import TemplateSyntax.Proofs.Item.Lookahead
import TemplateSyntax.Proofs.Reading.Nearsighted

/-!
# How far the readers look ahead

What the readers of expressions, patterns and lines look at, they look at up to a
digit at most: a digit is not blank, is no operator and belongs to no bracket.
So all three are nearsighted (`Item.language_nearsighted`).
-/

namespace TemplateSyntax

/-- What stands behind a digit does not matter. -/
def BlindBehindDigit {β : Type} (look : List Char → β) : Prop :=
  ∀ (front back more : List Char) ⦃digit : Char⦄,
    Unicode.isDecimal digit = true →
    look (front ++ digit :: back) = look (front ++ digit :: more)

namespace BlindBehindDigit

open Scan

theorem head? : BlindBehindDigit (List.head? : List Char → Option Char) := by
  intro front digit back more _
  cases front <;> rfl

theorem visible : BlindBehindDigit Scan.visible := by
  intro front back more digit decimal
  have shown : Unicode.isBlank digit = false := by
    rw [Bool.eq_false_iff]
    intro blank
    rw [Unicode.isDecimal_of_isBlank blank] at decimal
    cases decimal
  induction front with
  | nil => rw [List.nil_append, List.nil_append, visible_cons shown,
      visible_cons shown]
  | cons c front ih =>
      by_cases blank : Unicode.isBlank c = true
      · simpa [Scan.visible, blank] using ih
      · simp [Scan.visible, blank]

/-- A rule that reads no digit reads something whatever stands behind a digit. -/
theorem isSome {scan : Scan} (bounded : scan.BoundedByDigit)
    (faithful : scan.Faithful)
    (bare : ∀ text lexeme rest, scan text = some (lexeme, rest) →
      ∀ c ∈ lexeme, Unicode.isDecimal c = false) :
    BlindBehindDigit fun text => (scan text).isSome := by
  have kept {front : List Char} {digit : Char} (back more : List Char)
      (decimal : Unicode.isDecimal digit = true)
      (reads : (scan (front ++ digit :: back)).isSome = true) :
      (scan (front ++ digit :: more)).isSome = true := by
    obtain ⟨⟨lexeme, rest⟩, read⟩ := Option.isSome_iff_exists.mp reads
    rcases List.append_eq_append_iff.mp (faithful read) with
      ⟨inside, lexemeEq, restEq⟩ | ⟨ahead, rfl, rfl⟩
    · cases inside with
      | nil =>
          rw [List.append_nil] at lexemeEq
          subst lexemeEq
          rw [List.nil_append] at restEq
          subst restEq
          rw [← List.nil_append (digit :: back)] at read
          exact Option.isSome_of_eq_some (bounded more decimal read)
      | cons c inside =>
          rw [List.cons_append, List.cons.injEq] at restEq
          obtain ⟨rfl, _⟩ := restEq
          have other := bare _ _ _ read digit (by simp [lexemeEq])
          rw [decimal] at other
          cases other
    · have again := bounded more decimal read
      rw [← List.append_assoc] at again
      exact Option.isSome_of_eq_some again
  intro front back more digit decimal
  rw [Bool.eq_iff_iff]
  exact ⟨kept back more decimal, kept more back decimal⟩

theorem isDecimal_of_operatorRun {text lexeme rest : List Char}
    (read : operatorRun text = some (lexeme, rest)) :
    ∀ c ∈ lexeme, Unicode.isDecimal c = false := by
  obtain ⟨first, tail, _, operator, rfl, _⟩ := some1_eq_some_iff.mp read
  intro c member
  rcases List.mem_cons.mp member with rfl | later
  · exact isDecimal_of_isOperatorChar operator
  · exact isDecimal_of_isOperatorChar
      (List.all_eq_true.mp List.all_takeWhile c later)

theorem parenthesisedOperator :
    BlindBehindDigit fun text => (Scan.parenthesisedOperator text).isSome := by
  refine isSome (.of_rigid .parenthesisedOperator .parenthesisedOperator)
    Faithful.parenthesisedOperator ?_
  intro text lexeme rest read
  obtain ⟨_, _, _, opening, inner, rfl⟩ := andThen_eq_some_iff.mp read
  obtain ⟨_, _, _, run, closing, rfl⟩ := andThen_eq_some_iff.mp inner
  obtain ⟨rfl, _⟩ := char_eq_some_iff.mp opening
  obtain ⟨rfl, _⟩ := char_eq_some_iff.mp closing
  have operators := isDecimal_of_operatorRun run
  have parens : Unicode.isDecimal '(' = false ∧
      Unicode.isDecimal ')' = false := by decide
  intro c member
  simp only [List.mem_append, List.mem_singleton] at member
  rcases member with rfl | inside | rfl
  · exact parens.1
  · exact operators c inside
  · exact parens.2

theorem operatorAhead : BlindBehindDigit Expr.operatorAhead := by
  have bounded :=
    Terminal.boundedByDigit_scan .operator Triggers.standard
  refine isSome (bounded.before fun _ _ => rfl)
    (Faithful.before _ (Faithful.only _ (Faithful.some1 _))) ?_
  intro text lexeme rest read
  obtain ⟨answer, _⟩ := before_eq_some_iff.mp read
  exact isDecimal_of_operatorRun (only_eq_some_iff.mp answer).1

theorem behindSpaces {β : Type} {look : List Char → β}
    (blind : BlindBehindDigit look) :
    BlindBehindDigit fun text => look (text.dropWhile isSpace) := by
  intro front back more digit decimal
  have noSpace : ¬isSpace digit = true := by
    intro space
    rw [Unicode.isDecimal_of_isBlank (isBlank_of_isSpace digit space)]
      at decimal
    cases decimal
  have skipped (rest : List Char) :
      (front ++ digit :: rest).dropWhile isSpace =
        front.dropWhile isSpace ++ digit :: rest := by
    rw [List.dropWhile_append, List.dropWhile_cons_of_neg noSpace]
    split
    · rename_i empty
      rw [List.isEmpty_iff.mp empty, List.nil_append]
    · rfl
  simp only [skipped]
  exact blind _ back more decimal

theorem operandAhead : BlindBehindDigit Expr.operandAhead := by
  intro front back more digit decimal
  have named := parenthesisedOperator front back more decimal
  cases front with
  | nil =>
      simp only [List.nil_append] at named
      simp only [List.nil_append, Expr.operandAhead, named]
  | cons c front =>
      simp only [List.cons_append] at named
      simp only [List.cons_append, Expr.operandAhead, named]

theorem startAhead : BlindBehindDigit Expr.State.startAhead := by
  intro front back more digit decimal
  simp only [Expr.State.startAhead, head? front back more decimal,
    operandAhead front back more decimal]

theorem afterAhead : BlindBehindDigit Expr.State.afterAhead := by
  intro front back more digit decimal
  simp only [Expr.State.afterAhead, visible front back more decimal,
    head? front back more decimal, operandAhead front back more decimal,
    behindSpaces operatorAhead front back more decimal]

theorem exprAhead (state : Expr.State) : BlindBehindDigit state.ahead := by
  intro front back more digit decimal
  simp only [Expr.State.ahead, startAhead front back more decimal,
    visible front back more decimal, operandAhead front back more decimal,
    operatorAhead front back more decimal, afterAhead front back more decimal]

theorem patternAhead (state : Pattern.State) :
    BlindBehindDigit state.ahead := by
  have terminal (point : Terminal) :
      BlindBehindDigit (Pattern.terminalAhead point) := by
    intro front back more digit decimal
    have named := parenthesisedOperator front back more decimal
    cases front with
    | nil =>
        simp only [List.nil_append] at named
        simp only [List.nil_append, Pattern.terminalAhead, named]
    | cons c front =>
        simp only [List.cons_append] at named
        simp only [List.cons_append, Pattern.terminalAhead, named]
  cases state with
  | pattern => exact terminal _
  | record => exact terminal _

end BlindBehindDigit

theorem Expr.language_nearsighted (triggers : Triggers) :
    Expr.language.Nearsighted triggers Expr.State.ahead :=
  fun state _ _ front _ back more decimal _ _ called =>
    called.trans (BlindBehindDigit.exprAhead state front back more decimal)

theorem Pattern.language_nearsighted (triggers : Triggers) :
    Pattern.language.Nearsighted triggers Pattern.State.ahead :=
  fun state _ _ front _ back more decimal _ _ called =>
    called.trans (BlindBehindDigit.patternAhead state front back more decimal)

namespace Item

/-- Between items and behind the opening of a directive the terminal that is read
is the one that is called for, whatever follows. -/
theorem language_nearsighted (triggers : Triggers) :
    language.Nearsighted triggers (State.ahead triggers) := by
  rintro ⟨items, place⟩ terminal next front digit back more decimal move reads
    called
  obtain ⟨⟨lexeme, rest⟩, read⟩ := Option.isSome_iff_exists.mp reads
  have visible := BlindBehindDigit.visible front back more decimal
  cases place with
  | text => exact eq_textAhead move read
  | directive => exact eq_keywordAhead move read
  | expr use inner =>
      have inside := BlindBehindDigit.exprAhead inner front back more
        decimal
      simpa only [State.ahead, visible, inside] using called
  | pattern use inner =>
      have inside := BlindBehindDigit.patternAhead inner front back
        more decimal
      simpa only [State.ahead, visible, inside] using called
  | bare item => exact called

end Item

end TemplateSyntax
