import TemplateSyntax.Proofs.Item.Fault
import TemplateSyntax.Proofs.Reading.Height

/-!
# How deep lines go

An expression or a pattern inside a line lies as deep as it does alone, and as
much deeper as the line puts around it.  So whether an item has a fault can be
told from its expression and its pattern (`fault?_value_iff` and the lemmas
behind it).
-/

namespace TemplateSyntax

namespace Item

open Grammar
open TemplateSyntax.Expr.Grammar (Expression)
open TemplateSyntax.Pattern.Grammar (Whole)

/-! ### Inner readers -/

/-- Along the tokens of an inner reader, and the closer behind them, the places
of a line lie as deep as those of the inner reader, and a little deeper. -/
theorem peak_within {σ α : Type} {inner : Language σ α} {items : List Item}
    (place : σ → Place) {shift : Nat} {closer : Terminal}
    {next : List Char → State} {lexeme : List Char} {back : List Token}
    (distinct : inner.Distinct)
    (offers : ∀ state, language.Offers ⟨items, place state⟩
      (State.within items place (inner.moves state)))
    (deeper : ∀ state tokens,
      language.depth ⟨items, place state⟩
          (tokens ++ ⟨closer, lexeme⟩ :: back) =
        shift + inner.depth state tokens)
    {state final : σ} {tokens : List Token}
    (path : inner.Path state tokens final)
    (closes : (closer, next) ∈ language.moves ⟨items, place final⟩) :
    language.peak ⟨items, place state⟩ (tokens ++ ⟨closer, lexeme⟩ :: back) =
      max (shift + inner.peak state tokens)
        (language.peak (next lexeme) back) := by
  induction path with
  | nil state =>
      have here := deeper state []
      rw [List.nil_append] at here ⊢
      rw [language_distinct.peak_cons closes, here, Language.peak]
  | @cons terminal move state final tokens lexeme' member later ih =>
      have moved := offers _ _ (mem_within member items place)
      have here := deeper state (⟨terminal, lexeme'⟩ :: tokens)
      rw [List.cons_append] at here ⊢
      rw [language_distinct.peak_cons moved, here, ih closes,
        distinct.peak_cons member]
      omega

/-- A closer shuts off what stands behind it. -/
theorem sidesAhead_closer {closer : Terminal}
    (closes : closer = .valueClose ∨ closer = .controlClose)
    (lexeme : List Char) (tokens back : List Token) (inner : Nat)
    (settled : Bool) :
    Expr.State.sidesAhead inner settled (tokens ++ ⟨closer, lexeme⟩ :: back) =
      Expr.State.sidesAhead inner settled tokens := by
  induction tokens generalizing inner settled with
  | nil =>
      rw [List.nil_append]
      rcases closes with rfl | rfl <;> simp [Expr.State.sidesAhead]
  | cons token tokens ih =>
      rw [List.cons_append]
      simp only [Expr.State.sidesAhead, ih]

theorem endsClause_closer {closer : Terminal}
    (closes : closer = .valueClose ∨ closer = .controlClose)
    (lexeme : List Char) (tokens back : List Token) :
    Expr.State.endsClause (tokens ++ ⟨closer, lexeme⟩ :: back) =
      Expr.State.endsClause tokens := by
  cases tokens with
  | nil => rcases closes with rfl | rfl <;> rfl
  | cons => rfl

theorem closer_cases (use : ExprUse) :
    use.closer = .valueClose ∨ use.closer = .controlClose := by
  cases use <;> simp [ExprUse.closer]

theorem peak_expr {tokens : List Token} {value : Expr} {height : Nat}
    (measures : Expr.language.Measures tokens value height) (use : ExprUse)
    (items : List Item) (lexeme : List Char) (back : List Token) :
    language.peak ⟨items, .expr use .start⟩
        (tokens ++ ⟨use.closer, lexeme⟩ :: back) =
      max (State.exprDepth use + height)
        (language.peak ⟨use.item value :: items, .text⟩ back) := by
  obtain ⟨final, path, finished, rfl⟩ := measures
  have close : (use.closer, fun _ => State.finish items (use.item value)) ∈
      language.moves ⟨items, .expr use final⟩ := by
    have valueEq : final.value? = some value := finished
    simp [language, State.moves, valueEq, State.exprEnds]
  refine peak_within (.expr use) Expr.language_distinct
    (fun _ => (Language.Offers.refl _).left) ?_ path close
  intro state tokens
  have ahead := sidesAhead_closer (closer_cases use) lexeme tokens back 0 false
  have ends := endsClause_closer (closer_cases use) lexeme tokens back
  simp only [language, State.depth, Expr.language, Expr.State.depth, ahead, ends]

theorem peak_forall {tokens : List Token} {pattern : Pattern} {height : Nat}
    (measures : Pattern.language.Measures tokens pattern height)
    (items : List Item) (arrow : List Char) (back : List Token) :
    language.peak ⟨items, .pattern .forallStart .start⟩
        (tokens ++ ⟨.arrow, arrow⟩ :: back) =
      max (2 + height)
        (language.peak ⟨items, .expr (.forallStart pattern) .start⟩ back) := by
  obtain ⟨final, path, finished, rfl⟩ := measures
  have sign : (Terminal.arrow, fun _ =>
      State.mk items (.expr (.forallStart pattern) .start)) ∈
      language.moves ⟨items, .pattern .forallStart final⟩ := by
    have valueEq : final.value? = some pattern := finished
    simp [language, State.moves, valueEq, State.patternEnds]
  refine peak_within (.pattern .forallStart) Pattern.language_distinct
    (fun _ => (Language.Offers.refl _).left) ?_ path sign
  intro state tokens
  simp only [language, State.depth, Pattern.language]
  omega

theorem peak_caseOf {tokens : List Token} {pattern : Pattern} {height : Nat}
    (measures : Pattern.language.Measures tokens pattern height)
    (items : List Item) (lexeme : List Char) (back : List Token) :
    language.peak ⟨items, .pattern .caseOf .start⟩
        (tokens ++ ⟨.controlClose, lexeme⟩ :: back) =
      max (2 + height)
        (language.peak ⟨.caseOf pattern :: items, .text⟩ back) := by
  obtain ⟨final, path, finished, rfl⟩ := measures
  have close : (Terminal.controlClose, fun _ =>
      State.finish items (.caseOf pattern)) ∈
      language.moves ⟨items, .pattern .caseOf final⟩ := by
    have valueEq : final.value? = some pattern := finished
    simp [language, State.moves, valueEq, State.patternEnds]
  refine peak_within (.pattern .caseOf) Pattern.language_distinct
    (fun _ => (Language.Offers.refl _).left) ?_ path close
  intro state tokens
  simp only [language, State.depth, Pattern.language]
  omega

/-! ### Items -/

/-- All numbers among the tokens have a value. -/
def Valued (tokens : List Token) : Prop :=
  ∀ token ∈ tokens, token.error? = none

theorem valued_append {front back : List Token} :
    Valued (front ++ back) ↔ Valued front ∧ Valued back :=
  List.forall_mem_append

theorem valued_cons_iff {token : Token} {tokens : List Token}
    (other : token.terminal ≠ .number) :
    Valued (token :: tokens) ↔ Valued tokens := by
  rw [Valued, List.forall_mem_cons, Token.error?, if_neg other,
    and_iff_right rfl]
  rfl

theorem valued_singleton {token : Token} (other : token.terminal ≠ .number) :
    Valued [token] :=
  (valued_cons_iff other).mpr fun _ member => nomatch member

theorem valued_of_pattern {tokens : List Token} {pattern : Pattern}
    {height : Nat} (measures : Pattern.language.Measures tokens pattern height) :
    Valued tokens := by
  obtain ⟨_, path, _⟩ := measures
  exact Pattern.error?_of_path path

theorem fault?_eq_none_iff {tokens : List Token} {item : Item}
    (one : One tokens item) :
    language.fault? language.start tokens = none ↔
      language.peak language.start tokens ≤ nestingLimit ∧ Valued tokens :=
  language_distinct.fault?_eq_none_iff (path_of_one one [])

theorem peak_text (items : List Item) : language.peak ⟨items, .text⟩ [] = 1 :=
  rfl

/-- Between items and behind the opening of a directive nothing lies deep. -/
theorem peak_directive (keyword : Keyword) (opening word : List Char)
    (tokens : List Token) :
    language.peak language.start
        (⟨.controlOpen, opening⟩ :: ⟨.keyword keyword, word⟩ :: tokens) =
      max 1 (language.peak ⟨[], State.keywordPlace keyword⟩ tokens) := by
  have opens : (Terminal.controlOpen, fun _ => State.mk [] .directive) ∈
      language.moves language.start := by
    simp [language, State.moves, State.start, State.textMoves]
  have names : (Terminal.keyword keyword, fun _ =>
      State.mk [] (State.keywordPlace keyword)) ∈
      language.moves ⟨[], .directive⟩ := mem_keywordMoves [] keyword
  have outer : language.depth language.start
      (⟨.controlOpen, opening⟩ :: ⟨.keyword keyword, word⟩ :: tokens) = 1 := rfl
  have inside : language.depth ⟨[], .directive⟩
      (⟨.keyword keyword, word⟩ :: tokens) = 1 := rfl
  rw [language_distinct.peak_cons opens, language_distinct.peak_cons names,
    outer, inside, ← Nat.max_assoc, Nat.max_self]

section Expr

variable {tokens : List Token} {value : Expr} {height : Nat}
  (measures : Expr.language.Measures tokens value height)
include measures

theorem peak_expr_closed (use : ExprUse) (lexeme : List Char) :
    language.peak ⟨[], .expr use .start⟩ (tokens ++ [⟨use.closer, lexeme⟩]) =
      State.exprDepth use + height := by
  have around : 2 ≤ State.exprDepth use := by
    cases use <;> simp [State.exprDepth]
  rw [peak_expr measures, peak_text]
  omega

theorem fault?_value_iff (opening closing : List Char) :
    language.fault? language.start
        (⟨.valueOpen, opening⟩ :: tokens ++ [⟨.valueClose, closing⟩]) = none ↔
      2 + height ≤ nestingLimit ∧ Valued tokens := by
  have opens : (Terminal.valueOpen, fun _ =>
      State.mk [] (.expr .value .start)) ∈ language.moves language.start := by
    simp [language, State.moves, State.start, State.textMoves]
  have outer : language.depth language.start
      (⟨.valueOpen, opening⟩ :: (tokens ++ [⟨.valueClose, closing⟩])) = 1 := rfl
  have inside : language.peak ⟨[], .expr .value .start⟩
      (tokens ++ [⟨.valueClose, closing⟩]) = 2 + height :=
    peak_expr_closed measures .value closing
  have limit : 1 ≤ nestingLimit := by decide
  have one := One.value opening closing
    (Expr.language_recognises.of_measures measures)
  rw [fault?_eq_none_iff one, List.cons_append,
    language_distinct.peak_cons opens, outer, inside,
    valued_cons_iff (by simp), valued_append,
    and_iff_left (valued_singleton (by simp))]
  exact and_congr_left' (by omega)

theorem fault?_exprDirective_iff {keyword : Keyword} {item : Item}
    (known : ExprDirective keyword value item)
    (opening word closing : List Char) :
    language.fault? language.start
        (⟨.controlOpen, opening⟩ :: ⟨.keyword keyword, word⟩ :: tokens ++
          [⟨.controlClose, closing⟩]) = none ↔
      3 + height ≤ nestingLimit ∧ Valued tokens := by
  have inside : language.peak ⟨[], State.keywordPlace keyword⟩
      (tokens ++ [⟨.controlClose, closing⟩]) = 3 + height := by
    cases known with
    | ifStart => exact peak_expr_closed measures .ifStart closing
    | elseIf => exact peak_expr_closed measures .elseIf closing
    | caseStart => exact peak_expr_closed measures .caseStart closing
  have limit : 1 ≤ nestingLimit := by decide
  have one := One.directive opening closing
    (.expr word (Expr.language_recognises.of_measures measures) known)
  rw [fault?_eq_none_iff one, List.cons_append, List.cons_append,
    peak_directive, inside,
    valued_cons_iff (by simp), valued_cons_iff (by simp), valued_append,
    and_iff_left (valued_singleton (by simp))]
  exact and_congr_left' (by omega)

theorem fault?_forallStart_iff {left : List Token} {pattern : Pattern}
    {height' : Nat}
    (patternMeasures : Pattern.language.Measures left pattern height')
    (opening word arrow closing : List Char) :
    language.fault? language.start
        (⟨.controlOpen, opening⟩ ::
          (⟨.keyword .forallStart, word⟩ :: left ++ ⟨.arrow, arrow⟩ ::
            tokens) ++ [⟨.controlClose, closing⟩]) = none ↔
      2 + height' ≤ nestingLimit ∧ 3 + height ≤ nestingLimit ∧
        Valued tokens := by
  have front := peak_forall patternMeasures [] arrow
    (tokens ++ [⟨.controlClose, closing⟩])
  have back : language.peak ⟨[], .expr (.forallStart pattern) .start⟩
      (tokens ++ [⟨.controlClose, closing⟩]) = 3 + height :=
    peak_expr_closed measures (.forallStart pattern) closing
  have place : State.keywordPlace .forallStart =
      .pattern .forallStart .start := rfl
  have limit : 1 ≤ nestingLimit := by decide
  have one := One.directive opening closing (.forallStart word arrow
    (Pattern.language_recognises.of_measures patternMeasures)
    (Expr.language_recognises.of_measures measures))
  rw [fault?_eq_none_iff one, List.cons_append, List.cons_append,
    List.cons_append, List.append_assoc, List.cons_append, peak_directive,
    place, front, back,
    valued_cons_iff (by simp), valued_cons_iff (by simp), valued_append,
    valued_cons_iff (by simp), valued_append,
    and_iff_left (valued_singleton (by simp)),
    and_iff_right (valued_of_pattern patternMeasures), ← and_assoc]
  exact and_congr_left' (by omega)

end Expr

theorem fault?_caseOf_iff {tokens : List Token} {pattern : Pattern}
    {height : Nat} (measures : Pattern.language.Measures tokens pattern height)
    (opening word closing : List Char) :
    language.fault? language.start
        (⟨.controlOpen, opening⟩ :: ⟨.keyword .caseOf, word⟩ :: tokens ++
          [⟨.controlClose, closing⟩]) = none ↔
      2 + height ≤ nestingLimit := by
  have inside := peak_caseOf measures [] closing []
  have place : State.keywordPlace .caseOf = .pattern .caseOf .start := rfl
  have limit : 1 ≤ nestingLimit := by decide
  rw [peak_text] at inside
  have one := One.directive opening closing
    (.caseOf word (Pattern.language_recognises.of_measures measures))
  rw [fault?_eq_none_iff one, List.cons_append, List.cons_append,
    peak_directive, place, inside,
    valued_cons_iff (by simp), valued_cons_iff (by simp), valued_append,
    and_iff_left (valued_singleton (by simp)),
    and_iff_left (valued_of_pattern measures)]
  omega

theorem fault?_bare {keyword : Keyword} {item : Item}
    (known : BareDirective keyword item) (opening word closing : List Char) :
    language.fault? language.start
        [⟨.controlOpen, opening⟩, ⟨.keyword keyword, word⟩,
          ⟨.controlClose, closing⟩] = none := by
  have inside : language.peak ⟨[], State.keywordPlace keyword⟩
      [⟨.controlClose, closing⟩] = 1 := by
    cases known <;> rfl
  have one : One [⟨.controlOpen, opening⟩, ⟨.keyword keyword, word⟩,
      ⟨.controlClose, closing⟩] item := .directive _ _ (.bare word known)
  rw [fault?_eq_none_iff one, peak_directive, inside,
    valued_cons_iff (by simp), valued_cons_iff (by simp)]
  exact ⟨by decide, valued_singleton (by simp)⟩

end Item

end TemplateSyntax
