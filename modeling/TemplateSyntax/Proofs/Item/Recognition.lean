import TemplateSyntax.Item.Grammar
import TemplateSyntax.Item.Reading
import TemplateSyntax.Proofs.Expr.Completeness
import TemplateSyntax.Proofs.Pattern.Completeness

/-!
# The reader of lines recognises their grammar

The reader of lines runs the readers of expressions and patterns inside its own
states, so that a path of theirs becomes a path of its own
(`path_within_expr`, `path_within_pattern`) and the other way round
(`Justified`).  `language_recognises` puts both directions together.
-/

namespace TemplateSyntax.Item

open Grammar
open TemplateSyntax.Expr.Grammar (Expression)
open TemplateSyntax.Pattern.Grammar (Whole)

abbrev Path : State → List Token → State → Prop :=
  Language.Path language

theorem mem_within {σ : Type} {moves : Moves σ} {terminal : Terminal}
    {next : List Char → σ} (member : (terminal, next) ∈ moves)
    (items : List Item) (place : σ → Place) :
    (terminal, fun lexeme => ⟨items, place (next lexeme)⟩) ∈
      State.within items place moves :=
  List.mem_map.mpr ⟨(terminal, next), member, rfl⟩

theorem exists_of_mem_within {σ : Type} {moves : Moves σ} {items : List Item}
    {place : σ → Place} {terminal : Terminal} {next : List Char → State}
    (member : (terminal, next) ∈ State.within items place moves) :
    ∃ inner, (terminal, inner) ∈ moves ∧
      next = fun lexeme => ⟨items, place (inner lexeme)⟩ := by
  obtain ⟨⟨_, inner⟩, innerMember, pairEq⟩ := List.mem_map.mp member
  cases pairEq
  exact ⟨inner, innerMember, rfl⟩

/-- What stands between the items so far and an expression. -/
inductive ExprLead : ExprUse → List Token → Prop where
  | value (opening : List Char) : ExprLead .value [⟨.valueOpen, opening⟩]
  | ifStart (opening word : List Char) :
      ExprLead .ifStart [⟨.controlOpen, opening⟩, ⟨.keyword .ifStart, word⟩]
  | elseIf (opening word : List Char) :
      ExprLead .elseIf [⟨.controlOpen, opening⟩, ⟨.keyword .elseIf, word⟩]
  | caseStart (opening word : List Char) :
      ExprLead .caseStart
        [⟨.controlOpen, opening⟩, ⟨.keyword .caseStart, word⟩]
  | forallStart (opening word arrow : List Char) {tokens : List Token}
      {pattern : Pattern} :
      Whole tokens pattern →
      ExprLead (.forallStart pattern)
        (⟨.controlOpen, opening⟩ :: ⟨.keyword .forallStart, word⟩ :: tokens ++
          [⟨.arrow, arrow⟩])

/-- What stands between the items so far and a pattern. -/
inductive PatternLead : PatternUse → List Token → Prop where
  | forallStart (opening word : List Char) :
      PatternLead .forallStart
        [⟨.controlOpen, opening⟩, ⟨.keyword .forallStart, word⟩]
  | caseOf (opening word : List Char) :
      PatternLead .caseOf [⟨.controlOpen, opening⟩, ⟨.keyword .caseOf, word⟩]

/-- The tokens that may have led to a state. -/
inductive Justified : List Token → State → Prop where
  | text {before : List Token} {items : List Item} :
      Sequence before items.reverse → Justified before ⟨items, .text⟩
  | directive (opening : List Char) {before : List Token}
      {items : List Item} :
      Sequence before items.reverse →
      Justified (before ++ [⟨.controlOpen, opening⟩]) ⟨items, .directive⟩
  | expr {before lead tokens : List Token} {items : List Item}
      {use : ExprUse} {state : Expr.State} :
      Sequence before items.reverse → ExprLead use lead →
      Expr.Path .start tokens state →
      Justified (before ++ lead ++ tokens) ⟨items, .expr use state⟩
  | pattern {before lead tokens : List Token} {items : List Item}
      {use : PatternUse} {state : Pattern.State} :
      Sequence before items.reverse → PatternLead use lead →
      Pattern.Path .start tokens state →
      Justified (before ++ lead ++ tokens) ⟨items, .pattern use state⟩
  | bare (opening word : List Char) {before : List Token}
      {items : List Item} {keyword : Keyword} {item : Item} :
      Sequence before items.reverse → BareDirective keyword item →
      Justified
        (before ++ [⟨.controlOpen, opening⟩, ⟨.keyword keyword, word⟩])
        ⟨items, .bare item⟩

theorem Grammar.Sequence.snoc {before tokens : List Token}
    {items : List Item} {item : Item} (sequence : Sequence before items)
    (last : One tokens item) :
    Sequence (before ++ tokens) (items ++ [item]) := by
  induction sequence with
  | nil => simpa using Sequence.cons last .nil
  | cons first _ ih => simpa using Sequence.cons first ih

theorem ExprLead.one {use : ExprUse} {lead tokens : List Token} {value : Expr}
    (front : ExprLead use lead) (expression : Expression tokens value)
    (closing : List Char) :
    One (lead ++ tokens ++ [⟨use.closer, closing⟩]) (use.item value) := by
  cases front with
  | value opening => exact .value opening closing expression
  | ifStart opening word =>
      exact .directive opening closing (.expr word expression (.ifStart value))
  | elseIf opening word =>
      exact .directive opening closing (.expr word expression (.elseIf value))
  | caseStart opening word =>
      exact .directive opening closing
        (.expr word expression (.caseStart value))
  | forallStart opening word arrow pattern =>
      simpa [ExprUse.closer, ExprUse.item] using
        One.directive opening closing
          (.forallStart word arrow pattern expression)

namespace Justified

variable {before : List Token} {items : List Item} {terminal : Terminal}
  {next : List Char → State}

theorem finish {tokens : List Token} {item : Item}
    (sequence : Sequence before items.reverse) (last : One tokens item) :
    Justified (before ++ tokens) (State.finish items item) := by
  have longer := sequence.snoc last
  rw [← List.reverse_cons] at longer
  exact .text longer

theorem of_text (sequence : Sequence before items.reverse)
    (member : (terminal, next) ∈ State.textMoves items) (lexeme : List Char) :
    Justified (before ++ [⟨terminal, lexeme⟩]) (next lexeme) := by
  simp only [State.textMoves, State.literalMove, List.mem_cons,
    Prod.mk.injEq, List.not_mem_nil, or_false] at member
  rcases member with
    ⟨rfl, rfl⟩ | ⟨rfl, rfl⟩ | ⟨rfl, rfl⟩ | ⟨rfl, rfl⟩ | ⟨rfl, rfl⟩ |
      ⟨rfl, rfl⟩ | ⟨rfl, rfl⟩ | ⟨rfl, rfl⟩
  · exact finish sequence (.literal lexeme)
  · simpa using Justified.expr sequence (.value lexeme) (.nil _)
  · exact finish sequence (.valueEscape lexeme)
  · exact finish sequence (.valueAtLineEnd lexeme)
  · exact finish sequence (.valueBare lexeme)
  · exact finish sequence (.controlEscape lexeme)
  · exact finish sequence (.controlBare lexeme)
  · exact .directive lexeme sequence

theorem of_keyword (opening : List Char)
    (sequence : Sequence before items.reverse)
    (member : (terminal, next) ∈ State.keywordMoves items)
    (lexeme : List Char) :
    Justified (before ++ [⟨.controlOpen, opening⟩] ++ [⟨terminal, lexeme⟩])
      (next lexeme) := by
  simp only [State.keywordMoves, List.map_cons, List.map_nil, List.mem_cons,
    Prod.mk.injEq, List.not_mem_nil, or_false] at member
  rcases member with
    ⟨rfl, rfl⟩ | ⟨rfl, rfl⟩ | ⟨rfl, rfl⟩ | ⟨rfl, rfl⟩ | ⟨rfl, rfl⟩ |
      ⟨rfl, rfl⟩ | ⟨rfl, rfl⟩ | ⟨rfl, rfl⟩ | ⟨rfl, rfl⟩
  · simpa [State.keywordPlace] using
      Justified.pattern sequence (.forallStart opening lexeme) (.nil _)
  · simpa [State.keywordPlace] using
      Justified.bare opening lexeme sequence .forallEnd
  · simpa [State.keywordPlace] using
      Justified.expr sequence (.ifStart opening lexeme) (.nil _)
  · simpa [State.keywordPlace] using
      Justified.expr sequence (.elseIf opening lexeme) (.nil _)
  · simpa [State.keywordPlace] using
      Justified.bare opening lexeme sequence .otherwise
  · simpa [State.keywordPlace] using
      Justified.bare opening lexeme sequence .ifEnd
  · simpa [State.keywordPlace] using
      Justified.expr sequence (.caseStart opening lexeme) (.nil _)
  · simpa [State.keywordPlace] using
      Justified.pattern sequence (.caseOf opening lexeme) (.nil _)
  · simpa [State.keywordPlace] using
      Justified.bare opening lexeme sequence .caseEnd

theorem of_exprEnd {lead tokens : List Token} {use : ExprUse}
    {state : Expr.State} (sequence : Sequence before items.reverse)
    (front : ExprLead use lead) (path : Expr.Path .start tokens state)
    (member : (terminal, next) ∈ State.exprEnds items use state.value?)
    (lexeme : List Char) :
    Justified (before ++ lead ++ tokens ++ [⟨terminal, lexeme⟩])
      (next lexeme) := by
  cases finished : state.value? with
  | none => simp [State.exprEnds, finished] at member
  | some value =>
      simp only [State.exprEnds, finished, List.mem_singleton,
        Prod.mk.injEq] at member
      obtain ⟨rfl, rfl⟩ := member
      have expression := Expr.expression_of_path path finished
      simpa using finish sequence (front.one expression lexeme)

theorem of_patternEnd {lead tokens : List Token} {use : PatternUse}
    {state : Pattern.State} (sequence : Sequence before items.reverse)
    (front : PatternLead use lead) (path : Pattern.Path .start tokens state)
    (member : (terminal, next) ∈ State.patternEnds items use state.value?)
    (lexeme : List Char) :
    Justified (before ++ lead ++ tokens ++ [⟨terminal, lexeme⟩])
      (next lexeme) := by
  cases finished : state.value? with
  | none => simp [State.patternEnds, finished] at member
  | some value =>
      have whole := Pattern.whole_of_path path finished
      cases front with
      | forallStart opening word =>
          simp only [State.patternEnds, finished, List.mem_singleton,
            Prod.mk.injEq] at member
          obtain ⟨rfl, rfl⟩ := member
          simpa using Justified.expr sequence
            (.forallStart opening word lexeme whole) (.nil _)
      | caseOf opening word =>
          simp only [State.patternEnds, finished, List.mem_singleton,
            Prod.mk.injEq] at member
          obtain ⟨rfl, rfl⟩ := member
          simpa using finish sequence
            (.directive opening lexeme (.caseOf word whole))

/-- Every move keeps the tokens and the state in step. -/
theorem step {read : List Token} {state : State}
    (justified : Justified read state)
    (member : (terminal, next) ∈ state.moves) (lexeme : List Char) :
    Justified (read ++ [⟨terminal, lexeme⟩]) (next lexeme) := by
  cases justified with
  | text sequence => exact of_text sequence member lexeme
  | directive opening sequence =>
      exact of_keyword opening sequence member lexeme
  | expr sequence front path =>
      rcases List.mem_append.mp member with inside | ending
      · obtain ⟨inner, innerMember, rfl⟩ := exists_of_mem_within inside
        rw [List.append_assoc]
        exact .expr sequence front (path.append (.single lexeme innerMember))
      · exact of_exprEnd sequence front path ending lexeme
  | pattern sequence front path =>
      rcases List.mem_append.mp member with inside | ending
      · obtain ⟨inner, innerMember, rfl⟩ := exists_of_mem_within inside
        rw [List.append_assoc]
        exact .pattern sequence front
          (path.append (.single lexeme innerMember))
      · exact of_patternEnd sequence front path ending lexeme
  | bare opening word sequence directive =>
      simp only [State.moves, List.mem_singleton, Prod.mk.injEq] at member
      obtain ⟨rfl, rfl⟩ := member
      simpa using finish sequence
        (.directive opening lexeme (.bare word directive))

end Justified

theorem justified_of_path {tokens : List Token} {final : State}
    (path : Path .start tokens final) : Justified tokens final :=
  path.preserves Justified
    (fun _ _ _ _ lexeme held member => Justified.step held member lexeme)
    [] (.text .nil)

/-- Where a path from the start may end, its tokens are a line. -/
theorem line_of_path {tokens : List Token} {final : State}
    {items : List Item} (path : language.Path language.start tokens final)
    (finished : language.value? final = some items) : Line tokens items := by
  cases justified_of_path path with
  | @text _ parts sequence =>
      cases finished
      exact ⟨parts.reverse, sequence, rfl⟩
  | directive => cases finished
  | expr => cases finished
  | pattern => cases finished
  | bare => cases finished

/-! ### Every line can be read -/

theorem path_within_expr {tokens : List Token} {first last : Expr.State}
    (path : Expr.Path first tokens last) (items : List Item)
    (use : ExprUse) :
    Path ⟨items, .expr use first⟩ tokens ⟨items, .expr use last⟩ := by
  induction path with
  | nil => exact .nil _
  | cons lexeme member _ ih =>
      have inside := mem_within member items (.expr use)
      exact .cons lexeme (List.mem_append_left _ inside) ih

theorem path_within_pattern {tokens : List Token} {first last : Pattern.State}
    (path : Pattern.Path first tokens last) (items : List Item)
    (use : PatternUse) :
    Path ⟨items, .pattern use first⟩ tokens ⟨items, .pattern use last⟩ := by
  induction path with
  | nil => exact .nil _
  | cons lexeme member _ ih =>
      have inside := mem_within member items (.pattern use)
      exact .cons lexeme (List.mem_append_left _ inside) ih

theorem path_of_expression {tokens : List Token} {value : Expr}
    (expression : Expression tokens value) (items : List Item)
    (use : ExprUse) (closing : List Char) :
    Path ⟨items, .expr use .start⟩ (tokens ++ [⟨use.closer, closing⟩])
      ⟨use.item value :: items, .text⟩ := by
  obtain ⟨final, path, finished⟩ :=
    (Expr.language_recognises tokens value).mp expression
  have close : (use.closer, fun _ => State.finish items (use.item value)) ∈
      language.moves ⟨items, .expr use final⟩ := by
    have valueEq : final.value? = some value := finished
    simp [language, State.moves, valueEq, State.exprEnds]
  exact (path_within_expr path items use).append
    (.cons closing close (.nil _))

theorem path_of_forall {tokens : List Token} {pattern : Pattern}
    (whole : Whole tokens pattern) (items : List Item) (arrow : List Char) :
    Path ⟨items, .pattern .forallStart .start⟩ (tokens ++ [⟨.arrow, arrow⟩])
      ⟨items, .expr (.forallStart pattern) .start⟩ := by
  obtain ⟨final, path, finished⟩ :=
    (Pattern.language_recognises tokens pattern).mp whole
  have sign : (Terminal.arrow, fun _ =>
      State.mk items (.expr (.forallStart pattern) .start)) ∈
      language.moves ⟨items, .pattern .forallStart final⟩ := by
    have valueEq : final.value? = some pattern := finished
    simp [language, State.moves, valueEq, State.patternEnds]
  exact (path_within_pattern path items .forallStart).append
    (.cons arrow sign (.nil _))

theorem path_of_caseOf {tokens : List Token} {pattern : Pattern}
    (whole : Whole tokens pattern) (items : List Item) (closing : List Char) :
    Path ⟨items, .pattern .caseOf .start⟩
      (tokens ++ [⟨.controlClose, closing⟩])
      ⟨.caseOf pattern :: items, .text⟩ := by
  obtain ⟨final, path, finished⟩ :=
    (Pattern.language_recognises tokens pattern).mp whole
  have close : (Terminal.controlClose, fun _ =>
      State.finish items (.caseOf pattern)) ∈
      language.moves ⟨items, .pattern .caseOf final⟩ := by
    have valueEq : final.value? = some pattern := finished
    simp [language, State.moves, valueEq, State.patternEnds]
  exact (path_within_pattern path items .caseOf).append
    (.cons closing close (.nil _))

theorem mem_keywordMoves (items : List Item) (keyword : Keyword) :
    (Terminal.keyword keyword, fun _ =>
      State.mk items (State.keywordPlace keyword)) ∈
      State.keywordMoves items := by
  cases keyword <;> simp [State.keywordMoves]

theorem path_of_directive {tokens : List Token} {item : Item}
    (directive : Directive tokens item) (items : List Item)
    (closing : List Char) :
    Path ⟨items, .directive⟩ (tokens ++ [⟨.controlClose, closing⟩])
      ⟨item :: items, .text⟩ := by
  cases directive with
  | expr word expression known =>
      refine .cons word (mem_keywordMoves items _) ?_
      cases known with
      | ifStart => exact path_of_expression expression items .ifStart closing
      | elseIf => exact path_of_expression expression items .elseIf closing
      | caseStart =>
          exact path_of_expression expression items .caseStart closing
  | bare word known =>
      refine .cons word (mem_keywordMoves items _) ?_
      cases known <;>
        exact .cons closing (List.mem_singleton_self _) (.nil _)
  | @forallStart word arrow _ _ pattern _ whole expression =>
      have front := path_of_forall whole items arrow
      have back :=
        path_of_expression expression items (.forallStart pattern) closing
      refine .cons word (mem_keywordMoves items _) ?_
      simpa [ExprUse.closer, ExprUse.item, State.keywordPlace] using
        front.append back
  | caseOf word whole =>
      exact .cons word (mem_keywordMoves items _)
        (path_of_caseOf whole items closing)

theorem path_of_literalMove {items : List Item} {terminal : Terminal}
    (text : List Char → List Char) (lexeme : List Char)
    (member : State.literalMove items terminal text ∈ State.textMoves items) :
    Path ⟨items, .text⟩ [⟨terminal, lexeme⟩]
      ⟨.literal (String.ofList (text lexeme)) :: items, .text⟩ :=
  .cons lexeme member (.nil _)

theorem path_of_one {tokens : List Token} {item : Item}
    (one : One tokens item) (items : List Item) :
    Path ⟨items, .text⟩ tokens ⟨item :: items, .text⟩ := by
  have opens : (Terminal.controlOpen, fun _ => State.mk items .directive) ∈
      State.textMoves items := by
    simp [State.textMoves]
  cases one with
  | literal lexeme =>
      exact path_of_literalMove id lexeme (by simp [State.textMoves])
  | valueEscape lexeme =>
      exact path_of_literalMove (·.take 1) lexeme (by simp [State.textMoves])
  | valueAtLineEnd lexeme =>
      exact path_of_literalMove (fun _ => []) lexeme
        (by simp [State.textMoves])
  | valueBare lexeme =>
      exact path_of_literalMove (·.take 1) lexeme (by simp [State.textMoves])
  | controlEscape lexeme =>
      exact path_of_literalMove (·.take 1) lexeme (by simp [State.textMoves])
  | controlBare lexeme =>
      exact path_of_literalMove (·.take 1) lexeme (by simp [State.textMoves])
  | value opening closing expression =>
      have inner := path_of_expression expression items .value closing
      exact .cons opening (List.mem_cons_of_mem _ List.mem_cons_self) inner
  | directive opening closing directive =>
      exact .cons opening opens (path_of_directive directive items closing)

theorem path_of_sequence {tokens : List Token} {parts : List Item}
    (sequence : Sequence tokens parts) (items : List Item) :
    Path ⟨items, .text⟩ tokens ⟨parts.reverse ++ items, .text⟩ := by
  induction sequence generalizing items with
  | nil => exact .nil _
  | @cons _ _ item _ first _ ih =>
      have front := path_of_one first items
      simpa using front.append (ih (item :: items))

theorem language_recognises : language.Recognises Line := by
  intro tokens value
  constructor
  · rintro ⟨parts, sequence, rfl⟩
    refine ⟨⟨parts.reverse, .text⟩, ?_, ?_⟩
    · have path := path_of_sequence sequence []
      rwa [List.append_nil] at path
    · simp [language, State.value?]
  · rintro ⟨final, path, finished⟩
    exact line_of_path path finished

end TemplateSyntax.Item
