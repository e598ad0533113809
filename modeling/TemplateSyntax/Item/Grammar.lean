import TemplateSyntax.Expr.Grammar
import TemplateSyntax.Item
import TemplateSyntax.Pattern.Grammar

/-!
# The grammar of template lines

Which sequences of tokens are template lines, and what they stand for.  A line
is any sequence of items; its value is their merged form.
-/

namespace TemplateSyntax.Item.Grammar

open TemplateSyntax.Expr.Grammar (Expression)
open TemplateSyntax.Pattern.Grammar (Whole)

/-- Directives that hold one expression. -/
inductive ExprDirective : Keyword → Expr → Item → Prop where
  | ifStart (expr : Expr) : ExprDirective .ifStart expr (.ifStart expr)
  | elseIf (expr : Expr) : ExprDirective .elseIf expr (.elseIf expr)
  | caseStart (expr : Expr) : ExprDirective .caseStart expr (.caseStart expr)

/-- Directives that hold nothing. -/
inductive BareDirective : Keyword → Item → Prop where
  | forallEnd : BareDirective .forallEnd .forallEnd
  | otherwise : BareDirective .otherwise .otherwise
  | ifEnd : BareDirective .ifEnd .ifEnd
  | caseEnd : BareDirective .caseEnd .caseEnd

/-- What stands inside a directive. -/
inductive Directive : List Token → Item → Prop where
  | expr (word : List Char) {keyword : Keyword} {tokens : List Token}
      {value : Expr} {item : Item} :
      Expression tokens value → ExprDirective keyword value item →
      Directive (⟨.keyword keyword, word⟩ :: tokens) item
  | bare (word : List Char) {keyword : Keyword} {item : Item} :
      BareDirective keyword item →
      Directive [⟨.keyword keyword, word⟩] item
  | forallStart (word arrow : List Char) {left right : List Token}
      {pattern : Pattern} {value : Expr} :
      Whole left pattern → Expression right value →
      Directive
        (⟨.keyword .forallStart, word⟩ :: left ++ ⟨.arrow, arrow⟩ :: right)
        (.forallStart value pattern)
  | caseOf (word : List Char) {tokens : List Token} {pattern : Pattern} :
      Whole tokens pattern →
      Directive (⟨.keyword .caseOf, word⟩ :: tokens) (.caseOf pattern)

inductive One : List Token → Item → Prop where
  | literal (lexeme : List Char) :
      One [⟨.literal, lexeme⟩] (.literal (String.ofList lexeme))
  | valueEscape (lexeme : List Char) :
      One [⟨.valueEscape, lexeme⟩] (.literal (String.ofList (lexeme.take 1)))
  | valueAtLineEnd (lexeme : List Char) :
      One [⟨.valueAtLineEnd, lexeme⟩] (.literal "")
  | valueBare (lexeme : List Char) :
      One [⟨.valueBare, lexeme⟩] (.literal (String.ofList (lexeme.take 1)))
  | controlEscape (lexeme : List Char) :
      One [⟨.controlEscape, lexeme⟩]
        (.literal (String.ofList (lexeme.take 1)))
  | controlBare (lexeme : List Char) :
      One [⟨.controlBare, lexeme⟩]
        (.literal (String.ofList (lexeme.take 1)))
  | value (opening closing : List Char) {tokens : List Token} {value : Expr} :
      Expression tokens value →
      One (⟨.valueOpen, opening⟩ :: tokens ++ [⟨.valueClose, closing⟩])
        (.value value)
  | directive (opening closing : List Char) {tokens : List Token}
      {item : Item} :
      Directive tokens item →
      One (⟨.controlOpen, opening⟩ :: tokens ++ [⟨.controlClose, closing⟩])
        item

/-- The items of a line, in order. -/
inductive Sequence : List Token → List Item → Prop where
  | nil : Sequence [] []
  | cons {first rest : List Token} {item : Item} {items : List Item} :
      One first item → Sequence rest items →
      Sequence (first ++ rest) (item :: items)

/-- A line and its merged items. -/
def Line (tokens : List Token) (items : List Item) : Prop :=
  ∃ parts, Sequence tokens parts ∧ items = merge parts

end TemplateSyntax.Item.Grammar
