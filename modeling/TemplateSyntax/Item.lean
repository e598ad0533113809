import TemplateSyntax.Expr.Equality
import TemplateSyntax.Pattern.Equality

/-!
# Items of a template line

A line is a sequence of items: literal text, interpolated values and
directives.  Neighbouring literals are one literal (`merge`); the merged form
is the only one reading produces.
-/

namespace TemplateSyntax

/-- A piece of a template line. -/
inductive Item where
  | literal (text : String)
  | value (expr : Expr)
  | forallStart (expr : Expr) (pattern : Pattern)
  | forallEnd
  | ifStart (expr : Expr)
  | elseIf (expr : Expr)
  | otherwise
  | ifEnd
  | caseStart (expr : Expr)
  | caseOf (pattern : Pattern)
  | caseEnd
  deriving DecidableEq

namespace Item

/-- Put an item in front of merged items. -/
def prepend : Item → List Item → List Item
  | .literal left, .literal right :: rest => .literal (left ++ right) :: rest
  | item, items => item :: items

/-- Join neighbouring literals into one. -/
def merge : List Item → List Item
  | [] => []
  | item :: items => prepend item (merge items)

end Item

end TemplateSyntax
