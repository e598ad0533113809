import TemplateSyntax.Span
import TemplateSyntax.Terminal
import TemplateSyntax.Terminal.Number

/-!
# Why a text cannot be read

A text fails where no reading can go on, or because it is nested too deeply, or
because a number in it has no value.  The first kind names the furthest place
any reading reached and every terminal that could have followed there.
-/

namespace TemplateSyntax

/-- Why a text cannot be read. -/
inductive Failure where
  /-- No reading goes on beyond `position`, where `found` stands; the text ends
  there if it is `none`. -/
  | unexpected (position : Nat) (found : Option Char)
      (expected : List Terminal)
  | nestedTooDeeply
  | number (error : NumberError)
  deriving DecidableEq, Repr

namespace Failure

def message : Failure → String
  | .unexpected _ none _ => "unexpected end of input"
  | .unexpected _ (some c) _ =>
      "unexpected character " ++ Text.quoted c.toString
  | .nestedTooDeeply => "input nested too deeply"
  | .number error => error.message

def span : Failure → Span
  | .unexpected position none _ => Span.point position
  | .unexpected position (some _) _ => Span.single position
  | .nestedTooDeeply | .number _ => Span.point 0

/-- What could have followed. -/
def hint : Failure → Option String
  | .unexpected _ _ expected => Terminal.hint expected
  | .nestedTooDeeply | .number _ => none

def notes : Failure → List String
  | .nestedTooDeeply =>
      ["nesting depth is bounded by the Python recursion limit (currently 1000)"]
  | .unexpected _ _ _ | .number _ => []

end Failure

end TemplateSyntax
