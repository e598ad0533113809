import TemplateSyntax.Proofs.Correctness
import TemplateSyntax.Proofs.Item.Viable
import TemplateSyntax.Proofs.Reading.Pinpoint

/-!
# Refused lines, patterns and expressions

Each entry point refuses a text that its grammar does not derive at the
furthest place the grammar lets tokens reach, with the hint the grammar calls
for there; triggers with the null character refuse every line without a place.
-/

namespace TemplateSyntax

open Expr.Grammar (Expression)
open Item.Grammar (Line)
open Pattern.Grammar (Whole)

/-- The answer is a diagnostic that pinpoints where a source leaves the
grammar. -/
def RefusedAtPlace {α : Type} (grammar : List Token → α → Prop)
    (triggers : Triggers) (source : Source) (answer : Except ParseError α) :
    Prop :=
  ∃ diagnostic position, answer = .error (.atPlace diagnostic) ∧
    Pinpoints grammar triggers source diagnostic position

theorem parseLine_refused_iff (triggers : Triggers) (text : String)
    (label : Option String) :
    RefusedAtPlace Line triggers ⟨text, label⟩
        (parseLine triggers text label) ↔
      triggers.canRead = true ∧
        ¬∃ items, Derivable Line triggers text.toList items := by
  rw [parseLine]
  split
  · rename_i readable
    rw [and_iff_right readable]
    exact Item.language_recognises.pinpoints_iff (line_unambiguous triggers)
      Item.language_completable Item.language_shaped ⟨text, label⟩
  · rename_i unreadable
    refine iff_of_false ?_ (fun both => unreadable both.1)
    rintro ⟨_, _, answer, _⟩
    cases answer

theorem parsePattern_refused_iff (text : String) (label : Option String) :
    RefusedAtPlace Whole Triggers.standard ⟨text, label⟩
        (parsePattern text label) ↔
      ¬∃ pattern, Derivable Whole Triggers.standard text.toList pattern :=
  Pattern.language_recognises.pinpoints_iff
    (whole_unambiguous Triggers.standard) Pattern.language_completable
    Pattern.language_shaped ⟨text, label⟩

theorem parseExpr_refused_iff (text : String) (label : Option String) :
    RefusedAtPlace Expression Triggers.standard ⟨trimEnd text, label⟩
        (parseExpr text label) ↔
      ¬∃ expr, Derivable Expression Triggers.standard (trimEnd text).toList
        expr :=
  Expr.language_recognises.pinpoints_iff
    (expression_unambiguous Triggers.standard) Expr.language_completable
    Expr.language_shaped ⟨trimEnd text, label⟩

/-- The texts refused at the furthest place and with the hint their grammar
calls for are those it does not derive; for lines, the triggers must be such
that lines can be read with them. -/
theorem refused_at_furthest_place_iff (triggers : Triggers) (text : String)
    (label : Option String) :
    (RefusedAtPlace Line triggers ⟨text, label⟩
        (parseLine triggers text label) ↔
      triggers.canRead = true ∧
        ¬∃ items, Derivable Line triggers text.toList items) ∧
    (RefusedAtPlace Whole Triggers.standard ⟨text, label⟩
        (parsePattern text label) ↔
      ¬∃ pattern, Derivable Whole Triggers.standard text.toList pattern) ∧
    (RefusedAtPlace Expression Triggers.standard ⟨trimEnd text, label⟩
        (parseExpr text label) ↔
      ¬∃ expr, Derivable Expression Triggers.standard (trimEnd text).toList
        expr) :=
  ⟨parseLine_refused_iff triggers text label,
    parsePattern_refused_iff text label, parseExpr_refused_iff text label⟩

end TemplateSyntax
