import TemplateSyntax.Expr

/-!
# Equality of expressions

Two expressions can be compared; `same_iff` says that the comparison decides
equality.
-/

namespace TemplateSyntax.Expr

mutual

def same : Expr → Expr → Bool
  | .name left, .name right => left == right
  | .qualified modules left, .qualified others right =>
      modules == others && left == right
  | .integer left, .integer right => left == right
  | .rational left, .rational right => left == right
  | .string left, .string right => left == right
  | .apply function left, .apply other right =>
      same function other && same left right
  | .list left, .list right => sameItems left right
  | .tuple left, .tuple right => sameItems left right
  | .field record left, .field other right =>
      same record other && left == right
  | _, _ => false

def sameItems : List Expr → List Expr → Bool
  | [], [] => true
  | left :: lefts, right :: rights => same left right && sameItems lefts rights
  | _, _ => false

end

mutual

theorem same_iff (left right : Expr) : same left right = true ↔ left = right := by
  cases left with
  | name _ => cases right <;> simp [same]
  | qualified _ _ => cases right <;> simp [same]
  | integer _ => cases right <;> simp [same]
  | rational _ => cases right <;> simp [same]
  | string _ => cases right <;> simp [same]
  | apply function argument =>
      cases right <;> simp [same, same_iff function, same_iff argument]
  | list items => cases right <;> simp [same, sameItems_iff items]
  | tuple items => cases right <;> simp [same, sameItems_iff items]
  | field record _ => cases right <;> simp [same, same_iff record]

theorem sameItems_iff (lefts rights : List Expr) :
    sameItems lefts rights = true ↔ lefts = rights := by
  cases lefts with
  | nil => cases rights <;> simp [sameItems]
  | cons left lefts =>
      cases rights <;> simp [sameItems, same_iff left, sameItems_iff lefts]

end

instance : DecidableEq Expr := fun left right =>
  decidable_of_iff (same left right = true) (same_iff left right)

end TemplateSyntax.Expr
