import TemplateSyntax.Pattern

/-!
# Equality of patterns

Two patterns can be compared; `same_iff` says that the comparison decides
equality.
-/

namespace TemplateSyntax.Pattern

mutual

def same : Pattern → Pattern → Bool
  | .var left, .var right => left == right
  | .named name left, .named other right => name == other && same left right
  | .construct head left, .construct other right =>
      head == other && sameItems left right
  | .record head left wildcard, .record other right otherWildcard =>
      head == other && sameFields left right && wildcard == otherWildcard
  | .tuple left, .tuple right => sameItems left right
  | .list left, .list right => sameItems left right
  | _, _ => false

def sameItems : List Pattern → List Pattern → Bool
  | [], [] => true
  | left :: lefts, right :: rights => same left right && sameItems lefts rights
  | _, _ => false

def sameFields : List (String × Pattern) → List (String × Pattern) → Bool
  | [], [] => true
  | (name, left) :: lefts, (other, right) :: rights =>
      name == other && same left right && sameFields lefts rights
  | _, _ => false

end

mutual

theorem same_iff (left right : Pattern) :
    same left right = true ↔ left = right := by
  cases left with
  | var _ => cases right <;> simp [same]
  | named _ pattern => cases right <;> simp [same, same_iff pattern]
  | construct _ arguments =>
      cases right <;> simp [same, sameItems_iff arguments]
  | record _ fields _ =>
      cases right <;> simp [same, sameFields_iff fields, and_assoc]
  | tuple items => cases right <;> simp [same, sameItems_iff items]
  | list items => cases right <;> simp [same, sameItems_iff items]

theorem sameItems_iff (lefts rights : List Pattern) :
    sameItems lefts rights = true ↔ lefts = rights := by
  cases lefts with
  | nil => cases rights <;> simp [sameItems]
  | cons left lefts =>
      cases rights <;> simp [sameItems, same_iff left, sameItems_iff lefts]

theorem sameFields_iff (lefts rights : List (String × Pattern)) :
    sameFields lefts rights = true ↔ lefts = rights := by
  cases lefts with
  | nil => cases rights <;> simp [sameFields]
  | cons left lefts =>
      obtain ⟨name, pattern⟩ := left
      cases rights with
      | nil => simp [sameFields]
      | cons right rights =>
          obtain ⟨other, otherPattern⟩ := right
          simp [sameFields, same_iff pattern, sameFields_iff lefts]

end

instance : DecidableEq Pattern := fun left right =>
  decidable_of_iff (same left right = true) (same_iff left right)

end TemplateSyntax.Pattern
