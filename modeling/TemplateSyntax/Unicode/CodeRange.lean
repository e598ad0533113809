/-!
# Ranges of code points

A character property is a table of ranges in ascending order.  A range may
step over every other code point, because upper and lower case alternate in
many blocks.  `covers` is membership; it stops at the first range that ends at
or after the code point.
-/

namespace TemplateSyntax.Unicode

/-- The code points `first`, `first + stride`, … up to `last`. -/
structure CodeRange where
  first : Nat
  last : Nat
  stride : Nat
  deriving DecidableEq, Repr

namespace CodeRange

/-- The code point is one of the range's. -/
def has (range : CodeRange) (code : Nat) : Bool :=
  range.first ≤ code && code ≤ range.last &&
    (code - range.first) % range.stride == 0

/-- The code point lies in one of the ranges of an ascending table. -/
def covers : List CodeRange → Nat → Bool
  | [], _ => false
  | range :: table, code =>
      if code ≤ range.last then range.has code else covers table code

theorem exists_of_covers {table : List CodeRange} {code : Nat}
    (covered : covers table code = true) :
    ∃ range, range ∈ table ∧ range.has code = true := by
  induction table with
  | nil => simp [covers] at covered
  | cons range table ih =>
      simp only [covers] at covered
      split at covered
      · exact ⟨range, List.mem_cons_self, covered⟩
      · obtain ⟨later, member, has⟩ := ih covered
        exact ⟨later, List.mem_cons_of_mem _ member, has⟩

end CodeRange

end TemplateSyntax.Unicode
