import Mathlib.Data.List.Chain
import TemplateSyntax.Proofs.Unicode.Disjoint

/-!
# Classes of characters within others

Every capital is a character that a name can begin with
(`Scan.isNameStart_of_isUppercaseLetter`).  The tables ascend, so one walk along
both of them compares them.  Most ranges of capitals lie in a range of word
characters without gaps; the code points of the others are looked up one by one.
-/

namespace TemplateSyntax

namespace Unicode

namespace CodeRange

def codes (range : CodeRange) : List Nat :=
  (List.range ((range.last - range.first) / range.stride + 1)).map
    fun step => range.first + step * range.stride

/-- A table holds all of a range that does not begin behind its first range. -/
def holds (table : List CodeRange) (part : CodeRange) : Bool :=
  table.head?.any (fun range => range.first ≤ part.first &&
      part.last ≤ range.last && range.stride == 1) ||
    part.codes.all (covers table)

/-- A table holds all of some ascending ranges. -/
def holdsAll : List CodeRange → List CodeRange → Bool
  | _, [] => true
  | table, part :: parts =>
      match table.dropWhile fun range => range.last < part.first with
      | [] => false
      | range :: table =>
          holds (range :: table) part && holdsAll (range :: table) parts

theorem mem_codes_of_has {range : CodeRange} {code : Nat}
    (inside : range.has code = true) : code ∈ range.codes := by
  simp only [has, Bool.and_eq_true, decide_eq_true_eq, beq_iff_eq] at inside
  obtain ⟨⟨above, below⟩, onStride⟩ := inside
  have steps : range.first +
      (code - range.first) / range.stride * range.stride = code := by
    rw [Nat.div_mul_cancel (Nat.dvd_of_mod_eq_zero onStride)]
    exact Nat.add_sub_of_le above
  have fewer : (code - range.first) / range.stride ≤
      (range.last - range.first) / range.stride :=
    Nat.div_le_div_right (Nat.sub_le_sub_right below _)
  exact List.mem_map.mpr
    ⟨_, List.mem_range.mpr (Nat.lt_succ_of_le fewer), steps⟩

theorem first_le_of_has {range : CodeRange} {code : Nat}
    (inside : range.has code = true) : range.first ≤ code := by
  simp only [has, Bool.and_eq_true, decide_eq_true_eq] at inside
  exact inside.1.1

theorem covers_of_holds {part : CodeRange} {table : List CodeRange}
    (held : holds table part = true) {code : Nat}
    (inside : part.has code = true) : covers table code = true := by
  rcases Bool.or_eq_true_iff.mp held with whole | each
  · cases table with
    | nil => cases whole
    | cons range table =>
        simp only [List.head?_cons, Option.any_some, Bool.and_eq_true,
          decide_eq_true_eq, beq_iff_eq] at whole
        obtain ⟨⟨starts, ends⟩, dense⟩ := whole
        simp only [has, Bool.and_eq_true, decide_eq_true_eq] at inside
        obtain ⟨⟨above, below⟩, _⟩ := inside
        rw [covers, if_pos (Nat.le_trans below ends), has, dense]
        simp [Nat.le_trans starts above, Nat.le_trans below ends, Nat.mod_one]
  · exact List.all_eq_true.mp each code (mem_codes_of_has inside)

theorem covers_dropWhile {bound code : Nat} (above : bound ≤ code)
    (table : List CodeRange) :
    covers (table.dropWhile fun range => range.last < bound) code =
      covers table code := by
  induction table with
  | nil => rfl
  | cons range table ih =>
      by_cases behind : range.last < bound
      · rw [List.dropWhile_cons_of_pos (by simpa using behind), ih, covers,
          if_neg (Nat.not_le_of_lt (Nat.lt_of_lt_of_le behind above))]
      · rw [List.dropWhile_cons_of_neg (by simpa using behind)]

theorem covers_of_holdsAll {table parts : List CodeRange}
    (ascending : parts.Pairwise fun part later => part.first ≤ later.first)
    (held : holdsAll table parts = true) {part : CodeRange}
    (member : part ∈ parts) {code : Nat} (inside : part.has code = true) :
    covers table code = true := by
  induction parts generalizing table with
  | nil => cases member
  | cons first parts ih =>
      rw [List.pairwise_cons] at ascending
      have above : first.first ≤ code := by
        rcases List.mem_cons.mp member with rfl | later
        · exact first_le_of_has inside
        · exact (ascending.1 part later).trans (first_le_of_has inside)
      rw [holdsAll] at held
      rw [← covers_dropWhile above table]
      split at held
      · cases held
      · rename_i range rest skipped
        rw [Bool.and_eq_true] at held
        rw [skipped]
        rcases List.mem_cons.mp member with rfl | later
        · exact covers_of_holds held.1 inside
        · exact ih ascending.2 held.2 later

end CodeRange

def capitalTables : List (List CodeRange) :=
  [uppercaseLetters, recentUppercaseLetters, titlecaseLetters]

theorem capitalTables_held :
    capitalTables.all (fun parts =>
      decide (parts.IsChain fun part later => part.first ≤ later.first) &&
        CodeRange.holdsAll wordRanges parts) = true := by
  decide +kernel

theorem isWord_of_isCapitalLetter {c : Char}
    (capital : isCapitalLetter c = true) : isWord c = true := by
  have found : ∃ parts ∈ capitalTables,
      CodeRange.covers parts c.toNat = true := by
    simp only [isCapitalLetter, isUppercaseLetter, isTitlecaseLetter,
      Bool.or_eq_true] at capital
    simpa [capitalTables, or_assoc] using capital
  obtain ⟨parts, table, covered⟩ := found
  have held := List.all_eq_true.mp capitalTables_held parts table
  rw [Bool.and_eq_true, decide_eq_true_eq] at held
  have ascending := List.isChain_iff_pairwise.mp held.1
  obtain ⟨part, member, inside⟩ := CodeRange.exists_of_covers covered
  exact CodeRange.covers_of_holdsAll ascending held.2 member inside

end Unicode

theorem Scan.isNameStart_of_isUppercaseLetter {c : Char}
    (upper : Unicode.isUppercaseLetter c = true) :
    Scan.isNameStart c = true := by
  have capital : Unicode.isCapitalLetter c = true := by
    simp [Unicode.isCapitalLetter, upper]
  simp [Scan.isNameStart, Unicode.isDecimal_of_isCapitalLetter capital,
    Unicode.isWord_of_isCapitalLetter capital]

end TemplateSyntax
