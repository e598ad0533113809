import TemplateSyntax.Proofs.Frame.Rows

/-!
# Carets and expanded tabs

Carets are placed by expanding two beginnings of a line and counting what comes
out.  This agrees with the line as it is displayed, because expanding a
beginning gives a beginning of the expanded line (`expandTabs_of_isPrefix`); so
the counts are in order and the carets end at most one column behind the line
(`carets_agree`).  Widths that are not counted expand nothing at all
(`exists_width_without_carets`).
-/

namespace TemplateSyntax

namespace Text

variable {width : Int} {line : List Char}

/-- Expanding carries the column along, so that a beginning of a line is
expanded as it is inside the whole line. -/
theorem expandTabs_of_isPrefix {beginning : List Char}
    (begins : beginning <+: line) :
    expandTabs width beginning <+: expandTabs width line := by
  obtain ⟨rest, rfl⟩ := begins
  exact expandTabs_prefix width beginning rest

theorem expandTabs_take_isPrefix {start stop : Nat} (ordered : start ≤ stop) :
    expandTabs width (line.take start) <+:
      expandTabs width (line.take stop) :=
  expandTabs_of_isPrefix (List.take_prefix_take_left ordered)

end Text

theorem length_caretsBetween (lead reach : Nat) :
    (caretsBetween lead reach).length = lead + max 1 (reach - lead) := by
  rw [caretsBetween, List.length_append, List.length_replicate,
    List.length_replicate]

/-- The row of carets for the characters of a line from `start` up to `stop`,
counted from zero, agrees with the expanded beginnings of the line and with the
expanded line. -/
structure CaretsAgree (line : List Char) (tabWidth : Int) (start stop : Nat)
    (front upTo whole row : List Char) : Prop where
  front_eq : expanded tabWidth (line.take start) = .ok front
  upTo_eq : expanded tabWidth (line.take stop) = .ok upTo
  whole_eq : expanded tabWidth line = .ok whole
  carets_eq : carets line (start + 1) (stop + 1) tabWidth = .ok row
  /-- The one beginning begins the other, and both begin the line. -/
  front_isPrefix : front <+: upTo
  upTo_isPrefix : upTo <+: whole
  /-- Blanks as wide as what stands in front, then carets as wide as what is
  added, but at least one. -/
  row_eq : row = List.replicate front.length ' ' ++
    List.replicate (max 1 (upTo.length - front.length)) '^'
  front_le : front.length ≤ upTo.length
  row_le : row.length ≤ whole.length + 1

/-- With every width that is counted, carets agree with the expanded line, also
for characters behind its end. -/
theorem carets_agree {tabWidth : Int} (counted : isTabWidth tabWidth = true)
    (line : List Char) {start stop : Nat} (ordered : start ≤ stop) :
    ∃ front upTo whole row,
      CaretsAgree line tabWidth start stop front upTo whole row := by
  have first : Text.expandTabs tabWidth (line.take start) <+:
      Text.expandTabs tabWidth (line.take stop) :=
    Text.expandTabs_take_isPrefix ordered
  have second : Text.expandTabs tabWidth (line.take stop) <+:
      Text.expandTabs tabWidth line :=
    Text.expandTabs_of_isPrefix (List.take_prefix _ _)
  have frontLe := first.length_le
  have upToLe := second.length_le
  refine ⟨_, _, _, _, {
    front_eq := expanded_of_counted counted _
    upTo_eq := expanded_of_counted counted _
    whole_eq := expanded_of_counted counted _
    carets_eq := carets_of_counted counted _ _ _
    front_isPrefix := first
    upTo_isPrefix := second
    row_eq := rfl
    front_le := frontLe
    row_le := ?_ }⟩
  rw [length_caretsBetween, Nat.add_sub_cancel, Nat.add_sub_cancel]
  omega

/-- A tab in front of the carets, one under them, and an end behind the line. -/
theorem carets_agree_tabs :
    isTabWidth 4 = true ∧ 2 ≤ 7 ∧ ∃ front upTo whole row,
      CaretsAgree "\ta\tb".toList 4 2 7 front upTo whole row :=
  ⟨by decide, by decide, carets_agree (by decide) _ (by decide)⟩

example : carets "\ta\tb".toList 3 4 4 = .ok "     ^^^".toList := by
  rfl

/-- A width that is not counted expands no line and places no carets. -/
theorem exists_width_without_carets :
    ¬∀ (line : List Char) (tabWidth : Int) (start stop : Nat),
      (∀ c ∈ line, Text.isLineBreak c = false) → start ≤ stop →
      ∃ front upTo whole row,
        CaretsAgree line tabWidth start stop front upTo whole row := by
  intro agree
  have oneLine : ∀ c ∈ ['a', 'b'], Text.isLineBreak c = false := by
    rw [List.forall_mem_cons, List.forall_mem_singleton]
    decide
  obtain ⟨front, upTo, whole, row, agrees⟩ :=
    agree ['a', 'b'] 0x80000000 0 2 oneLine (by decide)
  have refused : expanded 0x80000000 ['a', 'b'] =
      .error .tabWidthOutOfRange := if_neg (by decide)
  rw [agrees.whole_eq] at refused
  cases refused

end TemplateSyntax
