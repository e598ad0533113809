/-!
# Tab expansion

A tab stands for the spaces up to the next column that is a multiple of the
tab width; with a width of zero or less it stands for nothing.  Expansion
carries the column, which a line feed and a carriage return set back, so
`expandFrom_append` is how a text is expanded in two parts.
-/

namespace TemplateSyntax.Text

/-- How many spaces a tab in the given column stands for. -/
def tabStep (width : Int) (column : Nat) : Nat :=
  if 0 < width then width.toNat - column % width.toNat else 0

/-- The column behind a character that is no tab. -/
def nextColumn (c : Char) (column : Nat) : Nat :=
  if c = '\n' ∨ c = '\r' then 0 else column + 1

/-- Expand the tabs of a text whose first character is in the given column. -/
def expandFrom (width : Int) (column : Nat) : List Char → List Char
  | [] => []
  | '\t' :: rest =>
      List.replicate (tabStep width column) ' ' ++
        expandFrom width (column + tabStep width column) rest
  | c :: rest => c :: expandFrom width (nextColumn c column) rest

/-- The column behind a text whose first character is in the given column. -/
def columnBehind (width : Int) (column : Nat) : List Char → Nat
  | [] => column
  | '\t' :: rest => columnBehind width (column + tabStep width column) rest
  | c :: rest => columnBehind width (nextColumn c column) rest

/-- Expand the tabs of a whole line. -/
def expandTabs (width : Int) (line : List Char) : List Char :=
  expandFrom width 0 line

theorem expandFrom_append (width : Int) (column : Nat)
    (left right : List Char) :
    expandFrom width column (left ++ right) =
      expandFrom width column left ++
        expandFrom width (columnBehind width column left) right := by
  fun_induction expandFrom width column left with
  | case1 column => rfl
  | case2 column rest ih =>
      rw [List.cons_append, expandFrom, ih, columnBehind, List.append_assoc]
  | case3 column c rest notTab ih =>
      rw [List.cons_append, expandFrom, ih, columnBehind, List.cons_append]
      · exact notTab
      · exact notTab

theorem expandTabs_prefix (width : Int) (left right : List Char) :
    expandTabs width left <+: expandTabs width (left ++ right) := by
  rw [expandTabs, expandTabs, expandFrom_append]
  exact List.prefix_append _ _

end TemplateSyntax.Text
