import TemplateSyntax.Proofs.Pattern.WellFormed

/-!
# Names by their first character

The words of a pattern are told apart by the categories of letters, while names
are classified by the property "upper case".  The two agree except on symbols
written as capitals, which have the property without being letters
(`classes_of_isVariable`), and on the capitals added since Unicode 14, which are
letters without the property (`isConstructor_of_isPiece`).
-/

namespace TemplateSyntax

namespace Unicode

/-- A symbol written as a capital, such as the Roman numeral U+2167. -/
def isCapitalSymbol (c : Char) : Bool :=
  CodeRange.covers uppercaseSymbols c.toNat

/-- A capital added since Unicode 14, such as U+1C89. -/
def isRecentCapital (c : Char) : Bool :=
  CodeRange.covers recentUppercaseLetters c.toNat

theorem recentUppercaseLetters_apart :
    CodeRange.apart recentUppercaseLetters
      (uppercaseLetters ++ uppercaseSymbols ++ titlecaseLetters) = true := by
  decide +kernel

variable {c : Char}

theorem isCapitalLetter_of_isRecentCapital (recent : isRecentCapital c = true) :
    isCapitalLetter c = true := by
  have upper : isUppercaseLetter c = true :=
    Bool.or_eq_true_iff.mpr (.inr recent)
  rw [isCapitalLetter, upper, Bool.true_or]

/-- The property does not know the recent capitals. -/
theorem isCapital_of_isRecentCapital (recent : isRecentCapital c = true) :
    isCapital c = false := by
  have inRecent := CodeRange.exists_of_covers recent
  have outside := CodeRange.not_in_of_apart recentUppercaseLetters_apart inRecent
  rw [Bool.eq_false_iff]
  intro capital
  simp only [isCapital, isUppercase, isTitlecaseLetter, Bool.or_eq_true]
    at capital
  rcases capital with (letter | symbol) | title
  · exact outside (CodeRange.in_of_covers (by simp) letter)
  · exact outside (CodeRange.in_of_covers (by simp) symbol)
  · exact outside (CodeRange.in_of_covers (by simp) title)

/-- Of the capitals, exactly the recent ones are missed. -/
theorem isCapital_of_isCapitalLetter (letter : isCapitalLetter c = true) :
    isCapital c = !isRecentCapital c := by
  cases recent : isRecentCapital c with
  | true => exact isCapital_of_isRecentCapital recent
  | false =>
      simp only [isCapitalLetter, isUppercaseLetter, Bool.or_eq_true] at letter
      rcases letter with (old | new) | title
      · simp [isCapital, isUppercase, old]
      · have found : isRecentCapital c = true := new
        rw [recent] at found
        cases found
      · simp [isCapital, title]

/-- Of the other characters, exactly the symbols count. -/
theorem isCapital_of_not_isCapitalLetter (other : isCapitalLetter c = false) :
    isCapital c = isCapitalSymbol c := by
  simp only [isCapitalLetter, isUppercaseLetter, Bool.or_eq_false_iff] at other
  obtain ⟨⟨old, _⟩, title⟩ := other
  simp [isCapital, isUppercase, isCapitalSymbol, old, title]

end Unicode

/-- The name begins with a character of the class. -/
def begins (accepts : Char → Bool) (name : String) : Bool :=
  name.toList.head?.any accepts

section Class

open Scan

variable {name : String}

theorem begins_of_cons {accepts : Char → Bool} {first : Char}
    {others : List Char} (split : name.toList = first :: others) :
    begins accepts name = accepts first := by
  rw [begins, split]
  rfl

theorem isVariable_of_cons {first : Char} {others : List Char}
    (split : name.toList = first :: others) :
    isVariable name = .ok (!isCapital first) := by
  rw [isVariable, split]

theorem isConstructor_of_cons {first : Char} {others : List Char}
    (split : name.toList = first :: others) :
    isConstructor name = .ok (isCapital first || isOperatorChar first) := by
  rw [isConstructor, split]

/-- A variable word names a variable and no constructor, unless it begins with a
symbol written as a capital. -/
theorem classes_of_isVariable (spelled : IsVariable name.toList) :
    isVariable name = .ok (!begins Unicode.isCapitalSymbol name) ∧
      isConstructor name = .ok (begins Unicode.isCapitalSymbol name) := by
  obtain ⟨first, others, split, begun, _⟩ := spelled
  have operator := isOperatorChar_of_not_mem_marks
    (Pattern.not_mem_marks_of_isVariableStart begun)
  simp only [isVariableStart, Bool.and_eq_true, Bool.not_eq_true'] at begun
  have capital := Unicode.isCapital_of_not_isCapitalLetter begun.2
  rw [isVariable_of_cons split, isConstructor_of_cons split,
    begins_of_cons split, capital, operator, Bool.or_false]
  exact ⟨rfl, rfl⟩

/-- A piece of a constructor names a constructor, unless it begins with a recent
capital. -/
theorem isConstructor_of_isPiece (piece : IsPiece name.toList) :
    isConstructor name = .ok (!begins Unicode.isRecentCapital name) := by
  rcases piece with ⟨first, others, split, letter, _⟩ |
    ⟨first, others, split, operator, _⟩
  · have noOperator := isOperatorChar_of_not_mem_marks
      (not_mem_marks_of_isCapitalLetter letter)
    rw [isConstructor_of_cons split, begins_of_cons split, noOperator,
      Unicode.isCapital_of_isCapitalLetter letter, Bool.or_false]
  · have old : Unicode.isRecentCapital first = false := by
      rw [Bool.eq_false_iff]
      intro recent
      exact not_mem_marks_of_isCapitalLetter
        (Unicode.isCapitalLetter_of_isRecentCapital recent)
        (mem_marks_of_isOperatorChar operator)
    rw [isConstructor_of_cons split, begins_of_cons split, old, operator,
      Bool.or_true]
    rfl

end Class

end TemplateSyntax
