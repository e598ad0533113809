import TemplateSyntax.Proofs.Unicode.Disjoint

/-!
# What a rule tells about the text ahead

A rule that reads something tells how the text begins: with a character of a
class, with a given word, or with blanks in front of a given character.  The
character behind the blanks (`visible`) is what tells apart the terminals that
may have blanks in front of them.
-/

namespace TemplateSyntax.Scan

variable {text lexeme rest : List Char}

theorem one_eq_some_iff {accepts : Char → Bool} :
    one accepts text = some (lexeme, rest) ↔
      ∃ c, accepts c = true ∧ lexeme = [c] ∧ text = c :: rest := by
  cases text with
  | nil => simp [one]
  | cons c tail =>
      by_cases accepted : accepts c = true
      · simp only [one, if_pos accepted, Option.some.injEq, Prod.mk.injEq]
        constructor
        · rintro ⟨rfl, rfl⟩
          exact ⟨c, accepted, rfl, rfl⟩
        · rintro ⟨_, _, rfl, textEq⟩
          cases textEq
          exact ⟨rfl, rfl⟩
      · simp only [one, if_neg accepted, reduceCtorEq, false_iff]
        rintro ⟨_, other, _, textEq⟩
        cases textEq
        exact accepted other

theorem char_eq_some_iff {expected : Char} :
    char expected text = some (lexeme, rest) ↔
      lexeme = [expected] ∧ text = expected :: rest := by
  simp only [char, one_eq_some_iff, beq_iff_eq]
  constructor
  · rintro ⟨_, rfl, lexemeEq, textEq⟩
    exact ⟨lexemeEq, textEq⟩
  · rintro ⟨lexemeEq, textEq⟩
    exact ⟨expected, rfl, lexemeEq, textEq⟩

theorem many_eq_some_iff {accepts : Char → Bool} :
    many accepts text = some (lexeme, rest) ↔
      lexeme = text.takeWhile accepts ∧ rest = text.dropWhile accepts := by
  rw [many, Option.some.injEq, Prod.mk.injEq]
  exact and_congr eq_comm eq_comm

theorem notAhead_of_many {accepts : Char → Bool}
    (read : many accepts text = some (lexeme, rest)) :
    notAhead accepts rest = true := by
  obtain ⟨_, rfl⟩ := many_eq_some_iff.mp read
  have refused := List.head?_dropWhile_not accepts text
  cases behind : text.dropWhile accepts with
  | nil => rfl
  | cons c others =>
      rw [behind] at refused
      simpa [notAhead] using refused

theorem andThen_eq_some_iff {first second : Scan} :
    first.andThen second text = some (lexeme, rest) ↔
      ∃ left middle right, first text = some (left, middle) ∧
        second middle = some (right, rest) ∧ lexeme = left ++ right := by
  rw [andThen]
  cases readFirst : first text with
  | none => simp
  | some front =>
      obtain ⟨left, middle⟩ := front
      cases readSecond : second middle with
      | none => simp [readSecond]
      | some back =>
          obtain ⟨right, tail⟩ := back
          simp only [readSecond, Option.some.injEq, Prod.mk.injEq]
          constructor
          · rintro ⟨rfl, rfl⟩
            exact ⟨left, middle, right, ⟨rfl, rfl⟩, readSecond, rfl⟩
          · rintro ⟨_, _, right', ⟨rfl, rfl⟩, again, rfl⟩
            rw [readSecond] at again
            cases again
            exact ⟨rfl, rfl⟩

theorem some1_eq_some_iff {accepts : Char → Bool} :
    some1 accepts text = some (lexeme, rest) ↔
      ∃ c tail, text = c :: tail ∧ accepts c = true ∧
        lexeme = c :: tail.takeWhile accepts ∧
        rest = tail.dropWhile accepts := by
  rw [some1, andThen_eq_some_iff]
  constructor
  · rintro ⟨left, middle, right, readOne, readMany, rfl⟩
    obtain ⟨c, accepted, rfl, textEq⟩ := one_eq_some_iff.mp readOne
    obtain ⟨rfl, restEq⟩ := many_eq_some_iff.mp readMany
    exact ⟨c, middle, textEq, accepted, rfl, restEq⟩
  · rintro ⟨c, tail, rfl, accepted, rfl, rfl⟩
    exact ⟨[c], tail, tail.takeWhile accepts,
      one_eq_some_iff.mpr ⟨c, accepted, rfl, rfl⟩, rfl, rfl⟩

theorem rest_of_some1 {accepts : Char → Bool}
    (read : some1 accepts text = some (lexeme, rest)) :
    rest = text.dropWhile accepts := by
  obtain ⟨c, tail, rfl, accepted, _, rfl⟩ := some1_eq_some_iff.mp read
  rw [List.dropWhile_cons_of_pos accepted]

theorem word_eq_some_iff {expected : List Char} :
    word expected text = some (lexeme, rest) ↔
      lexeme = expected ∧ text = expected ++ rest := by
  induction expected generalizing text lexeme with
  | nil => simp [word, eq_comm]
  | cons c expected ih =>
      rw [word, andThen_eq_some_iff]
      constructor
      · rintro ⟨left, middle, right, readChar, readWord, rfl⟩
        obtain ⟨rfl, rfl⟩ := char_eq_some_iff.mp readChar
        obtain ⟨rfl, rfl⟩ := ih.mp readWord
        exact ⟨rfl, rfl⟩
      · rintro ⟨rfl, rfl⟩
        exact ⟨[c], expected ++ rest, expected,
          char_eq_some_iff.mpr ⟨rfl, rfl⟩, ih.mpr ⟨rfl, rfl⟩, rfl⟩

theorem before_eq_some_iff {scan : Scan} {ahead : List Char → Bool} :
    scan.before ahead text = some (lexeme, rest) ↔
      scan text = some (lexeme, rest) ∧ ahead rest = true := by
  rw [before]
  cases read : scan text with
  | none => simp
  | some answer =>
      obtain ⟨front, back⟩ := answer
      by_cases accepted : ahead back = true
      · simp only [if_pos accepted, Option.some.injEq, Prod.mk.injEq]
        constructor
        · rintro ⟨rfl, rfl⟩
          exact ⟨⟨rfl, rfl⟩, accepted⟩
        · exact And.left
      · simp only [if_neg accepted, reduceCtorEq, Option.some.injEq,
          Prod.mk.injEq, false_iff]
        rintro ⟨⟨rfl, rfl⟩, other⟩
        exact accepted other

theorem only_eq_some_iff {scan : Scan} {accepts : List Char → Bool} :
    scan.only accepts text = some (lexeme, rest) ↔
      scan text = some (lexeme, rest) ∧ accepts lexeme = true := by
  rw [only]
  cases read : scan text with
  | none => simp
  | some answer =>
      obtain ⟨front, back⟩ := answer
      by_cases accepted : accepts front = true
      · simp only [if_pos accepted, Option.some.injEq, Prod.mk.injEq]
        constructor
        · rintro ⟨rfl, rfl⟩
          exact ⟨⟨rfl, rfl⟩, accepted⟩
        · exact And.left
      · simp only [if_neg accepted, reduceCtorEq, Option.some.injEq,
          Prod.mk.injEq, false_iff]
        rintro ⟨⟨rfl, rfl⟩, other⟩
        exact accepted other

theorem exists_of_andThen {first second : Scan}
    (read : first.andThen second text = some (lexeme, rest)) :
    ∃ left middle, first text = some (left, middle) := by
  obtain ⟨left, middle, _, readFirst, _⟩ := andThen_eq_some_iff.mp read
  exact ⟨left, middle, readFirst⟩

theorem exists_of_spaced {scan : Scan}
    (read : spaced scan text = some (lexeme, rest)) :
    ∃ front middle, scan text = some (front, middle) ∧
      rest = middle.dropWhile isSpace := by
  obtain ⟨front, middle, _, readFirst, skipped, _⟩ :=
    andThen_eq_some_iff.mp read
  exact ⟨front, middle, readFirst, (many_eq_some_iff.mp skipped).2⟩

theorem eq_or_eq_of_optional {scan : Scan}
    (read : scan.optional text = some (lexeme, rest)) :
    scan text = some (lexeme, rest) ∨ (lexeme = [] ∧ rest = text) := by
  rw [optional, orElse] at read
  split at read
  · obtain ⟨rfl, rfl⟩ := word_eq_some_iff.mp read
    exact .inr ⟨rfl, rfl⟩
  · exact .inl read

/-! ### The first character that is not blank -/

/-- The first character that is not blank. -/
def visible (text : List Char) : Option Char :=
  (text.dropWhile Unicode.isBlank).head?

theorem visible_cons {c : Char} (shown : Unicode.isBlank c = false)
    (rest : List Char) : visible (c :: rest) = some c := by
  simp [visible, shown]

theorem visible_dropWhile {accepts : Char → Bool}
    (within : ∀ c, accepts c = true → Unicode.isBlank c = true)
    (text : List Char) : visible (text.dropWhile accepts) = visible text := by
  induction text with
  | nil => rfl
  | cons c rest ih =>
      by_cases accepted : accepts c = true
      · rw [List.dropWhile_cons_of_pos accepted, ih, visible, visible,
          List.dropWhile_cons_of_pos (within c accepted)]
      · rw [List.dropWhile_cons_of_neg accepted]

theorem isBlank_of_isSpaceOrTab (c : Char)
    (space : isSpaceOrTab c = true) : Unicode.isBlank c = true := by
  simp only [isSpaceOrTab, Bool.or_eq_true, decide_eq_true_eq] at space
  rcases space with rfl | rfl <;> decide

theorem isSpaceOrTab_of_isSpace {c : Char} (space : isSpace c = true) :
    isSpaceOrTab c = true := by
  simp only [isSpace, decide_eq_true_eq] at space
  simp [isSpaceOrTab, space]

theorem isBlank_of_isSpace (c : Char)
    (space : isSpace c = true) : Unicode.isBlank c = true :=
  isBlank_of_isSpaceOrTab c (isSpaceOrTab_of_isSpace space)

/-- Behind the blanks it takes, a rule finds a given character. -/
theorem visible_of_blanksThen {accepts : Char → Bool} {scan : Scan} {c : Char}
    (within : ∀ c, accepts c = true → Unicode.isBlank c = true)
    (shown : Unicode.isBlank c = false)
    (begins : ∀ text lexeme rest,
      scan text = some (lexeme, rest) → text.head? = some c)
    (read : blanksThen accepts scan text = some (lexeme, rest)) :
    visible text = some c := by
  obtain ⟨_, middle, _, skipped, found, _⟩ := andThen_eq_some_iff.mp read
  obtain ⟨_, rfl⟩ := many_eq_some_iff.mp skipped
  have head := begins _ _ _ found
  obtain ⟨tail, textEq⟩ := List.head?_eq_some_iff.mp head
  rw [← visible_dropWhile within text, textEq, visible_cons shown]

theorem head_of_char {expected : Char} (text lexeme rest : List Char)
    (read : char expected text = some (lexeme, rest)) :
    text.head? = some expected := by
  obtain ⟨_, rfl⟩ := char_eq_some_iff.mp read
  rfl

/-! ### Operators between parentheses -/

theorem exists_of_parenthesisedOperator
    (read : parenthesisedOperator text = some (lexeme, rest)) :
    ∃ c tail, text = '(' :: c :: tail ∧ isOperatorChar c = true ∧
      tail.dropWhile isOperatorChar = ')' :: rest := by
  obtain ⟨_, _, _, opening, inner, _⟩ := andThen_eq_some_iff.mp read
  obtain ⟨_, rfl⟩ := char_eq_some_iff.mp opening
  obtain ⟨_, _, _, run, closing, _⟩ := andThen_eq_some_iff.mp inner
  obtain ⟨c, tail, rfl, operator, _, rfl⟩ := some1_eq_some_iff.mp run
  obtain ⟨_, behind⟩ := char_eq_some_iff.mp closing
  exact ⟨c, tail, rfl, operator, behind⟩

end TemplateSyntax.Scan
