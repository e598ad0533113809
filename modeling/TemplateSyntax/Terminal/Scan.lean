/-!
# Scanning rules

A rule reads from the front of a text and answers what it read and what is
left, or nothing.  Rules are greedy and answer once, so that the answer depends
on the text ahead only.  A rule is `Faithful` when the two parts make up the
text again, and `Productive` when it never reads nothing.
-/

namespace TemplateSyntax

/-- Reads from the front of a text: what was read and what is left. -/
abbrev Scan : Type :=
  List Char → Option (List Char × List Char)

namespace Scan

/-- Both parts of every answer make up the text. -/
def Faithful (scan : Scan) : Prop :=
  ∀ ⦃text lexeme rest : List Char⦄,
    scan text = some (lexeme, rest) → text = lexeme ++ rest

/-- No answer is empty. -/
def Productive (scan : Scan) : Prop :=
  ∀ ⦃text lexeme rest : List Char⦄,
    scan text = some (lexeme, rest) → lexeme ≠ []

/-- One character of a class. -/
def one (accepts : Char → Bool) : Scan
  | [] => none
  | c :: rest => if accepts c then some ([c], rest) else none

def char (expected : Char) : Scan :=
  one (· == expected)

/-- As many characters of a class as there are. -/
def many (accepts : Char → Bool) : Scan :=
  fun text => some (text.takeWhile accepts, text.dropWhile accepts)

/-- One rule after the other. -/
def andThen (first second : Scan) : Scan :=
  fun text =>
    match first text with
    | none => none
    | some (left, middle) =>
        match second middle with
        | none => none
        | some (right, rest) => some (left ++ right, rest)

/-- At least one character of a class, and as many as there are. -/
def some1 (accepts : Char → Bool) : Scan :=
  (one accepts).andThen (many accepts)

def word : List Char → Scan
  | [] => fun text => some ([], text)
  | c :: rest => (char c).andThen (word rest)

/-- The first rule that has an answer. -/
def orElse (first second : Scan) : Scan :=
  fun text =>
    match first text with
    | none => second text
    | answer => answer

def optional (scan : Scan) : Scan :=
  scan.orElse (word [])

/-- A rule whose answer counts only before a text with some property. -/
def before (scan : Scan) (ahead : List Char → Bool) : Scan :=
  fun text =>
    match scan text with
    | none => none
    | some (lexeme, rest) => if ahead rest then some (lexeme, rest) else none

/-- A rule whose answer counts only if what it read has some property. -/
def only (scan : Scan) (accepts : List Char → Bool) : Scan :=
  fun text =>
    match scan text with
    | none => none
    | some (lexeme, rest) =>
        if accepts lexeme then some (lexeme, rest) else none

/-! ### What the rules read -/

theorem Faithful.one (accepts : Char → Bool) :
    (one accepts).Faithful := by
  intro text lexeme rest read
  cases text with
  | nil => simp [Scan.one] at read
  | cons c tail =>
      simp only [Scan.one] at read
      split at read
      · cases read
        rfl
      · cases read

theorem Productive.one (accepts : Char → Bool) :
    (one accepts).Productive := by
  intro text lexeme rest read
  cases text with
  | nil => simp [Scan.one] at read
  | cons c tail =>
      simp only [Scan.one] at read
      split at read
      · cases read
        simp
      · cases read

theorem Faithful.many (accepts : Char → Bool) :
    (many accepts).Faithful := by
  intro text lexeme rest read
  cases read
  exact List.takeWhile_append_dropWhile.symm

theorem Faithful.andThen {first second : Scan}
    (left : first.Faithful) (right : second.Faithful) :
    (first.andThen second).Faithful := by
  intro text lexeme rest read
  simp only [Scan.andThen] at read
  split at read
  · cases read
  · rename_i front middle firstRead
    split at read
    · cases read
    · rename_i back tail secondRead
      cases read
      rw [left firstRead, right secondRead, List.append_assoc]

theorem Productive.andThen_left {first : Scan} (second : Scan)
    (left : first.Productive) : (first.andThen second).Productive := by
  intro text lexeme rest read
  simp only [Scan.andThen] at read
  split at read
  · cases read
  · rename_i front middle firstRead
    split at read
    · cases read
    · cases read
      have nonempty := left firstRead
      simp [nonempty]

theorem Productive.andThen_right {second : Scan} (first : Scan)
    (right : second.Productive) : (first.andThen second).Productive := by
  intro text lexeme rest read
  simp only [Scan.andThen] at read
  split at read
  · cases read
  · split at read
    · cases read
    · rename_i back tail secondRead
      cases read
      have nonempty := right secondRead
      simp [nonempty]

theorem Faithful.some1 (accepts : Char → Bool) :
    (some1 accepts).Faithful :=
  Faithful.andThen (Faithful.one accepts) (Faithful.many accepts)

theorem Productive.some1 (accepts : Char → Bool) :
    (some1 accepts).Productive :=
  Productive.andThen_left _ (Productive.one accepts)

theorem Faithful.word (expected : List Char) :
    (word expected).Faithful := by
  induction expected with
  | nil =>
      intro text lexeme rest read
      cases read
      rfl
  | cons c rest ih => exact Faithful.andThen (Faithful.one _) ih

theorem Productive.word {expected : List Char} (nonempty : expected ≠ []) :
    (word expected).Productive := by
  cases expected with
  | nil => exact absurd rfl nonempty
  | cons c rest => exact Productive.andThen_left _ (Productive.one _)

theorem Faithful.orElse {first second : Scan}
    (left : first.Faithful) (right : second.Faithful) :
    (first.orElse second).Faithful := by
  intro text lexeme rest read
  simp only [Scan.orElse] at read
  split at read
  · exact right read
  · exact left read

theorem Faithful.optional {scan : Scan} (faithful : scan.Faithful) :
    scan.optional.Faithful :=
  Faithful.orElse faithful (Faithful.word [])

theorem eq_some_of_before {scan : Scan} {ahead : List Char → Bool}
    {text lexeme rest : List Char}
    (read : scan.before ahead text = some (lexeme, rest)) :
    scan text = some (lexeme, rest) := by
  simp only [Scan.before] at read
  split at read
  · cases read
  · rename_i scanned
    split at read
    · rw [scanned, read]
    · cases read

theorem Faithful.before {scan : Scan} (ahead : List Char → Bool)
    (faithful : scan.Faithful) : (scan.before ahead).Faithful :=
  fun _ _ _ read => faithful (eq_some_of_before read)

theorem Productive.before {scan : Scan} (ahead : List Char → Bool)
    (productive : scan.Productive) : (scan.before ahead).Productive :=
  fun _ _ _ read => productive (eq_some_of_before read)

theorem eq_some_of_only {scan : Scan} {accepts : List Char → Bool}
    {text lexeme rest : List Char}
    (read : scan.only accepts text = some (lexeme, rest)) :
    scan text = some (lexeme, rest) := by
  simp only [Scan.only] at read
  split at read
  · cases read
  · rename_i scanned
    split at read
    · rw [scanned, read]
    · cases read

theorem Faithful.only {scan : Scan} (accepts : List Char → Bool)
    (faithful : scan.Faithful) : (scan.only accepts).Faithful :=
  fun _ _ _ read => faithful (eq_some_of_only read)

theorem Productive.only {scan : Scan} (accepts : List Char → Bool)
    (productive : scan.Productive) : (scan.only accepts).Productive :=
  fun _ _ _ read => productive (eq_some_of_only read)

end Scan

end TemplateSyntax
