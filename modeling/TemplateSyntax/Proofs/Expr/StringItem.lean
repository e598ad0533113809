import TemplateSyntax.Expr.Print
import TemplateSyntax.Proofs.Terminal.Spelled

/-!
# The inside of a string literal

Between its quotes a string literal is a sequence of items, each an ordinary
character or an escape.  The scanning rule reads exactly the sequences of items
between quotes (`stringLiteral_items`, `exists_items_of_stringLiteral`), and what
the literal stands for is what its items stand for (`ofString_literal`).
-/

namespace TemplateSyntax.Expr

open Scan

inductive Escape where
  | newline
  | carriageReturn
  | backspace
  | tab
  | backslash
  | doubleQuote
  | singleQuote
  deriving DecidableEq, Repr

namespace Escape

def letter : Escape → Char
  | newline => 'n'
  | carriageReturn => 'r'
  | backspace => 'b'
  | tab => 't'
  | backslash => '\\'
  | doubleQuote => '"'
  | singleQuote => '\''

def character : Escape → Char
  | newline => '\n'
  | carriageReturn => '\r'
  | backspace => '\x08'
  | tab => '\t'
  | backslash => '\\'
  | doubleQuote => '"'
  | singleQuote => '\''

/-- The letters behind a backslash that have a value are those of the
escapes. -/
theorem escapeValue?_eq_some_iff {c d : Char} :
    escapeValue? c = some d ↔
      ∃ escape : Escape, escape.letter = c ∧ escape.character = d := by
  constructor
  · intro value
    unfold escapeValue? at value
    split at value
    · exact ⟨newline, rfl, Option.some.inj value⟩
    · exact ⟨carriageReturn, rfl, Option.some.inj value⟩
    · exact ⟨backspace, rfl, Option.some.inj value⟩
    · exact ⟨tab, rfl, Option.some.inj value⟩
    · exact ⟨backslash, rfl, Option.some.inj value⟩
    · exact ⟨doubleQuote, rfl, Option.some.inj value⟩
    · exact ⟨singleQuote, rfl, Option.some.inj value⟩
    · cases value
  · rintro ⟨escape, rfl, rfl⟩
    cases escape <;> rfl

@[simp]
theorem escapeValue?_letter (escape : Escape) :
    escapeValue? escape.letter = some escape.character :=
  escapeValue?_eq_some_iff.mpr ⟨escape, rfl, rfl⟩

end Escape

/-- One item of the inside of a string literal. -/
inductive StringItem where
  | plain (c : Char) (ordinary : c ≠ '"' ∧ c ≠ '\\')
  | escaped (escape : Escape)

namespace StringItem

def text : StringItem → List Char
  | plain c _ => [c]
  | escaped escape => ['\\', escape.letter]

def character : StringItem → Char
  | plain c _ => c
  | escaped escape => escape.character

/-- The shortest way to write a character. -/
def ofChar (c : Char) : StringItem :=
  if quote : c = '"' then escaped .doubleQuote
  else if backslash : c = '\\' then escaped .backslash
  else plain c ⟨quote, backslash⟩

theorem text_ofChar (c : Char) : (ofChar c).text = printCharacter c := by
  unfold ofChar printCharacter
  split
  · rename_i quote
    simp [text, Escape.letter, quote]
  · split
    · rename_i backslash
      simp [text, Escape.letter, backslash]
    · rename_i quote backslash
      simp [text, quote, backslash]

theorem character_ofChar (c : Char) : (ofChar c).character = c := by
  unfold ofChar
  split
  · rename_i quote
    exact quote.symm
  · split
    · rename_i backslash
      exact backslash.symm
    · rfl

def literal (items : List StringItem) : List Char :=
  '"' :: items.flatMap text ++ ['"']

def meaning (items : List StringItem) : String :=
  String.ofList (items.map character)

theorem literal_ofChar (value : String) :
    literal (value.toList.map ofChar) = printString value := by
  rw [literal, List.flatMap_map, printString]
  simp only [text_ofChar]

theorem meaning_ofChar (value : String) :
    meaning (value.toList.map ofChar) = value := by
  rw [meaning, List.map_map]
  have same : character ∘ ofChar = id := funext character_ofChar
  rw [same, List.map_id, String.ofList_toList]

theorem inside_literal (items : List StringItem) :
    (literal items).tail.dropLast = items.flatMap text := by
  simp [literal]

end StringItem

/-! ### Items are read -/

theorem stringTail_items (items : List StringItem) (rest : List Char) :
    stringTail (items.flatMap StringItem.text ++ '"' :: rest) =
      some (items.flatMap StringItem.text ++ ['"'], rest) := by
  induction items with
  | nil => rfl
  | cons item items ih =>
      rw [List.flatMap_cons]
      cases item with
      | plain c ordinary =>
          rw [StringItem.text, List.cons_append, List.nil_append,
            List.cons_append, stringTail.eq_4]
          · rw [if_neg ordinary.2, ih]
            rfl
          · exact ordinary.1
          · intro _ _ backslash
            exact absurd backslash ordinary.2
      | escaped escape =>
          simp only [StringItem.text, List.cons_append, List.nil_append,
            stringTail, Escape.escapeValue?_letter, Option.isSome_some, if_true,
            ih]

theorem exists_items_of_stringTail {text lexeme rest : List Char}
    (read : stringTail text = some (lexeme, rest)) :
    ∃ items : List StringItem,
      lexeme = items.flatMap StringItem.text ++ ['"'] := by
  fun_induction Scan.stringTail text generalizing lexeme rest with
  | case1 => cases read
  | case2 =>
      cases read
      exact ⟨[], rfl⟩
  | case3 => cases read
  | case4 escaped tail known lexeme' left inner ih =>
      cases read
      obtain ⟨items, rfl⟩ := ih inner
      obtain ⟨c, value⟩ := Option.isSome_iff_exists.mp known
      obtain ⟨escape, rfl, _⟩ := Escape.escapeValue?_eq_some_iff.mp value
      exact ⟨.escaped escape :: items, rfl⟩
  | case5 => cases read
  | case6 => cases read
  | case7 => cases read
  | case8 c tail notQuote _ notBackslash lexeme' left inner ih =>
      cases read
      obtain ⟨items, rfl⟩ := ih inner
      exact ⟨.plain c ⟨notQuote, notBackslash⟩ :: items, rfl⟩

theorem stringLiteral_items (items : List StringItem) (rest : List Char) :
    stringLiteral (StringItem.literal items ++ rest) =
      some (StringItem.literal items, rest) := by
  have split : StringItem.literal items ++ rest =
      '"' :: (items.flatMap StringItem.text ++ '"' :: rest) := by
    simp [StringItem.literal]
  rw [split]
  exact andThen_eq_some_iff.mpr
    ⟨['"'], _, _, read_char _ _, stringTail_items items rest, rfl⟩

theorem exists_items_of_stringLiteral {text lexeme rest : List Char}
    (read : stringLiteral text = some (lexeme, rest)) :
    ∃ items, lexeme = StringItem.literal items := by
  obtain ⟨_, _, tail, opening, inside, shape⟩ := andThen_eq_some_iff.mp read
  obtain ⟨rfl, _⟩ := char_eq_some_iff.mp opening
  obtain ⟨items, rfl⟩ := exists_items_of_stringTail inside
  exact ⟨items, shape⟩

/-! ### Items are converted -/

theorem unescape_items (items : List StringItem) :
    unescape (items.flatMap StringItem.text) =
      items.map StringItem.character := by
  induction items with
  | nil => rfl
  | cons item items ih =>
      rw [List.flatMap_cons, List.map_cons]
      cases item with
      | plain c ordinary =>
          rw [StringItem.text, List.cons_append, List.nil_append,
            unescape.eq_2, ih]
          · rfl
          · intro _ _ backslash
            exact absurd backslash ordinary.2
      | escaped escape =>
          simp only [StringItem.text, List.cons_append, List.nil_append,
            unescape, Escape.escapeValue?_letter, Option.getD_some, ih]
          rfl

theorem ofString_literal (items : List StringItem) :
    ofString (StringItem.literal items) =
      .string (StringItem.meaning items) := by
  rw [ofString, StringItem.inside_literal, unescape_items, StringItem.meaning]

end TemplateSyntax.Expr
