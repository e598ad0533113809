import TemplateSyntax.Proofs.Expr.StringItem
import TemplateSyntax.Proofs.Pattern.WellFormed

/-!
# From tokens to values

Names, escapes and numbers are converted only after the whole text has been
read, and each conversion can refuse what it is given.  What a rule has read is
never refused as a name or for an escape (`Token.converts_of_read`), nor are the
pieces of a constructor (`Pattern.ofPieces_of_pieces`).  A number is refused only
for a digit without a value or for a run of digits that is too long
(`Token.error?_eq_none_of_plainDigits`).
-/

namespace TemplateSyntax

open Scan

/-! ### Names and escapes -/

namespace Expr

/-- The characters the inside of a string literal stands for, if every backslash
in it begins a known escape. -/
def unescape? : List Char → Option (List Char)
  | '\\' :: escaped :: rest =>
      (escapeValue? escaped).bind fun c => (unescape? rest).map (c :: ·)
  | c :: rest => (unescape? rest).map (c :: ·)
  | [] => some []

/-- Inside a string literal, every backslash begins a known escape. -/
theorem unescape?_items (items : List StringItem) :
    unescape? (items.flatMap StringItem.text) =
      some (items.map StringItem.character) := by
  induction items with
  | nil => rfl
  | cons item items ih =>
      rw [List.flatMap_cons, List.map_cons]
      cases item with
      | plain c ordinary =>
          rw [StringItem.text, List.cons_append, List.nil_append,
            unescape?.eq_2, ih]
          · rfl
          · intro _ _ backslash
            exact absurd backslash ordinary.2
      | escaped escape =>
          simp only [StringItem.text, List.cons_append, List.nil_append,
            unescape?, Escape.escapeValue?_letter, ih]
          rfl

end Expr

theorem Spelled.ne_nil {begins goesOn : Char → Bool} {word : List Char}
    (spelled : Spelled begins goesOn word) : word ≠ [] := by
  obtain ⟨first, others, rfl, _⟩ := spelled
  exact List.cons_ne_nil _ _

theorem Ident.ofString_of_ne_nil {name : String} (proper : name.toList ≠ []) :
    ∃ ident, Ident.ofString name = .ok ident ∧ ident.text = name := by
  have nonempty : name ≠ "" := by
    rintro rfl
    exact proper rfl
  rw [Ident.ofString, dif_pos nonempty]
  exact ⟨_, rfl, rfl⟩

namespace Token

/-- The text by which a token is a name, if it is one. -/
def name? (token : Token) : Option String :=
  match token.terminal with
  | .identifier =>
      some (String.ofList ((Expr.pieces token.lexeme).getLast?.getD []))
  | .operatorName => some (String.ofList token.lexeme.tail.dropLast)
  | .operator => some (String.ofList token.lexeme)
  | .variableWord | .capitalWord => some (Pattern.wordName token.lexeme)
  | .operatorConstructor => some (Pattern.operatorName token.lexeme)
  | _ => none

/-- Whatever is made of the token besides a number can be made of it: it has a
first character, its name is not empty, and its escapes are known. -/
structure Converts (token : Token) : Prop where
  proper : token.lexeme ≠ []
  name : ∀ name, token.name? = some name →
    ∃ ident, Ident.ofString name = .ok ident ∧ ident.text = name
  escapes : token.terminal = .string →
    Expr.unescape? token.lexeme.tail.dropLast =
      some (Expr.unescape token.lexeme.tail.dropLast)

variable {triggers : Triggers} {token : Token}

theorem name?_ne_nil (read : token.Read triggers) {name : String}
    (named : token.name? = some name) : name.toList ≠ [] := by
  obtain ⟨terminal, lexeme⟩ := token
  obtain ⟨_, _, scanned⟩ := read
  cases terminal with
  | identifier =>
      cases named
      obtain ⟨modules, word, each, isWord, shape⟩ :=
        spelled_of_identifier scanned
      obtain rfl : lexeme = _ := shape
      have noDots : ∀ step ∈ modules, '.' ∉ step := fun step member =>
        (each step member).not_mem (by decide) (by decide)
      have noDot := isWord.not_mem (c := '.') (by decide) (by decide)
      rw [Expr.pieces_intercalate noDots noDot, List.getLast?_concat,
        Option.getD_some, String.toList_ofList]
      exact isWord.ne_nil
  | operatorName =>
      cases named
      obtain ⟨word, isOperator, shape⟩ :=
        Expr.spelled_of_parenthesisedOperator scanned
      obtain rfl : lexeme = _ := shape
      simpa [Expr.parenthesised] using isOperator.ne_nil
  | operator =>
      cases named
      rw [String.toList_ofList]
      exact Terminal.lexeme_ne_nil scanned
  | variableWord =>
      cases named
      exact (Pattern.isVariable_wordName ⟨_, _, scanned⟩).ne_nil
  | capitalWord =>
      cases named
      rw [Pattern.wordName, String.toList_ofList]
      exact (Pattern.spelled_of_capitalWord scanned).ne_nil
  | operatorConstructor =>
      cases named
      rw [Pattern.operatorName, String.toList_ofList]
      exact (Pattern.spelled_of_operatorConstructor scanned).ne_nil
  | _ => cases named

/-- What a rule has read can be converted, unless it is a number. -/
theorem converts_of_read (read : token.Read triggers) : token.Converts where
  proper := by
    obtain ⟨_, _, scanned⟩ := read
    exact Terminal.lexeme_ne_nil scanned
  name _ named := Ident.ofString_of_ne_nil (name?_ne_nil read named)
  escapes := by
    intro isString
    obtain ⟨terminal, lexeme⟩ := token
    obtain rfl : terminal = .string := isString
    obtain ⟨_, _, scanned⟩ := read
    obtain ⟨items, shape⟩ := Expr.exists_items_of_stringLiteral scanned
    obtain rfl : lexeme = _ := shape
    rw [Expr.StringItem.inside_literal, Expr.unescape?_items,
      Expr.unescape_items]

end Token

/-- The pieces of a constructor that has been read make up a name, the one its
derivation gives. -/
theorem Pattern.ofPieces_of_pieces {triggers : Triggers} {tokens : List Token}
    {names : List String} (pieces : Grammar.Pieces tokens names)
    (read : ∀ token ∈ tokens, token.Read triggers) :
    QualifiedName.ofPieces names = .ok (constructorName names.reverse) := by
  obtain ⟨proper, each⟩ := isPiece_of_pieces pieces read
  obtain ⟨modules, name, rfl⟩ := (List.eq_nil_or_concat _).resolve_left proper
  rw [List.concat_eq_append] at each ⊢
  have isPiece := each name (List.mem_append_right _ List.mem_cons_self)
  have nonempty : name.toList ≠ [] := isPiece.elim Spelled.ne_nil Spelled.ne_nil
  obtain ⟨ident, ofName, text⟩ := Ident.ofString_of_ne_nil nonempty
  rw [constructorName_append, QualifiedName.ofPieces, List.getLast?_concat]
  simp [ofName, text, bind, Except.bind]

/-! ### Numbers -/

/-- All digits have a value, and no run of them is longer than a number may be. -/
structure PlainDigits (text : List Char) : Prop where
  valued : ∀ c ∈ text, Unicode.isDecimal c = true →
    Unicode.hasDigitValue c = true
  short : ∀ run, run <:+: text → (∀ c ∈ run, Unicode.isDecimal c = true) →
    run.length ≤ digitLimit

theorem PlainDigits.within {text part : List Char} (plain : PlainDigits text)
    (inside : part <:+: text) : PlainDigits part where
  valued c member := plain.valued c (inside.subset member)
  short run inPart := plain.short run (inPart.trans inside)

namespace NumberLiteral

theorem valued_of_plainDigits {run : List Char} (plain : PlainDigits run)
    (digits : ∀ c ∈ run, Unicode.isDecimal c = true) : valued run = true :=
  List.all_eq_true.mpr fun c member => plain.valued c member (digits c member)

theorem lengthError?_of_le {run : List Char} (short : run.length ≤ digitLimit) :
    lengthError? run = none :=
  if_neg (Nat.not_lt.mpr short)

theorem error?_of_plainDigits {literal : NumberLiteral}
    (whole : PlainDigits literal.whole)
    (digits : ∀ c ∈ literal.whole, Unicode.isDecimal c = true)
    (behind : ∀ fraction, literal.fraction = some fraction →
      PlainDigits fraction ∧ ∀ c ∈ fraction, Unicode.isDecimal c = true) :
    literal.error? = none := by
  have wholeValued := valued_of_plainDigits whole digits
  have wholeShort := whole.short _ List.infix_rfl digits
  rw [error?]
  cases point : literal.fraction with
  | none =>
      have front : literal.whole.takeWhile Unicode.hasDigitValue <+:
          literal.whole := List.takeWhile_prefix _
      -- only the front of the run counts towards its length
      have shorter := front.length_le.trans wholeShort
      simp only [integerError?, lengthError?_of_le shorter, wholeValued,
        Option.none_or, if_true]
  | some fraction =>
      obtain ⟨plain, more⟩ := behind fraction point
      have short := plain.short _ List.infix_rfl more
      simp only [rationalError?, wholeValued, valued_of_plainDigits plain more,
        Bool.and_self, if_true, lengthError?_of_le wholeShort,
        lengthError?_of_le short, Option.none_or]

end NumberLiteral

theorem Token.error?_eq_none_of_plainDigits {triggers : Triggers} {token : Token}
    (read : token.Read triggers) (plain : PlainDigits token.lexeme) :
    token.error? = none := by
  obtain ⟨terminal, lexeme⟩ := token
  rw [Token.error?]
  split
  · rename_i isNumber
    obtain rfl : terminal = .number := isNumber
    obtain ⟨_, _, scanned⟩ := read
    obtain ⟨sign, whole, fraction, shape, signed, digits, pointed⟩ :=
      exists_of_number scanned
    obtain rfl : lexeme = _ := shape
    rw [NumberLiteral.ofLexeme_append signed digits pointed]
    apply NumberLiteral.error?_of_plainDigits
    · exact plain.within ⟨sign, fraction, rfl⟩
    · exact digits.2
    · intro run behind
      rcases pointed with rfl | ⟨run', rfl, more⟩
      · cases behind
      · obtain rfl : run' = run := by simpa using behind
        exact ⟨plain.within ⟨sign ++ whole ++ ['.'], [], by simp⟩, more.2⟩
  · rfl

end TemplateSyntax
