import TemplateSyntax.Proofs.Conversion
import TemplateSyntax.Proofs.Naming

/-!
# String literals

Any sequence of items between double quotes is read as the text the items stand
for, however its characters are escaped, and a text that begins with a quote is
read as a string only if it is such a sequence with blanks behind it
(`parseExpr_stringLiteral`).
-/

namespace TemplateSyntax

open TemplateSyntax.Expr (StringItem)
open Expr.Grammar (Expression)

namespace Expr

open Grammar Scan

/-! ### Derivations of strings -/

/-- The tokens are one literal, or begin in front of one. -/
def AreString (tokens : List Token) (value : String) : Prop :=
  (∃ lexeme, tokens = [⟨.string, lexeme⟩] ∧ ofString lexeme = .string value) ∨
    ∃ first others, tokens = first :: others ∧
      (first.terminal = .exprOpenParen ∨ first.terminal = .blanks)

theorem foldl_access_eq_string {names : List (List Char)} {record : Expr}
    {value : String} (same : names.foldl access record = .string value) :
    names = [] ∧ record = .string value := by
  rcases List.eq_nil_or_concat names with rfl | ⟨front, last, rfl⟩
  · exact ⟨rfl, same⟩
  · rw [List.concat_eq_append, List.foldl_append] at same
    cases same

theorem areString_of_tightAtom {tokens : List Token} {value : String}
    (atom : TightAtom tokens (.string value)) : AreString tokens value := by
  generalize same : Expr.string value = expr at atom
  cases atom with
  | group => exact .inr ⟨_, _, rfl, .inl rfl⟩
  | tuple => cases same
  | operatorName => cases same
  | string lexeme => exact .inl ⟨lexeme, rfl, same.symm⟩

theorem areString_of_atom {tokens : List Token} {value : String}
    (atom : Atom tokens (.string value)) : AreString tokens value := by
  generalize same : Expr.string value = expr at atom
  cases atom with
  | tight tight => exact areString_of_tightAtom (same ▸ tight)
  | emptyList => cases same
  | list => cases same
  | number lexeme =>
      unfold ofNumber at same
      split at same <;> cases same
  | identifier lexeme =>
      unfold ofIdentifier at same
      dsimp only at same
      split at same <;> cases same

theorem areString_of_application {tokens : List Token} {value : String}
    (application : Application tokens (.string value)) :
    AreString tokens value := by
  generalize same : Expr.string value = expr at application
  cases application with
  | operand operand =>
      obtain ⟨names, atom⟩ := operand
      obtain ⟨rfl, rfl⟩ := foldl_access_eq_string same.symm
      simpa [accesses] using areString_of_atom atom
  | spaced => cases same
  | tight => cases same

theorem areString_of_expression {tokens : List Token} {value : String}
    (expression : Expression tokens (.string value)) :
    AreString tokens value := by
  cases expression with
  | plain body =>
      cases body with
      | application application => exact areString_of_application application
  | indented => exact .inr ⟨_, _, rfl, .inr rfl⟩

/-! ### Texts that are read as strings -/

theorem exists_items_of_parseExpr {text value : String} {label : Option String}
    (quote : text.toList.head? = some '"')
    (answer : parseExpr text label = .ok (.string value)) :
    ∃ items trail, text.toList = StringItem.literal items ++ trail ∧
      (∀ c ∈ trail, isSpaceOrTab c = true) ∧
      value = StringItem.meaning items := by
  obtain ⟨tokens, laid, expression, _⟩ := parseExpr_eq_ok_iff.mp answer
  obtain ⟨trail, split, blank⟩ := exists_trimmed text
  rcases areString_of_expression expression with
    ⟨lexeme, rfl, same⟩ | ⟨first, others, rfl, front⟩
  · have whole := laid.text_eq
    obtain ⟨_, _, read⟩ := laid.exists_scan List.mem_cons_self
    obtain ⟨items, literal⟩ := exists_items_of_stringLiteral read
    obtain rfl : lexeme = _ := literal
    refine ⟨items, trail, ?_, blank, ?_⟩
    · rw [split, whole]
      simp
    · rw [ofString_literal] at same
      exact (Expr.string.inj same).symm
  · -- the quote would have to begin a parenthesis or a blank
    obtain ⟨terminal, lexeme⟩ := first
    generalize (trimEnd text).toList = trimmed at laid split
    cases laid with
    | cons read _ =>
        rcases front with paren | blanks
        · obtain rfl : terminal = .exprOpenParen := paren
          obtain ⟨_, rfl⟩ := char_eq_some_iff.mp read
          rw [split] at quote
          cases quote
        · obtain rfl : terminal = .blanks := blanks
          obtain ⟨c, tail, rfl, space, _, _⟩ := some1_eq_some_iff.mp read
          rw [split] at quote
          cases quote
          cases space

end Expr

theorem parseExpr_literal (items : List StringItem) (label : Option String) :
    parseExpr (String.ofList (StringItem.literal items)) label =
      .ok (.string (StringItem.meaning items)) :=
  ((Expr.Spells.string items).parseExpr_iff label).mpr
    (Expr.fits_of_flat rfl trivial)

/-- The escapes of the string literals in a text that is read are all known. -/
theorem exists_items_of_token {text : List Char} {tokens : List Token}
    (laid : Laid Triggers.standard text tokens []) {token : Token}
    (member : token ∈ tokens) (isString : token.terminal = .string) :
    ∃ items, token.lexeme = StringItem.literal items ∧
      Expr.unescape? token.lexeme.tail.dropLast =
        some (items.map StringItem.character) := by
  obtain ⟨terminal, lexeme⟩ := token
  obtain rfl : terminal = .string := isString
  obtain ⟨_, _, read⟩ := laid.exists_scan member
  obtain ⟨items, literal⟩ := Expr.exists_items_of_stringLiteral read
  obtain rfl : lexeme = _ := literal
  exact ⟨items, rfl, by rw [StringItem.inside_literal, Expr.unescape?_items]⟩

/-- Items between double quotes are read as the text they stand for; every text
is written by some items, and all items that write it are read as it.  What
begins with a quote and is read as a string is made of items, and wherever a
literal stands in a text that is read, its escapes are known. -/
theorem parseExpr_stringLiteral :
    (∀ items label, parseExpr (String.ofList (StringItem.literal items)) label =
      .ok (.string (StringItem.meaning items))) ∧
    (∀ value : String, (∃ items, StringItem.meaning items = value) ∧
      ∀ items label, StringItem.meaning items = value →
        parseExpr (String.ofList (StringItem.literal items)) label =
          .ok (.string value)) ∧
    (∀ (text value : String) label, text.toList.head? = some '"' →
      parseExpr text label = .ok (.string value) →
      ∃ items trail, text.toList = StringItem.literal items ++ trail ∧
        (∀ c ∈ trail, Scan.isSpaceOrTab c = true) ∧
        value = StringItem.meaning items) ∧
    ∀ text label expr, parseExpr text label = .ok expr →
      ∃ tokens, Laid Triggers.standard (trimEnd text).toList tokens [] ∧
        Expression tokens expr ∧
        ∀ token ∈ tokens, token.terminal = .string →
          ∃ items, token.lexeme = StringItem.literal items ∧
            Expr.unescape? token.lexeme.tail.dropLast =
              some (items.map StringItem.character) := by
  refine ⟨parseExpr_literal, ?_, ?_, ?_⟩
  · intro value
    refine ⟨⟨_, StringItem.meaning_ofChar value⟩, ?_⟩
    rintro items label rfl
    exact parseExpr_literal items label
  · intro text value label quote answer
    exact Expr.exists_items_of_parseExpr quote answer
  · intro text label expr answer
    obtain ⟨tokens, laid, expression, _⟩ := parseExpr_eq_ok_iff.mp answer
    exact ⟨tokens, laid, expression, fun _ member isString =>
      exists_items_of_token laid member isString⟩

/-- A backslash, a quote and a line feed, with blanks behind the literal. -/
theorem parseExpr_stringLiteral_backslashes :
    parseExpr "\"\\\\\\\"\n\" \t" none = .ok (.string "\\\"\n") ∧
      ∃ items trail, "\"\\\\\\\"\n\" \t".toList =
          StringItem.literal items ++ trail ∧
        (∀ c ∈ trail, Scan.isSpaceOrTab c = true) ∧
        "\\\"\n" = StringItem.meaning items := by
  let items : List StringItem :=
    [.escaped .backslash, .escaped .doubleQuote, .plain '\n' (by decide)]
  have answer := parseExpr_stringLiteral.1 items none
  have trimmed : trimEnd "\"\\\\\\\"\n\" \t" =
      trimEnd (String.ofList (StringItem.literal items)) := by decide
  rw [parseExpr, ← trimmed] at answer
  have accepted : parseExpr "\"\\\\\\\"\n\" \t" none =
      .ok (.string "\\\"\n") := answer
  exact ⟨accepted,
    parseExpr_stringLiteral.2.2.1 _ _ none (by decide) accepted⟩

end TemplateSyntax
