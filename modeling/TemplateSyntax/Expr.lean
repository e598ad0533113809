import TemplateSyntax.Terminal.Number
import TemplateSyntax.Terminal.Rules

/-!
# Expressions

The values interpolations and directives refer to: names, literals,
application, lists, tuples and field access.  An operator is a name like any
other, and its use is application.
-/

namespace TemplateSyntax

inductive Expr where
  | name (name : String)
  | qualified (modules : List String) (name : String)
  | integer (value : Int)
  | rational (value : Rat)
  | string (value : String)
  | apply (function argument : Expr)
  | list (items : List Expr)
  | tuple (items : List Expr)
  | field (record : Expr) (name : String)

namespace Expr

/-- What stands between the dots of a text. -/
def pieces : List Char → List (List Char)
  | [] => [[]]
  | c :: rest =>
      if c = '.' then [] :: pieces rest
      else
        match pieces rest with
        | [] => [[c]]
        | piece :: others => (c :: piece) :: others

/-- The name an identifier stands for; a path in front of it is split at its
dots. -/
def ofIdentifier (lexeme : List Char) : Expr :=
  let parts := (pieces lexeme).map String.ofList
  match parts.dropLast with
  | [] => .name (parts.getLast?.getD "")
  | modules => .qualified modules (parts.getLast?.getD "")

/-- The number a literal stands for: exact, and a rational as soon as there is a
point. -/
def ofNumber (literal : NumberLiteral) : Expr :=
  match literal.fraction with
  | none => .integer literal.numerator
  | some _ => .rational (mkRat literal.numerator literal.denominator)

/-- The characters the inside of a string literal stands for. -/
def unescape : List Char → List Char
  | '\\' :: escaped :: rest =>
      (Scan.escapeValue? escaped).getD escaped :: unescape rest
  | c :: rest => c :: unescape rest
  | [] => []

/-- The text a string literal stands for. -/
def ofString (lexeme : List Char) : Expr :=
  .string (String.ofList (unescape lexeme.tail.dropLast))

/-- The operator between two parentheses, as a name. -/
def ofOperatorName (lexeme : List Char) : Expr :=
  .name (String.ofList lexeme.tail.dropLast)

/-- The operator itself, as a name. -/
def ofOperator (lexeme : List Char) : Expr :=
  .name (String.ofList lexeme)

/-- A field of a record, named behind a dot. -/
def access (record : Expr) (lexeme : List Char) : Expr :=
  .field record (String.ofList lexeme.tail)

end Expr

end TemplateSyntax
