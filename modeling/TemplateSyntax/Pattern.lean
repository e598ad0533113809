import TemplateSyntax.Name

/-!
# Patterns

The left sides of loops and case branches: variables, aliases, constructors
with arguments, records, tuples and lists.  A record keeps its fields as they
were written, doubles included, and may end in a wildcard for the fields it
does not mention.
-/

namespace TemplateSyntax

inductive Pattern where
  | var (name : String)
  | named (name : String) (pattern : Pattern)
  | construct (constructor : QualifiedName) (arguments : List Pattern)
  | record (constructor : QualifiedName) (fields : List (String × Pattern))
      (wildcard : Bool)
  | tuple (items : List Pattern)
  | list (items : List Pattern)

namespace Pattern

/-- A name without the spaces behind it. -/
def trimmed (lexeme : List Char) : List Char :=
  (lexeme.reverse.dropWhile (· == ' ')).reverse

/-- The name a word stands for. -/
def wordName (lexeme : List Char) : String :=
  String.ofList (trimmed lexeme)

/-- The name an operator between parentheses stands for. -/
def operatorName (lexeme : List Char) : String :=
  String.ofList (trimmed lexeme).tail.dropLast

/-- A constructor named by pieces, latest first. -/
def constructorName : List String → QualifiedName
  | [] => ⟨[], ""⟩
  | name :: modules => ⟨modules.reverse, name⟩

end Pattern

end TemplateSyntax
