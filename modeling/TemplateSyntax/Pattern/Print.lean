import TemplateSyntax.Expr.Print
import TemplateSyntax.Pattern

/-!
# Printing patterns

A source text for every pattern that reading can produce.  Arguments and the
part behind an alias stand between parentheses; a field bound to a variable of
its own name is written alone when that name cannot be written as a variable.
-/

namespace TemplateSyntax.Pattern

open TemplateSyntax.Expr (parenthesised commaSeparated printName)

/-- A constructor, its modules joined by dots. -/
def printConstructor (constructor : QualifiedName) : List Char :=
  ['.'].intercalate
    ((constructor.modules ++ [constructor.name]).map printName)

/-- The name can be written as a variable. -/
def isVariableWord (name : String) : Bool :=
  name.toList.head?.any Scan.isVariableStart && name.toList.all isNameChar

/-- A field bound to a variable of its own name that only the field can hold. -/
def isPunned (name : String) : Pattern → Bool
  | .var other => name == other && !isVariableWord name
  | _ => false

/-- A field, alone if it has to be, and otherwise with the text of its
pattern. -/
def printField (name : String) (value : Pattern) (text : List Char) :
    List Char :=
  if isPunned name value then printName name
  else printName name ++ " = ".toList ++ text

/-- The dots at the end of a record. -/
def printWildcard (wildcard : Bool) : List (List Char) :=
  if wildcard then [['.', '.']] else []

mutual

/-- A source text of a pattern. -/
def print : Pattern → List Char
  | .var name => name.toList
  | .named name pattern =>
      name.toList ++ '@' :: parenthesised (print pattern)
  | .construct constructor arguments =>
      printConstructor constructor ++
        (printItems arguments).flatMap fun text => ' ' :: parenthesised text
  | .record constructor fields wildcard =>
      printConstructor constructor ++ '{' ::
        commaSeparated (printFields fields ++ printWildcard wildcard) ++ ['}']
  | .tuple items => parenthesised (commaSeparated (printItems items))
  | .list items => '[' :: commaSeparated (printItems items) ++ [']']

def printItems : List Pattern → List (List Char)
  | [] => []
  | item :: items => print item :: printItems items

def printFields : List (String × Pattern) → List (List Char)
  | [] => []
  | (name, value) :: fields =>
      printField name value (print value) :: printFields fields

end

theorem printItems_eq_map (items : List Pattern) :
    printItems items = items.map print := by
  induction items with
  | nil => rfl
  | cons item items ih => rw [printItems, ih, List.map_cons]

end TemplateSyntax.Pattern
