import TemplateSyntax.Expr

/-!
# Printing expressions

A source text for every expression that reading can produce.  Operators stand
between parentheses, both sides of an application do, and so does a record in
front of its field; a rational is written with at least one digit behind the
point.
-/

namespace TemplateSyntax.Expr

def parenthesised (text : List Char) : List Char :=
  '(' :: text ++ [')']

/-- Texts with a comma and a space between them. -/
def commaSeparated (texts : List (List Char)) : List Char :=
  [',', ' '].intercalate texts

/-- A name, between parentheses if it is an operator. -/
def printName (name : String) : List Char :=
  if name.toList.head?.any isOperatorChar then parenthesised name.toList
  else name.toList

/-- How many digits behind the point a denominator needs, and at least one. -/
def decimalPlaces (denominator : Nat) : Nat :=
  ((List.range (denominator.log2 + 2)).tail.find? fun places =>
    Nat.pow 10 places % denominator = 0).getD 1

/-- A rational with a finite decimal expansion. -/
def printRational (value : Rat) : List Char :=
  let places := decimalPlaces value.den
  let scale := Nat.pow 10 places
  let units := value.num.natAbs * (scale / value.den)
  let digits := Nat.toDigits 10 (units % scale)
  (if value.num < 0 then ['-'] else []) ++
    Nat.toDigits 10 (units / scale) ++ '.' ::
      List.replicate (places - digits.length) '0' ++ digits

def printCharacter (c : Char) : List Char :=
  if c = '"' || c = '\\' then ['\\', c] else [c]

def printString (text : String) : List Char :=
  '"' :: text.toList.flatMap printCharacter ++ ['"']

mutual

/-- A source text of an expression. -/
def print : Expr → List Char
  | .name word => printName word
  | .qualified modules word =>
      ['.'].intercalate ((modules ++ [word]).map String.toList)
  | .integer value => (toString value).toList
  | .rational value => printRational value
  | .string text => printString text
  | .apply function argument =>
      parenthesised (print function) ++ ' ' :: parenthesised (print argument)
  | .list items => '[' :: commaSeparated (printItems items) ++ [']']
  | .tuple items => parenthesised (commaSeparated (printItems items))
  | .field record word => parenthesised (print record) ++ '.' :: word.toList

def printItems : List Expr → List (List Char)
  | [] => []
  | item :: items => print item :: printItems items

end

end TemplateSyntax.Expr
