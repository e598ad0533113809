import TemplateSyntax.Text.Quoted
import TemplateSyntax.Unicode.Decimal

/-!
# Number literals

A number literal is an optional sign, a run of digits, and optionally a second
run behind a point.  The digits may come from any script.  A literal has a
value unless one of its digits has none or a run has more than `digitLimit`
digits (`NumberLiteral.error?`).
-/

namespace TemplateSyntax

/-- The parts of a number literal. -/
structure NumberLiteral where
  negative : Bool
  whole : List Char
  fraction : Option (List Char)
  deriving DecidableEq, Repr

/-- The longest run of digits that has a value. -/
def digitLimit : Nat := 4300

/-- Why a number literal has no value. -/
inductive NumberError where
  | tooManyDigits (digits : Nat)
  /-- An integer has a digit without a value. -/
  | unknownInteger (literal : String)
  /-- A rational has a digit without a value. -/
  | unknownRational (literal : String)
  deriving DecidableEq, Repr

/-- The wording of a number error.  What is shown of an integer ends after two
hundred characters. -/
def NumberError.message : NumberError → String
  | .tooManyDigits digits =>
      s!"Exceeds the limit ({digitLimit} digits) for integer string conversion: value has {digits} digits; use sys.set_int_max_str_digits() to increase the limit"
  | .unknownInteger literal =>
      let shown := "Token('NUMBER', " ++ Text.quoted literal ++ ")"
      "invalid literal for int() with base 10: " ++
        String.ofList (shown.toList.take 200)
  | .unknownRational literal =>
      "Invalid literal for Fraction: " ++ Text.quoted literal

namespace NumberLiteral

/-- The parts of a number literal that has been scanned. -/
def ofLexeme (lexeme : List Char) : NumberLiteral :=
  let unsigned := if lexeme.head? = some '-' then lexeme.tail else lexeme
  let rest := unsigned.dropWhile Unicode.isDecimal
  { negative := lexeme.head? = some '-'
    whole := unsigned.takeWhile Unicode.isDecimal
    fraction := if rest.isEmpty then none else some rest.tail }

/-- The number a run of digits stands for. -/
def digitsValue (digits : List Char) : Nat :=
  digits.foldl (fun value c => 10 * value + (Unicode.digitValue? c).getD 0) 0

/-- The value without the sign, as a number of fractional units. -/
def magnitude (literal : NumberLiteral) : Nat :=
  digitsValue literal.whole * Nat.pow 10 (literal.fraction.getD []).length +
    digitsValue (literal.fraction.getD [])

/-- The value with its sign, as a number of fractional units. -/
def numerator (literal : NumberLiteral) : Int :=
  if literal.negative then -literal.magnitude else literal.magnitude

/-- How many fractional units make one. -/
def denominator (literal : NumberLiteral) : Nat :=
  Nat.pow 10 (literal.fraction.getD []).length

/-- The literal as it was written. -/
def text (literal : NumberLiteral) : String :=
  String.ofList <|
    (if literal.negative then ['-'] else []) ++ literal.whole ++
      literal.fraction.elim [] ('.' :: ·)

/-- Every digit of a run has a value. -/
def valued (run : List Char) : Bool :=
  run.all Unicode.hasDigitValue

/-- What is wrong with the length of a run. -/
def lengthError? (run : List Char) : Option NumberError :=
  if digitLimit < run.length then some (.tooManyDigits run.length) else none

/-- Why an integer has no value.  The length of its run counts up to the first
digit without a value, and it is judged before that digit is. -/
def integerError? (literal : NumberLiteral) : Option NumberError :=
  (lengthError? (literal.whole.takeWhile Unicode.hasDigitValue)).or <|
    if valued literal.whole then none else some (.unknownInteger literal.text)

/-- Why a rational with the given fraction has no value.  The digits are judged
before the lengths of the runs are. -/
def rationalError? (literal : NumberLiteral) (fraction : List Char) :
    Option NumberError :=
  if valued literal.whole && valued fraction then
    (lengthError? literal.whole).or (lengthError? fraction)
  else some (.unknownRational literal.text)

/-- Why a literal has no value, if it has none. -/
def error? (literal : NumberLiteral) : Option NumberError :=
  match literal.fraction with
  | none => literal.integerError?
  | some fraction => literal.rationalError? fraction

end NumberLiteral

end TemplateSyntax
