import TemplateSyntax.Unicode.Printable

/-!
# Texts quoted inside messages

A quoted text stands between single quotes, or between double quotes when it
holds a single quote and no double one.  The quote in use and the backslash are
escaped, and so is every character without a printed form.
-/

namespace TemplateSyntax.Text

/-- Lower-case hexadecimal digits, padded with zeros to a fixed width. -/
def hexadecimal (width code : Nat) : List Char :=
  let digits := Nat.toDigits 16 code
  List.replicate (width - digits.length) '0' ++ digits

/-- A character without a printed form by its number, in the shortest of three
widths. -/
def escapeByNumber (c : Char) : List Char :=
  if c.toNat < 0x100 then '\\' :: 'x' :: hexadecimal 2 c.toNat
  else if c.toNat < 0x10000 then '\\' :: 'u' :: hexadecimal 4 c.toNat
  else '\\' :: 'U' :: hexadecimal 8 c.toNat

/-- One character as it is written between the given quotes. -/
def escapeWithin (mark c : Char) : List Char :=
  if c = mark || c = '\\' then ['\\', c]
  else if c = '\n' then ['\\', 'n']
  else if c = '\r' then ['\\', 'r']
  else if c = '\t' then ['\\', 't']
  else if Unicode.isPrintable c then [c]
  else escapeByNumber c

/-- The quote for a text: double when it holds a single quote and no double one,
single otherwise. -/
def quoteMark (text : List Char) : Char :=
  if text.contains '\'' && !text.contains '"' then '"' else '\''

def quoted (text : String) : String :=
  let mark := quoteMark text.toList
  String.ofList
    (mark :: text.toList.flatMap (escapeWithin mark) ++ [mark])

end TemplateSyntax.Text
