/-!
# Decimal digits of every script

Each script that writes decimal numbers has its ten digits in one ascending
block, so a digit is known by the zero that opens its block.  The digits of
Unicode 17 are recognised; those of the scripts added since Unicode 14 are
recognised without having a value (`digitValue?`).
-/

namespace TemplateSyntax.Unicode

/-- The zero of every block of ten decimal digits in Unicode 14, in ascending
order. -/
def valuedZeros : List Nat := [
  0x0030, 0x0660, 0x06F0, 0x07C0, 0x0966, 0x09E6, 0x0A66, 0x0AE6,
  0x0B66, 0x0BE6, 0x0C66, 0x0CE6, 0x0D66, 0x0DE6, 0x0E50, 0x0ED0,
  0x0F20, 0x1040, 0x1090, 0x17E0, 0x1810, 0x1946, 0x19D0, 0x1A80,
  0x1A90, 0x1B50, 0x1BB0, 0x1C40, 0x1C50, 0xA620, 0xA8D0, 0xA900,
  0xA9D0, 0xA9F0, 0xAA50, 0xABF0, 0xFF10, 0x104A0, 0x10D30, 0x11066,
  0x110F0, 0x11136, 0x111D0, 0x112F0, 0x11450, 0x114D0, 0x11650, 0x116C0,
  0x11730, 0x118E0, 0x11950, 0x11C50, 0x11D50, 0x11DA0, 0x16A60, 0x16AC0,
  0x16B50, 0x1D7CE, 0x1D7D8, 0x1D7E2, 0x1D7EC, 0x1D7F6, 0x1E140, 0x1E2F0,
  0x1E950, 0x1FBF0]

/-- The zero of every block added between Unicode 14 and Unicode 17. -/
def recentZeros : List Nat := [
  0x10D40, 0x116D0, 0x116DA, 0x11BF0, 0x11DE0, 0x11F50, 0x16130, 0x16D70,
  0x1CCF0, 0x1E4F0, 0x1E5F1]

/-- How far a character lies behind the zero of its block, if it lies in one of
the blocks opened by the given zeros. -/
def digitIn? (zeros : List Nat) (c : Char) : Option Nat :=
  (zeros.find? fun first => first ≤ c.toNat && c.toNat < first + 10).map
    (c.toNat - ·)

/-- The value of a decimal digit, if its script has values. -/
def digitValue? (c : Char) : Option Nat :=
  digitIn? valuedZeros c

def hasDigitValue (c : Char) : Bool :=
  (digitValue? c).isSome

/-- A decimal digit of any script. -/
def isDecimal (c : Char) : Bool :=
  hasDigitValue c || (digitIn? recentZeros c).isSome

theorem isDecimal_of_hasDigitValue {c : Char}
    (valued : hasDigitValue c = true) : isDecimal c = true := by
  simp [isDecimal, valued]

end TemplateSyntax.Unicode
