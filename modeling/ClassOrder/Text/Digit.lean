/-!
# Decimal digits

The characters that stand for the digits zero to nine in some script.  Every script has its ten
digits in a row, so the table holds the zeros alone.

## Main definitions

* `digitValue?` — the value of a decimal digit, `none` for any other character.
* `isAsciiDigit` — the decimal digits of ASCII.
* `numeral` — the number that a list of digits writes.
-/

namespace ClassOrder.Text

/-- The zero of each script that has decimal digits. -/
def zeros : List Nat :=
  [0x30, 0x660, 0x6F0, 0x7C0, 0x966, 0x9E6, 0xA66, 0xAE6, 0xB66, 0xBE6, 0xC66, 0xCE6, 0xD66,
   0xDE6, 0xE50, 0xED0, 0xF20, 0x1040, 0x1090, 0x17E0, 0x1810, 0x1946, 0x19D0, 0x1A80, 0x1A90,
   0x1B50, 0x1BB0, 0x1C40, 0x1C50, 0xA620, 0xA8D0, 0xA900, 0xA9D0, 0xA9F0, 0xAA50, 0xABF0, 0xFF10,
   0x104A0, 0x10D30, 0x11066, 0x110F0, 0x11136, 0x111D0, 0x112F0, 0x11450, 0x114D0, 0x11650,
   0x116C0, 0x11730, 0x118E0, 0x11950, 0x11C50, 0x11D50, 0x11DA0, 0x16A60, 0x16AC0, 0x16B50,
   0x1D7CE, 0x1D7D8, 0x1D7E2, 0x1D7EC, 0x1D7F6, 0x1E140, 0x1E2F0, 0x1E950, 0x1FBF0]

/-- The value of `c` as a decimal digit of any script. -/
def digitValue? (c : Char) : Option Nat :=
  (zeros.find? fun z => z ≤ c.toNat && c.toNat < z + 10).map fun z => c.toNat - z

/-- One of the ten digits of ASCII. -/
def isAsciiDigit (c : Char) : Bool := '0' ≤ c && c ≤ '9'

/-- The value of an ASCII digit. -/
def asciiDigitValue (c : Char) : Nat := c.toNat - 0x30

/-- The number that `digits` writes, the most significant first, after the number `n`. -/
def numeralFrom (n : Nat) (digits : List Nat) : Nat := digits.foldl (fun n d => 10 * n + d) n

/-- The number that a list of digits writes, the most significant first. -/
def numeral (digits : List Nat) : Nat := numeralFrom 0 digits

/-- The number that a list of ASCII digits writes. -/
def asciiNumeral (digits : List Char) : Nat := numeral (digits.map asciiDigitValue)

/-- The most digits that a written integer may have. -/
def digitLimit : Nat := 4300

end ClassOrder.Text
