/-
# Decimal digits

Every script that writes numbers in base ten has a run of ten digits; the run is
known by the code point of its zero, here those of Unicode 15.1. `digit?` gives the value
of a digit of any script, `asciiDigit` of an ASCII digit only.

`ofDigits` reads digit values, most significant first, and `numeral` writes a number in
ASCII digits without leading zeros.
-/

namespace Phrasebook
namespace Text

/-- The code points of the zeros of all scripts. -/
def zeros : List Nat := [
    0x30, 0x660, 0x6F0, 0x7C0, 0x966, 0x9E6, 0xA66, 0xAE6, 0xB66, 0xBE6, 0xC66, 0xCE6, 0xD66, 0xDE6,
    0xE50, 0xED0, 0xF20, 0x1040, 0x1090, 0x17E0, 0x1810, 0x1946, 0x19D0, 0x1A80, 0x1A90, 0x1B50,
    0x1BB0, 0x1C40, 0x1C50, 0xA620, 0xA8D0, 0xA900, 0xA9D0, 0xA9F0, 0xAA50, 0xABF0, 0xFF10, 0x104A0,
    0x10D30, 0x11066, 0x110F0, 0x11136, 0x111D0, 0x112F0, 0x11450, 0x114D0, 0x11650, 0x116C0,
    0x11730, 0x118E0, 0x11950, 0x11C50, 0x11D50, 0x11DA0, 0x11F50, 0x16A60, 0x16AC0, 0x16B50,
    0x1D7CE, 0x1D7D8, 0x1D7E2, 0x1D7EC, 0x1D7F6, 0x1E140, 0x1E2F0, 0x1E4F0, 0x1E950, 0x1FBF0]

/-- The value of a decimal digit of any script. -/
def digit? (c : Char) : Option Nat :=
  (zeros.find? fun z => z ≤ c.toNat && c.toNat < z + 10).map (c.toNat - ·)

/-- Whether a character is an ASCII digit. -/
def isAsciiDigit (c : Char) : Bool := '0' ≤ c && c ≤ '9'

/-- The value of an ASCII digit; of no use on other characters. -/
def asciiDigit (c : Char) : Nat := c.toNat - 48

/-- The ASCII digit of a value below ten. -/
def digitChar (d : Nat) : Char := Char.ofNat (48 + d)

/-- The number with the given digits, most significant first. -/
def ofDigits (ds : List Nat) : Nat := ds.foldl (fun n d => 10 * n + d) 0

/-- The number that a text of ASCII digits denotes. -/
def asciiValue (s : List Char) : Nat := ofDigits (s.map asciiDigit)

/-- A number in ASCII digits, without leading zeros. -/
def numeral (n : Nat) : List Char := Nat.toDigits 10 n

/-- An integer in ASCII digits, with a minus sign if it is negative. -/
def signedNumeral : Int → List Char
  | .ofNat n => numeral n
  | .negSucc n => '-' :: numeral (n + 1)

/-- A number in at least so many ASCII digits. -/
def padded (length n : Nat) : List Char := (numeral n).leftpad length '0'

/-- The number of decimal digits of a number; zero has one. -/
def digitCount (n : Nat) : Nat := (numeral n).length

/-- More digits go on from the number so far. -/
theorem ofDigits_append (ds es : List Nat) :
    ofDigits (ds ++ es) = es.foldl (fun n d => 10 * n + d) (ofDigits ds) :=
  List.foldl_append

/-- One digit more makes ten times the number and the digit. -/
@[simp] theorem ofDigits_append_singleton (ds : List Nat) (d : Nat) :
    ofDigits (ds ++ [d]) = 10 * ofDigits ds + d := by
  simp [ofDigits_append]

end Text
end Phrasebook
