/-
# Blank characters and trimming

Blank characters are the 29 code points that separate words and never carry ink: the ASCII
controls from tab to carriage return and from file separator to space, and the spaces and
line separators beyond ASCII. The zero-width marks U+200B, U+FEFF and U+180E are not blank.

Trimming drops the blanks at one end or at both ends of a text.
-/

import Phrasebook.Text.Range

namespace Phrasebook
namespace Text

/-- The code points of the blank characters, as closed ranges. -/
def blankRanges : List (Nat × Nat) :=
  [(0x09, 0x0D), (0x1C, 0x20), (0x85, 0x85), (0xA0, 0xA0), (0x1680, 0x1680), (0x2000, 0x200A),
    (0x2028, 0x2029), (0x202F, 0x202F), (0x205F, 0x205F), (0x3000, 0x3000)]

/-- Whether a character is blank. -/
def isBlank (c : Char) : Bool := inRanges blankRanges c

/-- The text without its leading blanks. -/
def trimLeft (s : List Char) : List Char := s.dropWhile isBlank

/-- The text without its trailing blanks. -/
def trimRight (s : List Char) : List Char := (s.reverse.dropWhile isBlank).reverse

/-- The text without its leading and its trailing blanks. -/
def trim (s : List Char) : List Char := trimRight (trimLeft s)

/-- A string without its leading and its trailing blanks. -/
def trimmed (s : String) : String := String.ofList (trim s.toList)

end Text
end Phrasebook
