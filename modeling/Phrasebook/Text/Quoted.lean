/-
# Quoted text

A text is shown between quotes with everything that cannot be shown as itself escaped. The
quotes are single unless the text holds a single quote and no double one. A backslash and
the quote itself are escaped by a backslash, line feed, carriage return and tab by their
letters, and every other unprintable character by its code point in two, four or eight
hexadecimal digits.
-/

import Phrasebook.Text.Printable

namespace Phrasebook
namespace Text

/-- The digit of a value below sixteen, letters in lower case. -/
def hexDigit (d : Nat) : Char := if d < 10 then Char.ofNat (48 + d) else Char.ofNat (87 + d)

/-- The last `width` hexadecimal digits of a number. -/
def hexadecimal : (width n : Nat) → List Char
  | 0, _ => []
  | width + 1, n => hexadecimal width (n / 16) ++ [hexDigit (n % 16)]

/-- A character inside the given quotes. -/
def escape (quote c : Char) : List Char :=
  if c = quote ∨ c = '\\' then ['\\', c]
  else if c = '\n' then ['\\', 'n']
  else if c = '\r' then ['\\', 'r']
  else if c = '\t' then ['\\', 't']
  else if isPrintable c then [c]
  else if c.toNat ≤ 0xFF then '\\' :: 'x' :: hexadecimal 2 c.toNat
  else if c.toNat ≤ 0xFFFF then '\\' :: 'u' :: hexadecimal 4 c.toNat
  else '\\' :: 'U' :: hexadecimal 8 c.toNat

/-- The quote that a text is shown between. -/
def quoteFor (s : List Char) : Char := if s.contains '\'' && !s.contains '"' then '"' else '\''

/-- A text between quotes. -/
def quoted (s : List Char) : List Char :=
  let q := quoteFor s
  q :: s.flatMap (escape q) ++ [q]

/-- A string between quotes. -/
def quotedString (s : String) : String := String.ofList (quoted s.toList)

end Text
end Phrasebook
