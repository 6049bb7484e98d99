/-
# Cursors

A cursor (`Cursor`) is a place in a text. Moving it gives a new cursor and never leaves the text
behind its end; a cursor that is made beyond the end finds nothing.
-/

import Phrasebook.Text.Digit
import Phrasebook.Text.Pieces

namespace Phrasebook
namespace Text

/-- A place in a text, counted in characters. -/
structure Cursor where
  source : List Char
  position : Nat
  deriving DecidableEq

/-- A character was asked for at or behind the end of the text. -/
structure EndOfText where
  position : Nat
  deriving DecidableEq

/-- What is reported at the end of a text. -/
def EndOfText.message (e : EndOfText) : String :=
  "Unexpected EOF at position " ++ String.ofList (numeral e.position)

namespace Cursor

/-- Whether nothing is left behind the cursor. -/
def atEnd (c : Cursor) : Bool := c.source.length ≤ c.position

/-- The text behind the cursor. -/
def rest (c : Cursor) : List Char := c.source.drop c.position

/-- The character behind the cursor. -/
def current (c : Cursor) : Except EndOfText Char :=
  match c.source[c.position]? with
  | some x => .ok x
  | none => .error ⟨c.position⟩

/-- Whether the text behind the cursor starts with `s`. Behind the end of the text nothing
starts, not even the empty text. -/
def startsWith (c : Cursor) (s : List Char) : Bool :=
  c.position ≤ c.source.length && (after? s c.rest).isSome

/-- The number of characters before the first occurrence of `search`. -/
def distance? (search : List Char) : List Char → Option Nat
  | [] => if search = [] then some 0 else none
  | x :: s => if (after? search (x :: s)).isSome then some 0 else (distance? search s).map (· + 1)

/-- The place of the next occurrence of `search`, the end of the text if there is none. -/
def find (c : Cursor) (search : List Char) : Nat :=
  match distance? search c.rest with
  | some n => if c.position ≤ c.source.length then c.position + n else c.source.length
  | none => c.source.length

/-- The cursor at a place, or at the end of the text if the place is behind it. -/
def moveTo (c : Cursor) (position : Nat) : Cursor :=
  { c with position := min position c.source.length }

/-- The cursor some characters further on. -/
def advance (c : Cursor) (count : Nat) : Cursor := c.moveTo (c.position + count)

/-- The text from the cursor up to a place. -/
def sliceTo (c : Cursor) (stop : Nat) : List Char := (c.source.take stop).drop c.position

/-- A cursor that has been moved stands inside the text. -/
theorem moveTo_position_le (c : Cursor) (position : Nat) :
    (c.moveTo position).position ≤ (c.moveTo position).source.length := by
  simp only [moveTo]
  omega

end Cursor
end Text
end Phrasebook
