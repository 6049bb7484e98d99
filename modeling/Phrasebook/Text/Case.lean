/-
# Letter case

`upper` and `lower` map whole texts. The upper case of a character may be several
characters, as `SS` of the sharp s. The lower case of a capital sigma depends on its place:
at the end of a word it is the final sigma. A word ends at a sigma that has a letter before
it and none after it, where marks that are written on a letter or inside a word are skipped
in both directions.
-/

import Phrasebook.Text.Case.Table
import Phrasebook.Text.Range

namespace Phrasebook
namespace Text

/-- The image of a character under a table of runs and a table of expansions. -/
def mapCase (runs : List CaseRun) (expansions : List (Nat × List Nat)) (c : Char) : List Char :=
  match expansions.lookup c.toNat with
  | some ns => ns.map Char.ofNat
  | none => [Char.ofNat ((runs.findSome? (·.image? c.toNat)).getD c.toNat)]

/-- The upper case of a text. -/
def upper (s : List Char) : List Char := s.flatMap (mapCase upperRuns upperExpansions)

/-- Whether the nearest character that is not skipped has a case. -/
def meetsLetter (s : List Char) : Bool :=
  match s.dropWhile (inRanges skippedRanges) with
  | [] => false
  | c :: _ => inRanges casedRanges c

/-- The lower case of a text that follows the characters `before`, nearest first. -/
def lowerAfter (before : List Char) : List Char → List Char
  | [] => []
  | c :: s =>
    (if c = 'Σ' then [if meetsLetter before && !meetsLetter s then 'ς' else 'σ']
      else mapCase lowerRuns lowerExpansions c) ++ lowerAfter (c :: before) s

/-- The lower case of a text. -/
def lower (s : List Char) : List Char := lowerAfter [] s

/-- The upper case of a string. -/
def uppercased (s : String) : String := String.ofList (upper s.toList)

/-- The lower case of a string. -/
def lowercased (s : String) : String := String.ofList (lower s.toList)

/-- The sharp s has two capitals, and a sigma that ends a word is final. -/
example :
    upper ['ß'] = ['S', 'S'] ∧ lower ['Α', 'Σ'] = ['α', 'ς'] ∧ lower ['Σ', 'Α'] = ['σ', 'α'] := by
  decide +kernel

end Text
end Phrasebook
