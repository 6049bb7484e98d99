/-
# Placeholders

The text between the braces of an argument placeholder is a key, then a type after a
colon, then formatter names, each after a bar. Blanks around the type and around the
names do not count; an empty type and empty names are dropped (`parse_argument_content`).

`braced?` finds the text between a brace that has just been opened and the next
closing brace, provided that no other brace is opened in between.
-/

import Phrasebook.Template.Key
import Phrasebook.Text.Pieces

namespace Phrasebook

/-- The text up to the next closing brace and the text after it; `none` if a brace is
opened before that, or if no brace closes. -/
def braced? : List Char → Option (List Char × List Char)
  | [] => none
  | c :: s =>
    if c = '}' then some ([], s)
    else if c = '{' then none
    else (braced? s).map fun r => (c :: r.1, r.2)

/-- The text inside the braces and the rest are what there was, without the brace. -/
theorem braced?_eq_some {s content rest : List Char} (h : braced? s = some (content, rest)) :
    s = content ++ '}' :: rest := by
  induction s generalizing content with
  | nil => simp [braced?] at h
  | cons c s ih =>
    unfold braced? at h
    split at h
    · rename_i hc
      obtain ⟨rfl, rfl⟩ := Prod.mk.inj (Option.some.inj h)
      simp [hc]
    · split at h
      · simp at h
      · obtain ⟨⟨content', rest'⟩, hr, he⟩ := Option.map_eq_some_iff.1 h
        obtain ⟨rfl, rfl⟩ := Prod.mk.inj he
        simp [ih hr]

/-- The formatter names after the bars. -/
def formatterNames (pieces : List (List Char)) : List String :=
  ((pieces.map Text.trim).filter (· ≠ [])).map String.ofList

/-- The type after the colon, if there is one and it is not blank. -/
def typeTag? : Option (List Char) → Option String
  | none => none
  | some s => if Text.trim s = [] then none else some (String.ofList (Text.trim s))

/-- The argument that the content of a placeholder describes (`parse_argument_content`). -/
def Argument.read (content : List Char) : Except ParseError (Option Argument) :=
  match Text.pieces '|' content with
  | [] => .ok none
  | declaration :: names =>
    let r := Text.cut ':' declaration
    (ArgumentKey.readMarked r.1).map (·.map fun k =>
      { key := k.1, typeTag := typeTag? r.2, formatters := formatterNames names, optional := k.2 })

end Phrasebook
