/-
# Plural forms as they are written

The body of a plural block may start with the key of the argument that drives it and
a colon (`split_key_prefix`). What follows is cut at the bars outside all braces into one
text per form (`split_top_level`). A text may carry a label, the name of its category and
an equals sign (`parse_form_label`).

If every text is labelled, the labels say which form it is. Otherwise a single text is the
form for everything but one, whose form is empty; and several texts are labelled by their
number and place (`positional_categories`), the last one always for `other`. From the
seventh text on, those before the last are left out.
-/

import Phrasebook.Template.Segment

namespace Phrasebook

/-- The category that a text is labelled with, and the text behind the label
(`parse_form_label`). -/
def formLabel? (s : List Char) : Option (PluralCategory × List Char) :=
  PluralCategory.all.findSome? fun c =>
    match Text.after? c.name.toList (Text.trimLeft s) with
    | none => none
    | some t =>
      match Text.trimLeft t with
      | '=' :: rest => some (c, Text.trimLeft rest)
      | _ => none

/-- The key that the body of a plural block starts with, and the text behind the colon
(`split_key_prefix`). The key must not reach over a bar or an opening brace. -/
def keyPrefix (body : List Char) : Except ParseError (Option (ArgumentKey × List Char)) :=
  match Text.cut ':' body with
  | (_, none) => .ok none
  | (head, some rest) =>
    if head.contains '|' || head.contains '{' then .ok none
    else (ArgumentKey.readMarked head).map (·.map fun k => (k.1, rest))

/-- One more character in front of the first piece. -/
def consFirst (c : Char) : List (List Char) → List (List Char)
  | [] => [[c]]
  | p :: ps => (c :: p) :: ps

/-- The pieces of a text between the separators that stand outside all braces, where the number
counts the braces that are open (`split_top_level`). -/
def topLevelPieces (separator : Char) : Nat → List Char → List (List Char)
  | _, [] => [[]]
  | depth, c :: s =>
    if c = '{' then consFirst c (topLevelPieces separator (depth + 1) s)
    else if c = '}' ∧ 0 < depth then consFirst c (topLevelPieces separator (depth - 1) s)
    else if c = separator ∧ depth = 0 then [] :: topLevelPieces separator depth s
    else consFirst c (topLevelPieces separator depth s)

/-- The texts of the forms of a plural block. -/
def formTexts (body : List Char) : List (List Char) := topLevelPieces '|' 0 body

/-- The categories of unlabelled forms by their number (`positional_categories`). -/
def positionalCategories : Nat → List PluralCategory
  | 0 => [.zero, .one, .two, .few, .other]
  | 2 => [.one, .other]
  | 3 => [.zero, .one, .other]
  | n => [PluralCategory.zero, .one, .two, .few, .many].take (min n 6 - 1) ++ [.other]

/-- The categories and texts of unlabelled forms. -/
def positionalForms (texts : List (List Char)) : List (PluralCategory × List Char) :=
  let categories := positionalCategories texts.length
  categories.zip (texts.take (categories.length - 1) ++ texts.getLast?.toList)

/-- The labels of all texts, if every text has one. -/
def formLabels? : List (List Char) → Option (List (PluralCategory × List Char))
  | [] => some []
  | t :: ts =>
    match formLabel? t, formLabels? ts with
    | some f, some fs => some (f :: fs)
    | _, _ => none

/-- The categories of the forms of a plural block, each with the text of the form
(`TemplateParser._build_plural`). -/
def labelledForms (texts : List (List Char)) : List (PluralCategory × List Char) :=
  match formLabels? texts with
  | some forms => forms
  | none =>
    match texts with
    | [t] => [(.one, []), (.other, t)]
    | texts => positionalForms texts

/-- A text is cut into one piece at least. -/
theorem topLevelPieces_ne_nil (separator : Char) (depth : Nat) (s : List Char) :
    topLevelPieces separator depth s ≠ [] := by
  cases s with
  | nil => simp [topLevelPieces]
  | cons c s =>
    have cons_ne (ps : List (List Char)) : consFirst c ps ≠ [] := by cases ps <;> simp [consFirst]
    unfold topLevelPieces
    split
    · exact cons_ne _
    · split
      · exact cons_ne _
      · split
        · simp
        · exact cons_ne _

/-- A character in front of the first piece is in front of the joined pieces. -/
theorem joined_consFirst (separator c : Char) {ps : List (List Char)} (h : ps ≠ []) :
    Text.joined separator (consFirst c ps) = c :: Text.joined separator ps := by
  cases ps with
  | nil => exact absurd rfl h
  | cons p ps => cases ps <;> simp [consFirst, Text.joined]

/-- **Cutting at the top level loses nothing but the separators.** -/
theorem joined_topLevelPieces (separator : Char) (depth : Nat) (s : List Char) :
    Text.joined separator (topLevelPieces separator depth s) = s := by
  induction s generalizing depth with
  | nil => rfl
  | cons c s ih =>
    unfold topLevelPieces
    split
    · rw [joined_consFirst _ _ (topLevelPieces_ne_nil _ _ _), ih]
    · split
      · rw [joined_consFirst _ _ (topLevelPieces_ne_nil _ _ _), ih]
      · split
        · rename_i hc
          cases hp : topLevelPieces separator depth s with
          | nil => exact absurd hp (topLevelPieces_ne_nil _ _ _)
          | cons p ps => simp [Text.joined, ← hp, ih, hc.1]
        · rw [joined_consFirst _ _ (topLevelPieces_ne_nil _ _ _), ih]

end Phrasebook
