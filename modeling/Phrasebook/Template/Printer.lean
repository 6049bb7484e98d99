/-
# Writing templates

A template is written part by part (`serialize`). A plural block has three spellings: the short one
names only the form for `other` when the form for `one` is empty, the plain one writes
the forms without labels, and the labelled one writes every label. A shorter spelling
is taken only where it will be read back as the same block: the text must not look like
a label or like a key. Writing fails only where a form starts with a number and a colon,
and the number is too long to tell whether it is a key.
-/

import Phrasebook.Template.Form

namespace Phrasebook

/-- An argument placeholder as it is written (`_serialize_argument`). -/
def Argument.chars (a : Argument) : List Char :=
  '{' :: a.key.chars ++ (if a.optional then ['?'] else []) ++
    (match a.typeTag with
      | some tag => if tag = "" then [] else ':' :: tag.toList
      | none => []) ++
    a.formatters.flatMap (fun name => '|' :: name.toList) ++ ['}']

/-- An element of a plural form as it is written. -/
def FormElement.chars : FormElement → List Char
  | .text s => s.toList
  | .argument a => a.chars
  | .value => ['{', '?', '}']

/-- The text of a plural form, without its label (`_serialize_form`). -/
def PluralForm.chars (f : PluralForm) : List Char := f.elements.flatMap FormElement.chars

/-- A plural form as it is written with its label. -/
def PluralForm.labelledChars (f : PluralForm) : List Char :=
  f.category.name.toList ++ '=' :: f.chars

/-- Whether a text would be read back as a form that is labelled. -/
def looksLabelled (s : List Char) : Bool := (formLabel? s).isSome

namespace PluralBlock

/-- The text of the form for `other`, if the block may be written by it alone (`_is_shorthand`). -/
def shortBody? (b : PluralBlock) : Option (List Char) :=
  match b.forms with
  | [⟨.one, []⟩, ⟨.other, elements⟩] =>
    let s := PluralForm.chars ⟨.other, elements⟩
    if s.contains ':' || looksLabelled s then none else some s
  | _ => none

/-- Whether the forms of a block would be read back as starting with a key that is not
theirs. -/
def looksKeyed (b : PluralBlock) (body : List Char) : Except ParseError Bool :=
  if b.explicitKey then .ok false else (keyPrefix body).map Option.isSome

/-- The texts of the forms with bars between them, if the block may be written so
(`_is_positional`). -/
def plainBody? (b : PluralBlock) : Except ParseError (Option (List Char)) :=
  let texts := b.forms.map PluralForm.chars
  let body := Text.joined '|' texts
  if texts.length < 2 ∨ b.forms.map (·.category) ≠ positionalCategories texts.length then .ok none
  else
    (b.looksKeyed body).map fun keyed =>
      if keyed || texts.all looksLabelled then none else some body

/-- The labelled texts of the forms with bars between them. -/
def labelledBody (b : PluralBlock) : List Char :=
  Text.joined '|' (b.forms.map PluralForm.labelledChars)

/-- The forms of a block as they are written (`_serialize_plural`). -/
def body (b : PluralBlock) : Except ParseError (List Char) :=
  match b.shortBody? with
  | some s => .ok s
  | none => b.plainBody?.map (·.getD b.labelledBody)

/-- A plural block as it is written. -/
def chars (b : PluralBlock) : Except ParseError (List Char) :=
  b.body.map fun s =>
    '{' :: '{' :: (if b.explicitKey then b.key.chars ++ [':'] else []) ++ s ++ ['}', '}']

end PluralBlock

/-- A part of a template as it is written (`_serialize_part`). -/
def Part.chars : Part → Except ParseError (List Char)
  | .text s => .ok s.toList
  | .argument a => .ok a.chars
  | .plural b => b.chars

namespace Template

/-- A template as it is written. -/
def chars : Template → Except ParseError (List Char)
  | [] => .ok []
  | part :: rest =>
    match part.chars with
    | .error e => .error e
    | .ok s => (chars rest).map (s ++ ·)

/-- The source text of a template (`serialize`). -/
def source (t : Template) : Except ParseError String := t.chars.map String.ofList

end Template

end Phrasebook
