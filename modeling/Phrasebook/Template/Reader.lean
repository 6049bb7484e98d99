/-
# Reading templates

A source text (`TemplateParser.parse`) is scanned into segments, and then every plural block
is bound to the argument that drives it and its forms are read. A block without a key of its
own is bound to the nearest argument before it, if there is none to the first argument of
the template, and in a template without arguments to position 0.

Only one thing makes reading fail, a position with too many digits; whatever is no
placeholder is text.
-/

import Phrasebook.Template.Form

namespace Phrasebook

/-- The element that a segment of a plural form stands for. -/
def FormElement.ofSegment : Segment FormPlaceholder → FormElement
  | .literal s => .text (String.ofList s)
  | .placeholder (.argument a) => .argument a
  | .placeholder .value => .value

/-- The elements of a plural form (`TemplateParser._parse_form`). -/
def FormElement.readAll (s : List Char) : Except ParseError (List FormElement) :=
  (Segment.scan FormPlaceholder.opener s).map (·.map FormElement.ofSegment)

/-- The forms with the given categories and texts, read from the first to the last. -/
def PluralForm.readAll : List (PluralCategory × List Char) → Except ParseError (List PluralForm)
  | [] => .ok []
  | (category, s) :: rest =>
    match FormElement.readAll s with
    | .error e => .error e
    | .ok elements => (readAll rest).map ({ category, elements } :: ·)

/-- The plural block with the given body, bound to `fallback` if the body names no key
(`TemplateParser._build_plural`). -/
def PluralBlock.read (fallback : ArgumentKey) (body : List Char) :
    Except ParseError PluralBlock :=
  match keyPrefix body with
  | .error e => .error e
  | .ok (some (key, rest)) =>
    (PluralForm.readAll (labelledForms (formTexts rest))).map
      ({ key, forms := ·, explicitKey := true })
  | .ok none =>
    (PluralForm.readAll (labelledForms (formTexts body))).map ({ key := fallback, forms := · })

namespace Template

/-- The key of the first argument among the segments, position 0 if there is none. -/
def firstKey (segments : List (Segment TemplatePlaceholder)) : ArgumentKey :=
  (segments.findSome? fun
    | .placeholder (.argument a) => some a.key
    | _ => none).getD (.positional 0)

/-- The parts for the segments of a template; a plural block without a key of its own is bound to
`key`, or to the last argument between (`TemplateParser._bind`). -/
def bind (key : ArgumentKey) : List (Segment TemplatePlaceholder) → Except ParseError Template
  | [] => .ok []
  | .literal s :: rest => (bind key rest).map (.text (String.ofList s) :: ·)
  | .placeholder (.argument a) :: rest => (bind a.key rest).map (.argument a :: ·)
  | .placeholder (.plural body) :: rest =>
    match PluralBlock.read key body with
    | .error e => .error e
    | .ok block => (bind key rest).map (.plural block :: ·)

/-- The template that a source text stands for (`TemplateParser.parse`). -/
def parse (source : String) : Except ParseError Template :=
  match Segment.scan TemplatePlaceholder.opener source.toList with
  | .error e => .error e
  | .ok segments => bind (firstKey segments) segments

end Template

end Phrasebook
