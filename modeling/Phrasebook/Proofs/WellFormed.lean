/-
# What reading makes

The parts that reading (`parse`) makes of a source text are well-formed (`Template.IsWellFormed`),
however its braces stand: texts are nonempty and apart, at the top and inside every form;
keys, types and formatter names are those of a placeholder (`Argument.IsWritable`), a key
that a block takes from the arguments around it included; and every block has a form.

Texts are nonempty and apart because scanning makes them so for any opener
(`Segmentation.literal_ne_nil`, `Segmentation.isChain_isLiteral`), and both the parts of a
template and the elements of a form keep the literals of their segments where they are.
-/

import Phrasebook.Proofs.Canonical

namespace Phrasebook

variable {s body rest : List Char} {fallback key : ArgumentKey} {a : Argument} {b : PluralBlock}
variable {f : PluralForm} {ps : Template}

/-- An element of a form as reading makes it. -/
def FormElement.IsWellFormed : FormElement → Prop
  | .text s => s ≠ ""
  | .argument a => a.IsWritable
  | .value => True

/-- A form as reading makes it. -/
structure PluralForm.IsWellFormed (f : PluralForm) : Prop where
  elements : ∀ e ∈ f.elements, e.IsWellFormed
  separate : f.elements.IsChain fun e e' => ¬ (e.isText = true ∧ e'.isText = true)

/-- A block as reading makes it, whether it names its key or not. -/
structure PluralBlock.IsWellFormed (b : PluralBlock) : Prop where
  key : b.key.IsWritable
  forms_ne_nil : b.forms ≠ []
  forms : ∀ f ∈ b.forms, f.IsWellFormed

/-- A part as reading makes it. -/
def Part.IsWellFormed : Part → Prop
  | .text s => s ≠ ""
  | .argument a => a.IsWritable
  | .plural b => b.IsWellFormed

/-- A template as reading makes it. -/
structure Template.IsWellFormed (ps : Template) : Prop where
  parts : ∀ part ∈ ps, part.IsWellFormed
  separate : ps.IsChain fun part part' => ¬ (part.isText = true ∧ part'.isText = true)

namespace Segment

variable {α : Type} {opener : Opener α} {segments : List (Segment α)} {l : List Char} {x : α}

/-- Whether a segment is literal text. -/
def isLiteral : Segment α → Bool
  | .literal _ => true
  | .placeholder _ => false

/-- A list that does not start with a literal has none in front. -/
theorem isLiteral_of_head? (h : startsLiteral segments = false) :
    ∀ y ∈ segments.head?, y.isLiteral = false := by
  cases segments with
  | nil => simp
  | cons y segments =>
    cases y with
    | literal l => cases h
    | placeholder x => simp [isLiteral]

namespace Segmentation

/-- No literal segment is empty. -/
theorem literal_ne_nil (h : Segmentation opener s segments) (hl : .literal l ∈ segments) :
    l ≠ [] := by
  induction h with
  | nil => cases hl
  | literal hne _ _ _ ih =>
    rcases List.mem_cons.1 hl with he | hl
    · obtain rfl := Segment.literal.inj he
      exact hne
    · exact ih hl
  | placeholder _ _ ih => exact ih (by simpa using hl)

/-- Every placeholder was read behind a brace. -/
theorem exists_read (h : Segmentation opener s segments) (hx : .placeholder x ∈ segments) :
    ∃ s rest, opener.read s = .ok (some (x, rest)) := by
  induction h with
  | nil => cases hx
  | literal _ _ _ _ ih => exact ih (by simpa using hx)
  | placeholder hr _ ih =>
    rcases List.mem_cons.1 hx with he | hx
    · obtain rfl := Segment.placeholder.inj he
      exact ⟨_, _, hr⟩
    · exact ih hx

/-- **No two literals stand side by side.** -/
theorem isChain_isLiteral (h : Segmentation opener s segments) :
    (segments.map isLiteral).IsChain fun c d => ¬ (c = true ∧ d = true) := by
  induction h with
  | nil => exact .nil
  | literal _ hs _ _ ih =>
    refine List.isChain_cons.2 ⟨fun c hc => ?_, ih⟩
    rw [List.head?_map] at hc
    obtain ⟨y, hy, rfl⟩ := Option.mem_map.1 hc
    simp [isLiteral_of_head? hs y hy]
  | placeholder _ _ ih => exact List.isChain_cons.2 ⟨by simp [isLiteral], ih⟩

end Segmentation
end Segment

open Segment

/-- An argument that is read inside a form can be written. -/
theorem FormPlaceholder.isWritable_of_read
    (h : FormPlaceholder.read s = .ok (some (.argument a, rest))) : a.IsWritable := by
  unfold FormPlaceholder.read at h
  split at h
  · cases h
  · rename_i content rest' hb
    obtain ⟨-, hfree⟩ := braced?_eq_some_iff.1 hb
    split at h
    · simp at h
    · obtain ⟨o, ho, hm⟩ := map_eq_ok_iff.1 h
      obtain ⟨a', rfl, he⟩ := Option.map_eq_some_iff.1 hm
      obtain rfl := FormPlaceholder.argument.inj (Prod.mk.inj he).1
      exact Argument.isWritable_of_read hfree ho

/-- An argument that is read at the top of a template can be written. -/
theorem TemplatePlaceholder.isWritable_of_read
    (h : TemplatePlaceholder.read s = .ok (some (.argument a, rest))) : a.IsWritable := by
  obtain ⟨_, ⟨c, hfree, hread, -⟩, -⟩ := TemplatePlaceholder.read_eq_some_iff.1 h
  exact Argument.isWritable_of_read hfree hread

/-- **The forms that are read are well-formed.** -/
theorem PluralForm.isWellFormed_of_readAll (h : FormElement.readAll s = .ok f.elements) :
    f.IsWellFormed := by
  obtain ⟨segments, hs, he⟩ := FormElement.readAll_eq_ok_iff.1 h
  have htext (y : Segment FormPlaceholder) : (FormElement.ofSegment y).isText = y.isLiteral := by
    rcases y with l | (a | -) <;> rfl
  constructor
  · intro e hmem
    rw [← he] at hmem
    obtain ⟨y, hy, rfl⟩ := List.mem_map.1 hmem
    rcases y with l | (a | -)
    · exact fun hn => hs.literal_ne_nil hy (by simpa using hn)
    · obtain ⟨_, _, hr⟩ := hs.exists_read hy
      exact FormPlaceholder.isWritable_of_read hr
    · trivial
  · have hchain := (List.isChain_map _).1 hs.isChain_isLiteral
    rw [← he, List.isChain_map]
    simpa only [htext] using hchain

/-- **A block that is read is well-formed,** if the key that it falls back to can be written. -/
theorem PluralBlock.isWellFormed_of_read (hbody : IsPluralBody body) (hkey : fallback.IsWritable)
    (h : PluralBlock.read fallback body = .ok b) : b.IsWellFormed := by
  obtain ⟨rest, hforms, hbkey⟩ := exists_of_read h
  refine ⟨?_, (isReadable_of_read hbody h).forms_ne_nil, fun f hf => ?_⟩
  · rcases hbkey with ⟨-, hw, -⟩ | ⟨-, rfl, -⟩
    · exact hw
    · exact hkey
  · obtain ⟨p, -, -, hread⟩ := exists_mem_of_forall₂ (PluralForm.readAll_eq_ok_iff.1 hforms) hf
    exact PluralForm.isWellFormed_of_readAll hread

namespace Template

variable {segments : List (Segment TemplatePlaceholder)}

/-- The key of the first argument among the segments of a text can be written. -/
theorem isWritable_firstKey (hs : Segmentation TemplatePlaceholder.opener s segments) :
    (firstKey segments).IsWritable := by
  unfold firstKey
  cases hf : segments.findSome? _ with
  | none => exact Nat.pow_pos (by decide)
  | some k =>
    obtain ⟨y, hy, hk⟩ := List.exists_of_findSome?_eq_some hf
    split at hk
    · obtain rfl := Option.some.inj hk
      obtain ⟨_, _, hr⟩ := hs.exists_read hy
      exact (TemplatePlaceholder.isWritable_of_read hr).key
    · cases hk

namespace Bound

/-- Parts are texts where the segments are literals. -/
theorem map_isText (h : Bound key segments ps) :
    ps.map Part.isText = segments.map Segment.isLiteral := by
  induction h with
  | nil => rfl
  | text l _ ih => exact congrArg (true :: ·) ih
  | argument a _ ih => exact congrArg (false :: ·) ih
  | plural _ _ ih => exact congrArg (false :: ·) ih

/-- Every part that is made from the segments of a text is well-formed. -/
theorem isWellFormed (h : Bound key segments ps) (hkey : key.IsWritable)
    (hs : Segmentation TemplatePlaceholder.opener s segments) :
    ∀ part ∈ ps, part.IsWellFormed := by
  induction h generalizing s with
  | nil => simp
  | text l _ ih =>
    cases hs with
    | literal hne _ _ hs =>
      exact List.forall_mem_cons.2 ⟨fun hn => hne (by simpa using hn), ih hkey hs⟩
  | argument a _ ih =>
    cases hs with
    | placeholder hr hs =>
      have ha := TemplatePlaceholder.isWritable_of_read hr
      exact List.forall_mem_cons.2 ⟨ha, ih ha.key hs⟩
  | plural hb _ ih =>
    cases hs with
    | placeholder hr hs =>
      obtain ⟨_, ⟨hbody, -⟩, -⟩ := TemplatePlaceholder.read_eq_some_iff.1 hr
      exact List.forall_mem_cons.2
        ⟨PluralBlock.isWellFormed_of_read hbody hkey hb, ih hkey hs⟩

end Bound

/-- Every part that is read is well-formed. -/
theorem isWellFormed_of_mem {source : String} (h : parse source = .ok ps) :
    ∀ part ∈ ps, part.IsWellFormed := by
  obtain ⟨segments, hs, hbound⟩ := parse_eq_ok_iff.1 h
  exact hbound.isWellFormed (isWritable_firstKey hs) hs

/-- **Whatever is read is well-formed.** No source text is read as parts with an empty text, with
two texts side by side, with a key, a type or a formatter name that no placeholder could have, or
with a block without forms. -/
theorem isWellFormed_of_parse {source : String} (h : parse source = .ok ps) : ps.IsWellFormed := by
  obtain ⟨segments, hs, hbound⟩ := parse_eq_ok_iff.1 h
  refine ⟨hbound.isWellFormed (isWritable_firstKey hs) hs, ?_⟩
  have hchain := hs.isChain_isLiteral
  rwa [← hbound.map_isText, List.isChain_map] at hchain

/-- The parts of a text with stray braces, a block in front of all arguments, an empty type, an
empty formatter name, and blanks around a type and a formatter name. -/
def scraps : Template := [
  .text "\x7d",
  .plural {
    key := .named "n"
    forms := [⟨.one, [.text "? ", .argument { key := .named "b" }]⟩,
      ⟨.other, [.text "\x7b ", .value, .text " c\x7d"]⟩] },
  .text "\x7b1:",
  .argument {
    key := .named "n", typeTag := some "long int", formatters := ["two words"], optional := true },
  .text "\x7b\x7b"]

/-- A text with stray braces and blanks reads as the scraps, which are well formed. -/
theorem isWellFormed_of_parse_scraps :
    parse "\x7d{{? {b: }|{ {?} c}}}\x7b1:{ n ?: long int || two words }\x7b\x7b" = .ok scraps ∧
      scraps.IsWellFormed := by
  have h : parse "\x7d{{? {b: }|{ {?} c}}}\x7b1:{ n ?: long int || two words }\x7b\x7b" =
      .ok scraps := by cbv
  exact ⟨h, isWellFormed_of_parse h⟩

end Template

end Phrasebook
