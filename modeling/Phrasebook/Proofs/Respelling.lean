/-
# Other spellings of a text

Two texts that differ in nothing but what stands between the braces of placeholders have
the same braces open at the end (`Respelled.braceDepth_eq`), are cut at the same bars
(`Respelled.isPiece`), and agree up to the first brace (`Respelled.exists_append`).

The text that is written for the elements of a plural form is another spelling of the text
that they were read from (`respelled_of_readAll`), and it is read back as the same elements
(`readAll_chars`).
-/

import Phrasebook.Proofs.Piece
import Phrasebook.Proofs.Placeholder
import Phrasebook.Proofs.Slice
import Phrasebook.Template.Reader

namespace Phrasebook

variable {s t p v x rest : List Char} {c : Char} {d : Nat}
variable {elements : List FormElement} {segments : List (Segment FormPlaceholder)}

/-- Two texts that differ in nothing but what stands between the braces of placeholders. -/
inductive Respelled : List Char → List Char → Prop
  | nil : Respelled [] []
  | cons {s t : List Char} (c : Char) : Respelled s t → Respelled (c :: s) (c :: t)
  | braces {x y s t : List Char} : BraceFree x → BraceFree y → Respelled s t →
      Respelled ('{' :: (x ++ '}' :: s)) ('{' :: (y ++ '}' :: t))

/-- No bar between two braces stands outside them. -/
theorem unbarred_braces_iff (hx : BraceFree x) :
    Unbarred d ('{' :: (x ++ '}' :: s)) ↔ Unbarred d s := by
  have hbar (w : List Char) (hw : BraceFree w) : Unbarred (d + 1) w := by
    rintro u v rfl
    have hu : BraceFree u := fun a ha => hw a (by simp [ha])
    rw [hu.braceDepth_eq]
    omega
  rw [unbarred_cons_iff, unbarred_append_iff, braceStep_open, hx.braceDepth_eq, unbarred_cons_iff,
    braceStep_close]
  simp [hbar x hx]

namespace Respelled

/-- A text is respelled as itself. -/
theorem refl (s : List Char) : Respelled s s := by
  induction s with
  | nil => exact .nil
  | cons c s ih => exact .cons c ih

/-- Two texts in a row are respelled one after the other. -/
theorem append {s' t' : List Char} (h : Respelled s t) (h' : Respelled s' t') :
    Respelled (s ++ s') (t ++ t') := by
  induction h with
  | nil => exact h'
  | cons c _ ih => exact .cons c ih
  | braces hx hy _ ih => simpa using Respelled.braces hx hy ih

/-- Texts joined by bars are respelled by respelling each. -/
theorem joined {ps qs : List (List Char)} (h : List.Forall₂ Respelled ps qs) :
    Respelled (Text.joined '|' ps) (Text.joined '|' qs) := by
  induction h with
  | nil => exact .nil
  | cons hpq hr ih =>
    cases hr with
    | nil => exact hpq
    | cons => exact hpq.append (.cons '|' ih)

/-- Respelling goes both ways. -/
theorem symm (h : Respelled s t) : Respelled t s := by
  induction h with
  | nil => exact .nil
  | cons c _ ih => exact .cons c ih
  | braces hx hy _ ih => exact .braces hy hx ih

/-- Respelling a text keeps the number of open braces. -/
theorem braceDepth_eq (h : Respelled s t) : braceDepth d s = braceDepth d t := by
  induction h generalizing d with
  | nil => rfl
  | cons c _ ih => exact ih
  | braces hx hy _ ih =>
    rw [hx.braceDepth_braces, hy.braceDepth_braces]
    exact ih

/-- **A text that is spelled in another way closes no block before it was closed.** -/
theorem loosens (h : Respelled s t) : Loosens s t := by
  induction h with
  | nil => exact .refl []
  | cons c _ ih => exact ih.cons c
  | braces hx hy _ ih =>
    have hbraces := loosens_exchange (c := '{') (by decide) (hx.braceDepth_eq 0) hy
    exact hbraces.append (ih.cons '}')

/-- Respelling a text brings in no bar outside the braces. -/
theorem unbarred_iff (h : Respelled s t) : Unbarred d s ↔ Unbarred d t := by
  induction h generalizing d with
  | nil => rfl
  | cons c _ ih => rw [unbarred_cons_iff, unbarred_cons_iff, ih]
  | braces hx hy _ ih => rw [unbarred_braces_iff hx, unbarred_braces_iff hy, ih]

/-- A piece that is respelled is a piece. -/
theorem isPiece (h : Respelled s t) (hs : IsPiece s) : IsPiece t :=
  ⟨h.braceDepth_eq ▸ hs.balanced, h.unbarred_iff.1 hs.unbarred⟩

/-- A character that opens no brace stays when a text is respelled. -/
theorem cons_left (hc : c ≠ '{') (h : Respelled (c :: s) t) :
    ∃ r, t = c :: r ∧ Respelled s r := by
  generalize hw : c :: s = w at h
  cases h with
  | nil => cases hw
  | cons a h =>
    obtain ⟨rfl, rfl⟩ := List.cons.inj hw
    exact ⟨_, rfl, h⟩
  | braces => exact absurd (List.cons.inj hw).1 hc

/-- Text in front of all opening braces stays. -/
theorem exists_append (hp : '{' ∉ p) (h : Respelled (p ++ s) t) :
    ∃ r, t = p ++ r ∧ Respelled s r := by
  induction p generalizing t with
  | nil => exact ⟨t, rfl, h⟩
  | cons c p ih =>
    obtain ⟨q, rfl, hq⟩ := h.cons_left fun hc => hp (by simp [hc])
    obtain ⟨r, rfl, hr⟩ := ih (fun hc => hp (by simp [hc])) hq
    exact ⟨r, rfl, hr⟩

/-- Respelling a text keeps the blank at its start. -/
theorem startsBlank_eq (h : Respelled s t) : Text.startsBlank s = Text.startsBlank t := by
  cases h <;> rfl

end Respelled

/-- At a brace or at the end nothing stands in braces. -/
theorem braced?_of_brace (hs : s = [] ∨ ∃ r, s = '{' :: r) : braced? s = none := by
  rcases hs with rfl | ⟨r, rfl⟩ <;> simp [braced?]

/-- A text without braces has nothing in braces. -/
theorem BraceFree.braced?_eq_none (hs : BraceFree s) : braced? s = none := by
  by_contra hsome
  obtain ⟨⟨content, rest⟩, hb⟩ := Option.ne_none_iff_exists'.1 hsome
  rw [braced?_eq_some hb] at hs
  exact (hs '}' (by simp)).2 rfl

/-- Where a text goes on with one in which no brace closes first, no placeholder goes on over this
place. -/
theorem braced?_append (hr : braced? rest = none) (v : List Char) :
    braced? (v ++ rest) = (braced? v).map fun r => (r.1, r.2 ++ rest) := by
  induction v with
  | nil => simp [hr, braced?]
  | cons c v ih =>
    rw [List.cons_append]
    unfold braced?
    split
    · rfl
    · split
      · rfl
      · rw [ih]
        cases braced? v <;> rfl

/-- Text that closes no brace makes no argument of what is none. -/
theorem readArgument_append_eq_none_iff (hr : braced? rest = none) :
    readArgument (v ++ rest) = .ok none ↔ readArgument v = .ok none := by
  simp only [readArgument, braced?_append hr]
  cases braced? v with
  | none => rfl
  | some r => simp [map_eq_ok_iff]

namespace FormPlaceholder

/-- Text that closes no brace makes no placeholder of what is none. -/
theorem read_append_eq_none_iff (hr : braced? rest = none) :
    FormPlaceholder.read (v ++ rest) = .ok none ↔ FormPlaceholder.read v = .ok none := by
  simp only [FormPlaceholder.read, braced?_append hr]
  cases braced? v with
  | none => rfl
  | some r =>
    simp only [Option.map_some]
    split
    · simp
    · simp [map_eq_ok_iff]

/-- A literal of a form opens nothing or something no matter which placeholder follows. -/
theorem unopened_iff (hr : rest = [] ∨ ∃ r, rest = '{' :: r) :
    Segment.Unopened opener v rest ↔ Segment.Unopened opener v [] := by
  refine forall_congr' fun u => forall_congr' fun w => imp_congr_right fun _ => ?_
  rw [List.append_nil]
  exact read_append_eq_none_iff (braced?_of_brace hr)

/-- The place of the driving value is read where it is written. -/
theorem read_value (t : List Char) :
    FormPlaceholder.read (['?'] ++ '}' :: t) = .ok (some (.value, t)) := by
  rw [FormPlaceholder.read, braced?_eq_some_iff.2 ⟨rfl, .cons (by decide) (by decide) .nil⟩]
  rfl

/-- A writable argument is read where it is written. -/
theorem read_argument {a : Argument} (h : a.IsWritable) (t : List Char) :
    FormPlaceholder.read (a.content ++ '}' :: t) = .ok (some (.argument a, t)) := by
  rw [FormPlaceholder.read, braced?_eq_some_iff.2 ⟨rfl, h.braceFree_content⟩]
  simp [h.trim_content_ne, h.read_content]

/-- A placeholder that is read stands between two braces, and what is written for it is read
as the same placeholder. -/
theorem exists_respelling {a : FormPlaceholder}
    (h : FormPlaceholder.read s = .ok (some (a, rest))) :
    ∃ x y, BraceFree x ∧ BraceFree y ∧ s = x ++ '}' :: rest ∧
      (FormElement.ofSegment (.placeholder a)).chars = '{' :: (y ++ ['}']) ∧
      ∀ rest', FormPlaceholder.read (y ++ '}' :: rest') = .ok (some (a, rest')) := by
  unfold FormPlaceholder.read at h
  split at h
  · cases h
  · rename_i x rest' hb
    obtain ⟨rfl, hx⟩ := braced?_eq_some_iff.1 hb
    split at h
    · obtain ⟨rfl, rfl⟩ := Prod.mk.inj (Option.some.inj (Except.ok.inj h))
      exact ⟨x, ['?'], hx, .cons (by decide) (by decide) .nil, rfl, rfl, read_value⟩
    · obtain ⟨o, ho, hm⟩ := map_eq_ok_iff.1 h
      obtain ⟨b, rfl, he⟩ := Option.map_eq_some_iff.1 hm
      obtain ⟨rfl, rfl⟩ := Prod.mk.inj he
      have hw := Argument.isWritable_of_read hx ho
      exact ⟨x, b.content, hx, hw.braceFree_content, rfl, b.chars_eq, read_argument hw⟩

end FormPlaceholder

namespace FormElement

open Segment

/-- A form is read as its segments. -/
theorem readAll_eq_ok_iff :
    readAll s = .ok elements ↔
      ∃ segments, Segmentation FormPlaceholder.opener s segments ∧
        segments.map ofSegment = elements := by
  simp only [readAll, map_eq_ok_iff, scan_eq_ok_iff]

/-- What is written for the segments of a text, one after the other. -/
theorem segmentation_chars (h : Segmentation FormPlaceholder.opener s segments) :
    Respelled s ((segments.map ofSegment).flatMap chars) ∧
      Segmentation FormPlaceholder.opener ((segments.map ofSegment).flatMap chars) segments := by
  induction h with
  | nil => exact ⟨.nil, .nil⟩
  | @literal l rest segments hne hs hl hr ih =>
    have hchars : (ofSegment (.literal l)).chars = l := String.toList_ofList
    have hl' := (FormPlaceholder.unopened_iff (ih.2.eq_nil_or_brace hs)).2
      ((FormPlaceholder.unopened_iff (hr.eq_nil_or_brace hs)).1 hl)
    rw [List.map_cons, List.flatMap_cons, hchars]
    exact ⟨(Respelled.refl l).append ih.1, .literal hne hs hl' ih.2⟩
  | @placeholder s rest a segments ha _ ih =>
    obtain ⟨x, y, hx, hy, rfl, hchars, hread⟩ := FormPlaceholder.exists_respelling ha
    have hcons : '{' :: (y ++ ['}']) ++ (segments.map ofSegment).flatMap chars =
        '{' :: (y ++ '}' :: (segments.map ofSegment).flatMap chars) := by simp
    rw [List.map_cons, List.flatMap_cons, hchars, hcons]
    exact ⟨.braces hx hy ih.1, .placeholder (hread _) ih.2⟩

/-- **What is written for the elements of a form is another spelling of what they were read
from.** -/
theorem respelled_of_readAll (h : readAll s = .ok elements) :
    Respelled s (elements.flatMap chars) := by
  obtain ⟨segments, hs, rfl⟩ := readAll_eq_ok_iff.1 h
  exact (segmentation_chars hs).1

/-- **What is written for the elements of a form is read back.** -/
theorem readAll_chars (h : readAll s = .ok elements) :
    readAll (elements.flatMap chars) = .ok elements := by
  obtain ⟨segments, hs, rfl⟩ := readAll_eq_ok_iff.1 h
  exact readAll_eq_ok_iff.2 ⟨segments, (segmentation_chars hs).2, rfl⟩

end FormElement

end Phrasebook
