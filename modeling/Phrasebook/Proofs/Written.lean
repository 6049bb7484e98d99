/-
# What is written for a template

A template is written (`serialize`) segment by segment (`Written`). If its blocks can be
read from what is written for them and are bound to the arguments around them, binding the
segments gives the template back (`Written.bound_iff`).
-/

import Phrasebook.Proofs.Binding

namespace Phrasebook

variable {t w : List Char} {key : ArgumentKey} {b : PluralBlock} {ps : Template}
variable {segments : List (Segment TemplatePlaceholder)}

/-- What is written for a template, and the segments that stand in it. -/
inductive Written : Template → List (Segment TemplatePlaceholder) → List Char → Prop
  | nil : Written [] [] []
  | text {ps : Template} {segments : List (Segment TemplatePlaceholder)} {t : List Char}
      (s : String) : Written ps segments t →
      Written (.text s :: ps) (.literal s.toList :: segments) (s.toList ++ t)
  | argument {ps : Template} {segments : List (Segment TemplatePlaceholder)} {t : List Char}
      (a : Argument) : Written ps segments t →
      Written (.argument a :: ps) (.placeholder (.argument a) :: segments)
        ('{' :: (a.content ++ '}' :: t))
  | plural {ps : Template} {segments : List (Segment TemplatePlaceholder)} {t : List Char}
      {b : PluralBlock} {w : List Char} : b.Writes w → Written ps segments t →
      Written (.plural b :: ps) (.placeholder (.plural w) :: segments)
        ('{' :: '{' :: (w ++ '}' :: '}' :: t))

/-- A template is written exactly if there are segments that stand in it. -/
theorem chars_eq_ok_iff : Template.chars ps = .ok t ↔ ∃ segments, Written ps segments t := by
  induction ps generalizing t with
  | nil =>
    simp only [Template.chars, Except.ok.injEq]
    constructor
    · rintro rfl
      exact ⟨[], .nil⟩
    · rintro ⟨_, ⟨⟩⟩
      rfl
  | cons part ps ih =>
    constructor
    · intro h
      simp only [Template.chars] at h
      split at h
      · cases h
      · rename_i s hs
        obtain ⟨t, ht, rfl⟩ := map_eq_ok_iff.1 h
        obtain ⟨segments, hw⟩ := ih.1 ht
        cases part with
        | text s =>
          obtain rfl := Except.ok.inj hs
          exact ⟨_, .text s hw⟩
        | argument a =>
          obtain rfl := Except.ok.inj hs
          rw [a.chars_eq]
          simpa using (⟨_, .argument a hw⟩ : ∃ segments, Written _ segments _)
        | plural b =>
          obtain ⟨w, hb, rfl⟩ := PluralBlock.chars_eq_ok_iff.1 hs
          simpa using (⟨_, .plural hb hw⟩ : ∃ segments, Written _ segments _)
    · rintro ⟨segments, hw⟩
      cases hw with
      | text s hw => simp [Template.chars, Part.chars, ih.2 ⟨_, hw⟩]
      | argument a hw => simp [Template.chars, Part.chars, a.chars_eq, ih.2 ⟨_, hw⟩]
      | plural hb hw =>
        simp [Template.chars, Part.chars, PluralBlock.chars_eq_ok_iff.2 ⟨_, hb, rfl⟩, ih.2 ⟨_, hw⟩]

/-- A source text is written exactly if there are segments that stand in it. -/
theorem source_eq_ok_iff {source : String} :
    Template.source ps = .ok source ↔ ∃ segments, Written ps segments source.toList := by
  rw [Template.source, map_eq_ok_iff, ← chars_eq_ok_iff]
  constructor
  · rintro ⟨t, ht, rfl⟩
    rwa [String.toList_ofList]
  · intro h
    exact ⟨_, h, String.ofList_toList⟩

/-- A template can be written if its blocks can. -/
theorem exists_written_iff :
    (∃ segments t, Written ps segments t) ↔ ∀ b, .plural b ∈ ps → ∃ w, b.Writes w := by
  induction ps with
  | nil => exact iff_of_true ⟨[], [], .nil⟩ fun b hb => by cases hb
  | cons part ps ih =>
    constructor
    · rintro ⟨segments, t, hw⟩ b hb
      rcases List.mem_cons.1 hb with rfl | hb
      · cases hw with
        | plural hb => exact ⟨_, hb⟩
      · refine ih.1 ?_ b hb
        cases hw <;> exact ⟨_, _, ‹Written ps _ _›⟩
    · intro h
      obtain ⟨segments, t, hw⟩ := ih.2 fun b hb => h b (.tail _ hb)
      cases part with
      | text s => exact ⟨_, _, .text s hw⟩
      | argument a => exact ⟨_, _, .argument a hw⟩
      | plural b =>
        obtain ⟨w, hb⟩ := h b (by simp)
        exact ⟨_, _, .plural hb hw⟩

open Template

/-- A writable argument is read where it is written. -/
theorem TemplatePlaceholder.read_argument {a : Argument} (h : a.IsWritable) (t : List Char) :
    TemplatePlaceholder.read (a.content ++ '}' :: t) = .ok (some (.argument a, t)) :=
  TemplatePlaceholder.read_eq_some_iff.2 ⟨'{' :: (a.content ++ ['}']),
    ⟨a.content, h.braceFree_content, h.read_content, rfl⟩, by simp⟩

/-- What stands in its braces as a whole is read where it is written. -/
theorem TemplatePlaceholder.read_plural (h : IsPluralBody w) (t : List Char) :
    TemplatePlaceholder.read ('{' :: (w ++ '}' :: '}' :: t)) = .ok (some (.plural w, t)) :=
  TemplatePlaceholder.read_eq_some_iff.2 ⟨_, ⟨h, rfl⟩, by simp⟩

namespace Written

/-- The first key that is written is that of the first argument, or position 0 without one. -/
theorem firstKey_eq (h : Written ps segments t) :
    firstKey segments = ps.argumentKeys.headD (.positional 0) := by
  induction h with
  | nil => rfl
  | text s _ ih => exact ih
  | argument a _ _ => rfl
  | plural _ _ ih => exact ih

/-- **Binding what is written gives the template back,** unless a block that is written with labels
loses a blank. -/
theorem bound_iff (h : Written ps segments t) (hps : ∀ b, .plural b ∈ ps → b.IsReadable)
    (hkey : BoundTo key ps) :
    Bound key segments ps ↔ ∀ b, .plural b ∈ ps →
      ¬ (b.IsLabelled ∧ ∃ f ∈ b.forms, Text.startsBlank f.chars = true) := by
  induction h generalizing key with
  | nil => exact iff_of_true .nil fun b hb => by cases hb
  | @text ps segments t s _ ih =>
    have hs : Bound key (.literal s.toList :: segments) (.text s :: ps) ↔
        Bound key segments ps := by
      conv => lhs; rw [← String.ofList_toList (s := s), String.toList_ofList]
      exact ⟨fun | .text _ h => h, .text _⟩
    simp [hs, ih (fun b hb => hps b (.tail _ hb)) hkey]
  | @argument ps segments t a _ ih =>
    have ha : Bound key (.placeholder (.argument a) :: segments) (.argument a :: ps) ↔
        Bound a.key segments ps := ⟨fun | .argument _ h => h, .argument a⟩
    simp [ha, ih (fun b hb => hps b (.tail _ hb)) hkey]
  | @plural ps segments t b w hw _ ih =>
    have hb : Bound key (.placeholder (.plural w) :: segments) (.plural b :: ps) ↔
        PluralBlock.read key w = .ok b ∧ Bound key segments ps :=
      ⟨fun | .plural hb h => ⟨hb, h⟩, fun h => .plural h.1 h.2⟩
    rw [hb, (hps b (by simp)).read_eq_ok_iff hw hkey.1, ih (fun b hb => hps b (.tail _ hb)) hkey.2]
    simp

end Written

end Phrasebook
