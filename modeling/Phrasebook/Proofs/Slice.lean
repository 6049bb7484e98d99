/-
# The grammar of source texts

A template is scanned into slices (`TemplateParser._scan`). An argument is a pair of braces
around a content without braces that describes it; a plural block is two pairs of braces
around a body that is closed behind its end and not before (`IsPluralBody`); and what starts
neither of them is literal text. `IsCut` says this of a text, its segments and their slices,
and scanning answers the one way of cutting a text there is (`exists_isCut_of_scan`).
-/

import Phrasebook.Proofs.Braces
import Phrasebook.Proofs.Segmentation
import Mathlib

namespace Phrasebook

variable {s c body rest content slice : List Char} {a : Argument}
variable {segments segments' : List (Segment TemplatePlaceholder)} {slices : List (List Char)}

/-- What stands between the braces of an argument has no braces. -/
theorem braced?_eq_some_iff :
    braced? s = some (content, rest) ↔ s = content ++ '}' :: rest ∧ BraceFree content := by
  constructor
  · intro h
    refine ⟨braced?_eq_some h, ?_⟩
    induction s generalizing content with
    | nil => simp [braced?] at h
    | cons x s ih =>
      unfold braced? at h
      split at h
      · obtain ⟨rfl, rfl⟩ := Prod.mk.inj (Option.some.inj h)
        exact .nil
      · rename_i hc
        split at h
        · cases h
        · rename_i ho
          obtain ⟨⟨content', rest'⟩, hr, he⟩ := Option.map_eq_some_iff.1 h
          obtain ⟨rfl, rfl⟩ := Prod.mk.inj he
          exact .cons ho hc (ih hr)
  · rintro ⟨rfl, h⟩
    induction content with
    | nil => simp [braced?]
    | cons x content ih =>
      obtain ⟨ho, hc⟩ := h x (by simp)
      simp [braced?, ho, hc, ih fun y hy => h y (by simp [hy])]

/-- A block is read from a body between double braces. -/
theorem readPlural_eq_some_iff :
    readPlural s = some (body, rest) ↔
      IsPluralBody body ∧ s = '{' :: (body ++ '}' :: '}' :: rest) := by
  constructor
  · intro h
    unfold readPlural at h
    split at h
    · obtain ⟨rfl, hb⟩ := pluralBody?_eq_some_iff.1 h
      exact ⟨isPluralBody_iff.2 hb, rfl⟩
    · cases h
  · rintro ⟨hb, rfl⟩
    exact hb.pluralBody?_eq rest

/-- No block starts without a second brace. -/
theorem readPlural_of_ne (h : ∀ r, s ≠ '{' :: r) : readPlural s = none := by
  unfold readPlural
  split
  · exact absurd rfl (h _)
  · rfl

/-- No plural block opens where a brace closes before the next one opens. -/
theorem readPlural_of_braceFree (h : BraceFree c) : readPlural (c ++ '}' :: rest) = none := by
  refine readPlural_of_ne fun r hr => ?_
  cases c with
  | nil => exact absurd (List.cons.inj hr).1 (by decide)
  | cons x c => exact (h x (by simp)).1 (List.cons.inj hr).1

/-- An argument is read from a text without braces up to a closing brace. -/
theorem readArgument_eq_some_iff :
    readArgument s = .ok (some (a, rest)) ↔
      ∃ c, BraceFree c ∧ Argument.read c = .ok (some a) ∧ s = c ++ '}' :: rest := by
  unfold readArgument
  constructor
  · intro h
    split at h
    · cases h
    · rename_i content rest' hb
      obtain ⟨rfl, hf⟩ := braced?_eq_some_iff.1 hb
      obtain ⟨o, ho, hm⟩ := map_eq_ok_iff.1 h
      obtain ⟨a', rfl, he⟩ := Option.map_eq_some_iff.1 hm
      obtain ⟨rfl, rfl⟩ := Prod.mk.inj he
      exact ⟨content, hf, ho, rfl⟩
  · rintro ⟨c, hf, ha, rfl⟩
    simp [braced?_eq_some_iff.2 ⟨rfl, hf⟩, ha]

/-- The slices of a source text that a placeholder may be read from. -/
def TemplatePlaceholder.IsSlice : TemplatePlaceholder → List Char → Prop
  | .argument a, slice =>
    ∃ c, BraceFree c ∧ Argument.read c = .ok (some a) ∧ slice = '{' :: (c ++ ['}'])
  | .plural body, slice => IsPluralBody body ∧ slice = '{' :: '{' :: (body ++ ['}', '}'])

/-- **At a brace the placeholder is read whose slice starts there.** -/
theorem TemplatePlaceholder.read_eq_some_iff {x : TemplatePlaceholder} :
    TemplatePlaceholder.read s = .ok (some (x, rest)) ↔
      ∃ slice, x.IsSlice slice ∧ '{' :: s = slice ++ rest := by
  unfold TemplatePlaceholder.read
  cases x with
  | argument a =>
    constructor
    · intro h
      split at h
      · cases h
      · obtain ⟨o, ho, hm⟩ := map_eq_ok_iff.1 h
        obtain ⟨r, rfl, he⟩ := Option.map_eq_some_iff.1 hm
        obtain ⟨rfl, rfl⟩ : r.1 = a ∧ r.2 = rest := by simpa using he
        obtain ⟨c, hf, ha, rfl⟩ := readArgument_eq_some_iff.1 ho
        exact ⟨_, ⟨c, hf, ha, rfl⟩, by simp⟩
    · rintro ⟨_, ⟨c, hf, ha, rfl⟩, he⟩
      obtain rfl : s = c ++ '}' :: rest := by simpa using he
      simp [readPlural_of_braceFree hf, readArgument_eq_some_iff.2 ⟨c, hf, ha, rfl⟩]
  | plural body =>
    constructor
    · intro h
      split at h
      · rename_i body' rest' hp
        obtain ⟨rfl, rfl⟩ : body' = body ∧ rest' = rest := by simpa using h
        obtain ⟨hb, rfl⟩ := readPlural_eq_some_iff.1 hp
        exact ⟨_, ⟨hb, rfl⟩, by simp⟩
      · obtain ⟨o, ho, hm⟩ := map_eq_ok_iff.1 h
        obtain ⟨r, rfl, he⟩ := Option.map_eq_some_iff.1 hm
        simp at he
    · rintro ⟨_, ⟨hb, rfl⟩, he⟩
      obtain rfl : s = '{' :: (body ++ '}' :: '}' :: rest) := by simpa using he
      simp [readPlural_eq_some_iff.2 ⟨hb, rfl⟩]

/-- A brace opens nothing if neither a block nor an argument starts at it. -/
theorem TemplatePlaceholder.read_eq_none_iff :
    TemplatePlaceholder.read s = .ok none ↔ readPlural s = none ∧ readArgument s = .ok none := by
  unfold TemplatePlaceholder.read
  cases readPlural s <;> simp [map_eq_ok_iff]

/-- Whether a text starts with a placeholder of a template. -/
def StartsPlaceholder (s : List Char) : Prop :=
  ∃ (x : TemplatePlaceholder) (slice rest : List Char), x.IsSlice slice ∧ s = slice ++ rest

/-- The slices of a source text that a segment may be read from. -/
def Segment.IsSlice : Segment TemplatePlaceholder → List Char → Prop
  | .literal l, slice => l ≠ [] ∧ slice = l
  | .placeholder x, slice => x.IsSlice slice

/-- A source text cut into slices, one for each segment. No two literals stand side by side, and
at no brace of a literal a placeholder starts in the text from there on. -/
structure IsCut (s : List Char) (segments : List (Segment TemplatePlaceholder))
    (slices : List (List Char)) : Prop where
  flatten_eq : slices.flatten = s
  isSlice : List.Forall₂ Segment.IsSlice segments slices
  separate (n : Nat) (l m : List Char) :
    ¬ (segments[n]? = some (.literal l) ∧ segments[n + 1]? = some (.literal m))
  unopened (n : Nat) (u v : List Char) : segments[n]? = some (.literal (u ++ '{' :: v)) →
    ¬ StartsPlaceholder ('{' :: v ++ (slices.drop (n + 1)).flatten)

namespace IsCut

/-- The empty text is cut into nothing. -/
theorem nil : IsCut [] [] [] where
  flatten_eq := rfl
  isSlice := .nil
  separate n l m h := by simp at h
  unopened n u v h := by simp at h

/-- One more slice in front of a text. -/
theorem cons {y : Segment TemplatePlaceholder} (hy : y.IsSlice slice)
    (hsep : ∀ l m, y = .literal l → segments[0]? ≠ some (.literal m))
    (hopen : ∀ u v, y = .literal (u ++ '{' :: v) → ¬ StartsPlaceholder ('{' :: v ++ rest))
    (h : IsCut rest segments slices) :
    IsCut (slice ++ rest) (y :: segments) (slice :: slices) where
  flatten_eq := by rw [List.flatten_cons, h.flatten_eq]
  isSlice := .cons hy h.isSlice
  separate n l m := by
    rintro ⟨hl, hm⟩
    cases n with
    | zero => exact hsep l m (Option.some.inj hl) hm
    | succ n => exact h.separate n l m ⟨hl, hm⟩
  unopened n u v hl := by
    cases n with
    | zero =>
      rw [List.drop_succ_cons, List.drop_zero, h.flatten_eq]
      exact hopen u v (Option.some.inj hl)
    | succ n => exact h.unopened n u v hl

/-- What is left behind the first slice of a text is cut by the other slices. -/
theorem tail {y : Segment TemplatePlaceholder} (h : IsCut s (y :: segments) (slice :: slices)) :
    IsCut slices.flatten segments slices where
  flatten_eq := rfl
  isSlice := (List.forall₂_cons.1 h.isSlice).2
  separate n l m hlm := h.separate (n + 1) l m hlm
  unopened n u v hl := h.unopened (n + 1) u v hl

end IsCut

open Segment in
/-- A segmentation of a text cuts it into slices. -/
theorem exists_isCut (h : Segmentation TemplatePlaceholder.opener s segments) :
    ∃ slices, IsCut s segments slices := by
  induction h with
  | nil => exact ⟨[], .nil⟩
  | @literal l rest segments hne hs hl _ ih =>
    obtain ⟨slices, ih⟩ := ih
    refine ⟨l :: slices, ih.cons ⟨hne, rfl⟩ ?_ ?_⟩
    · intro _ m _ hm
      cases segments with
      | nil => cases hm
      | cons y segments =>
        obtain rfl := Option.some.inj hm
        cases hs
    · intro u v he
      obtain rfl := Segment.literal.inj he
      rintro ⟨x, slice, r, hx, hslice⟩
      have hread : TemplatePlaceholder.read (v ++ rest) = .ok (some (x, r)) :=
        TemplatePlaceholder.read_eq_some_iff.2 ⟨slice, hx, hslice⟩
      have hnone : TemplatePlaceholder.read (v ++ rest) = .ok none := hl u v rfl
      exact absurd (hnone.symm.trans hread) (by simp)
  | @placeholder s rest x segments hx _ ih =>
    obtain ⟨slices, ih⟩ := ih
    obtain ⟨slice, hslice, he⟩ := TemplatePlaceholder.read_eq_some_iff.1 hx
    exact ⟨slice :: slices, he ▸ ih.cons hslice (fun _ _ h => by cases h) fun _ _ h => by cases h⟩

open Segment in
/-- However a text is cut, if scanning answers, it cuts the text in the same way. -/
theorem IsCut.segmentation (h : IsCut s segments slices)
    (hs : scan TemplatePlaceholder.opener s = .ok segments') :
    Segmentation TemplatePlaceholder.opener s segments := by
  induction segments generalizing s segments' slices with
  | nil =>
    obtain rfl := List.forall₂_nil_left_iff.1 h.isSlice
    rw [← h.flatten_eq]
    exact .nil
  | cons y segments ih =>
    obtain ⟨slice, slices, hy, -, rfl⟩ := List.forall₂_cons_left_iff.1 h.isSlice
    have hflat := h.flatten_eq
    rw [List.flatten_cons] at hflat
    subst hflat
    cases y with
    | literal l =>
      obtain ⟨hne, rfl⟩ := hy
      have hfound (u v : List Char) (huv : slice = u ++ '{' :: v) (x : TemplatePlaceholder)
          (r : List Char) : TemplatePlaceholder.read (v ++ slices.flatten) ≠ .ok (some (x, r)) := by
        intro hread
        obtain ⟨slice', hx, he⟩ := TemplatePlaceholder.read_eq_some_iff.1 hread
        exact h.unopened 0 u v (by rw [huv]; rfl) ⟨x, slice', r, hx, he⟩
      -- scanning has answered, so a brace that starts no placeholder is not at fault either
      obtain ⟨hl, tail, ht⟩ := unopened_of_scan hfound hs
      refine .literal hne (startsLiteral_eq_false ?_) hl (ih h.tail ht)
      rintro m tail rfl
      exact h.separate 0 slice m ⟨rfl, rfl⟩
    | placeholder x =>
      obtain ⟨p, hp⟩ : ∃ p, slice = '{' :: p := by
        cases x with
        | argument a =>
          obtain ⟨c, -, -, rfl⟩ := hy
          exact ⟨_, rfl⟩
        | plural body => exact ⟨_, hy.2⟩
      have hread : TemplatePlaceholder.opener.read (p ++ slices.flatten)
          = .ok (some (x, slices.flatten)) :=
        TemplatePlaceholder.read_eq_some_iff.2 ⟨slice, hy, by rw [hp]; rfl⟩
      rw [hp, List.cons_append] at hs ⊢
      rw [scan_brace_of_some hread] at hs
      obtain ⟨tail, ht, -⟩ := map_eq_ok_iff.1 hs
      exact .placeholder hread (ih h.tail ht)

open Segment in
/-- A text that scanning answers for is cut into the same segments in every way. -/
theorem IsCut.eq_of_segmentation (h : IsCut s segments' slices)
    (hs : Segmentation TemplatePlaceholder.opener s segments) : segments' = segments := by
  have hscan := scan_eq_ok_iff.2 hs
  exact Except.ok.inj ((scan_eq_ok_iff.2 (h.segmentation hscan)).symm.trans hscan)

open Segment in
/-- **Scanning cuts a text into the slices of its grammar and loses nothing:** the segments it
answers have slices that make up the text, and no other segments have. -/
theorem exists_isCut_of_scan (h : scan TemplatePlaceholder.opener s = .ok segments) :
    (∃ slices, IsCut s segments slices) ∧
      ∀ segments' slices, IsCut s segments' slices → segments' = segments := by
  refine ⟨exists_isCut (scan_eq_ok_iff.1 h), fun segments' slices hcut => ?_⟩
  have h' := scan_eq_ok_iff.2 (hcut.segmentation h)
  exact Except.ok.inj (h'.symm.trans h)

/-- Stray braces, a block that is not closed, and a block with a brace behind it. -/
def strayBraces : List Char := "\x7d\x7b {a}\x7b\x7bx{{y{}}}\x7d\x7bb".toList

/-- The text with stray braces is cut into slices in one way. -/
theorem exists_isCut_strayBraces : ∃ segments,
    Segment.scan TemplatePlaceholder.opener strayBraces = .ok segments ∧
      ((∃ slices, IsCut strayBraces segments slices) ∧
        ∀ segments' slices, IsCut strayBraces segments' slices → segments' = segments) := by
  have h : Segment.scan TemplatePlaceholder.opener strayBraces = .ok [
      .literal ['}', '{', ' '], .placeholder (.argument { key := .named "a" }),
      .literal ['{', '{', 'x'], .placeholder (.plural ['y', '{', '}']),
      .literal ['}', '{', 'b']] := by cbv
  exact ⟨_, h, exists_isCut_of_scan h⟩

end Phrasebook
