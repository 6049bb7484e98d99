/-
# Arguments and the contents they are read from

Every argument of a template is read from the content of a pair of braces in its source text
(`parse_argument_content`). At the top this is a slice of its own (`HasContent`). Inside a block it
may be any pair of braces with no braces between them, as such pairs cannot overlap
(`FormElement.argument_mem_iff`), but it has to stand in a text that is kept as a form
(`KeepsText`): labels are taken off if all texts have one, and otherwise the texts between the fifth
and the last one are left out.

So the arguments of a template are those that are read from the contents it keeps, and nothing else
in the source text is an argument (`Template.mem_arguments_iff_keepsContent`).
-/

import Phrasebook.Proofs.FormTexts
import Phrasebook.Proofs.PlaceholderGrammar
import Phrasebook.Proofs.Ranking

namespace Phrasebook

variable {source : String} {n : Nat} {s t c r u v rest : List Char} {texts : List (List Char)}
variable {a : Argument} {f : PluralForm} {forms : List PluralForm} {b : PluralBlock} {ps : Template}

/-- Whether a source text is cut so that an argument with the given content is at a place. -/
def HasContent (source : String) (n : Nat) (c : List Char) : Prop :=
  ∃ segments slices a, IsCut source.toList segments slices ∧
    segments[n]? = some (.placeholder (.argument a)) ∧ slices[n]? = some ('{' :: (c ++ ['}']))

/-- The texts that a block keeps as forms, out of all its texts: what stands behind the labels, if
each text has one, and otherwise the last text and the first five in front of it. -/
inductive KeepsText (texts : List (List Char)) : List Char → Prop
  | labelled {t r : List Char} {c : PluralCategory} : (∀ t ∈ texts, ∃ c r, LabelledAs t c r) →
      t ∈ texts → LabelledAs t c r → KeepsText texts r
  | unlabelled {front : List (List Char)} {t r : List Char} :
      (∃ t ∈ texts, ∀ c r, ¬ LabelledAs t c r) → texts = front ++ [t] →
      r ∈ front.take 5 ++ [t] → KeepsText texts r

/-- The contents of placeholders that a source text keeps, at the top and inside the forms of
blocks. -/
inductive KeepsContent (source : String) : List Char → Prop
  | top {n : Nat} {c : List Char} : HasContent source n c → KeepsContent source c
  | inside {n : Nat} {texts : List (List Char)} {u c v : List Char} :
      HasFormTexts source n texts → KeepsText texts (u ++ '{' :: (c ++ '}' :: v)) → BraceFree c →
      KeepsContent source c

/-- What spells a key has a character that is no blank and no question mark. -/
theorem ArgumentKey.SpellsMarked.exists_mem {k : ArgumentKey} {opt : Bool}
    (h : SpellsMarked s k opt) : ∃ x ∈ s, Text.isBlank x = false ∧ x ≠ '?' := by
  cases h with
  | plain _ _ hspells =>
    obtain ⟨x, r, rfl, hchars⟩ := hspells.exists_cons
    exact ⟨x, by simp, hchars x (by simp)⟩
  | optional _ _ _ hspells =>
    obtain ⟨x, r, rfl, hchars⟩ := hspells.exists_cons
    exact ⟨x, by simp, hchars x (by simp)⟩

/-- What spells an argument is not read as the place of the driving value. -/
theorem Argument.Spells.trim_ne (h : Spells c a) : Text.trim c ≠ ['?'] := by
  obtain ⟨hkey, -, -, -⟩ := h
  obtain ⟨x, hx, hblank, hne⟩ := hkey.exists_mem
  intro htrim
  have hmem : x ∈ ['?'] := htrim ▸ Text.mem_trim (by simp [hx]) hblank
  exact hne (List.mem_singleton.1 hmem)

namespace FormPlaceholder

/-- A placeholder of a form ends at the first brace behind its start. -/
theorem exists_content {x : FormPlaceholder} (h : FormPlaceholder.read s = .ok (some (x, rest))) :
    ∃ c, BraceFree c ∧ s = c ++ '}' :: rest := by
  unfold FormPlaceholder.read at h
  split at h
  · cases h
  · rename_i c rest' hbraced
    obtain ⟨rfl, hfree⟩ := braced?_eq_some_iff.1 hbraced
    refine ⟨c, hfree, ?_⟩
    split at h
    · obtain rfl := (Prod.mk.inj (Option.some.inj (Except.ok.inj h))).2
      rfl
    · obtain ⟨o, -, hm⟩ := map_eq_ok_iff.1 h
      obtain ⟨a, -, he⟩ := Option.map_eq_some_iff.1 hm
      obtain rfl := (Prod.mk.inj he).2
      rfl

/-- **An argument inside a form** is a content without braces that describes it. -/
theorem read_eq_argument_iff : FormPlaceholder.read s = .ok (some (.argument a, rest)) ↔
    ∃ c, BraceFree c ∧ Argument.read c = .ok (some a) ∧ s = c ++ '}' :: rest := by
  constructor
  · intro h
    obtain ⟨c, hfree, rfl⟩ := exists_content h
    rw [FormPlaceholder.read, braced?_eq_some_iff.2 ⟨rfl, hfree⟩] at h
    dsimp only at h
    split at h
    · cases h
    · obtain ⟨o, ho, hm⟩ := map_eq_ok_iff.1 h
      obtain ⟨a', rfl, he⟩ := Option.map_eq_some_iff.1 hm
      obtain rfl := FormPlaceholder.argument.inj (Prod.mk.inj he).1
      exact ⟨c, hfree, ho, rfl⟩
  · rintro ⟨c, hfree, hread, rfl⟩
    have hmark := (Argument.read_eq_some_iff_spells.1 hread).2.trim_ne
    rw [FormPlaceholder.read, braced?_eq_some_iff.2 ⟨rfl, hfree⟩]
    dsimp only
    rw [if_neg hmark, hread]
    rfl

end FormPlaceholder

open Segment in
/-- **A form inserts what stands between its braces.** The pairs of braces around a content without
braces are all read, as none of them stands inside another placeholder. -/
theorem Segment.Segmentation.argument_mem_iff {segments : List (Segment FormPlaceholder)}
    (h : Segmentation FormPlaceholder.opener t segments) :
    .placeholder (.argument a) ∈ segments ↔
      ∃ u c v, t = u ++ '{' :: (c ++ '}' :: v) ∧ BraceFree c ∧ Argument.read c = .ok (some a) := by
  constructor
  · intro ha
    induction h with
    | nil => cases ha
    | @literal l _ _ _ _ _ _ ih =>
      obtain ⟨u, c, v, rfl, hc⟩ := ih (by simpa using ha)
      exact ⟨l ++ u, c, v, by simp, hc⟩
    | placeholder hread _ ih =>
      rcases List.mem_cons.1 ha with he | ha
      · obtain rfl := Segment.placeholder.inj he
        obtain ⟨c, hfree, hc, rfl⟩ := FormPlaceholder.read_eq_argument_iff.1 hread
        exact ⟨[], c, _, rfl, hfree, hc⟩
      · obtain ⟨u, c, v, rfl, hc⟩ := ih ha
        obtain ⟨d, -, rfl⟩ := FormPlaceholder.exists_content hread
        exact ⟨'{' :: (d ++ '}' :: u), c, v, by simp, hc⟩
  · rintro ⟨u, c, v, rfl, hfree, hc⟩
    have hread : FormPlaceholder.read (c ++ '}' :: v) = .ok (some (.argument a, v)) :=
      FormPlaceholder.read_eq_argument_iff.2 ⟨c, hfree, hc, rfl⟩
    generalize ht : u ++ '{' :: (c ++ '}' :: v) = t at h
    induction h generalizing u with
    | nil => simp at ht
    | @literal l rest _ _ _ hl _ ih =>
      rcases List.append_eq_append_iff.1 ht with ⟨m, rfl, hm⟩ | ⟨m, rfl, hm⟩
      · cases m with
        | nil => exact .tail _ (ih [] hm)
        | cons x m =>
          -- the brace is one of the literal, and nothing is read at such a brace
          obtain ⟨rfl, hrest⟩ := List.cons.inj hm
          have hnone : FormPlaceholder.read (m ++ rest) = .ok none := hl u m rfl
          rw [hrest] at hread
          exact absurd (hnone.symm.trans hread) (by simp)
      · exact .tail _ (ih m hm.symm)
    | @placeholder s rest x _ hx _ ih =>
      cases u with
      | nil =>
        obtain rfl := (List.cons.inj ht).2
        obtain ⟨rfl, -⟩ := Prod.mk.inj (Option.some.inj (Except.ok.inj (hread.symm.trans hx)))
        exact .head _
      | cons y u =>
        obtain ⟨d, hd, rfl⟩ := FormPlaceholder.exists_content hx
        -- the brace stands behind the placeholder, whose content has none
        rcases List.append_eq_append_iff.1 (List.cons.inj ht).2 with ⟨m, rfl, hm⟩ | ⟨m, rfl, hm⟩
        · cases m with
          | nil => exact absurd (List.cons.inj hm).1 (by decide)
          | cons x m =>
            obtain ⟨rfl, -⟩ := List.cons.inj hm
            exact absurd rfl (hd '{' (by simp)).1
        · cases m with
          | nil => exact absurd (List.cons.inj hm).1 (by decide)
          | cons x m => exact .tail _ (ih m (List.cons.inj hm).2.symm)

/-- The arguments of a form are read from the pairs of braces in its text. -/
theorem FormElement.argument_mem_iff {elements : List FormElement}
    (h : FormElement.readAll t = .ok elements) :
    .argument a ∈ elements ↔
      ∃ u c v, t = u ++ '{' :: (c ++ '}' :: v) ∧ BraceFree c ∧ Argument.read c = .ok (some a) := by
  obtain ⟨segments, hs, rfl⟩ := FormElement.readAll_eq_ok_iff.1 h
  rw [← hs.argument_mem_iff, List.mem_map]
  constructor
  · rintro ⟨y, hy, he⟩
    rcases y with l | (a' | -)
    · cases he
    · obtain rfl := FormElement.argument.inj he
      exact hy
    · cases he
  · exact fun ha => ⟨_, ha, rfl⟩

/-- Without labels the last text is kept, and the first five in front of it; if there are none, an
empty text stands in their place. -/
theorem map_snd_labelledForms_concat {front : List (List Char)}
    (hlabels : formLabels? (front ++ [t]) = none) :
    (labelledForms (front ++ [t])).map Prod.snd =
      (if front = [] then [[]] else front.take 5) ++ [t] := by
  by_cases hfront : front = []
  · subst hfront
    simp only [labelledForms, hlabels]
    rfl
  · obtain ⟨cs, -, hlen, hzip⟩ := positionalForms_concat (t := t) hfront
    have hpos := List.length_pos_iff.2 hfront
    rw [PluralBlock.labelledForms_of_two_le hlabels (by simp; omega), hzip, List.map_append,
      List.map_snd_zip (Nat.le_of_eq hlen.symm), if_neg hfront]
    rfl

/-- **The texts that are kept are read as forms,** and apart from an empty one no others are. -/
theorem mem_map_snd_labelledForms_iff (hne : texts ≠ []) (hr : r ≠ []) :
    r ∈ (labelledForms texts).map Prod.snd ↔ KeepsText texts r := by
  cases hlabels : formLabels? texts with
  | some pairs =>
    have hforms : labelledForms texts = pairs := by simp only [labelledForms, hlabels]
    have hpairs := formLabels?_eq_some_iff.1 hlabels
    rw [hforms, List.mem_map]
    constructor
    · rintro ⟨p, hp, rfl⟩
      obtain ⟨t, ht, hlabel⟩ := exists_mem_of_forall₂ hpairs hp
      refine .labelled (fun t ht => ?_) ht (formLabel?_eq_some_iff.1 hlabel)
      obtain ⟨p, -, hp⟩ := exists_mem_of_forall₂ hpairs.flip ht
      exact ⟨p.1, p.2, formLabel?_eq_some_iff.1 hp⟩
    · intro hkeeps
      cases hkeeps with
      | labelled _ ht hlabel =>
        obtain ⟨p, hp, hpt⟩ := exists_mem_of_forall₂ hpairs.flip ht
        have hsame := hpt.symm.trans (formLabel?_eq_some_iff.2 hlabel)
        exact ⟨p, hp, congrArg Prod.snd (Option.some.inj hsame)⟩
      | unlabelled hnone _ _ =>
        rw [formLabels?_eq_none_iff_exists.2 hnone] at hlabels
        cases hlabels
  | none =>
    have hnone := formLabels?_eq_none_iff_exists.1 hlabels
    obtain ⟨front, t, rfl⟩ : ∃ front t, texts = front ++ [t] :=
      ⟨_, _, (List.dropLast_concat_getLast hne).symm⟩
    have hkept : r ∈ (labelledForms (front ++ [t])).map Prod.snd ↔ r ∈ front.take 5 ++ [t] := by
      rw [map_snd_labelledForms_concat hlabels]
      split
      · rename_i hfront
        simp [hfront, hr]
      · rfl
    rw [hkept]
    constructor
    · exact .unlabelled hnone rfl
    · intro hkeeps
      cases hkeeps with
      | labelled hall _ _ =>
        obtain ⟨u, hu, hlabel⟩ := hnone
        obtain ⟨c, r, hur⟩ := hall u hu
        exact absurd hur (hlabel c r)
      | unlabelled _ he hmem =>
        obtain ⟨rfl, ht⟩ := List.append_inj' he rfl
        rwa [ht]

/-- The arguments in the forms of a block are read from the texts that it keeps. -/
theorem PluralForm.argument_mem_iff (hne : texts ≠ [])
    (h : PluralForm.readAll (labelledForms texts) = .ok forms) :
    (∃ f ∈ forms, .argument a ∈ f.elements) ↔ ∃ u c v,
      KeepsText texts (u ++ '{' :: (c ++ '}' :: v)) ∧ BraceFree c ∧
        Argument.read c = .ok (some a) := by
  have hread := PluralForm.readAll_eq_ok_iff.1 h
  constructor
  · rintro ⟨f, hf, ha⟩
    obtain ⟨p, hp, -, he⟩ := exists_mem_of_forall₂ hread hf
    obtain ⟨u, c, v, ht, hc⟩ := (FormElement.argument_mem_iff he).1 ha
    have hkeeps := (mem_map_snd_labelledForms_iff hne (by simp [ht])).1 (List.mem_map_of_mem hp)
    exact ⟨u, c, v, ht ▸ hkeeps, hc⟩
  · rintro ⟨u, c, v, hkeeps, hc⟩
    obtain ⟨p, hp, ht⟩ :=
      List.mem_map.1 ((mem_map_snd_labelledForms_iff hne (by simp)).2 hkeeps)
    obtain ⟨f, hf, -, he⟩ := exists_mem_of_forall₂ hread.flip hp
    exact ⟨f, hf, (FormElement.argument_mem_iff he).2 ⟨u, c, v, ht, hc⟩⟩

namespace Template

/-- The arguments at the top are those among the segments. -/
theorem Bound.argument_mem_iff {key : ArgumentKey} {segments : List (Segment TemplatePlaceholder)}
    (h : Bound key segments ps) : .argument a ∈ ps ↔ .placeholder (.argument a) ∈ segments := by
  induction h with
  | nil => simp
  | text l _ ih => simp [ih]
  | argument a _ ih => simp [ih]
  | plural _ _ ih => simp [ih]

/-- An argument at the top is read from the content at its place. -/
theorem argument_mem_iff (h : parse source = .ok ps) :
    .argument a ∈ ps ↔ ∃ n c, HasContent source n c ∧ Argument.read c = .ok (some a) := by
  obtain ⟨segments, hs, hbound⟩ := parse_eq_ok_iff.1 h
  rw [hbound.argument_mem_iff]
  constructor
  · intro ha
    obtain ⟨n, hn⟩ := List.getElem?_of_mem ha
    obtain ⟨slices, hcut⟩ := exists_isCut hs
    obtain ⟨_, hslice, c, -, hc, rfl⟩ := exists_getElem?_of_forall₂ hcut.isSlice hn
    exact ⟨n, c, ⟨segments, slices, a, hcut, hn, hslice⟩, hc⟩
  · rintro ⟨n, c, ⟨segments', slices, a', hcut, hn, hslice⟩, hc⟩
    obtain rfl := hcut.eq_of_segmentation hs
    obtain ⟨_, hslice', c', -, hc', rfl⟩ := exists_getElem?_of_forall₂ hcut.isSlice hn
    obtain rfl : c = c' := by simpa [hslice] using hslice'
    obtain rfl := Option.some.inj (Except.ok.inj (hc.symm.trans hc'))
    exact List.mem_of_getElem? hn

/-- **The arguments of a template are read from the contents that are kept.** -/
theorem mem_arguments_iff_keepsContent (h : parse source = .ok ps) :
    a ∈ ps.arguments ↔ ∃ c, KeepsContent source c ∧ Argument.read c = .ok (some a) := by
  rw [mem_arguments_iff, argument_mem_iff h]
  constructor
  · rintro (⟨n, c, hcontent, hc⟩ | ⟨b, f, hb, hf, ha⟩)
    · exact ⟨c, .top hcontent, hc⟩
    · obtain ⟨n, hn⟩ := List.getElem?_of_mem hb
      obtain ⟨texts, hne, hiff, hread⟩ := exists_formTexts_of_parse h hn
      obtain ⟨u, c, v, hkeeps, hfree, hc⟩ := (PluralForm.argument_mem_iff hne hread).1 ⟨f, hf, ha⟩
      exact ⟨c, .inside ((hiff texts).2 rfl) hkeeps hfree, hc⟩
  · rintro ⟨c, hkeeps, hc⟩
    cases hkeeps with
    | top hcontent => exact .inl ⟨_, c, hcontent, hc⟩
    | @inside n texts u _ v htexts hkept hfree =>
      obtain ⟨body, rest, hbody, hrest⟩ := htexts
      obtain ⟨b, hb, -⟩ := exists_read_of_hasBody h hbody
      obtain ⟨texts', hne, hiff, hread⟩ := exists_formTexts_of_parse h hb
      obtain rfl := (hiff texts).1 ⟨body, rest, hbody, hrest⟩
      obtain ⟨f, hf, ha⟩ := (PluralForm.argument_mem_iff hne hread).2 ⟨u, c, v, hkept, hfree, hc⟩
      exact .inr ⟨b, f, List.mem_of_getElem? hb, hf, ha⟩

end Template

end Phrasebook
