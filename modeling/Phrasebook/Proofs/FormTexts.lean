/-
# The forms of a block and the texts they are read from

What stands behind the key of a body is cut at the bars outside its braces (`split_top_level`,
`IsTopLevelCut`), which can be done in one way. If every text starts with a label, each of them is
read as one form. Otherwise labels do not count, and the forms have categories by number and place
(`UnlabelledForms`): the last text is read for `other`, and at most five in front of it are kept.

So a block with a text that is not labelled has a form for `other`, and whatever the resolver
answers, one of its forms is selected (`PluralBlock.exists_of_select`).
-/

import Phrasebook.Proofs.Driver
import Phrasebook.Proofs.Lookup

namespace Phrasebook

variable {source : String} {n : Nat} {s t body rest : List Char} {texts front : List (List Char)}
variable {b : PluralBlock} {forms : List PluralForm} {ps : Template}

/-- What stands behind the key of the body of a plural block: the whole body if it names no key. -/
inductive BehindKey (body : List Char) : List Char → Prop
  | key {k : ArgumentKey} {rest : List Char} : NamesKey body k rest → BehindKey body rest
  | whole : (∀ k rest, ¬ NamesKey body k rest) → BehindKey body body

/-- A text cut at the bars outside its braces. -/
structure IsTopLevelCut (s : List Char) (texts : List (List Char)) : Prop where
  ne_nil : texts ≠ []
  joined_eq : Text.joined '|' texts = s
  isPiece : ∀ t ∈ texts, IsPiece t

/-- **A balanced text is cut in one way.** -/
theorem isTopLevelCut_iff (hs : braceDepth 0 s = 0) :
    IsTopLevelCut s texts ↔ texts = formTexts s := by
  constructor
  · rintro ⟨hne, rfl, hpieces⟩
    exact (formTexts_joined hne hpieces).symm
  · rintro rfl
    exact ⟨formTexts_ne_nil s, joined_formTexts s, fun t => isPiece_of_mem_formTexts hs⟩

/-- Whether there is a plural block at a place of a source text whose body is cut into the texts,
behind its key. -/
def HasFormTexts (source : String) (n : Nat) (texts : List (List Char)) : Prop :=
  ∃ body rest, HasBody source n body ∧ BehindKey body rest ∧ IsTopLevelCut rest texts

namespace BehindKey

/-- A key that a body names has no braces. -/
theorem exists_braceFree (h : BehindKey body rest) : ∃ p, BraceFree p ∧ body = p ++ rest := by
  cases h with
  | key hk =>
    obtain ⟨-, p, -, -, -, hp, rfl⟩ := keyPrefix_eq_some (keyPrefix_eq_some_iff.2 hk)
    exact ⟨p ++ [':'], hp.append (.cons (by decide) (by decide) .nil), by simp⟩
  | whole => exact ⟨[], .nil, rfl⟩

/-- What stands behind the key of a body is a body. -/
theorem isPluralBody (h : BehindKey body rest) (hbody : IsPluralBody body) : IsPluralBody rest := by
  obtain ⟨p, hp, rfl⟩ := h.exists_braceFree
  exact (isPluralBody_append_iff hp).1 hbody

/-- There is one text behind the key. -/
theorem unique {rest' : List Char} (h : BehindKey body rest) (h' : BehindKey body rest') :
    rest = rest' := by
  cases h with
  | key hk =>
    cases h' with
    | key hk' => exact (hk.unique hk').2
    | whole hnone => exact absurd hk (hnone _ _)
  | whole hnone =>
    cases h' with
    | key hk' => exact absurd hk' (hnone _ _)
    | whole => rfl

end BehindKey

/-- A block is read from the texts behind the key of its body. -/
theorem PluralBlock.exists_behindKey_of_read {fallback : ArgumentKey}
    (h : PluralBlock.read fallback body = .ok b) : ∃ rest, BehindKey body rest ∧
      PluralForm.readAll (labelledForms (formTexts rest)) = .ok b.forms := by
  rcases namesKey_or_of_read h with ⟨rest, hk, -, hforms⟩ | ⟨hnone, -, -, hforms⟩
  · exact ⟨rest, .key hk, hforms⟩
  · exact ⟨body, .whole hnone, hforms⟩

/-- **The forms of a block are read from the texts at its place,** and from no other texts. -/
theorem exists_formTexts_of_parse (h : Template.parse source = .ok ps)
    (hb : ps[n]? = some (.plural b)) : ∃ texts, texts ≠ [] ∧
      (∀ texts', HasFormTexts source n texts' ↔ texts' = texts) ∧
        PluralForm.readAll (labelledForms texts) = .ok b.forms := by
  obtain ⟨body, hn, hread⟩ := (Template.getElem?_eq_plural_iff_of_parse h).1 hb
  obtain ⟨rest, hrest, hforms⟩ := PluralBlock.exists_behindKey_of_read hread
  have hbalanced := (hrest.isPluralBody hn.isPluralBody).balanced
  refine ⟨formTexts rest, formTexts_ne_nil rest, fun texts' => ?_, hforms⟩
  constructor
  · rintro ⟨body', rest', hn', hrest', hcut⟩
    obtain ⟨segments, hs, -⟩ := Template.parse_eq_ok_iff.1 h
    obtain rfl := hn.unique hs hn'
    obtain rfl := hrest.unique hrest'
    exact (isTopLevelCut_iff hbalanced).1 hcut
  · rintro rfl
    exact ⟨body, rest, hn, hrest, (isTopLevelCut_iff hbalanced).2 rfl⟩

/-- Whether each text is read as one form: it starts with the label of its category, and the
elements are read from what stands behind the label. -/
def LabelledForms (texts : List (List Char)) (forms : List PluralForm) : Prop :=
  List.Forall₂ (fun t f => ∃ r, LabelledAs t (PluralForm.category f) r ∧
    FormElement.readAll r = .ok f.elements) texts forms

/-- What texts that are not all labelled are read as. The forms stand in the order of the
categories, with none twice. The last text is read for `other`. In front of it stands an empty form
for `one` if there is no other text, and otherwise the first texts are read, five at most. -/
structure UnlabelledForms (texts : List (List Char)) (forms : List PluralForm) : Prop where
  categories : (forms.map (·.category)).Sublist PluralCategory.all
  exists_last : ∃ front t kept f, texts = front ++ [t] ∧ forms = kept ++ [f] ∧
    f.category = .other ∧ FormElement.readAll t = .ok f.elements ∧
    (front = [] → kept = [⟨.one, []⟩]) ∧
    (front ≠ [] → List.Forall₂ (fun s g => FormElement.readAll s = .ok (PluralForm.elements g))
      (front.take 5) kept)

/-- **Texts that are all labelled are the forms that their labels say.** -/
theorem labelledForms_of_readAll {pairs : List (PluralCategory × List Char)}
    (hlabels : formLabels? texts = some pairs) (h : PluralForm.readAll pairs = .ok forms) :
    LabelledForms texts forms := by
  rw [formLabels?_eq_some_iff] at hlabels
  rw [PluralForm.readAll_eq_ok_iff] at h
  induction hlabels generalizing forms with
  | nil =>
    obtain rfl := List.forall₂_nil_left_iff.1 h
    exact .nil
  | @cons t pair texts pairs hlabel _ ih =>
    obtain ⟨f, forms, ⟨hc, he⟩, hforms, rfl⟩ := List.forall₂_cons_left_iff.1 h
    refine .cons ⟨pair.2, ?_, he⟩ (ih hforms)
    rw [hc]
    exact formLabel?_eq_some_iff.1 hlabel

/-- Labels do not count just if a text starts with none. -/
theorem formLabels?_eq_none_iff_exists :
    formLabels? texts = none ↔ ∃ t ∈ texts, ∀ c r, ¬ LabelledAs t c r := by
  rw [formLabels?_eq_none_iff]
  simp only [Option.eq_none_iff_forall_ne_some, Prod.forall, Ne, formLabel?_eq_some_iff]

namespace UnlabelledForms

/-- No two forms have the same category. -/
theorem nodup (h : UnlabelledForms texts forms) : (forms.map (·.category)).Nodup :=
  h.categories.nodup (by decide)

/-- There are no more forms than categories. -/
theorem length_le (h : UnlabelledForms texts forms) : forms.length ≤ 6 := by
  have hlen := h.categories.length_le
  rw [List.length_map] at hlen
  exact hlen

end UnlabelledForms

/-- The last category by number is `other`, and those before it stand in their order. -/
theorem exists_positionalCategories_eq (n : Nat) : ∃ cs, positionalCategories n = cs ++ [.other] ∧
    cs.Sublist [.zero, .one, .two, .few, .many] := by
  unfold positionalCategories
  split
  · exact ⟨[.zero, .one, .two, .few], rfl, by decide⟩
  · exact ⟨[.one], rfl, by decide⟩
  · exact ⟨[.zero, .one], rfl, by decide⟩
  · exact ⟨_, rfl, List.take_sublist _ _⟩

/-- The texts in front of the last one are kept up to the fifth, with one category for each. -/
theorem positionalForms_concat (hfront : front ≠ []) : ∃ cs : List PluralCategory,
    cs.Sublist [.zero, .one, .two, .few, .many] ∧ cs.length = (front.take 5).length ∧
      positionalForms (front ++ [t]) = cs.zip (front.take 5) ++ [(.other, t)] := by
  obtain ⟨cs, hcs, hsub⟩ := exists_positionalCategories_eq (front ++ [t]).length
  have hpos := List.length_pos_iff.2 hfront
  have htotal : (front ++ [t]).length = front.length + 1 := by simp
  have hlen : (positionalCategories (front ++ [t]).length).length = min (front.length + 1) 6 := by
    rw [length_positionalCategories (by omega), htotal]
  have hcount : cs.length = min 5 front.length := by
    rw [hcs, List.length_append, List.length_singleton] at hlen
    omega
  have htake : (front ++ [t]).take cs.length = front.take 5 := by
    rw [hcount, List.take_append_of_le_length (by omega), ← List.take_take, List.take_length]
  have hkept : cs.length = (front.take 5).length := by rw [hcount, List.length_take]
  refine ⟨cs, hsub, hkept, ?_⟩
  calc positionalForms (front ++ [t])
      = (cs ++ [PluralCategory.other]).zip
          ((front ++ [t]).take cs.length ++ (front ++ [t]).getLast?.toList) := by
        rw [positionalForms, hcs, List.length_append, List.length_singleton, Nat.add_sub_cancel]
    _ = (cs ++ [PluralCategory.other]).zip (front.take 5 ++ [t]) := by
        rw [htake, List.getLast?_concat, Option.toList_some]
    _ = cs.zip (front.take 5) ++ [(.other, t)] := by
        rw [List.zip_append hkept]
        rfl

/-- An empty text is read as no elements. -/
theorem readAll_nil : FormElement.readAll [] = .ok [] := by
  rw [FormElement.readAll, Segment.scan_nil]
  rfl

/-- A single text is the form for `other`, behind an empty one. -/
theorem unlabelledForms_singleton (h : PluralForm.readAll [(.one, []), (.other, t)] = .ok forms) :
    UnlabelledForms [t] forms := by
  have hcat := (exists_respelled h).1
  obtain ⟨⟨category, elements⟩, rest, ⟨hone, hempty⟩, hrest, rfl⟩ :=
    List.forall₂_cons_left_iff.1 (PluralForm.readAll_eq_ok_iff.1 h)
  obtain ⟨f, rest, ⟨hother, he⟩, hnil, rfl⟩ := List.forall₂_cons_left_iff.1 hrest
  obtain rfl := List.forall₂_nil_left_iff.1 hnil
  obtain rfl : category = .one := hone
  obtain rfl : elements = [] := (Except.ok.inj (readAll_nil.symm.trans hempty)).symm
  refine ⟨?_, [], t, [⟨.one, []⟩], f, rfl, rfl, hother, he, fun _ => rfl, fun hn => absurd rfl hn⟩
  rw [hcat]
  show [PluralCategory.one, .other].Sublist PluralCategory.all
  decide

/-- Several texts are forms by their number and place. -/
theorem unlabelledForms_concat (hfront : front ≠ [])
    (h : PluralForm.readAll (positionalForms (front ++ [t])) = .ok forms) :
    UnlabelledForms (front ++ [t]) forms := by
  obtain ⟨cs, hsub, hlen, hzip⟩ := positionalForms_concat (t := t) hfront
  have hcat := (exists_respelled h).1
  rw [hzip] at h hcat
  obtain ⟨kept, f, rfl, hkept, hother, he⟩ :=
    forall₂_concat_left_iff.1 (PluralForm.readAll_eq_ok_iff.1 h)
  refine ⟨?_, front, t, kept, f, rfl, rfl, hother, he, fun hn => absurd hn hfront, fun _ => ?_⟩
  · rw [hcat, List.map_append, List.map_fst_zip (Nat.le_of_eq hlen)]
    exact hsub.append_right [PluralCategory.other]
  · have hsnd := List.map_snd_zip (Nat.le_of_eq hlen.symm)
    rw [← hsnd, List.forall₂_map_left_iff]
    exact hkept.imp fun _ _ hp => hp.2

/-- **Texts that are not all labelled are forms without labels.** -/
theorem unlabelledForms_of_readAll (hne : texts ≠ []) (hlabels : formLabels? texts = none)
    (h : PluralForm.readAll (labelledForms texts) = .ok forms) : UnlabelledForms texts forms := by
  obtain ⟨front, t, rfl⟩ : ∃ front t, texts = front ++ [t] :=
    ⟨_, _, (List.dropLast_concat_getLast hne).symm⟩
  by_cases hfront : front = []
  · subst hfront
    have hforms : labelledForms ([] ++ [t]) = [(.one, []), (.other, t)] := by
      simp only [labelledForms, hlabels]
      rfl
    rw [hforms] at h
    exact unlabelledForms_singleton h
  · have hpos := List.length_pos_iff.2 hfront
    rw [PluralBlock.labelledForms_of_two_le hlabels (by simp; omega)] at h
    exact unlabelledForms_concat hfront h

namespace PluralBlock

/-- **A block with a form for `other` has a form for every number,** whatever the resolver
answers. -/
theorem exists_of_select {resolver : PluralResolver} {number : Number} {f : Option PluralForm}
    (hother : ∃ g ∈ b.forms, g.category = .other)
    (h : (b.select resolver number).outcome = .ok f) : ∃ g ∈ b.forms, f = some g := by
  suffices hf : f.isSome = true by
    obtain ⟨g, rfl⟩ := Option.isSome_iff_exists.1 hf
    exact ⟨g, mem_of_select h, rfl⟩
  have hsome : b.otherForm?.isSome = true := by
    obtain ⟨g, hg, hc⟩ := hother
    rw [otherForm?, form?, List.find?_isSome]
    exact ⟨g, hg, by rw [hc]; rfl⟩
  unfold select at h
  split at h
  · cases h
  · obtain rfl := Except.ok.inj h
    exact hsome
  · split at h
    · obtain rfl := Except.ok.inj h
      rfl
    · obtain ⟨category, -, rfl⟩ := map_eq_ok_iff.1 h
      rw [formFor?, Option.isSome_or, hsome, Bool.or_true]

end PluralBlock

/-- **The forms of a block.** The body of a block that was read is cut into texts behind its key. If
each text is labelled, each is one form with the category of its label, in order. Otherwise the
forms stand in the order of the categories with `other` last, which is read from the whole of the
last text; in front of it there are the first texts, five at most, or an empty form for `one` if
there is no other text. Then some form is selected for every number that selection does not fail
for, whatever the resolver answers. -/
theorem forms_of_parse (h : Template.parse source = .ok ps) (hb : ps[n]? = some (.plural b)) :
    (∃ texts, HasFormTexts source n texts) ∧ ∀ texts, HasFormTexts source n texts →
      ((∀ t ∈ texts, ∃ c r, LabelledAs t c r) → LabelledForms texts b.forms) ∧
      ((∃ t ∈ texts, ∀ c r, ¬ LabelledAs t c r) → UnlabelledForms texts b.forms ∧
        (b.forms.map (·.category)).Nodup ∧ b.forms.length ≤ 6 ∧
        ∀ resolver number f, (b.select resolver number).outcome = .ok f →
          ∃ g ∈ b.forms, f = some g) := by
  obtain ⟨texts, hne, hiff, hread⟩ := exists_formTexts_of_parse h hb
  refine ⟨⟨texts, (hiff texts).2 rfl⟩, fun texts' htexts => ?_⟩
  obtain rfl := (hiff texts').1 htexts
  refine ⟨fun hall => ?_, fun hsome => ?_⟩
  · cases hlabels : formLabels? texts' with
    | none =>
      obtain ⟨t, ht, hnone⟩ := formLabels?_eq_none_iff_exists.1 hlabels
      obtain ⟨c, r, hlabel⟩ := hall t ht
      exact absurd hlabel (hnone c r)
    | some pairs =>
      have hforms : labelledForms texts' = pairs := by simp only [labelledForms, hlabels]
      rw [hforms] at hread
      exact labelledForms_of_readAll hlabels hread
  · have hforms := unlabelledForms_of_readAll hne (formLabels?_eq_none_iff_exists.2 hsome) hread
    refine ⟨hforms, hforms.nodup, hforms.length_le, fun resolver number f =>
      PluralBlock.exists_of_select ?_⟩
    obtain ⟨_, _, kept, g, -, hforms', hother, -⟩ := hforms.exists_last
    exact ⟨g, by simp [hforms'], hother⟩

/-- A block with more texts than there are categories, one of them labelled, and a block with
labels only. -/
def catalogue : String := "{{n : a|b|one=c|{x}|e|f| g|h {?}}}{{few = {y|z} of|one=}}"

/-- The texts of the first block of a catalogue. -/
def catalogueTexts : List (List Char) :=
  [" a", "b", "one=c", "{x}", "e", "f", " g", "h {?}"].map String.toList

/-- The first block of a catalogue. -/
def catalogueBlock : PluralBlock where
  key := .named "n"
  forms := [⟨.zero, [.text " a"]⟩, ⟨.one, [.text "b"]⟩, ⟨.two, [.text "one=c"]⟩,
    ⟨.few, [.argument { key := .named "x" }]⟩, ⟨.many, [.text "e"]⟩,
    ⟨.other, [.text "h ", .value]⟩]
  explicitKey := true

/-- The first block keeps five texts and the last one, and has a form for whatever is answered; the
second block has the two forms that its labels say. -/
theorem forms_of_parse_catalogue :
    HasFormTexts catalogue 0 catalogueTexts ∧ UnlabelledForms catalogueTexts catalogueBlock.forms ∧
      (∀ number f, (catalogueBlock.select (.function fun _ => .ok "dual") number).outcome = .ok f →
        ∃ g ∈ catalogueBlock.forms, f = some g) ∧
      HasFormTexts catalogue 1 ["few = {y|z} of".toList, "one=".toList] ∧
      LabelledForms ["few = {y|z} of".toList, "one=".toList]
        [⟨.few, [.argument { key := .named "y", formatters := ["z"] }, .text " of"]⟩, ⟨.one, []⟩] := by
  have hparse : Template.parse catalogue = .ok [.plural catalogueBlock, .plural {
      key := .positional 0
      forms := [⟨.few, [.argument { key := .named "y", formatters := ["z"] }, .text " of"]⟩,
        ⟨.one, []⟩] }] := by cbv
  have hfirst : HasFormTexts catalogue 0 catalogueTexts := by
    refine ⟨_, _, hasBody_of_scan (by cbv), .key (keyPrefix_eq_some_iff.1 (by cbv)), ?_⟩
    exact (isTopLevelCut_iff (by cbv)).2 (by cbv)
  have hsecond : HasFormTexts catalogue 1 ["few = {y|z} of".toList, "one=".toList] := by
    refine ⟨_, _, hasBody_of_scan (by cbv),
      .whole fun _ _ => not_namesKey_of_keyPrefix (by cbv), ?_⟩
    exact (isTopLevelCut_iff (by cbv)).2 (by cbv)
  have hunlabelled : formLabel? " a".toList = none := by cbv
  obtain ⟨hforms, -, -, hselect⟩ := ((forms_of_parse hparse (n := 0) rfl).2 _ hfirst).2
    ⟨" a".toList, by decide, fun c r hc => by rw [← formLabel?_eq_some_iff, hunlabelled] at hc; cases hc⟩
  have hlabelled := ((forms_of_parse hparse (n := 1) rfl).2 _ hsecond).1 fun t ht => by
    simp only [List.mem_cons, List.not_mem_nil, or_false] at ht
    rcases ht with rfl | rfl
    · exact ⟨.few, "{y|z} of".toList, formLabel?_eq_some_iff.1 (by cbv)⟩
    · exact ⟨.one, [], formLabel?_eq_some_iff.1 (by cbv)⟩
  exact ⟨hfirst, hforms, hselect _, hsecond, hlabelled⟩

end Phrasebook
