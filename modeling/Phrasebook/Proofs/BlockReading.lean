/-
# What is read as a plural block

The texts of a body (`TemplateParser._build_plural`) are its forms, or some of them are
(`Labelling`), and what a label or a place in the body takes away are whole texts, and text
without braces. So a body is at least as open as the texts that are kept of it
(`Labelling.loosensBehind`), and a block that was read can be written so that it is read
again (`isReadable_of_read`).

A block that was read has forms that start with blanks only if they were not labelled, and
then it is written with labels only if all of them look labelled (`looksLabelled_of_read`).
-/

import Phrasebook.Proofs.Spelling

namespace Phrasebook

variable {body rest s t u p : List Char} {ps : List (List Char)} {fallback k : ArgumentKey}
variable {pairs : List (PluralCategory × List Char)} {forms : List PluralForm} {b : PluralBlock}

/-- The categories that the texts of a body are read with, and what is left of the texts. -/
inductive Labelling : List (List Char) → List (PluralCategory × List Char) → Prop
  | labels {ps : List (List Char)} {pairs : List (PluralCategory × List Char)} :
      ps ≠ [] → formLabels? ps = some pairs → Labelling ps pairs
  | single (t : List Char) : Labelling [t] [(.one, []), (.other, t)]
  | positions {kept dropped : List (List Char)} (t : List Char) : kept ≠ [] →
      (positionalCategories (kept.length + 1)).length = kept.length + 1 →
      Labelling (kept ++ (dropped ++ [t]))
        ((positionalCategories (kept.length + 1)).zip (kept ++ [t]))

/-- From the seventh text on no category is added. -/
theorem positionalCategories_min {n : Nat} (hn : 2 ≤ n) :
    positionalCategories (min n 6) = positionalCategories n := by
  by_cases h : n ≤ 6
  · rw [Nat.min_eq_left h]
  · obtain ⟨m, rfl⟩ : ∃ m, n = m + 7 := ⟨n - 7, by omega⟩
    have hmin : min (m + 7) 6 = 6 := Nat.min_eq_right (by omega)
    simp only [positionalCategories, hmin, Nat.min_self]

/-- Texts are read with the categories of their places. -/
theorem labelling_positionalForms (hps : 2 ≤ ps.length) : Labelling ps (positionalForms ps) := by
  have hlen := length_positionalCategories hps
  obtain ⟨n, hn⟩ : ∃ n, min ps.length 6 = n + 1 := ⟨min ps.length 6 - 1, by omega⟩
  have hdrop : ps.drop n ≠ [] := by
    simp only [ne_eq, List.drop_eq_nil_iff]
    omega
  have hne : ps ≠ [] := by
    rintro rfl
    simp at hps
  obtain ⟨dropped, t, hd⟩ : ∃ dropped t, ps.drop n = dropped ++ [t] :=
    ⟨_, _, (List.dropLast_concat_getLast hdrop).symm⟩
  have hsplit : ps = ps.take n ++ (dropped ++ [t]) := by rw [← hd, List.take_append_drop]
  have hlast : ps.getLast? = some t := by
    rw [hsplit]
    simp
  have htake : (ps.take n).length = n := by
    rw [List.length_take]
    omega
  have hkept : ps.take n ≠ [] := by
    intro h
    rw [h] at htake
    simp only [List.length_nil] at htake
    omega
  have hcat : positionalCategories ((ps.take n).length + 1) = positionalCategories ps.length := by
    rw [htake, ← hn, positionalCategories_min hps]
  have hforms : positionalForms ps =
      (positionalCategories ((ps.take n).length + 1)).zip (ps.take n ++ [t]) := by
    rw [hcat, positionalForms, hlen, hn, hlast]
    rfl
  rw [hforms]
  conv => lhs; rw [hsplit]
  exact .positions t hkept (by rw [hcat, hlen, hn, htake])

/-- The forms of a block are read with a category each. -/
theorem labelling_labelledForms (hne : ps ≠ []) : Labelling ps (labelledForms ps) := by
  cases h : formLabels? ps with
  | some pairs =>
    simp only [labelledForms, h]
    exact .labels hne h
  | none =>
    rcases ps with _ | ⟨t, _ | ⟨u, ps⟩⟩
    · exact absurd rfl hne
    · simp only [labelledForms, h]
      exact .single t
    · rw [PluralBlock.labelledForms_of_two_le h (by simp)]
      exact labelling_positionalForms (by simp)

/-- Whether what stands before a colon at the start of `t` stands there in `s` too, if it has no
bar and no opening brace. -/
def KeepsKeys (s t : List Char) : Prop :=
  ∀ p, '|' ∉ p → '{' ∉ p → p ++ [':'] <+: t → p ++ [':'] <+: s

namespace KeepsKeys

/-- What is kept in two steps is kept. -/
theorem trans (h : KeepsKeys s t) (h' : KeepsKeys t u) : KeepsKeys s u := fun p hbar hbrace hp =>
  h p hbar hbrace (h' p hbar hbrace hp)

/-- Respelling a text keeps the keys in front of its colons. -/
theorem of_respelled (h : Respelled s t) : KeepsKeys s t := by
  rintro p - hbrace ⟨r, rfl⟩
  obtain ⟨q, rfl, -⟩ := h.symm.exists_append (p := p ++ [':']) (by simpa using hbrace)
  exact List.prefix_append _ _

/-- A key that is read in front of one text is read in front of the other. -/
theorem keyPrefix_eq_some (h : KeepsKeys s t) (hk : keyPrefix t = .ok (some (k, rest))) :
    ∃ rest', keyPrefix s = .ok (some (k, rest')) := by
  obtain ⟨-, p, opt, hread, hp, -, rfl⟩ := Phrasebook.keyPrefix_eq_some hk
  have hbar : '|' ∉ p := fun hx => (hp _ hx).2.1 rfl
  have hbrace : '{' ∉ p := fun hx => (hp _ hx).2.2 rfl
  obtain ⟨rest', rfl⟩ := h p hbar hbrace ⟨rest, by simp⟩
  refine ⟨rest', ?_⟩
  rw [List.append_assoc, List.singleton_append, keyPrefix_append hp, hread]
  rfl

end KeepsKeys

namespace Labelling

/-- There is a form at least. -/
theorem ne_nil (h : Labelling ps pairs) : pairs ≠ [] := by
  cases h with
  | labels hne hl =>
    rintro rfl
    exact hne (List.forall₂_nil_right_iff.1 (formLabels?_eq_some_iff.1 hl))
  | single t => simp
  | positions t hk hc =>
    intro hn
    have := congrArg List.length hn
    simp [hc] at this

/-- Labelled texts are pieces if the texts of the body are. -/
theorem isPiece (h : Labelling ps pairs) (hps : ∀ p ∈ ps, IsPiece p) :
    ∀ p ∈ pairs, IsPiece p.2 := by
  intro p hp
  cases h with
  | labels _ hl =>
    obtain ⟨t, ht, hlabel⟩ := exists_mem_of_forall₂ (formLabels?_eq_some_iff.1 hl) hp
    obtain ⟨-, x, hx, -, rfl⟩ := formLabel?_eq_some hlabel
    exact (hps _ ht).of_append hx
  | single t =>
    simp only [List.mem_cons, List.not_mem_nil, or_false] at hp
    rcases hp with rfl | rfl
    · exact .nil
    · exact hps t (by simp)
  | positions t _ _ =>
    have hmem := (List.of_mem_zip hp).2
    refine hps _ ?_
    simp only [List.mem_append] at hmem ⊢
    tauto

/-- **The texts that are kept of a body are no more closed than the body.** -/
theorem loosensBehind (h : Labelling ps pairs) (hps : ∀ p ∈ ps, IsPiece p) :
    LoosensBehind (Text.joined '|' ps) (Text.joined '|' (pairs.map Prod.snd)) := by
  cases h with
  | labels _ hl =>
    refine loosens_joined ?_
    rw [List.forall₂_map_right_iff]
    refine (formLabels?_eq_some_iff.1 hl).imp fun t p hlabel => ?_
    obtain ⟨-, x, hx, -, rfl⟩ := formLabel?_eq_some hlabel
    exact .exchange (y := []) (hx.braceDepth_eq 0) .nil (.refl p.2)
  | single t =>
    have hbar : BraceFree ['|'] := .cons (by decide) (by decide) .nil
    exact .exchange (x := []) (y := ['|']) rfl hbar (.refl t)
  | @positions kept dropped t hk hc =>
    have hsnd : ((positionalCategories (kept.length + 1)).zip (kept ++ [t])).map Prod.snd =
        kept ++ [t] := List.map_snd_zip (by simp [hc])
    obtain ⟨x, hx, hj⟩ := exists_joined_concat (t := t) fun p (hp : p ∈ dropped) =>
      (hps p (by simp [hp])).balanced
    rw [hsnd, Text.joined_append hk (by simp), Text.joined_append hk (by simp), hj]
    have hlast := LoosensBehind.exchange (y := []) hx .nil (.refl t) '|' (by decide)
    exact .of_loosens (hlast.append_left _)

/-- **Only texts that are not labelled start with blanks,** and then the first of them are kept. -/
theorem startsBlank_eq_false_or (h : Labelling ps pairs) :
    (∀ p ∈ pairs, Text.startsBlank p.2 = false) ∨
      2 ≤ pairs.length ∧ pairs.map Prod.fst = positionalCategories pairs.length ∧
        KeepsKeys (Text.joined '|' ps) (Text.joined '|' (pairs.map Prod.snd)) := by
  cases h with
  | labels _ hl =>
    refine .inl fun p hp => ?_
    obtain ⟨t, -, hlabel⟩ := exists_mem_of_forall₂ (formLabels?_eq_some_iff.1 hl) hp
    exact (formLabel?_eq_some hlabel).1
  | single t =>
    refine .inr ⟨by simp, rfl, fun p hbar _ hp => ?_⟩
    cases p with
    | nil => simp [Text.joined] at hp
    | cons c p =>
      simp only [List.map_cons, List.map_nil, Text.joined, List.nil_append, List.cons_append,
        List.cons_prefix_cons] at hp
      exact absurd hp.1.symm (by rintro rfl; simp at hbar)
  | @positions kept dropped t hk hc =>
    have hlen : (kept ++ [t]).length = (positionalCategories (kept.length + 1)).length := by
      rw [hc, List.length_append, List.length_singleton]
    have hfst := List.map_fst_zip (Nat.le_of_eq hlen.symm)
    have hsnd := List.map_snd_zip (Nat.le_of_eq hlen)
    have hzip : ((positionalCategories (kept.length + 1)).zip (kept ++ [t])).length =
        kept.length + 1 := by simp [hc]
    have hpos : 0 < kept.length := List.length_pos_iff.2 hk
    rw [hfst, hsnd, hzip]
    refine .inr ⟨by omega, rfl, fun p hbar _ hp => ?_⟩
    rw [Text.joined_append hk (by simp)] at hp ⊢
    exact (Text.isPrefix_of_not_mem (by simpa using hbar) hp).trans (List.prefix_append _ _)

end Labelling

/-- What the texts that are read as forms have in common with them. -/
theorem exists_respelled (h : PluralForm.readAll pairs = .ok forms) :
    forms.map (·.category) = pairs.map Prod.fst ∧
      List.Forall₂ Respelled (pairs.map Prod.snd) (forms.map PluralForm.chars) ∧
        ∀ f ∈ forms, FormElement.readAll f.chars = .ok f.elements ∧
          ∃ p ∈ pairs, Respelled p.2 f.chars := by
  have hread := PluralForm.readAll_eq_ok_iff.1 h
  refine ⟨?_, ?_, fun f hf => ?_⟩
  · rw [← List.forall₂_eq_eq_eq, List.forall₂_map_left_iff, List.forall₂_map_right_iff]
    exact (hread.imp fun _ _ hpf => hpf.1).flip
  · rw [List.forall₂_map_left_iff, List.forall₂_map_right_iff]
    exact hread.imp fun _ _ hpf => FormElement.respelled_of_readAll hpf.2
  · obtain ⟨p, hp, -, he⟩ := exists_mem_of_forall₂ hread hf
    exact ⟨FormElement.readAll_chars he, p, hp, FormElement.respelled_of_readAll he⟩

namespace PluralBlock

/-- **How a block is read:** with the key that stands in front of its body, from the texts behind
it, or with the key to fall back to, from the texts of the whole body. -/
theorem keyPrefix_of_read (h : PluralBlock.read fallback body = .ok b) :
    (∃ rest, keyPrefix body = .ok (some (b.key, rest)) ∧ b.explicitKey = true ∧
      PluralForm.readAll (labelledForms (formTexts rest)) = .ok b.forms) ∨
    (keyPrefix body = .ok none ∧ b.explicitKey = false ∧ b.key = fallback ∧
      PluralForm.readAll (labelledForms (formTexts body)) = .ok b.forms) := by
  unfold PluralBlock.read at h
  split at h
  · cases h
  · rename_i key rest hk
    obtain ⟨forms, hf, rfl⟩ := map_eq_ok_iff.1 h
    exact .inl ⟨rest, hk, rfl, hf⟩
  · rename_i hk
    obtain ⟨forms, hf, rfl⟩ := map_eq_ok_iff.1 h
    exact .inr ⟨hk, rfl, rfl, hf⟩

/-- A block is read from the texts of its body behind the key, if the body names one. -/
theorem exists_of_read (h : PluralBlock.read fallback body = .ok b) :
    ∃ rest, PluralForm.readAll (labelledForms (formTexts rest)) = .ok b.forms ∧
      ((b.explicitKey = true ∧ b.key.IsWritable ∧ ∃ p, BraceFree p ∧ body = p ++ ':' :: rest) ∨
        (b.explicitKey = false ∧ b.key = fallback ∧ body = rest ∧ keyPrefix rest = .ok none)) := by
  rcases keyPrefix_of_read h with ⟨rest, hk, he, hf⟩ | ⟨hk, he, hkey, hf⟩
  · obtain ⟨hw, p, -, -, -, hp, rfl⟩ := keyPrefix_eq_some hk
    exact ⟨rest, hf, .inl ⟨he, hw, p, hp, rfl⟩⟩
  · exact ⟨body, hf, .inr ⟨he, hkey, rfl, hk⟩⟩

/-- A block that names no key is bound to the key that it is read with. -/
theorem key_eq_of_read (h : PluralBlock.read fallback body = .ok b) (he : b.explicitKey = false) :
    b.key = fallback := by
  obtain ⟨rest, -, ⟨he', -⟩ | ⟨-, hk, -⟩⟩ := exists_of_read h
  · rw [he] at he'
    cases he'
  · exact hk

/-- What stands behind a key without braces is a body if all of it is one. -/
theorem isPluralBody_of_read (hbody : IsPluralBody body) {p : List Char} (hp : BraceFree p)
    (hb : body = p ++ ':' :: rest) : IsPluralBody rest := by
  subst hb
  have hcolon : BraceFree (p ++ [':']) := hp.append (.cons (by decide) (by decide) .nil)
  rw [← List.singleton_append, ← List.append_assoc] at hbody
  exact (isPluralBody_append_iff hcolon).1 hbody

/-- The texts of the forms that were read are no more closed than the body. -/
theorem loosensBehind_texts (hrest : IsPluralBody rest)
    (h : PluralForm.readAll (labelledForms (formTexts rest)) = .ok b.forms) :
    LoosensBehind rest (Text.joined '|' b.texts) := by
  have hkept := (labelling_labelledForms (formTexts_ne_nil rest)).loosensBehind fun p =>
    isPiece_of_mem_formTexts hrest.balanced
  rw [joined_formTexts] at hkept
  exact hkept.trans (.of_loosens (Respelled.joined (exists_respelled h).2.1).loosens)

/-- **A block that was read has forms that can be read again.** -/
theorem isReadable_of_read (hbody : IsPluralBody body)
    (h : PluralBlock.read fallback body = .ok b) :
    b.IsReadable := by
  obtain ⟨rest, hf, hkey⟩ := exists_of_read h
  have hrest : IsPluralBody rest := by
    rcases hkey with ⟨-, -, p, hp, hb⟩ | ⟨-, -, rfl, -⟩
    · exact isPluralBody_of_read hbody hp hb
    · exact hbody
  have hlabel := labelling_labelledForms (formTexts_ne_nil rest)
  obtain ⟨hcat, -, hforms⟩ := exists_respelled hf
  refine ⟨?_, fun {f} hmem => ?_, fun {f} hmem => (hforms f hmem).1, ?_, fun he => ?_⟩
  · intro hn
    rw [hn, List.map_nil, eq_comm, List.map_eq_nil_iff] at hcat
    exact hlabel.ne_nil hcat
  · obtain ⟨-, p, hp, hs⟩ := hforms f hmem
    exact hs.isPiece (hlabel.isPiece (fun p => isPiece_of_mem_formTexts hrest.balanced) p hp)
  · exact (loosensBehind_texts hrest hf).not_closes (isPluralBody_iff.1 hrest).2
  · rcases hkey with ⟨-, hw, -⟩ | ⟨hn, -⟩
    · exact hw
    · rw [he] at hn
      cases hn

/-- **What is written for a block that was read is no more closed than the body.** -/
theorem loosensBehind_of_read (hbody : IsPluralBody body)
    (h : PluralBlock.read fallback body = .ok b) (hw : b.Writes t) : LoosensBehind body t := by
  obtain ⟨s, hs, rfl⟩ := hw
  obtain ⟨rest, hf, ⟨he, hkw, p, hp, rfl⟩ | ⟨he, -, rfl, -⟩⟩ := exists_of_read h
  · have hrest := isPluralBody_of_read hbody hp rfl
    have hbehind := (loosensBehind_texts hrest hf).trans (loosensBehind_body hs)
    rw [keyChars, if_pos he, List.append_assoc, List.singleton_append]
    exact .exchange (hp.braceDepth_eq 0) hkw.braceFree (hbehind ':' (by decide))
  · rw [keyChars, if_neg (by simp [he]), List.nil_append]
    exact (loosensBehind_texts hbody hf).trans (loosensBehind_body hs)

/-- **A block that was read, is written with labels and starts a form with a blank has nothing but
forms that look labelled.** -/
theorem looksLabelled_of_read (h : PluralBlock.read fallback body = .ok b) (hl : b.IsLabelled)
    (hblank : ∃ f ∈ b.forms, Text.startsBlank f.chars = true) :
    ∀ f ∈ b.forms, looksLabelled f.chars = true := by
  obtain ⟨rest, hf, hkey⟩ := exists_of_read h
  obtain ⟨hcat, htexts, hforms⟩ := exists_respelled hf
  have hlen : b.forms.length = (labelledForms (formTexts rest)).length := by
    simpa using congrArg List.length hcat
  rcases (labelling_labelledForms (formTexts_ne_nil rest)).startsBlank_eq_false_or with
    hno | ⟨htwo, hpos, hkeys⟩
  · obtain ⟨f, hmem, hb⟩ := hblank
    obtain ⟨-, p, hp, hs⟩ := hforms f hmem
    rw [← hs.startsBlank_eq, hno p hp] at hb
    cases hb
  · have hpositional : b.IsPositional := ⟨hlen ▸ htwo, by rw [hcat, hpos, hlen]⟩
    have hplain := hl.2
    rw [plainBody?_of_isPositional hpositional] at hplain
    obtain ⟨keyed, hk, hn⟩ := map_eq_ok_iff.1 hplain
    rw [joined_formTexts] at hkeys
    -- the block would have been read with a key
    have hkeyed : keyed = false := by
      by_contra hc
      rw [Bool.not_eq_false] at hc
      subst hc
      obtain ⟨hi, k, r, hkp⟩ := looksKeyed_eq_true_iff.1 hk
      rcases hkey with ⟨he, -⟩ | ⟨-, -, -, hnone⟩
      · rw [hi] at he
        cases he
      · have hkeep := hkeys.trans (.of_respelled (Respelled.joined htexts))
        obtain ⟨r', hr⟩ := hkeep.keyPrefix_eq_some hkp
        rw [hnone] at hr
        cases hr
    have hall : b.texts.all looksLabelled = true := by
      by_contra hc
      simp [hkeyed, hc] at hn
    intro f hmem
    exact List.all_eq_true.1 hall _ (List.mem_map_of_mem hmem)

end PluralBlock

end Phrasebook
