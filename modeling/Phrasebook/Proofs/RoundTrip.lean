/-
# Writing a template that was read

A template that was read (`parse`) and written (`serialize`) is scanned into the same segments as
before, each block with what is now written between its braces (`segmentation_of_bound`): every
brace that opened nothing still opens nothing, since what is written is no more closed than what was
read. So only the blocks themselves can be read differently, and `source_parses_back_iff` says
exactly when they are: a block must not start with a number that has too many digits to tell whether
it is a key, and no form of it may start with a blank when all its forms look labelled.
-/

import Phrasebook.Proofs.BlockReading
import Phrasebook.Proofs.Written

namespace Phrasebook

variable {s t v rest rest' : List Char} {key : ArgumentKey} {b : PluralBlock} {ps : Template}
variable {segments segments' : List (Segment TemplatePlaceholder)}

open Segment Template

/-- Whether two texts are both at their end, or both at a brace in front of texts that can be
exchanged for each other. -/
def LoosensAtBrace (s t : List Char) : Prop :=
  (s = [] ∧ t = []) ∨ ∃ r r', s = '{' :: r ∧ t = '{' :: r' ∧ LoosensBehind r r'

namespace LoosensAtBrace

/-- The first text is at its end or at a brace. -/
theorem left (h : LoosensAtBrace s t) : s = [] ∨ ∃ r, s = '{' :: r := by
  rcases h with ⟨h, -⟩ | ⟨r, -, h, -⟩
  · exact .inl h
  · exact .inr ⟨r, h⟩

/-- The second text is at its end or at a brace. -/
theorem right (h : LoosensAtBrace s t) : t = [] ∨ ∃ r, t = '{' :: r := by
  rcases h with ⟨-, h⟩ | ⟨-, r, -, h, -⟩
  · exact .inl h
  · exact .inr ⟨r, h⟩

/-- Texts at a brace can be exchanged anywhere. -/
theorem loosens (h : LoosensAtBrace s t) : Loosens s t := by
  rcases h with ⟨rfl, rfl⟩ | ⟨r, r', rfl, rfl, h⟩
  · exact .refl []
  · exact h '{' (by decide)

/-- No plural block opens in front of a text that is no more closed. -/
theorem readPlural_eq_none (h : LoosensAtBrace rest rest') (hn : readPlural (v ++ rest) = none) :
    readPlural (v ++ rest') = none := by
  cases v with
  | nil =>
    rcases h with ⟨-, rfl⟩ | ⟨r, r', rfl, rfl, h⟩
    · rfl
    · have hn : pluralBody? 0 r = none := hn
      change pluralBody? 0 r' = none
      rw [pluralBody?_eq_none_iff] at hn ⊢
      exact fun hc => hn ((h '|' (by decide)).closes_of_bar hc)
  | cons c v =>
    by_cases hc : c = '{'
    · subst hc
      have hn : pluralBody? 0 (v ++ rest) = none := hn
      change pluralBody? 0 (v ++ rest') = none
      rw [pluralBody?_eq_none_iff] at hn ⊢
      exact fun hc => hn ((h.loosens.append_left v).closes hc)
    · exact readPlural_of_ne fun r hr => hc (List.cons.inj hr).1

/-- **A literal that opens nothing still opens nothing in front of a text that is no more
closed.** -/
theorem unopened (h : LoosensAtBrace rest rest')
    (hv : Unopened TemplatePlaceholder.opener v rest) :
    Unopened TemplatePlaceholder.opener v rest' := by
  intro u v' huv
  obtain ⟨hp, ha⟩ := TemplatePlaceholder.read_eq_none_iff.1 (hv u v' huv)
  refine TemplatePlaceholder.read_eq_none_iff.2 ⟨h.readPlural_eq_none hp, ?_⟩
  rw [readArgument_append_eq_none_iff (braced?_of_brace h.left)] at ha
  rwa [readArgument_append_eq_none_iff (braced?_of_brace h.right)]

end LoosensAtBrace

/-- **What is written for a template that was read is scanned into what was written.** -/
theorem segmentation_of_bound (hbound : Bound key segments ps)
    (hs : Segmentation TemplatePlaceholder.opener s segments) (hw : Written ps segments' t) :
    Segmentation TemplatePlaceholder.opener t segments' ∧ Loosens s t ∧
      (startsLiteral segments = false → startsLiteral segments' = false ∧ LoosensAtBrace s t) := by
  induction hbound generalizing s segments' t with
  | nil =>
    cases hs
    cases hw
    exact ⟨.nil, .refl [], fun _ => ⟨rfl, .inl ⟨rfl, rfl⟩⟩⟩
  | text l _ ih =>
    cases hs with
    | literal hne hl hopen hs =>
      cases hw with
      | text _ hw =>
        obtain ⟨hseg, hloose, hbrace⟩ := ih hs hw
        obtain ⟨hl', hat⟩ := hbrace hl
        rw [String.toList_ofList]
        refine ⟨.literal hne hl' (hat.unopened hopen) hseg, hloose.append_left l, fun h => ?_⟩
        cases h
  | argument a _ ih =>
    cases hs with
    | @placeholder s rest _ _ hx hs =>
      cases hw with
      | @argument _ _ t _ hw =>
        obtain ⟨hseg, hloose, -⟩ := ih hs hw
        obtain ⟨_, ⟨c, hc, ha, rfl⟩, he⟩ := TemplatePlaceholder.read_eq_some_iff.1 hx
        obtain rfl : s = c ++ '}' :: rest := by simpa using he
        have hwritable := Argument.isWritable_of_read hc ha
        have hat : LoosensAtBrace ('{' :: (c ++ '}' :: rest)) ('{' :: (a.content ++ '}' :: t)) :=
          .inr ⟨_, _, rfl, rfl, .exchange (hc.braceDepth_eq 0) hwritable.braceFree_content
            (hloose.cons '}')⟩
        have hread := TemplatePlaceholder.read_argument hwritable t
        exact ⟨.placeholder hread hseg, hat.loosens, fun _ => ⟨rfl, hat⟩⟩
  | @plural _ _ _ body b hb _ ih =>
    cases hs with
    | @placeholder s rest _ _ hx hs =>
      cases hw with
      | @plural _ _ t _ w hwb hw =>
        obtain ⟨hseg, hloose, -⟩ := ih hs hw
        obtain ⟨_, ⟨hbody, rfl⟩, he⟩ := TemplatePlaceholder.read_eq_some_iff.1 hx
        obtain rfl : s = '{' :: (body ++ '}' :: '}' :: rest) := by simpa using he
        have hplural := (PluralBlock.isReadable_of_read hbody hb).isPluralBody hwb
        have hbehind := PluralBlock.loosensBehind_of_read hbody hb hwb '{' (by decide)
        have hat := LoosensBehind.of_loosens (hbehind.append ((hloose.cons '}').cons '}'))
        have hread := TemplatePlaceholder.read_plural hplural t
        exact ⟨.placeholder hread hseg, hat '{' (by decide),
          fun _ => ⟨rfl, .inr ⟨_, _, rfl, rfl, hat⟩⟩⟩

/-- Whether a form starts with a blank although all forms of the block look labelled. -/
def PluralBlock.LosesBlank (b : PluralBlock) : Prop :=
  (∀ f ∈ b.forms, looksLabelled f.chars = true) ∧
    ∃ f ∈ b.forms, Text.startsBlank f.chars = true

/-- **A template that was read is read back from its source,** exactly if none of its blocks has
forms that start with a number that is too long, and none loses a blank. -/
theorem source_parses_back_iff {source : String} (h : Template.parse source = .ok ps) :
    (∃ source', ps.source = .ok source' ∧ Template.parse source' = .ok ps) ↔
      ∀ b, Part.plural b ∈ ps → ¬ b.HasOverlongStart ∧ ¬ b.LosesBlank := by
  obtain ⟨segments, hs, hbound⟩ := parse_eq_ok_iff.1 h
  have hread (b : PluralBlock) (hb : Part.plural b ∈ ps) := hbound.exists_body hs hb
  have hreadable (b : PluralBlock) (hb : Part.plural b ∈ ps) : b.IsReadable := by
    obtain ⟨key, body, hbody, hr⟩ := hread b hb
    exact PluralBlock.isReadable_of_read hbody hr
  -- whatever is written is scanned into its segments and bound to the same key
  have hback {segments' : List (Segment TemplatePlaceholder)} {source' : String}
      (hw : Written ps segments' source'.toList) :
      Template.parse source' = .ok ps ↔ ∀ b, Part.plural b ∈ ps →
        ¬ (b.IsLabelled ∧ ∃ f ∈ b.forms, Text.startsBlank f.chars = true) := by
    have hseg := (segmentation_of_bound hbound hs hw).1
    have hkey : firstKey segments' = firstKey segments := by
      rw [hw.firstKey_eq, hbound.firstKey_eq]
    rw [← hw.bound_iff hreadable hbound.boundTo, ← hkey, parse_eq_ok_iff]
    constructor
    · rintro ⟨segments'', hseg', hbound'⟩
      obtain rfl : segments'' = segments' :=
        Except.ok.inj ((scan_eq_ok_iff.2 hseg').symm.trans (scan_eq_ok_iff.2 hseg))
      exact hbound'
    · exact fun hbound' => ⟨segments', hseg, hbound'⟩
  constructor
  · rintro ⟨source', hsource, hparse⟩ b hb
    obtain ⟨segments', hw⟩ := source_eq_ok_iff.1 hsource
    obtain ⟨w, hwb⟩ := exists_written_iff.1 ⟨_, _, hw⟩ b hb
    refine ⟨PluralBlock.exists_writes_iff.1 ⟨w, hwb⟩, fun hloses => ?_⟩
    obtain ⟨s, hs, -⟩ := hwb
    exact (hback hw).1 hparse b hb ⟨PluralBlock.isLabelled_of_looksLabelled hs hloses.1, hloses.2⟩
  · intro hps
    obtain ⟨segments', t, hw⟩ := exists_written_iff.2 fun b hb =>
      PluralBlock.exists_writes_iff.2 (hps b hb).1
    rw [← String.toList_ofList (l := t)] at hw
    refine ⟨String.ofList t, source_eq_ok_iff.2 ⟨_, hw⟩, (hback hw).2 fun b hb hblank => ?_⟩
    obtain ⟨key, body, -, hr⟩ := hread b hb
    exact (hps b hb).2 ⟨PluralBlock.looksLabelled_of_read hr hblank.1 hblank.2, hblank.2⟩

/-- A brace that opens nothing, a block that is driven by the argument before it, and a block with a
key of its own are read back. -/
theorem source_parses_back_cats : ∃ ps source,
    Template.parse "\x7b {n:int} apple{{s}}, {{k:one=a cat|other={?} {cats|upper}}}" = .ok ps ∧
      ps.source = .ok source ∧ Template.parse source = .ok ps := by
  let apples : PluralBlock := { key := .named "n", forms := [⟨.one, []⟩, ⟨.other, [.text "s"]⟩] }
  let cats : PluralBlock := {
    key := .named "k"
    forms := [⟨.one, [.text "a cat"]⟩, ⟨.other, [.value, .text " ",
      .argument { key := .named "cats", formatters := ["upper"] }]⟩]
    explicitKey := true }
  have hparse : Template.parse "\x7b {n:int} apple{{s}}, {{k:one=a cat|other={?} {cats|upper}}}" =
      .ok [.text "\x7b ", .argument { key := .named "n", typeTag := some "int" }, .text " apple",
        .plural apples, .text ", ", .plural cats] := by cbv
  have happles : ¬ apples.HasOverlongStart ∧ ¬ apples.LosesBlank := by
    constructor
    · rintro ⟨-, -, e, he⟩
      have hnone : keyPrefix (Text.joined '|' apples.texts) = .ok none := by cbv
      exact absurd (hnone.symm.trans he) (by simp)
    · rintro ⟨hall, -⟩
      exact absurd (hall ⟨.one, []⟩ (.head _)) (by decide)
  have hcats : ¬ cats.HasOverlongStart ∧ ¬ cats.LosesBlank :=
    ⟨fun h => absurd h.2.1 (by decide),
      fun h => absurd (h.1 ⟨.one, [.text "a cat"]⟩ (.head _)) (by decide)⟩
  obtain ⟨source, hsource, hback⟩ := (source_parses_back_iff hparse).2 fun b hb => by
    simp only [List.mem_cons, reduceCtorEq, Part.plural.injEq, List.not_mem_nil, or_false,
      false_or] at hb
    rcases hb with rfl | rfl
    · exact happles
    · exact hcats
  exact ⟨_, source, hparse, hsource, hback⟩

/-- Not every template is read back from its source: here the labels are part of the forms, and the
first form loses the blank in front of it. -/
theorem not_source_parses_back : ¬ ∀ (source : String) (ps : Template),
    Template.parse source = .ok ps →
      ∃ source', ps.source = .ok source' ∧ Template.parse source' = .ok ps := by
  intro h
  let forms (first : String) : List PluralForm := [⟨.zero, [.text first]⟩, ⟨.one, [.text "one=b"]⟩,
    ⟨.two, [.text "two=c"]⟩, ⟨.few, [.text "few=d"]⟩, ⟨.many, [.text "many=e"]⟩,
    ⟨.other, [.text "other=f"]⟩]
  let read (first : String) : Template := [.plural { key := .positional 0, forms := forms first }]
  have hparse : Template.parse "{{ zero=a|one=b|two=c|few=d|many=e|x|other=f}}" =
      .ok (read " zero=a") := by cbv
  have hsource : (read " zero=a").source =
      .ok "{{zero= zero=a|one=one=b|two=two=c|few=few=d|many=many=e|other=other=f}}" := by cbv
  have hback : Template.parse
      "{{zero= zero=a|one=one=b|two=two=c|few=few=d|many=many=e|other=other=f}}" =
        .ok (read "zero=a") := by cbv
  obtain ⟨source', hs, hp⟩ := h _ _ hparse
  obtain rfl := Except.ok.inj (hs.symm.trans hsource)
  have hread : read "zero=a" = read " zero=a" := Except.ok.inj (hback.symm.trans hp)
  exact absurd hread (by decide)

end Phrasebook
