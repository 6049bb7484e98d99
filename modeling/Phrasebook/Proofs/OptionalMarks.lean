/-
# Marks of optional arguments

A key can be written with a question mark behind it at two places, in a placeholder and in front of
the colon of a plural block. What is said about a key is put together from all references to it, so
that one mark makes the descriptor optional for good. The marks of the placeholders that a template
keeps all get there, at the top and inside forms (`Template.exists_optional_iff`).

The mark in front of a colon does not. It is read as a part of the key, but nothing of it is left in
the block, and a key that is marked there alone has a descriptor that is not optional
(`Template.optional_iff_marked`).
-/

import Phrasebook.Proofs.Contents
import Phrasebook.Proofs.Reconciliation

namespace Phrasebook

variable {source : String} {c typed : List Char} {a : Argument} {k : ArgumentKey} {ps : Template}

/-- Whether a placeholder that a source text keeps, at the top or inside a form, names the key with
a mark. -/
def MarkedInPlaceholder (source : String) (k : ArgumentKey) : Prop :=
  ∃ c a, KeepsContent source c ∧ Argument.Spells c a ∧ a.key = k ∧ a.optional = true

/-- Whether a plural block of a source text names the key with a mark, in front of its first
colon. -/
def MarkedInPrefix (source : String) (k : ArgumentKey) : Prop :=
  ∃ n body head rest, HasBody source n body ∧ body = head ++ ':' :: rest ∧ '|' ∉ head ∧
    '{' ∉ head ∧ ArgumentKey.SpellsMarked head k true

/-- What spells an empty type is blank. -/
theorem Argument.SpellsType.none_of_empty (h : SpellsType typed (some "")) :
    SpellsType typed none := by
  cases h with
  | word hbar htrim => exact .blank hbar htrim

/-- What spells an argument is read with its key and its mark. -/
theorem Argument.Spells.exists_read (h : Spells c a) :
    ∃ a', read c = .ok (some a') ∧ a'.key = a.key ∧ a'.optional = a.optional := by
  by_cases htag : a.typeTag = some ""
  · obtain ⟨hkey, htype, hnames, hfs⟩ := h
    have hspells : Spells _ { a with typeTag := none } :=
      .intro hkey (htag ▸ htype).none_of_empty hnames hfs
    exact ⟨_, read_eq_some_iff_spells.2 ⟨by simp, hspells⟩, rfl, rfl⟩
  · exact ⟨a, read_eq_some_iff_spells.2 ⟨htag, h⟩, rfl, rfl⟩

namespace Template

/-- A descriptor is optional if an argument with its key is. -/
theorem optional_iff_of_mem {d : Descriptor} (h : d ∈ ps.descriptors) :
    d.optional = true ↔ ∃ a ∈ ps.argumentsOf d.key, a.optional = true := by
  rw [(Descriptor.reconciles_ofReferences (mem_descriptors_iff.1 h)).optional, any_optional_iff]

/-- **Every mark of a placeholder gets to the descriptor of its key,** and nothing else does. -/
theorem exists_optional_iff (h : parse source = .ok ps) :
    (∃ d ∈ ps.descriptors, d.key = k ∧ d.optional = true) ↔ MarkedInPlaceholder source k := by
  constructor
  · rintro ⟨d, hd, rfl, hopt⟩
    obtain ⟨a, ha, hmark⟩ := (optional_iff_of_mem hd).1 hopt
    obtain ⟨hmem, hkey⟩ := List.mem_filter.1 ha
    obtain ⟨c, hkeeps, hread⟩ := (mem_arguments_iff_keepsContent h).1 hmem
    exact ⟨c, a, hkeeps, (Argument.read_eq_some_iff_spells.1 hread).2, of_decide_eq_true hkey,
      hmark⟩
  · rintro ⟨c, a, hkeeps, hspells, rfl, hmark⟩
    obtain ⟨a', hread, hkey, hopt⟩ := hspells.exists_read
    have hmem := (mem_arguments_iff_keepsContent h).2 ⟨c, hkeeps, hread⟩
    obtain ⟨d, hd, hdk⟩ := exists_descriptor (mem_references_iff.2 (.inr ⟨a', hmem, rfl⟩))
    have hsame : a'.key = d.key := hdk.symm
    have hof : a' ∈ ps.argumentsOf d.key := List.mem_filter.2 ⟨hmem, decide_eq_true hsame⟩
    exact ⟨d, hd, hsame.symm.trans hkey, (optional_iff_of_mem hd).2 ⟨a', hof, hopt.trans hmark⟩⟩

/-- A key that a block is marked with is referred to by this block. -/
theorem refersTo_of_markedInPrefix (h : parse source = .ok ps) (hk : MarkedInPrefix source k) :
    ps.RefersTo k := by
  obtain ⟨n, body, head, rest, hbody, he, hbar, hbrace, hspells⟩ := hk
  have hcolon := hspells.not_mem (x := ':') (by decide) (by decide) (by decide)
  obtain ⟨b, hb, hread⟩ := exists_read_of_hasBody h hbody
  have hkey := PluralBlock.key_eq_of_namesKey hread ⟨head, true, he, hcolon, hbar, hbrace, hspells⟩
  exact hkey ▸ .block (List.mem_of_getElem? hb)

/-- **Marks that are kept and marks that are lost.** The descriptor of a key is optional exactly if
a placeholder that the source text keeps names the key with a mark. So as long as every key that is
marked in front of the colon of a block is marked in a placeholder too, a descriptor is optional
exactly if its key is marked anywhere. A key that is marked in front of a colon and in no
placeholder has a descriptor, and it is not optional. -/
theorem optional_iff_marked (h : parse source = .ok ps) (k : ArgumentKey) :
    ((∃ d ∈ ps.descriptors, d.key = k ∧ d.optional = true) ↔ MarkedInPlaceholder source k) ∧
    ((MarkedInPrefix source k → MarkedInPlaceholder source k) →
      ((∃ d ∈ ps.descriptors, d.key = k ∧ d.optional = true) ↔
        MarkedInPlaceholder source k ∨ MarkedInPrefix source k)) ∧
    (MarkedInPrefix source k → ¬ MarkedInPlaceholder source k →
      ∃ d ∈ ps.descriptors, d.key = k ∧ d.optional = false) := by
  refine ⟨exists_optional_iff h, fun himp => ?_, fun hblock hplain => ?_⟩
  · rw [exists_optional_iff h]
    exact ⟨.inl, fun hmarked => hmarked.elim id himp⟩
  · have hmem := mem_keys_descriptors_iff.2 (refersTo_of_markedInPrefix h hblock)
    obtain ⟨d, hd, hdk⟩ := List.mem_map.1 hmem
    refine ⟨d, hd, hdk, Bool.eq_false_iff.2 fun hopt => hplain ?_⟩
    exact (exists_optional_iff h).1 ⟨d, hd, hdk, hopt⟩

/-- A key that is marked in front of a colon, and one that is marked inside the second form. -/
def seats : String := "{{ n ?: one seat|{?} seats for {guest ?: text} and {n}}}"

/-- The template that is read from them. -/
def seatParts : Template := [
  .plural {
    key := .named "n"
    forms := [⟨.one, [.text " one seat"]⟩,
      ⟨.other, [.value, .text " seats for ",
        .argument { key := .named "guest", typeTag := some "text", optional := true },
        .text " and ",
        .argument { key := .named "n" }]⟩]
    explicitKey := true }]

/-- Of two keys with a mark, the one in a placeholder is optional and the one in front of a colon is
not. -/
theorem optional_iff_marked_seats :
    parse seats = .ok seatParts ∧ MarkedInPlaceholder seats (.named "guest") ∧
      MarkedInPrefix seats (.named "n") ∧ ¬ MarkedInPlaceholder seats (.named "n") ∧
      ∃ d ∈ seatParts.descriptors, d.key = .named "n" ∧ d.optional = false := by
  have hparse : parse seats = .ok seatParts := by cbv
  have hdescriptors : seatParts.descriptors = [⟨.named "n", none, [], 0, true, false⟩,
      ⟨.named "guest", some "text", [], 1, false, true⟩] := by cbv
  have hprefix : MarkedInPrefix seats (.named "n") :=
    ⟨0, _, " n ?".toList, " one seat|{?} seats for {guest ?: text} and {n}".toList,
      hasBody_of_scan (by cbv), rfl, by decide, by decide,
      ArgumentKey.readMarked_eq_some_iff.1 (by cbv)⟩
  obtain ⟨hguest, -, -⟩ := optional_iff_marked hparse (.named "guest")
  obtain ⟨hn, -, hlost⟩ := optional_iff_marked hparse (.named "n")
  rw [hdescriptors] at hguest hn
  have hplain : ¬ MarkedInPlaceholder seats (.named "n") := fun h => by simpa using hn.2 h
  exact ⟨hparse, hguest.1 (by simp), hprefix, hplain, hlost hprefix hplain⟩

/-- **A mark in front of a colon is lost:** not every key that is marked has an optional
descriptor. -/
theorem not_optional_iff_marked :
    ¬ ∀ (source : String) (ps : Template) (k : ArgumentKey), parse source = .ok ps →
      ((∃ d ∈ ps.descriptors, d.key = k ∧ d.optional = true) ↔
        MarkedInPlaceholder source k ∨ MarkedInPrefix source k) := by
  intro h
  have hparse : parse "{{n?:item|items}}" = .ok [.plural {
      key := .named "n", forms := [⟨.one, [.text "item"]⟩, ⟨.other, [.text "items"]⟩]
      explicitKey := true }] := by cbv
  have hdescriptors : descriptors [.plural {
      key := .named "n", forms := [⟨.one, [.text "item"]⟩, ⟨.other, [.text "items"]⟩]
      explicitKey := true }] = [⟨.named "n", none, [], 0, true, false⟩] := by cbv
  have hprefix : MarkedInPrefix "{{n?:item|items}}" (.named "n") :=
    ⟨0, _, "n?".toList, "item|items".toList, hasBody_of_scan (by cbv), rfl, by decide, by decide,
      ArgumentKey.readMarked_eq_some_iff.1 (by cbv)⟩
  have hmarked := (h _ _ (.named "n") hparse).2 (.inr hprefix)
  rw [hdescriptors] at hmarked
  simp at hmarked

end Template

end Phrasebook
