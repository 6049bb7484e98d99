/-
# Blocks and the arguments that drive them

A block of a template stands at the same place as the stretch of the source text that it is read
from, two opening braces, a body and two closing braces (`HasBody`). The body is all that tells
whether the block names its key (`NamesKey`). A block that names none (`TemplateParser._bind`) has
the key of the last argument outside all blocks before it, or else of the first one in the template
(`Template.binding_of_parse`), so that nothing inside the other blocks matters to it.

What carries this is one step for every segment (`Template.Bound.getElem?_eq_plural_iff`): the
block at a place is read from the body at this place, with the key of the last argument before it
to fall back to.
-/

import Phrasebook.Proofs.Binding
import Phrasebook.Proofs.KeyGrammar

namespace Phrasebook

variable {source : String} {n : Nat} {body : List Char} {key fallback : ArgumentKey}
variable {b : PluralBlock} {ps : Template} {segments : List (Segment TemplatePlaceholder)}

/-- Whether a source text is cut so that a plural block with the given body is at a place. -/
def HasBody (source : String) (n : Nat) (body : List Char) : Prop :=
  ∃ segments slices, IsCut source.toList segments slices ∧
    segments[n]? = some (.placeholder (.plural body))

/-- A text is cut in one way, so a place has the body that scanning finds there. -/
theorem hasBody_iff
    (hs : Segment.Segmentation TemplatePlaceholder.opener source.toList segments) :
    HasBody source n body ↔ segments[n]? = some (.placeholder (.plural body)) := by
  constructor
  · rintro ⟨segments', slices, hcut, hn⟩
    obtain rfl := hcut.eq_of_segmentation hs
    exact hn
  · intro hn
    obtain ⟨slices, hcut⟩ := exists_isCut hs
    exact ⟨segments, slices, hcut, hn⟩

/-- There is one body at a place. -/
theorem HasBody.unique {body' : List Char}
    (hs : Segment.Segmentation TemplatePlaceholder.opener source.toList segments)
    (h : HasBody source n body) (h' : HasBody source n body') : body = body' := by
  simpa using ((hasBody_iff hs).1 h).symm.trans ((hasBody_iff hs).1 h')

/-- The body of a block is closed behind its end and not before. -/
theorem HasBody.isPluralBody (h : HasBody source n body) : IsPluralBody body := by
  obtain ⟨segments, slices, hcut, hn⟩ := h
  obtain ⟨_, -, hbody, -⟩ := exists_mem_of_forall₂ hcut.isSlice.flip (List.mem_of_getElem? hn)
  exact hbody

/-- A block that scanning finds has its body at that place. -/
theorem hasBody_of_scan
    (h : (Segment.scan TemplatePlaceholder.opener source.toList).map (·[n]?) =
      .ok (some (.placeholder (.plural body)))) : HasBody source n body := by
  obtain ⟨segments, hs, hn⟩ := map_eq_ok_iff.1 h
  exact (hasBody_iff (Segment.scan_eq_ok_iff.1 hs)).2 hn

namespace PluralBlock

/-- A block has the key that its body names and the forms behind it, or the key to fall back to and
the forms of the whole body. -/
theorem namesKey_or_of_read (h : PluralBlock.read fallback body = .ok b) :
    (∃ rest, NamesKey body b.key rest ∧ b.explicitKey = true ∧
      PluralForm.readAll (labelledForms (formTexts rest)) = .ok b.forms) ∨
    ((∀ k rest, ¬ NamesKey body k rest) ∧ b.explicitKey = false ∧ b.key = fallback ∧
      PluralForm.readAll (labelledForms (formTexts body)) = .ok b.forms) := by
  rcases keyPrefix_of_read h with ⟨rest, hk, he, hforms⟩ | ⟨hk, he, hkey, hforms⟩
  · exact .inl ⟨rest, keyPrefix_eq_some_iff.1 hk, he, hforms⟩
  · exact .inr ⟨fun _ _ => not_namesKey_of_keyPrefix hk, he, hkey, hforms⟩

/-- **A block has a key of its own exactly if its body names one.** -/
theorem explicitKey_iff_of_read (h : PluralBlock.read fallback body = .ok b) :
    b.explicitKey = true ↔ ∃ k rest, NamesKey body k rest := by
  rcases namesKey_or_of_read h with ⟨rest, hk, he, -⟩ | ⟨hnone, he, -⟩
  · exact iff_of_true he ⟨_, _, hk⟩
  · refine iff_of_false (by simp [he]) ?_
    rintro ⟨k, rest, hk⟩
    exact hnone k rest hk

/-- A block that names a key is driven by it. -/
theorem key_eq_of_namesKey {k : ArgumentKey} {rest : List Char}
    (h : PluralBlock.read fallback body = .ok b) (hk : NamesKey body k rest) : b.key = k := by
  rcases namesKey_or_of_read h with ⟨rest', hk', -⟩ | ⟨hnone, -⟩
  · exact (hk'.unique hk).1
  · exact absurd hk (hnone k rest)

end PluralBlock

namespace Template

/-- The key that an argument before a place gives, or the first argument of the template, is the key
of an argument of the template. -/
theorem getLastD_mem_argumentKeys (n : Nat) (h : argumentKeys ps ≠ []) :
    (argumentKeys (ps.take n)).getLastD ((argumentKeys ps).headD key) ∈ argumentKeys ps := by
  rw [List.getLastD_eq_getLast?]
  cases hlast : (argumentKeys (ps.take n)).getLast? with
  | some k =>
    have hsplit : argumentKeys ps = argumentKeys (ps.take n) ++ argumentKeys (ps.drop n) := by
      rw [← argumentKeys_append, List.take_append_drop]
    rw [hsplit]
    exact List.mem_append_left _ (List.mem_of_getLast? hlast)
  | none =>
    obtain ⟨k, ks, hks⟩ := List.exists_cons_of_ne_nil h
    rw [hks]
    exact List.mem_cons_self ..

/-- **The block at a place is read from the body at this place,** and falls back to the key of the
last argument before it. -/
theorem Bound.getElem?_eq_plural_iff (h : Bound key segments ps) :
    ps[n]? = some (.plural b) ↔ ∃ body, segments[n]? = some (.placeholder (.plural body)) ∧
      PluralBlock.read ((argumentKeys (ps.take n)).getLastD key) body = .ok b := by
  induction h generalizing n with
  | nil => simp
  | text l _ ih =>
    cases n with
    | zero => simp
    | succ n => exact ih
  | argument a _ ih =>
    cases n with
    | zero => simp
    | succ n =>
      refine ih.trans ?_
      rw [List.take_succ_cons]
      show _ ↔ ∃ body, _ ∧ PluralBlock.read ((a.key :: argumentKeys _).getLastD _) body = .ok b
      rw [List.getLastD_cons]
      rfl
  | @plural key segments ps body c hc _ ih =>
    cases n with
    | succ n => exact ih
    | zero =>
      constructor
      · intro h
        obtain rfl := Part.plural.inj (Option.some.inj h)
        exact ⟨body, rfl, hc⟩
      · rintro ⟨body', hbody, hb⟩
        obtain rfl : body = body' := by simpa using hbody
        obtain rfl := Except.ok.inj (hc.symm.trans hb)
        rfl

/-- Where a block is cut from the source text, a block is read. -/
theorem Bound.exists_getElem? (h : Bound key segments ps)
    (hn : segments[n]? = some (.placeholder (.plural body))) : ∃ b, ps[n]? = some (.plural b) := by
  induction h generalizing n with
  | nil => simp at hn
  | text l _ ih =>
    cases n with
    | zero => simp at hn
    | succ n => exact ih hn
  | argument a _ ih =>
    cases n with
    | zero => simp at hn
    | succ n => exact ih hn
  | @plural _ _ _ _ c _ _ ih =>
    cases n with
    | zero => exact ⟨c, rfl⟩
    | succ n => exact ih hn

/-- The block at a place of a template that was read, and the body at this place of its source. -/
theorem getElem?_eq_plural_iff_of_parse (h : parse source = .ok ps) :
    ps[n]? = some (.plural b) ↔ ∃ body, HasBody source n body ∧
      PluralBlock.read ((argumentKeys (ps.take n)).getLastD
        ((argumentKeys ps).headD (.positional 0))) body = .ok b := by
  obtain ⟨segments, hs, hbound⟩ := parse_eq_ok_iff.1 h
  rw [hbound.getElem?_eq_plural_iff, hbound.firstKey_eq]
  simp only [hasBody_iff hs]

/-- **A body is read as the block at its place,** with the key of the last argument before it to
fall back to, else of the first argument of the template, else position 0. -/
theorem exists_read_of_hasBody (h : parse source = .ok ps) (hn : HasBody source n body) :
    ∃ b, ps[n]? = some (.plural b) ∧
      PluralBlock.read ((argumentKeys (ps.take n)).getLastD
        ((argumentKeys ps).headD (.positional 0))) body = .ok b := by
  obtain ⟨segments, hs, hbound⟩ := parse_eq_ok_iff.1 h
  obtain ⟨b, hb⟩ := hbound.exists_getElem? ((hasBody_iff hs).1 hn)
  obtain ⟨body', hn', hread⟩ := (getElem?_eq_plural_iff_of_parse h).1 hb
  obtain rfl := hn.unique hs hn'
  exact ⟨b, hb, hread⟩

/-- **What drives a block.** A block has a key of its own exactly if its body names a key in front
of its first colon, and then it is this key. Otherwise it has the key of the nearest argument before
it that stands outside all blocks, if there is none of the first such argument in the template, and
position 0 in a template without such arguments. So a block without a key of its own brings no key
into a template with such arguments; and whatever else a template has, with the same keys of such
arguments before a body and in all, the body is read as the same block. -/
theorem binding_of_parse (h : parse source = .ok ps) (hb : ps[n]? = some (.plural b)) :
    (∃ body, HasBody source n body) ∧ ∀ body, HasBody source n body →
      (b.explicitKey = true ↔ ∃ k rest, NamesKey body k rest) ∧
      (∀ k rest, NamesKey body k rest → b.key = k) ∧
      (b.explicitKey = false →
        b.key = (argumentKeys (ps.take n)).getLastD ((argumentKeys ps).headD (.positional 0)) ∧
        (argumentKeys ps ≠ [] → b.key ∈ argumentKeys ps)) ∧
      ∀ (source' : String) (ps' : Template) (m : Nat), parse source' = .ok ps' →
        HasBody source' m body → argumentKeys (ps'.take m) = argumentKeys (ps.take n) →
        argumentKeys ps' = argumentKeys ps → ps'[m]? = some (.plural b) := by
  obtain ⟨body, hn, -⟩ := (getElem?_eq_plural_iff_of_parse h).1 hb
  refine ⟨⟨body, hn⟩, fun body hn => ?_⟩
  obtain ⟨c, hc, hread⟩ := exists_read_of_hasBody h hn
  obtain rfl : b = c := Part.plural.inj (Option.some.inj (hb.symm.trans hc))
  have hkey (he : b.explicitKey = false) := PluralBlock.key_eq_of_read hread he
  refine ⟨PluralBlock.explicitKey_iff_of_read hread, fun k rest hk => ?_, fun he => ?_, ?_⟩
  · exact PluralBlock.key_eq_of_namesKey hread hk
  · refine ⟨hkey he, fun hne => ?_⟩
    rw [hkey he]
    exact getLastD_mem_argumentKeys n hne
  · intro source' ps' m h' hm hbefore hall
    obtain ⟨c, hc, hread'⟩ := exists_read_of_hasBody h' hm
    rw [hbefore, hall, hread] at hread'
    obtain rfl := Except.ok.inj hread'
    exact hc

/-- Blocks in front of all arguments, with a key of their own, and with a colon behind a bar; other
keys stand inside their forms. -/
def memo : String := "{{{x}: a|b}} {n?}{{ k?: {y}|{?} z}}{{Note| a: b}}{0}{{s}}"

/-- The template that a memo is read as. -/
def memoParts : Template := [
  .plural {
    key := .named "n"
    forms := [⟨.one, [.argument { key := .named "x" }, .text ": a"]⟩, ⟨.other, [.text "b"]⟩] },
  .text " ", .argument { key := .named "n", optional := true },
  .plural {
    key := .named "k"
    forms := [⟨.one, [.text " ", .argument { key := .named "y" }]⟩,
      ⟨.other, [.value, .text " z"]⟩]
    explicitKey := true },
  .plural { key := .named "n", forms := [⟨.one, [.text "Note"]⟩, ⟨.other, [.text " a: b"]⟩] },
  .argument { key := .positional 0 },
  .plural { key := .positional 0, forms := [⟨.one, []⟩, ⟨.other, [.text "s"]⟩] }]

/-- The block behind the one with a key of its own is driven by the argument in front of both, and
it is read as the same block in a text without the other blocks. -/
theorem binding_of_parse_memo :
    (parse memo = .ok memoParts ∧ HasBody memo 4 "Note| a: b".toList) ∧
      ∃ b, memoParts[4]? = some (.plural b) ∧
        (¬ ∃ k rest, NamesKey "Note| a: b".toList k rest) ∧ b.key = .named "n" ∧
        b.key ∈ argumentKeys memoParts ∧
        ∃ ps', parse "{n}{{Note| a: b}}{0}" = .ok ps' ∧ ps'[1]? = some (.plural b) := by
  have hmemo : parse memo = .ok memoParts := by cbv
  have hbody : HasBody memo 4 "Note| a: b".toList := hasBody_of_scan (by cbv)
  have hbody' : HasBody "{n}{{Note| a: b}}{0}" 1 "Note| a: b".toList := hasBody_of_scan (by cbv)
  have hshort : parse "{n}{{Note| a: b}}{0}" = .ok [
      .argument { key := .named "n" },
      .plural { key := .named "n", forms := [⟨.one, [.text "Note"]⟩, ⟨.other, [.text " a: b"]⟩] },
      .argument { key := .positional 0 }] := by cbv
  obtain ⟨-, hall⟩ := binding_of_parse hmemo (n := 4) rfl
  obtain ⟨hexplicit, -, himplicit, hsame⟩ := hall _ hbody
  obtain ⟨hkey, hmem⟩ := himplicit rfl
  have hnone : ¬ ∃ k rest, NamesKey "Note| a: b".toList k rest := fun hk =>
    Bool.false_ne_true (hexplicit.2 hk)
  exact ⟨⟨hmemo, hbody⟩, _, rfl, hnone, hkey, hmem (by decide),
    _, hshort, hsame _ _ 1 hshort hbody' rfl rfl⟩

end Template

end Phrasebook
