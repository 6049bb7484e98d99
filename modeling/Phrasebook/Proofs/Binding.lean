/-
# Which argument drives a block

Binding (`TemplateParser._bind`) makes the parts of a template from its segments (`Bound`). Every
block comes from the body of a plural block (`Bound.exists_body`), and the blocks that name no key
have the key of the last argument before them (`Bound.boundTo`), as far as there is one.
-/

import Phrasebook.Proofs.BlockReading

namespace Phrasebook

variable {s body : List Char} {key : ArgumentKey} {b : PluralBlock} {ps : Template}
variable {segments : List (Segment TemplatePlaceholder)}

namespace Template

/-- The parts that are made from segments, where `key` drives the blocks in front of all
arguments. -/
inductive Bound : ArgumentKey → List (Segment TemplatePlaceholder) → Template → Prop
  | nil {key : ArgumentKey} : Bound key [] []
  | text {key : ArgumentKey} {segments : List (Segment TemplatePlaceholder)} {ps : Template}
      (l : List Char) : Bound key segments ps →
      Bound key (.literal l :: segments) (.text (String.ofList l) :: ps)
  | argument {key : ArgumentKey} {segments : List (Segment TemplatePlaceholder)} {ps : Template}
      (a : Argument) : Bound a.key segments ps →
      Bound key (.placeholder (.argument a) :: segments) (.argument a :: ps)
  | plural {key : ArgumentKey} {segments : List (Segment TemplatePlaceholder)} {ps : Template}
      {body : List Char} {b : PluralBlock} : PluralBlock.read key body = .ok b →
      Bound key segments ps →
      Bound key (.placeholder (.plural body) :: segments) (.plural b :: ps)

/-- Binding segments succeeds exactly with the parts that are bound to them. -/
theorem bind_eq_ok_iff : bind key segments = .ok ps ↔ Bound key segments ps := by
  constructor
  · intro h
    induction segments generalizing key ps with
    | nil =>
      obtain rfl := Except.ok.inj h
      exact .nil
    | cons x segments ih =>
      cases x with
      | literal l =>
        obtain ⟨ps, hr, rfl⟩ := map_eq_ok_iff.1 h
        exact .text l (ih hr)
      | placeholder x =>
        cases x with
        | argument a =>
          obtain ⟨ps, hr, rfl⟩ := map_eq_ok_iff.1 h
          exact .argument a (ih hr)
        | plural body =>
          rw [bind] at h
          split at h
          · cases h
          · rename_i b hb
            obtain ⟨ps, hr, rfl⟩ := map_eq_ok_iff.1 h
            exact .plural hb (ih hr)
  · intro h
    induction h with
    | nil => rfl
    | text l _ ih => simp [bind, ih]
    | argument a _ ih => simp [bind, ih]
    | plural hb _ ih => simp [bind, hb, ih]

/-- The keys of the arguments that stand outside the blocks of a template. -/
def argumentKeys (ps : Template) : List ArgumentKey :=
  ps.filterMap fun
    | .argument a => some a.key
    | _ => none

/-- The keys of two templates in a row are those of both. -/
theorem argumentKeys_append (ps qs : Template) :
    argumentKeys (ps ++ qs) = argumentKeys ps ++ argumentKeys qs :=
  List.filterMap_append

/-- Whether the blocks without a key of their own have the key of the last argument before them,
and `key` in front of all arguments. -/
def BoundTo : ArgumentKey → Template → Prop
  | _, [] => True
  | key, .text _ :: ps => BoundTo key ps
  | _, .argument a :: ps => BoundTo a.key ps
  | key, .plural b :: ps => (b.explicitKey = false → b.key = key) ∧ BoundTo key ps

/-- Every block without a key of its own has the key of the last argument in front of it, wherever
it stands. -/
theorem boundTo_iff : BoundTo key ps ↔ ∀ before b after, ps = before ++ .plural b :: after →
    b.explicitKey = false → b.key = (argumentKeys before).getLastD key := by
  induction ps generalizing key with
  | nil => simp [BoundTo]
  | cons part ps ih =>
    constructor
    · intro h before b after he hi
      rcases List.cons_eq_append_iff.1 he with ⟨rfl, hcons⟩ | ⟨before, rfl, htail⟩
      · obtain ⟨rfl, rfl⟩ := List.cons.inj hcons
        exact h.1 hi
      · cases part with
        | text s => exact ih.1 h before b after htail hi
        | argument a => exact (ih.1 h before b after htail hi).trans List.getLastD_cons.symm
        | plural c => exact ih.1 h.2 before b after htail hi
    · intro h
      have htail (key' : ArgumentKey) (hkey : ∀ before : Template,
          (argumentKeys (part :: before)).getLastD key = (argumentKeys before).getLastD key') :
          BoundTo key' ps := by
        refine ih.2 fun before b after he hi => ?_
        rw [← hkey]
        exact h (part :: before) b after (by rw [he]; rfl) hi
      cases part with
      | text s => exact htail key fun _ => rfl
      | argument a => exact htail a.key fun _ => List.getLastD_cons
      | plural b => exact ⟨h [] b ps rfl, htail key fun _ => rfl⟩

namespace Bound

/-- Binding gives each block without a key of its own the key of the argument before it. -/
theorem boundTo (h : Bound key segments ps) : BoundTo key ps := by
  induction h with
  | nil => trivial
  | text l _ ih => exact ih
  | argument a _ ih => exact ih
  | plural hb _ ih => exact ⟨PluralBlock.key_eq_of_read hb, ih⟩

/-- The first key among the segments is that of the first argument, or position 0 without one. -/
theorem firstKey_eq (h : Bound key segments ps) :
    firstKey segments = ps.argumentKeys.headD (.positional 0) := by
  induction h with
  | nil => rfl
  | text l _ ih => exact ih
  | argument a _ _ => rfl
  | plural _ _ ih => exact ih

/-- **Every block of a template was read from the body of a plural block.** -/
theorem exists_body (h : Bound key segments ps)
    (hs : Segment.Segmentation TemplatePlaceholder.opener s segments) (hb : Part.plural b ∈ ps) :
    ∃ key body, IsPluralBody body ∧ PluralBlock.read key body = .ok b := by
  induction h generalizing s with
  | nil => cases hb
  | text l _ ih =>
    cases hs with
    | literal _ _ _ hs => exact ih hs (by simpa using hb)
  | argument a _ ih =>
    cases hs with
    | placeholder _ hs => exact ih hs (by simpa using hb)
  | @plural key segments ps body c hc _ ih =>
    cases hs with
    | placeholder hx hs =>
      rcases List.mem_cons.1 hb with he | hb
      · obtain rfl := Part.plural.inj he
        obtain ⟨_, ⟨hbody, -⟩, -⟩ := TemplatePlaceholder.read_eq_some_iff.1 hx
        exact ⟨key, body, hbody, hc⟩
      · exact ih hs hb

end Bound

/-- A template is read from a source text exactly if the text is cut into segments that its parts
are bound to. -/
theorem parse_eq_ok_iff {source : String} :
    parse source = .ok ps ↔
      ∃ segments, Segment.Segmentation TemplatePlaceholder.opener source.toList segments ∧
        Bound (firstKey segments) segments ps := by
  unfold parse
  simp only [← Segment.scan_eq_ok_iff, ← bind_eq_ok_iff]
  cases Segment.scan TemplatePlaceholder.opener source.toList <;> simp

end Template

end Phrasebook
