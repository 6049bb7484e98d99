/-
# Templates in the middle of a text

Text without braces around a source text is read (`parse`) as text around its template, and rendered
as it stands (`Template.parse_in_context`): no brace of the source text is read in another way, and
every block is driven by the same argument as before.

What carries this is that the parts of two texts in a row are the parts of both with the texts that
may meet made one (`Template.Bound.seam`), where the blocks of the second text may fall back to the
arguments of the first.
-/

import Phrasebook.Proofs.Binding
import Phrasebook.Proofs.Seam
import Phrasebook.Renderer

namespace Phrasebook
namespace Template

variable {p q source : String} {s : List Char} {key : ArgumentKey} {ps qs : Template}
variable {xs ys : List (Segment TemplatePlaceholder)} {t : Renderer} {args : Arguments}

/-- Two texts are one text. -/
def mergeParts? : Part → Part → Option Part
  | .text s, .text t => some (.text (s ++ t))
  | _, _ => none

/-- The parts of two templates in a row, where the texts that may meet are one text. -/
def seam (ps qs : Template) : Template := Phrasebook.seam mergeParts? ps qs

/-- A text as a template. -/
def ofText (s : String) : Template := if s = "" then [] else [.text s]

/-- A template with text in front and behind. -/
def within (p : String) (ps : Template) (q : String) : Template :=
  ((ofText p).seam ps).seam (ofText q)

/-- Only texts become one. -/
theorem mergeParts?_eq_some {x y z : Part} (h : mergeParts? x y = some z) :
    ∃ s t, x = .text s ∧ y = .text t ∧ z = .text (s ++ t) := by
  unfold mergeParts? at h
  split at h
  · exact ⟨_, _, rfl, rfl, (Option.some.inj h).symm⟩
  · cases h

/-- Text alone has no arguments. -/
@[simp] theorem argumentKeys_ofText (s : String) : argumentKeys (ofText s) = [] := by
  unfold ofText
  split <;> rfl

/-- Texts that become one leave all arguments there are. -/
theorem argumentKeys_seam (ps qs : Template) :
    argumentKeys (ps.seam qs) = argumentKeys ps ++ argumentKeys qs := by
  rw [← argumentKeys_append]
  refine apply_seam (fun x xs ys h => ?_) (fun x y z ys hz => ?_) ps qs
  · rw [← List.singleton_append, argumentKeys_append, h, ← argumentKeys_append]
    rfl
  · obtain ⟨s, t, rfl, rfl, rfl⟩ := mergeParts?_eq_some hz
    rfl

/-- Text in front and behind brings in no argument. -/
theorem argumentKeys_within (p : String) (ps : Template) (q : String) :
    argumentKeys (within p ps q) = argumentKeys ps := by
  simp [within, argumentKeys_seam]

/-- **The parts of two texts in a row are the parts of both.** -/
theorem Bound.seam (h : Bound key xs ps) (h' : Bound ((argumentKeys ps).getLastD key) ys qs) :
    Bound key (Segment.seam xs ys) (ps.seam qs) := by
  induction h with
  | nil => exact h'
  | text l h ih =>
    cases h with
    | nil =>
      cases h' with
      | nil => exact .text l .nil
      | text m h' =>
        show Bound _ (.literal (l ++ m) :: _) (.text (String.ofList l ++ String.ofList m) :: _)
        rw [← String.ofList_append]
        exact .text (l ++ m) h'
      | argument a h' => exact .text l (.argument a h')
      | plural hb h' => exact .text l (.plural hb h')
    | _ => exact .text l (ih h')
  | argument a h ih =>
    have h' : Bound ((a.key :: argumentKeys _).getLastD _) ys qs := h'
    rw [List.getLastD_cons] at h'
    cases h with
    | nil =>
      rw [Segment.seam, singleton_seam fun y _ => rfl, Template.seam, singleton_seam fun y _ => rfl]
      exact .argument a h'
    | _ => exact .argument a (ih h')
  | plural hb h ih =>
    cases h with
    | nil =>
      rw [Segment.seam, singleton_seam fun y _ => rfl, Template.seam, singleton_seam fun y _ => rfl]
      exact .plural hb h'
    | _ => exact .plural hb (ih h')

/-- Text in front is shown in front. -/
theorem render_text (s : String) (ps : Template) :
    t.render args (.text s :: ps) = (t.render args ps).map (s ++ ·) := rfl

/-- Text alone is shown as it is. -/
theorem render_ofText (s : String) : t.render args (ofText s) = .done s := by
  unfold ofText
  split
  · rename_i hs
    rw [hs]
    rfl
  · show Rendering.done (s ++ "") = .done s
    rw [String.append_empty]

/-- Whether texts that meet are one text does not show. -/
theorem render_seam (ps qs : Template) : t.render args (ps.seam qs) = t.render args (ps ++ qs) := by
  refine apply_seam (fun x xs ys h => ?_) (fun x y z ys hz => ?_) ps qs
  · rw [Renderer.render_cons, Renderer.render_cons, h]
  · obtain ⟨s, u, rfl, rfl, rfl⟩ := mergeParts?_eq_some hz
    rw [render_text, render_text, render_text, Rendering.map_map]
    exact congrArg (Rendering.map · _) (funext fun r => String.append_assoc ..)

/-- **Text around a template is rendered around it.** -/
theorem render_within (p : String) (ps : Template) (q : String) :
    t.render args (within p ps q) = (t.render args ps).map fun r => p ++ r ++ q := by
  calc t.render args (within p ps q)
      = (t.render args (ofText p ++ ps)).bind fun r => (Rendering.done q).map (r ++ ·) := by
        rw [within, render_seam, Renderer.render_append, render_seam, render_ofText]
    _ = ((t.render args ps).map (p ++ ·)).bind fun r => .done (r ++ q) := by
        rw [Renderer.render_append, render_ofText, Rendering.done_bind]
        rfl
    _ = (t.render args ps).map fun r => p ++ r ++ q := by
        rw [Rendering.bind_map]
        exact (Rendering.bind_map (fun r => p ++ r ++ q) _ .done).symm.trans (Rendering.bind_done _)

/-- A literal is bound to the template of its text. -/
theorem bound_ofText (key : ArgumentKey) (s : String) :
    Bound key (Segment.ofLiteral s.toList) (ofText s) := by
  unfold Segment.ofLiteral ofText
  simp only [String.toList_eq_nil_iff]
  split
  · exact .nil
  · have h : Bound key [.literal s.toList] [.text (String.ofList s.toList)] := .text s.toList .nil
    rwa [String.ofList_toList] at h

/-- **A source text with text around it is read as its template with text around it.** -/
theorem parse_within (hp : BraceFree p.toList) (hq : BraceFree q.toList)
    (h : parse source = .ok ps) : parse (p ++ source ++ q) = .ok (within p ps q) := by
  obtain ⟨segments, hs, hbound⟩ := parse_eq_ok_iff.1 h
  have hfree {s : String} (hs : BraceFree s.toList) : '{' ∉ s.toList := fun hx => (hs _ hx).1 rfl
  have hfront := TemplatePlaceholder.segmentation_seam (.ofLiteral p.toList (hfree hp)) hs <|
    .inl fun l hl => by rw [Segment.eq_of_mem_ofLiteral hl]; exact hfree hp
  have hwithin := TemplatePlaceholder.segmentation_seam hfront (.ofLiteral q.toList (hfree hq)) <|
    .inr hq
  -- neither text has arguments, so the blocks fall back to the same key
  have hparts : Bound (firstKey segments) _ ((ofText p).seam ps) :=
    (bound_ofText _ p).seam (by rwa [argumentKeys_ofText])
  have hparts : Bound (firstKey segments) _ (within p ps q) := hparts.seam (bound_ofText _ q)
  have hkey := hparts.firstKey_eq
  rw [argumentKeys_within, ← hbound.firstKey_eq] at hkey
  rw [← hkey] at hparts
  refine parse_eq_ok_iff.2 ⟨_, ?_, hparts⟩
  rw [String.toList_append, String.toList_append]
  exact hwithin

/-- A source text without braces is read as itself. -/
theorem parse_ofText (hp : BraceFree p.toList) : parse p = .ok (ofText p) :=
  parse_eq_ok_iff.2 ⟨_, .ofLiteral p.toList fun hx => (hp _ hx).1 rfl, bound_ofText _ p⟩

/-- A template of nothing but texts is rendered to the text that it is read from. -/
theorem Bound.render_of_texts (h : Bound key xs ps)
    (hs : Segment.Segmentation TemplatePlaceholder.opener s xs)
    (htexts : ∀ part ∈ ps, ∃ u, part = .text u) :
    t.render args ps = .done (String.ofList s) := by
  induction h generalizing s with
  | nil =>
    cases hs
    rfl
  | text l _ ih =>
    cases hs with
    | literal _ _ _ hs =>
      rw [render_text, ih hs fun part hpart => htexts part (.tail _ hpart), String.ofList_append]
      rfl
  | argument a => obtain ⟨u, hu⟩ := htexts _ (.head _); cases hu
  | plural => obtain ⟨u, hu⟩ := htexts _ (.head _); cases hu

/-- **Reading in context.** The segments of two texts in a row are the segments of both, with the
literals that meet made one, if no brace is left literal in the first text. A source text with texts
without braces around it is read as its template with these texts around it, and rendered as it
is, with the texts around it or to the same error. So a text without braces is rendered to itself,
and so is every source text that is read as text only. -/
theorem parse_in_context :
    (∀ a b xs ys, Segment.scan TemplatePlaceholder.opener a = .ok xs →
      (∀ l, Segment.literal l ∈ xs → '{' ∉ l) →
      Segment.scan TemplatePlaceholder.opener b = .ok ys →
      Segment.scan TemplatePlaceholder.opener (a ++ b) = .ok (Segment.seam xs ys)) ∧
    (∀ p q source ps, BraceFree p.toList → BraceFree q.toList → parse source = .ok ps →
      parse (p ++ source ++ q) = .ok (within p ps q) ∧
      ∀ (t : Renderer) args,
        t.render args (within p ps q) = (t.render args ps).map fun r => p ++ r ++ q) ∧
    (∀ p, BraceFree p.toList → parse p = .ok (ofText p) ∧
      ∀ (t : Renderer) args, t.render args (ofText p) = .done p) ∧
    (∀ source ps, parse source = .ok ps → (∀ part ∈ ps, ∃ u, part = .text u) →
      ∀ (t : Renderer) args, t.render args ps = .done source) := by
  refine ⟨fun a b xs ys ha hfree hb => ?_, fun p q source ps hp hq h => ?_, fun p hp => ?_,
    fun source ps h htexts t args => ?_⟩
  · rw [Segment.scan_eq_ok_iff] at ha hb ⊢
    exact TemplatePlaceholder.segmentation_seam ha hb (.inl hfree)
  · exact ⟨parse_within hp hq h, fun t args => render_within p ps q⟩
  · exact ⟨parse_ofText hp, fun t args => render_ofText p⟩
  · obtain ⟨segments, hs, hbound⟩ := parse_eq_ok_iff.1 h
    rw [hbound.render_of_texts hs htexts, String.ofList_toList]

/-- A stray closing brace, and two placeholders in front of a text. -/
def closedText : List Char := "\x7d{n}{{a|{b} c}} x".toList

/-- A brace that opens nothing, a block in front of the argument that drives it, and a block that is
not closed. -/
def openText : String := "\x7b {{s}}{n}\x7b\x7bu"

/-- The template that the text with open braces is read as. -/
def openParts : Template := [.text "\x7b ",
  .plural { key := .named "n", forms := [⟨.one, []⟩, ⟨.other, [.text "s"]⟩] },
  .argument { key := .named "n" }, .text "\x7b\x7bu"]

/-- Two literals are made one where the texts meet, the text with open braces keeps its parts
between other texts, and stray braces alone are rendered as they are. -/
theorem parse_in_context_stray :
    Segment.scan TemplatePlaceholder.opener (closedText ++ openText.toList) = .ok [.literal ['}'],
      .placeholder (.argument { key := .named "n" }), .placeholder (.plural "a|{b} c".toList),
      .literal [' ', 'x', '{', ' '], .placeholder (.plural ['s']),
      .placeholder (.argument { key := .named "n" }), .literal ['{', '{', 'u']] ∧
    parse ("All " ++ openText ++ " end") = .ok (.text "All \x7b " :: openParts.tail.dropLast ++
      [.text "\x7b\x7bu end"]) ∧
    (∀ (t : Renderer) args, t.render args (within "All " openParts " end") =
      (t.render args openParts).map fun r => "All " ++ r ++ " end") ∧
    (∀ (t : Renderer) args, t.render args (ofText " end") = .done " end") ∧
    ∀ (t : Renderer) args, t.render args [.text "\x7b \x7d"] = .done "\x7b \x7d" := by
  obtain ⟨hscan, hwithin, hfree, htexts⟩ := parse_in_context
  have hclosed : Segment.scan TemplatePlaceholder.opener closedText = .ok [.literal ['}'],
      .placeholder (.argument { key := .named "n" }), .placeholder (.plural "a|{b} c".toList),
      .literal [' ', 'x']] := by cbv
  have hopen : Segment.scan TemplatePlaceholder.opener openText.toList = .ok [.literal ['{', ' '],
      .placeholder (.plural ['s']), .placeholder (.argument { key := .named "n" }),
      .literal ['{', '{', 'u']] := by cbv
  have hparse : parse openText = .ok openParts := by cbv
  have hbraces : parse "\x7b \x7d" = .ok [.text "\x7b \x7d"] := by cbv
  have hfront : BraceFree "All ".toList := by simp [BraceFree]
  have hbehind : BraceFree " end".toList := by simp [BraceFree]
  have hall := hwithin "All " " end" openText openParts hfront hbehind hparse
  refine ⟨hscan _ _ _ _ hclosed ?_ hopen, hall.1, hall.2, (hfree " end" hbehind).2,
    htexts _ _ hbraces ?_⟩
  · simp
  · simp

end Template
end Phrasebook
