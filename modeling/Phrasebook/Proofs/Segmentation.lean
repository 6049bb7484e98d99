/-
# What scanning cuts a text into

`Segmentation` is scanning (`TemplateParser._scan`) without the scanner: the text is cut
from the left into literals and placeholders. A literal is never empty, is never followed by
another one, and at none of its braces the opener finds a placeholder in front of the rest
of the text. Scanning answers exactly the segmentation of its text (`scan_eq_ok_iff`).
-/

import Phrasebook.Proofs.Outcome
import Phrasebook.Template.Segment

namespace Phrasebook
namespace Segment

variable {α : Type} {opener : Opener α} {segments : List (Segment α)}
variable {s l rest : List Char} {c : Char} {x : α}

/-- An empty text has no segments. -/
@[simp] theorem scan_nil : scan opener [] = .ok [] := by rw [scan]

/-- A character that opens no brace is literal. -/
theorem scan_cons_of_ne (hc : c ≠ '{') :
    scan opener (c :: s) = (scan opener s).map (consChar c) := by
  rw [scan, if_neg hc]

/-- A brace that opens nothing is literal. -/
theorem scan_brace_of_none (h : opener.read s = .ok none) :
    scan opener ('{' :: s) = (scan opener s).map (consChar '{') := by
  rw [scan, if_pos rfl]
  split <;> simp_all

/-- A brace that opens a placeholder is a segment, and scanning goes on behind it. -/
theorem scan_brace_of_some (h : opener.read s = .ok (some (x, rest))) :
    scan opener ('{' :: s) = (scan opener rest).map (.placeholder x :: ·) := by
  rw [scan, if_pos rfl]
  split <;> simp_all

/-- An error at a brace is the error of the text. -/
theorem scan_brace_of_error {e : ParseError} (h : opener.read s = .error e) :
    scan opener ('{' :: s) = .error e := by
  rw [scan, if_pos rfl]
  split <;> simp_all

/-- Whether the first segment is literal text. -/
def startsLiteral : List (Segment α) → Bool
  | .literal _ :: _ => true
  | _ => false

/-- Segments that are not a literal and others behind it do not start with a literal. -/
theorem startsLiteral_eq_false (h : ∀ l tail, segments ≠ .literal l :: tail) :
    startsLiteral segments = false := by
  cases segments with
  | nil => rfl
  | cons y tail =>
    cases y with
    | literal l => exact absurd rfl (h l tail)
    | placeholder x => rfl

/-- A character in front of a placeholder is a literal of its own. -/
theorem consChar_of_startsLiteral (h : startsLiteral segments = false) :
    consChar c segments = .literal [c] :: segments := by
  cases segments with
  | nil => rfl
  | cons y segments =>
    cases y with
    | literal l => cases h
    | placeholder x => rfl

/-- The opener finds nothing at any brace of a literal in front of `rest`. -/
def Unopened (opener : Opener α) (l rest : List Char) : Prop :=
  ∀ u v, l = u ++ '{' :: v → opener.read (v ++ rest) = .ok none

/-- An empty literal opens nothing. -/
theorem Unopened.nil : Unopened opener [] rest := fun u v h => by simp at h

/-- A literal that opens nothing does so without its first character. -/
theorem Unopened.tail (h : Unopened opener (c :: l) rest) : Unopened opener l rest :=
  fun u v huv => h (c :: u) v (by rw [huv, List.cons_append])

/-- One more character in front opens nothing, unless it is a brace at which something is read. -/
theorem Unopened.cons (hc : c = '{' → opener.read (l ++ rest) = .ok none)
    (h : Unopened opener l rest) : Unopened opener (c :: l) rest := by
  intro u v huv
  cases u with
  | nil =>
    obtain ⟨rfl, rfl⟩ := List.cons.inj huv
    exact hc rfl
  | cons a u => exact h u v (List.cons.inj huv).2

/-- Text without opening braces opens nothing. -/
theorem Unopened.of_not_mem (h : '{' ∉ l) : Unopened opener l rest := by
  rintro u v rfl
  exact absurd (by simp) h

/-- A source text cut into segments. -/
inductive Segmentation (opener : Opener α) : List Char → List (Segment α) → Prop
  | nil : Segmentation opener [] []
  | literal {l rest : List Char} {segments : List (Segment α)} :
      l ≠ [] → startsLiteral segments = false →
      Unopened opener l rest → Segmentation opener rest segments →
      Segmentation opener (l ++ rest) (.literal l :: segments)
  | placeholder {s rest : List Char} {x : α} {segments : List (Segment α)} :
      opener.read s = .ok (some (x, rest)) → Segmentation opener rest segments →
      Segmentation opener ('{' :: s) (.placeholder x :: segments)

namespace Segmentation

/-- One more literal character in front of a text. -/
theorem consChar (hc : c = '{' → opener.read s = .ok none) (h : Segmentation opener s segments) :
    Segmentation opener (c :: s) (Segment.consChar c segments) := by
  cases h with
  | nil => exact .literal (l := [c]) (by simp) rfl (.cons hc .nil) .nil
  | @literal l rest segments hne hs hl hr =>
    exact .literal (l := c :: l) (by simp) hs (.cons hc hl) hr
  | placeholder hx hr =>
    exact .literal (l := [c]) (by simp) rfl (.cons hc .nil) (.placeholder hx hr)

/-- Where no literal stands first, the text is at its end or at a brace. -/
theorem eq_nil_or_brace (h : Segmentation opener s segments) (hs : startsLiteral segments = false) :
    s = [] ∨ ∃ r, s = '{' :: r := by
  cases h with
  | nil => exact .inl rfl
  | literal => cases hs
  | placeholder => exact .inr ⟨_, rfl⟩

end Segmentation

/-- A literal in front of a text that is cut without one. -/
theorem scan_literal_append (hl : Unopened opener l rest) (hne : l ≠ [])
    (hs : startsLiteral segments = false) (h : scan opener rest = .ok segments) :
    scan opener (l ++ rest) = .ok (.literal l :: segments) := by
  induction l with
  | nil => exact absurd rfl hne
  | cons c l ih =>
    have hc : scan opener (c :: (l ++ rest)) = (scan opener (l ++ rest)).map (consChar c) := by
      by_cases hb : c = '{'
      · subst hb
        exact scan_brace_of_none (hl [] l rfl)
      · exact scan_cons_of_ne hb
    rw [List.cons_append, hc]
    cases l with
    | nil =>
      rw [List.nil_append, h]
      exact congrArg Except.ok (consChar_of_startsLiteral hs)
    | cons a l =>
      rw [ih hl.tail (by simp)]
      rfl

/-- **Scanning answers the segmentation of its text.** -/
theorem scan_eq_ok_iff : scan opener s = .ok segments ↔ Segmentation opener s segments := by
  constructor
  · intro h
    induction s using scan.induct opener generalizing segments with
    | case1 =>
      rw [scan_nil] at h
      obtain rfl := Except.ok.inj h
      exact .nil
    | case2 s e he =>
      rw [scan_brace_of_error he] at h
      cases h
    | case3 s x rest hx _ ih =>
      rw [scan_brace_of_some hx] at h
      obtain ⟨tail, hr, rfl⟩ := map_eq_ok_iff.1 h
      exact .placeholder hx (ih hr)
    | case4 s hx ih =>
      rw [scan_brace_of_none hx] at h
      obtain ⟨tail, hr, rfl⟩ := map_eq_ok_iff.1 h
      exact (ih hr).consChar fun _ => hx
    | case5 c s hc ih =>
      rw [scan_cons_of_ne hc] at h
      obtain ⟨tail, hr, rfl⟩ := map_eq_ok_iff.1 h
      exact (ih hr).consChar fun hb => absurd hb hc
  · intro h
    induction h with
    | nil => exact scan_nil
    | literal hne hs hl _ ih => exact scan_literal_append hl hne hs ih
    | placeholder hx _ ih =>
      rw [scan_brace_of_some hx, ih]
      rfl

/-- If scanning answers, a literal at whose braces no placeholder is found opens nothing, and
scanning answers for the text behind it. -/
theorem unopened_of_scan
    (hl : ∀ u v, l = u ++ '{' :: v → ∀ x r, opener.read (v ++ rest) ≠ .ok (some (x, r)))
    (h : scan opener (l ++ rest) = .ok segments) :
    Unopened opener l rest ∧ ∃ tail, scan opener rest = .ok tail := by
  induction l generalizing segments with
  | nil => exact ⟨.nil, segments, h⟩
  | cons c l ih =>
    have ih' := fun {segments} => @ih segments fun u v huv => hl (c :: u) v (congrArg (c :: ·) huv)
    rw [List.cons_append] at h
    by_cases hb : c = '{'
    · subst hb
      cases hr : opener.read (l ++ rest) with
      | error e =>
        rw [scan_brace_of_error hr] at h
        cases h
      | ok found =>
        cases found with
        | some p => exact absurd hr (hl [] l rfl p.1 p.2)
        | none =>
          rw [scan_brace_of_none hr] at h
          obtain ⟨tail, ht, -⟩ := map_eq_ok_iff.1 h
          exact ⟨.cons (fun _ => hr) (ih' ht).1, (ih' ht).2⟩
    · rw [scan_cons_of_ne hb] at h
      obtain ⟨tail, ht, -⟩ := map_eq_ok_iff.1 h
      exact ⟨.cons (fun hc => absurd hc hb) (ih' ht).1, (ih' ht).2⟩

end Segment
end Phrasebook
