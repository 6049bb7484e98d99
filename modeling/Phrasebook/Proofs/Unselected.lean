/-
# Forms that are not selected

A block selects one of its forms (`TemplateTranslator._select_form`), or none, by the categories of
its forms alone: for a category it is the first form that has it (`PluralBlock.place?`). So another
block with the same categories, which has the same form at the place that is selected, selects this
form too (`PluralBlock.select_eq_of_categories`), and the forms at all other places are not looked
at.

A template may so be changed in the forms that it does not select, in any number of blocks at once:
what is looked up, asked, called and rendered stays as it is, errors included
(`Renderer.evaluation_up_to_unselected`).
-/

import Phrasebook.Proofs.Evaluation
import Phrasebook.Proofs.Selection

namespace Phrasebook
namespace PluralBlock

variable {b b' : PluralBlock} {resolver : PluralResolver} {v : Value} {category : String}

/-- The place of the first form of a category. -/
def place? (b : PluralBlock) (category : String) : Option Nat :=
  b.forms.findIdx? (·.category.name == category)

/-- The place of the form that a block selects for a value, if it selects any. -/
def selectedPlace? (b : PluralBlock) (resolver : PluralResolver) (v : Value) : Option Nat :=
  match (b.select resolver v.drivingNumber).outcome with
  | .ok (some f) => b.place? f.category.name
  | _ => none

/-- The form of a category is the one at its place. -/
theorem form?_eq_bind (b : PluralBlock) (category : String) :
    b.form? category = (b.place? category).bind (b.forms[·]?) :=
  List.find?_eq_bind_findIdx?_getElem?

/-- There is no place for a category exactly if there is no form for it. -/
theorem place?_eq_none_iff : b.place? category = none ↔ b.form? category = none := by
  rw [place?, form?, List.findIdx?_eq_none_iff, List.find?_eq_none]
  simp

/-- Places depend on the categories of the forms alone. -/
theorem place?_eq_of_categories (h : b'.forms.map (·.category) = b.forms.map (·.category))
    (category : String) : b'.place? category = b.place? category := by
  have hplace (b : PluralBlock) :
      b.place? category = (b.forms.map (·.category)).findIdx? (·.name == category) := by
    rw [List.findIdx?_map]
    rfl
  rw [hplace, hplace, h]

/-- Blocks with the same categories lack the same forms. -/
theorem form?_eq_none_iff_of_categories
    (h : b'.forms.map (·.category) = b.forms.map (·.category)) :
    b'.form? category = none ↔ b.form? category = none := by
  rw [← place?_eq_none_iff, ← place?_eq_none_iff, place?_eq_of_categories h]

/-- If the form for a category is selected, its place is the one that is selected. -/
theorem selectedPlace?_eq
    (h : (b.select resolver v.drivingNumber).outcome = .ok (b.form? category)) :
    b.selectedPlace? resolver v = b.place? category := by
  rw [selectedPlace?, h]
  cases hf : b.form? category with
  | none => exact (place?_eq_none_iff.2 hf).symm
  | some f =>
    have hname : f.category.name = category := by simpa using List.find?_some hf
    exact congrArg b.place? hname

/-- **The selected place is that of the form that is selected.** -/
theorem exists_selectedPlace? {f : PluralForm}
    (h : (b.select resolver v.drivingNumber).outcome = .ok (some f)) :
    ∃ i, b.selectedPlace? resolver v = some i ∧ b.forms[i]? = some f := by
  have hform : b.form? f.category.name = some f :=
    (selects_of_select h).1.form?_category f rfl
  have hplace : b.selectedPlace? resolver v = b.place? f.category.name :=
    selectedPlace?_eq (h.trans (congrArg Except.ok hform.symm))
  rw [form?_eq_bind] at hform
  obtain ⟨i, hi, hf⟩ := Option.bind_eq_some_iff.1 hform
  exact ⟨i, hplace.trans hi, hf⟩

section SameCategories

variable (h : b'.forms.map (·.category) = b.forms.map (·.category))
  (hselected : ∀ i ∈ b.selectedPlace? resolver v, b'.forms[i]? = b.forms[i]?)

include h hselected

/-- The form that is selected is the same in both blocks. -/
theorem form?_eq_of_selected
    (hform : (b.select resolver v.drivingNumber).outcome = .ok (b.form? category)) :
    b'.form? category = b.form? category := by
  rw [form?_eq_bind, form?_eq_bind, place?_eq_of_categories h]
  cases hi : b.place? category with
  | none => rfl
  | some i => exact hselected i ((selectedPlace?_eq hform).trans hi)

/-- A block with the same form at the selected place has the same form for zero, where it is
shown. -/
theorem zeroForm?_eq_of_selected (hfinite : v.drivingNumber.isFinite = .ok true) :
    b'.zeroForm? v.drivingNumber = b.zeroForm? v.drivingNumber := by
  rw [zeroForm?, zeroForm?]
  split
  · rename_i hn
    cases hf : b.form? PluralCategory.zero.name with
    | none => exact (form?_eq_none_iff_of_categories h).2 hf
    | some f =>
      refine (form?_eq_of_selected h hselected ?_).trans hf
      rw [select, hfinite, zeroForm?, if_pos hn, hf]
      rfl
  · rfl

/-- A block with the same form at the selected place shows the same form for the category. -/
theorem formFor?_eq_of_selected (hfinite : v.drivingNumber.isFinite = .ok true)
    (hzero : b.zeroForm? v.drivingNumber = none)
    (hcategory : (Rendering.ask resolver v.drivingNumber).outcome = .ok category) :
    b'.formFor? category = b.formFor? category := by
  have hshown : (b.select resolver v.drivingNumber).outcome = .ok (b.formFor? category) := by
    rw [select, hfinite]
    simp only [hzero, Rendering.map, hcategory, map_ok]
  rw [formFor?] at hshown
  rw [formFor?, formFor?]
  cases hf : b.form? category with
  | some f =>
    have hsame : b'.form? category = b.form? category :=
      form?_eq_of_selected h hselected (by rw [hshown, hf, Option.some_or])
    rw [hsame, hf, Option.some_or, Option.some_or]
  | none =>
    have hsame : b'.otherForm? = b.otherForm? :=
      form?_eq_of_selected h hselected (by rw [hshown, hf, Option.none_or, otherForm?])
    rw [(form?_eq_none_iff_of_categories h).2 hf, hsame]

/-- **Selection looks at categories, and at no form but the one that is selected.** -/
theorem select_eq_of_categories :
    b'.select resolver v.drivingNumber = b.select resolver v.drivingNumber := by
  cases hfinite : v.drivingNumber.isFinite with
  | error e => rw [select, select, hfinite]
  | ok finite =>
    cases finite with
    | false =>
      have hother : b'.otherForm? = b.otherForm? :=
        form?_eq_of_selected h hselected (by rw [select, hfinite]; rfl)
      rw [select, select, hfinite]
      exact congrArg Rendering.done hother
    | true =>
      rw [select, select, hfinite]
      simp only [zeroForm?_eq_of_selected h hselected hfinite]
      cases hzero : b.zeroForm? v.drivingNumber with
      | some f => rfl
      | none =>
        cases hc : (Rendering.ask resolver v.drivingNumber).outcome with
        | error e => simp only [Rendering.map, hc, map_error]
        | ok category =>
          have hshown := formFor?_eq_of_selected h hselected hfinite hzero hc
          simp only [Rendering.map, hc, map_ok, hshown]

end SameCategories

/-- The block without the elements of all forms that it does not select for a value. -/
def pruned (b : PluralBlock) (resolver : PluralResolver) (v : Value) : PluralBlock :=
  { b with
    forms := b.forms.mapIdx fun i f =>
      if b.selectedPlace? resolver v = some i then f else { f with elements := [] } }

/-- Pruning a block keeps its categories. -/
theorem categories_pruned (b : PluralBlock) (resolver : PluralResolver) (v : Value) :
    (b.pruned resolver v).forms.map (·.category) = b.forms.map (·.category) := by
  refine List.ext_getElem? fun i => ?_
  simp only [pruned, List.getElem?_map, List.getElem?_mapIdx, Option.map_map]
  refine congrArg (Option.map · _) (funext fun f => ?_)
  simp only [Function.comp_apply]
  split <;> rfl

/-- Pruning a block keeps the form that is selected. -/
theorem getElem?_pruned {i : Nat} (h : i ∈ b.selectedPlace? resolver v) :
    (b.pruned resolver v).forms[i]? = b.forms[i]? := by
  have hi : b.selectedPlace? resolver v = some i := h
  simp [pruned, List.getElem?_mapIdx, hi]

end PluralBlock

namespace Part

/-- Whether a part is another one up to forms that are not selected: the forms of a block keep their
categories, and the one that is selected stays as it is. -/
inductive UpToUnselected (t : Renderer) (args : Arguments) : Part → Part → Prop
  | same (p : Part) : UpToUnselected t args p p
  | forms {b : PluralBlock} {forms' : List PluralForm}
      (hcategories : forms'.map (·.category) = b.forms.map (·.category))
      (hselected : ∀ i ∈ b.selectedPlace? t.resolver (args.lookup b.key),
        forms'[i]? = b.forms[i]?) :
      UpToUnselected t args (.plural b) (.plural { b with forms := forms' })

/-- The part without the elements of all forms that are not selected. -/
def pruned (t : Renderer) (args : Arguments) : Part → Part
  | .plural b => .plural (b.pruned t.resolver (args.lookup b.key))
  | p => p

/-- A part is its pruned part up to forms that are not selected. -/
theorem upToUnselected_pruned (t : Renderer) (args : Arguments) (p : Part) :
    p.UpToUnselected t args (p.pruned t args) := by
  cases p with
  | text s => exact .same _
  | argument a => exact .same _
  | plural b => exact .forms (b.categories_pruned _ _) fun i hi => PluralBlock.getElem?_pruned hi

end Part

namespace Renderer

variable {t : Renderer} {args : Arguments} {p p' : Part} {ps ps' : Template}

/-- A part is evaluated alike with other forms in the place of those that are not selected. -/
theorem evaluation_singleton_of_upToUnselected (h : p.UpToUnselected t args p') :
    t.evaluation args [p'] = t.evaluation args [p] := by
  cases h with
  | same => rfl
  | @forms b forms' hcategories hselected =>
    have hselect :
        ({ b with forms := forms' } : PluralBlock).select t.resolver
            (args.lookup b.key).drivingNumber =
          b.select t.resolver (args.lookup b.key).drivingNumber :=
      PluralBlock.select_eq_of_categories hcategories hselected
    rw [evaluation_plural, evaluation_plural]
    simp only [hselect]

/-- Parts that are evaluated alike make templates that are evaluated alike. -/
theorem evaluation_eq_of_forall₂
    (h : List.Forall₂ (fun p p' => t.evaluation args [p'] = t.evaluation args [p]) ps ps') :
    t.evaluation args ps' = t.evaluation args ps := by
  induction h with
  | nil => rfl
  | @cons p p' ps ps' hp _ ih =>
    calc t.evaluation args (p' :: ps')
        = (t.evaluation args [p']).andThen (t.evaluation args ps') :=
          evaluation_append t args [p'] ps'
      _ = (t.evaluation args [p]).andThen (t.evaluation args ps) := by rw [hp, ih]
      _ = t.evaluation args (p :: ps) := (evaluation_append t args [p] ps).symm

/-- **Forms that are not selected are never evaluated.** A template whose blocks have other elements
in forms that they do not select is evaluated alike: the same keys are looked up, the same numbers
asked and the same formatters called, and the same text or error comes out. So it is if these forms
are empty: no formatter in them is called, and none can fail. -/
theorem evaluation_up_to_unselected (t : Renderer) (args : Arguments) (ps : Template) :
    (∀ ps' : Template, List.Forall₂ (Part.UpToUnselected t args) ps ps' →
      t.evaluation args ps' = t.evaluation args ps) ∧
    t.evaluation args (ps.map (Part.pruned t args)) = t.evaluation args ps := by
  have hsame {ps' : Template} (h : List.Forall₂ (Part.UpToUnselected t args) ps ps') :
      t.evaluation args ps' = t.evaluation args ps :=
    evaluation_eq_of_forall₂ (h.imp fun _ _ => evaluation_singleton_of_upToUnselected)
  refine ⟨fun ps' => hsame, hsame ?_⟩
  rw [List.forall₂_map_right_iff]
  exact List.forall₂_same.2 fun p _ => p.upToUnselected_pruned t args

/-- Three blocks: one with two forms for the same category, one for a zero with a form for it, and
one without a form for what is no number. The forms that they do not select have the given
elements. -/
def seating (es : List FormElement) : Template := [
  .plural {
    key := .positional 0
    forms := [⟨.one, [.text "one guest"]⟩, ⟨.one, es⟩, ⟨.other, es⟩] },
  .plural { key := .positional 1, forms := [⟨.other, es⟩, ⟨.zero, [.text ", no seats"]⟩] },
  .plural { key := .positional 2, forms := [⟨.one, es⟩] }]

/-- The values for a seating. -/
def seatingValues : Arguments :=
  .sequence [.number (.decimal (.finite false 1 0)), .text "0.00", .text "many"]

/-- A renderer that calls every number one. -/
def usher : Renderer := ⟨.function fun _ => .ok "one", printer.registry⟩

/-- An element whose formatter breaks down, and one whose formatter is unknown. -/
def troubles : List FormElement := [
  .argument { key := .positional 0, formatters := ["broken"] },
  .argument { key := .positional 3, formatters := ["missing"] }]

/-- Forms that break down or have an unknown formatter do no harm where they are not selected, even
for the category that is. -/
theorem evaluation_up_to_unselected_seating :
    List.Forall₂ (Part.UpToUnselected usher seatingValues)
        (seating []) (seating troubles) ∧
      usher.evaluation seatingValues (seating troubles) =
        ⟨[.positional 0, .positional 1, .positional 2], [.decimal (.finite false 1 0)], [],
          .ok "one guest, no seats"⟩ := by
  have hparts : List.Forall₂ (Part.UpToUnselected usher seatingValues)
      (seating []) (seating troubles) := by
    refine .cons (.forms rfl ?_) (.cons (.forms rfl ?_) (.cons (.forms rfl ?_) .nil))
    all_goals decide +kernel
  refine ⟨hparts, ?_⟩
  rw [(evaluation_up_to_unselected usher seatingValues (seating [])).1 _ hparts]
  rfl

end Renderer
end Phrasebook
