/-
# What rendering looks up

`Renderer.lookups` are the keys whose values rendering looks at, in order and up to the first
error. They are all it looks at: with other arguments that have the same values for them,
the rendering is the same, the numbers that the resolver is asked about included
(`Renderer.render_congr`). And each of them is a key of a descriptor of the template
(`Renderer.exists_descriptor_of_mem_lookups`), whichever forms are shown.
-/

import Phrasebook.Proofs.Numbering
import Phrasebook.Proofs.Outcome
import Phrasebook.Renderer

namespace Phrasebook

variable {args args' : Arguments} {k : ArgumentKey} {v : Value} {t : Renderer}

namespace Renderer

/-- The keys that an element of a form looks up. -/
def elementLookups : FormElement → List ArgumentKey
  | .argument a => [a.key]
  | _ => []

/-- The keys that the elements of a form look up, up to the first error. -/
def elementsLookups (t : Renderer) (args : Arguments) (v : Value) :
    List FormElement → List ArgumentKey
  | [] => []
  | e :: es =>
    elementLookups e ++
      match t.element args v e with
      | .ok _ => t.elementsLookups args v es
      | .error _ => []

/-- The keys that a form looks up. -/
def formLookups (t : Renderer) (args : Arguments) (v : Value) : Option PluralForm → List ArgumentKey
  | none => []
  | some f => t.elementsLookups args v f.elements

/-- The keys that a part of a template looks up: a block looks up its own key, and then those of
the form that is shown. -/
def partLookups (t : Renderer) (args : Arguments) : Part → List ArgumentKey
  | .text _ => []
  | .argument a => [a.key]
  | .plural b =>
    b.key ::
      match (b.select t.resolver (args.lookup b.key).drivingNumber).outcome with
      | .ok f => t.formLookups args (args.lookup b.key) f
      | .error _ => []

/-- The keys that a template looks up, up to the first error. -/
def lookups (t : Renderer) (args : Arguments) : Template → List ArgumentKey
  | [] => []
  | p :: ps =>
    t.partLookups args p ++
      match (t.part args p).outcome with
      | .ok _ => t.lookups args ps
      | .error _ => []

/-- Whether two collections of arguments have the same values for the keys of a list. -/
def Agree (args args' : Arguments) (ks : List ArgumentKey) : Prop :=
  ∀ k ∈ ks, args.lookup k = args'.lookup k

/-- Arguments agree on two lists of keys exactly if they agree on both. -/
theorem agree_append_iff {ks ls : List ArgumentKey} :
    Agree args args' (ks ++ ls) ↔ Agree args args' ks ∧ Agree args args' ls :=
  List.forall_mem_append

/-- An argument is shown alike if its key has the same value. -/
theorem argument_congr {a : Argument} (h : args.lookup a.key = args'.lookup a.key) :
    t.argument args a = t.argument args' a := by
  rw [argument, argument, h]

/-- An element is shown alike if the key that it looks up has the same value. -/
theorem element_congr {e : FormElement} (h : Agree args args' (elementLookups e)) :
    t.element args v e = t.element args' v e := by
  cases e with
  | text s => rfl
  | argument a => exact argument_congr (h a.key (by simp [elementLookups]))
  | value => rfl

/-- Elements are shown alike if all keys that are looked up for them have the same values. -/
theorem elements_congr {es : List FormElement}
    (h : Agree args args' (t.elementsLookups args v es)) :
    t.elements args v es = t.elements args' v es := by
  induction es with
  | nil => rfl
  | cons e es ih =>
    obtain ⟨hhead, htail⟩ := agree_append_iff.1 h
    rw [elements, elements, ← element_congr hhead]
    cases he : t.element args v e with
    | error f => rfl
    | ok s =>
      rw [he] at htail
      rw [Except.bind, Except.bind, ih htail]

/-- A form is shown alike if all keys that are looked up for it have the same values. -/
theorem form_congr {f : Option PluralForm} (h : Agree args args' (t.formLookups args v f)) :
    t.form args v f = t.form args' v f := by
  cases f with
  | none => rfl
  | some f => exact elements_congr h

/-- A part is shown alike if all keys that are looked up for it have the same values. -/
theorem part_congr {p : Part} (h : Agree args args' (t.partLookups args p)) :
    t.part args p = t.part args' p := by
  cases p with
  | text s => rfl
  | argument a =>
    have ha : args.lookup a.key = args'.lookup a.key := h a.key (by simp [partLookups])
    rw [part, part, argument_congr ha]
  | plural b =>
    obtain ⟨hkey, hform⟩ := List.forall_mem_cons.1 h
    rw [part, part, plural, plural, ← hkey]
    cases hs : (b.select t.resolver (args.lookup b.key).drivingNumber).outcome with
    | error e => rw [Rendering.bind_error hs, Rendering.bind_error hs]
    | ok f =>
      rw [hs] at hform
      rw [Rendering.bind_ok hs, Rendering.bind_ok hs, form_congr hform]

/-- **Rendering looks at nothing but what it looks up.** -/
theorem render_congr {ps : Template} (h : Agree args args' (t.lookups args ps)) :
    t.render args ps = t.render args' ps := by
  induction ps with
  | nil => rfl
  | cons p ps ih =>
    obtain ⟨hhead, htail⟩ := agree_append_iff.1 h
    rw [render_cons, render_cons, ← part_congr hhead]
    cases hp : (t.part args p).outcome with
    | error e => rw [Rendering.bind_error hp, Rendering.bind_error hp]
    | ok s =>
      rw [hp] at htail
      rw [ih htail]

end Renderer

namespace PluralBlock

variable {b : PluralBlock} {f : PluralForm}

/-- The form of a category is one of the forms. -/
theorem mem_of_form? {category : String} (h : b.form? category = some f) : f ∈ b.forms :=
  List.mem_of_find?_eq_some h

/-- A form that is shown is a form of the block. -/
theorem mem_of_select {resolver : PluralResolver} {n : Number}
    (h : (b.select resolver n).outcome = .ok (some f)) : f ∈ b.forms := by
  unfold select at h
  split at h
  · cases h
  · exact mem_of_form? (Except.ok.inj h)
  · split at h
    · rename_i g hg
      obtain rfl := Option.some.inj (Except.ok.inj h)
      unfold zeroForm? at hg
      split at hg
      · exact mem_of_form? hg
      · cases hg
    · obtain ⟨category, -, hf⟩ := map_eq_ok_iff.1 h
      rcases Option.or_eq_some_iff.1 hf with hf | ⟨-, hf⟩
      · exact mem_of_form? hf
      · exact mem_of_form? hf

end PluralBlock

namespace Renderer

/-- Elements look up only keys that they refer to. -/
theorem exists_reference_of_mem_elementsLookups {es : List FormElement}
    (h : k ∈ t.elementsLookups args v es) : ∃ r ∈ es.flatMap Reference.ofElement, r.key = k := by
  induction es with
  | nil => cases h
  | cons e es ih =>
    rw [List.flatMap_cons]
    rcases List.mem_append.1 h with h | h
    · cases e with
      | text s => cases h
      | argument a =>
        obtain rfl := List.mem_singleton.1 h
        exact ⟨.ofArgument a, by simp [Reference.ofElement], rfl⟩
      | value => cases h
    · split at h
      · obtain ⟨r, hr, hk⟩ := ih h
        exact ⟨r, List.mem_append_right _ hr, hk⟩
      · cases h

/-- A part looks up only keys that it refers to. -/
theorem exists_reference_of_mem_partLookups {p : Part} (h : k ∈ t.partLookups args p) :
    ∃ r ∈ Reference.ofPart p, r.key = k := by
  cases p with
  | text s => cases h
  | argument a =>
    obtain rfl := List.mem_singleton.1 h
    exact ⟨.ofArgument a, by simp [Reference.ofPart], rfl⟩
  | plural b =>
    rcases List.mem_cons.1 h with rfl | h
    · exact ⟨_, .head _, rfl⟩
    · split at h
      · rename_i f hf
        cases f with
        | none => cases h
        | some f =>
          obtain ⟨r, hr, hk⟩ := exists_reference_of_mem_elementsLookups h
          exact ⟨r, .tail _ (List.mem_flatMap.2 ⟨f, PluralBlock.mem_of_select hf, hr⟩), hk⟩
      · cases h

/-- A template looks up only keys that it refers to. -/
theorem exists_reference_of_mem_lookups {ps : Template} (h : k ∈ t.lookups args ps) :
    ∃ r ∈ ps.references, r.key = k := by
  induction ps with
  | nil => cases h
  | cons p ps ih =>
    rw [Template.references, List.flatMap_cons]
    rcases List.mem_append.1 h with h | h
    · obtain ⟨r, hr, hk⟩ := exists_reference_of_mem_partLookups h
      exact ⟨r, List.mem_append_left _ hr, hk⟩
    · split at h
      · obtain ⟨r, hr, hk⟩ := ih h
        exact ⟨r, List.mem_append_right _ hr, hk⟩
      · cases h

/-- **Every key that rendering looks up is the key of a descriptor.** -/
theorem exists_descriptor_of_mem_lookups {ps : Template} (h : k ∈ t.lookups args ps) :
    ∃ d ∈ ps.descriptors, d.key = k := by
  obtain ⟨r, hr, rfl⟩ := exists_reference_of_mem_lookups h
  exact exists_descriptor hr

/-- **The descriptors of a template cover all that rendering reads.** Arguments with the same values
for their keys give the same rendering. If they are all positions and nothing is wrong with their
numbering, only positions below their number are looked up, and of a sequence only so many values
count. -/
theorem render_eq_of_descriptors (t : Renderer) (ps : Template) :
    (∀ args args' : Arguments,
      (∀ d ∈ ps.descriptors, args.lookup d.key = args'.lookup d.key) →
        t.render args ps = t.render args' ps) ∧
    ∀ templateId, Descriptor.diagnostics ps.descriptors templateId = [] →
      (∀ d ∈ ps.descriptors, d.key.isPositional = true) →
        (∀ args, ∀ k ∈ t.lookups args ps, ∃ i, k = .positional i ∧ i < ps.descriptors.length) ∧
        ∀ vs vs' : List Value, vs.take ps.descriptors.length = vs'.take ps.descriptors.length →
          t.render (.sequence vs) ps = t.render (.sequence vs') ps := by
  have hcover (args args' : Arguments)
      (h : ∀ d ∈ ps.descriptors, args.lookup d.key = args'.lookup d.key) :
      t.render args ps = t.render args' ps := by
    refine render_congr fun k hk => ?_
    obtain ⟨d, hd, rfl⟩ := exists_descriptor_of_mem_lookups hk
    exact h d hd
  refine ⟨hcover, fun templateId hdiag hpos => ⟨fun args k hk => ?_, fun vs vs' htake => ?_⟩⟩
  · obtain ⟨d, hd, rfl⟩ := exists_descriptor_of_mem_lookups hk
    exact Descriptor.lt_length_of_diagnostics_eq_nil hdiag hpos d hd
  · refine hcover _ _ fun d hd => ?_
    obtain ⟨i, hi, hlt⟩ := Descriptor.lt_length_of_diagnostics_eq_nil hdiag hpos d hd
    have hget : vs[i]? = vs'[i]? := by
      rw [← List.getElem?_take_of_lt hlt, htake, List.getElem?_take_of_lt hlt]
    rw [hi, Arguments.lookup, Arguments.lookup, Arguments.find?, Arguments.find?, hget]

/-- A block that names its position, and an argument inside one of its forms. -/
def apples : Template := [
  .argument { key := .positional 0 }, .text ": ",
  .plural {
    key := .positional 1
    forms := [⟨.one, [.text "apple for ", .argument { key := .positional 0 }]⟩,
      ⟨.other, [.value, .text " apples"]⟩]
    explicitKey := true }]

/-- Values for the positions 0 and 1, one of them under its numeral, and one value more. -/
def appleValues : Arguments := .mapping (.ofList [
  (.name "0", .text "Ada"), (.index 1, .number (.int 1)), (.name "other", .bool true)])

/-- A renderer without formatters, for which one is singular and all other numbers are not. -/
def singularOne : Renderer :=
  ⟨.function fun n => .ok (if n = .int 1 then "one" else "other"), .empty⟩

/-- A sequence and a mapping with the same values for positions 0 and 1, and two sequences that
differ behind them, give the same renderings. -/
theorem render_eq_of_descriptors_apples :
    (∀ d ∈ apples.descriptors,
      (Arguments.sequence [.text "Ada", .number (.int 1)]).lookup d.key =
        appleValues.lookup d.key) ∧
    singularOne.render (.sequence [.text "Ada", .number (.int 1)]) apples =
      singularOne.render appleValues apples ∧
    Descriptor.diagnostics apples.descriptors "apples" = [] ∧
    (∀ d ∈ apples.descriptors, d.key.isPositional = true) ∧
    (∀ k ∈ singularOne.lookups appleValues apples,
      ∃ i, k = .positional i ∧ i < apples.descriptors.length) ∧
    singularOne.render (.sequence [.text "Ada", .number (.int 1)]) apples =
      singularOne.render (.sequence [.text "Ada", .number (.int 1), .none]) apples ∧
    (singularOne.render appleValues apples).outcome = .ok "Ada: apple for Ada" := by
  have hkeys : apples.descriptors.map (·.key) = [.positional 0, .positional 1] := by cbv
  have hmem (d : Descriptor) (hd : d ∈ apples.descriptors) :
      d.key = .positional 0 ∨ d.key = .positional 1 := by
    simpa [hkeys] using List.mem_map_of_mem (f := (·.key)) hd
  have hlength : apples.descriptors.length = 2 := by simpa using congrArg List.length hkeys
  have hdiag : Descriptor.diagnostics apples.descriptors "apples" = [] := by cbv
  have hsame (d : Descriptor) (hd : d ∈ apples.descriptors) :
      (Arguments.sequence [.text "Ada", .number (.int 1)]).lookup d.key =
        appleValues.lookup d.key := by
    rcases hmem d hd with h | h <;> rw [h] <;> rfl
  have hpos (d : Descriptor) (hd : d ∈ apples.descriptors) : d.key.isPositional = true := by
    rcases hmem d hd with h | h <;> rw [h] <;> rfl
  obtain ⟨hcover, hcount⟩ := render_eq_of_descriptors singularOne apples
  obtain ⟨hbelow, htake⟩ := hcount "apples" hdiag hpos
  exact ⟨hsame, hcover _ _ hsame, hdiag, hpos, hbelow appleValues,
    htake _ _ (by rw [hlength]; rfl), by decide +kernel⟩

end Renderer

end Phrasebook
