/-
# What a dictionary says

If all source texts of a dictionary can be read (`Reads`), its validation (`validate_templates`) has
the descriptors and the diagnostics of its templates in its order
(`Validation.ofDictionary_of_reads`). As a diagnostic names the template that it is about, the
warnings about an identifier are the diagnostics on its template
(`Validation.filter_diagnosticsOn`).
-/

import Phrasebook.Proofs.OrderedMap
import Phrasebook.Proofs.Outcome
import Phrasebook.Validation

namespace Phrasebook

variable {sources sources' : List (String × String)}
  {templates templates' : List (String × Template)}
  {t : String × Template} {id : String}

/-- Whether source texts read as templates, each under the identifier of its source text. -/
def Reads (sources : List (String × String)) (templates : List (String × Template)) : Prop :=
  List.Forall₂ (fun s t => t.1 = s.1 ∧ Template.parse s.2 = .ok t.2) sources templates

namespace Reads

/-- Dictionaries in a row read as their templates in a row. -/
theorem append (h : Reads sources templates) (h' : Reads sources' templates') :
    Reads (sources ++ sources') (templates ++ templates') :=
  List.rel_append h h'

/-- Templates have the identifiers of their source texts. -/
theorem map_fst (h : Reads sources templates) : templates.map Prod.fst = sources.map Prod.fst := by
  induction h with
  | nil => rfl
  | cons hs _ ih => rw [List.map_cons, List.map_cons, hs.1, ih]

/-- What source texts read as is told by them. -/
theorem unique (h : Reads sources templates) (h' : Reads sources templates') :
    templates = templates' := by
  induction h generalizing templates' with
  | nil =>
    rcases h' with _ | _
    rfl
  | cons hs _ ih =>
    rcases h' with _ | ⟨hs', hrest⟩
    have hparts := Except.ok.inj (hs.2.symm.trans hs'.2)
    rw [Prod.ext (hs.1.trans hs'.1.symm) hparts, ih hrest]

/-- Every template is read from a source text with its identifier. -/
theorem source_of_mem (h : Reads sources templates) (ht : t ∈ templates) :
    ∃ s ∈ sources, t.1 = s.1 ∧ Template.parse s.2 = .ok t.2 :=
  exists_mem_of_forall₂ h ht

/-- A template is read from the source text that is found under its identifier. -/
theorem get? {m : OrderedMap String String} (h : Reads m.entries templates) (ht : t ∈ templates) :
    ∃ s, m.get? t.1 = some s ∧ Template.parse s = .ok t.2 := by
  obtain ⟨s, hs, hid, hread⟩ := h.source_of_mem ht
  exact ⟨s.2, hid ▸ OrderedMap.lookup_of_mem m.nodup hs, hread⟩

/-- Every source text reads as a template. -/
theorem template_of_mem (h : Reads sources templates) {s : String × String} (hs : s ∈ sources) :
    ∃ parts, Template.parse s.2 = .ok parts := by
  obtain ⟨t, -, -, hread⟩ := exists_mem_of_forall₂ (List.Forall₂.flip h) hs
  exact ⟨t.2, hread⟩

end Reads

/-- If each source text can be read, all of them can. -/
theorem exists_reads (h : ∀ s ∈ sources, ∃ parts, Template.parse s.2 = .ok parts) :
    ∃ templates, Reads sources templates := by
  induction sources with
  | nil => exact ⟨[], .nil⟩
  | cons s sources ih =>
    obtain ⟨⟨parts, hs⟩, hrest⟩ := List.forall_mem_cons.1 h
    obtain ⟨templates, htemplates⟩ := ih hrest
    exact ⟨(s.1, parts) :: templates, .cons ⟨rfl, hs⟩ htemplates⟩

/-- The introspection of a source text is that of its template. -/
theorem ofSource_of_parse {source : String} {parts : Template}
    (h : Template.parse source = .ok parts) :
    Introspection.ofSource id source = .ok (.ofParts id parts) := by
  rw [Introspection.ofSource, h, map_ok]

/-- The diagnostics on one template. -/
def diagnosticsOn (t : String × Template) : List Diagnostic :=
  Descriptor.diagnostics t.2.descriptors t.1

/-- **A diagnostic names the template that it is about.** -/
theorem templateId_of_mem_diagnosticsOn {d : Diagnostic} (h : d ∈ diagnosticsOn t) :
    d.templateId = some t.1 := by
  unfold diagnosticsOn Descriptor.diagnostics at h
  simp only at h
  split at h
  · simp only [List.mem_cons, List.not_mem_nil, or_false] at h
    rcases h with rfl | rfl <;> rfl
  · split at h
    · simp only [List.mem_cons, List.not_mem_nil, or_false] at h
      rcases h with rfl | rfl <;> rfl
    · cases h

namespace Validation

/-- All introspections are taken in, in order. -/
theorem ofIntrospections_eq (is : List Introspection) :
    ofIntrospections is =
      ⟨.ofList (is.map fun i => (i.templateId, i.arguments)), is.flatMap (·.diagnostics)⟩ := by
  induction is using List.reverseRecOn with
  | nil => rfl
  | append_singleton is i ih =>
    have hlast : ofIntrospections (is ++ [i]) = (ofIntrospections is).add i := by
      simp [ofIntrospections]
    rw [hlast, ih, List.map_append, List.map_singleton, List.flatMap_append, List.flatMap_singleton,
      OrderedMap.ofList_concat]
    rfl

/-- Introspecting a dictionary introspects all of its templates in their order. -/
theorem introspectAll_of_reads (h : Reads sources templates) :
    introspectAll sources = .ok (templates.map fun t => .ofParts t.1 t.2) := by
  induction h with
  | nil => rfl
  | @cons s t _ _ hs _ ih =>
    rw [introspectAll, ofSource_of_parse hs.2, ih, ← hs.1]
    rfl

/-- **A dictionary that can be read has the descriptors and the diagnostics of its templates,** in
its order. -/
theorem ofDictionary_of_reads {dictionary : OrderedMap String String}
    (h : Reads dictionary.entries templates) :
    ∃ v, ofDictionary dictionary = .ok v ∧
      v.arguments.entries = templates.map (fun t => (t.1, t.2.descriptors)) ∧
      v.warnings = templates.flatMap diagnosticsOn := by
  refine ⟨_, by rw [ofDictionary, introspectAll_of_reads h, map_ok], ?_, ?_⟩
  · rw [ofIntrospections_eq, List.map_map]
    refine OrderedMap.entries_ofList ?_
    have hkeys : templates.map Prod.fst = dictionary.keys := h.map_fst
    rw [List.map_map]
    exact hkeys ▸ dictionary.nodup
  · rw [ofIntrospections_eq, List.flatMap_map]
    rfl

/-- The warnings about an identifier are the diagnostics on its template. -/
theorem filter_diagnosticsOn (h : (templates.map Prod.fst).Nodup) (ht : t ∈ templates) :
    (templates.flatMap diagnosticsOn).filter (·.templateId == some t.1) = diagnosticsOn t := by
  induction templates with
  | nil => cases ht
  | cons u templates ih =>
    obtain ⟨hnew, hrest⟩ := List.nodup_cons.1 h
    rw [List.flatMap_cons, List.filter_append]
    rcases List.mem_cons.1 ht with rfl | ht
    · have hown : (diagnosticsOn t).filter (·.templateId == some t.1) = diagnosticsOn t :=
        List.filter_eq_self.2 fun d hd => beq_iff_eq.2 (templateId_of_mem_diagnosticsOn hd)
      have hothers : (templates.flatMap diagnosticsOn).filter (·.templateId == some t.1) = [] := by
        refine List.filter_eq_nil_iff.2 fun d hd heq => hnew ?_
        obtain ⟨u, hu, hd⟩ := List.mem_flatMap.1 hd
        rw [beq_iff_eq, templateId_of_mem_diagnosticsOn hd] at heq
        exact Option.some.inj heq ▸ List.mem_map_of_mem hu
      rw [hown, hothers, List.append_nil]
    · have hother : (diagnosticsOn u).filter (·.templateId == some t.1) = [] := by
        refine List.filter_eq_nil_iff.2 fun d hd heq => hnew ?_
        rw [beq_iff_eq, templateId_of_mem_diagnosticsOn hd] at heq
        exact Option.some.inj heq ▸ List.mem_map_of_mem ht
      rw [hother, List.nil_append, ih hrest ht]

/-- There are no warnings about an identifier without a template. -/
theorem filter_diagnosticsOn_eq_nil (h : id ∉ templates.map Prod.fst) :
    (templates.flatMap diagnosticsOn).filter (·.templateId == some id) = [] := by
  refine List.filter_eq_nil_iff.2 fun d hd heq => h ?_
  obtain ⟨t, ht, hd⟩ := List.mem_flatMap.1 hd
  rw [beq_iff_eq, templateId_of_mem_diagnosticsOn hd] at heq
  exact Option.some.inj heq ▸ List.mem_map_of_mem ht

end Validation

end Phrasebook
