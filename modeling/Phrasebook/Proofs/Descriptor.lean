/-
# The descriptors of a template

The keys of the descriptors (`_DescriptorTable`) are the keys of the references, each of them once
(`Template.perm_keys_descriptors`), so that every reference has a descriptor with its key
(`exists_descriptor`).
-/

import Phrasebook.Introspection
import Mathlib

namespace Phrasebook

namespace OrderedMap

variable {α β : Type} [DecidableEq α] {k : α} {v : β} {es : List (α × β)} {e : α × β}

/-- An entry of the new table is the inserted one or was there. -/
theorem mem_of_mem_insertEntry (h : e ∈ insertEntry k v es) : e = (k, v) ∨ e ∈ es := by
  induction es with
  | nil => exact .inl (by simpa [insertEntry] using h)
  | cons a es ih =>
    unfold insertEntry at h
    split at h
    · rename_i ha
      rcases List.mem_cons.1 h with rfl | h
      · exact .inl (by rw [ha])
      · exact .inr (.tail _ h)
    · rcases List.mem_cons.1 h with rfl | h
      · exact .inr (.head _)
      · exact (ih h).imp_right (.tail _)

/-- What is found is an entry. -/
theorem mem_of_lookup (h : lookup k es = some v) : (k, v) ∈ es := by
  induction es with
  | nil => cases h
  | cons a es ih =>
    unfold lookup at h
    split at h
    · rename_i ha
      obtain rfl := Option.some.inj h
      exact ha ▸ .head _
    · exact .tail _ (ih h)

end OrderedMap

/-- A new element goes to the end, a known one is left out. -/
theorem eraseDups_concat {α : Type} [DecidableEq α] (l : List α) (a : α) :
    (l ++ [a]).eraseDups = if a ∈ l then l.eraseDups else l.eraseDups ++ [a] := by
  rw [List.eraseDups_append]
  by_cases h : a ∈ l <;> simp [List.removeAll, List.eraseDups_cons, h]

namespace Descriptor

variable {known : OrderedMap ArgumentKey Descriptor}

/-- Whether every descriptor stands under its own key. -/
def Keyed (known : OrderedMap ArgumentKey Descriptor) : Prop :=
  ∀ e ∈ known.entries, e.2.key = e.1

/-- Taking in one more reference keeps the descriptors under their keys. -/
theorem Keyed.collect (h : Keyed known) (r : Reference) : Keyed (collect known r) := by
  intro e he
  rcases OrderedMap.mem_of_mem_insertEntry he with rfl | he
  · cases hd : known.get? r.key with
    | none => rfl
    | some d => exact h (r.key, d) (OrderedMap.mem_of_lookup hd)
  · exact h e he

/-- References are collected one after the other. -/
theorem ofReferences_concat (rs : List Reference) (r : Reference) :
    ofReferences (rs ++ [r]) = collect (ofReferences rs) r := by
  simp [ofReferences]

/-- In the table of references every descriptor stands under its own key. -/
theorem keyed_ofReferences (rs : List Reference) : Keyed (ofReferences rs) := by
  induction rs using List.reverseRecOn with
  | nil => exact fun e he => by cases he
  | append_singleton rs r ih => exact ofReferences_concat rs r ▸ ih.collect r

/-- The keys of the descriptors are the keys of the table. -/
theorem map_key_values (h : Keyed known) : known.values.map (·.key) = known.keys := by
  rw [OrderedMap.values, List.map_map]
  exact List.map_congr_left h

/-- **All references are gathered, and nothing else:** the keys are those of the references, in the
order in which they are first met. -/
theorem keys_ofReferences (rs : List Reference) :
    (ofReferences rs).keys = (rs.map (·.key)).eraseDups := by
  induction rs using List.reverseRecOn with
  | nil => rfl
  | append_singleton rs r ih =>
    rw [ofReferences_concat, collect, OrderedMap.keys_insert, List.map_append, List.map_singleton,
      eraseDups_concat]
    simp only [ih, List.mem_eraseDups]

/-- The descriptors stand in the table in the order in which their keys are first met. -/
theorem map_key_ofReferences (rs : List Reference) :
    (ofReferences rs).values.map (·.key) = (rs.map (·.key)).eraseDups := by
  rw [map_key_values (keyed_ofReferences rs), keys_ofReferences]

/-- Arranging descriptors loses none and brings in none. -/
theorem arranged_perm (ds : List Descriptor) : (arranged ds).Perm ds :=
  ((List.mergeSort_perm _ _).append_right _).trans (List.filter_append_perm _ _)

end Descriptor

/-- **The keys of the descriptors are the keys of the references,** each of them once. -/
theorem Template.perm_keys_descriptors (ps : Template) :
    (ps.descriptors.map (·.key)).Perm (ps.references.map (·.key)).eraseDups := by
  rw [← Descriptor.map_key_ofReferences]
  exact (Descriptor.arranged_perm _).map _

/-- No key has two descriptors. -/
theorem Template.nodup_keys_descriptors (ps : Template) :
    (ps.descriptors.map (·.key)).Nodup :=
  ps.perm_keys_descriptors.nodup_iff.2
    (Descriptor.keys_ofReferences ps.references ▸ OrderedMap.nodup _)

/-- **Every reference of a template has a descriptor with its key.** -/
theorem exists_descriptor {ps : Template} {r : Reference} (h : r ∈ ps.references) :
    ∃ d ∈ ps.descriptors, d.key = r.key := by
  have hk : r.key ∈ (ps.references.map (·.key)).eraseDups :=
    List.mem_eraseDups.2 (List.mem_map_of_mem h)
  exact List.mem_map.1 (ps.perm_keys_descriptors.mem_iff.2 hk)

end Phrasebook
