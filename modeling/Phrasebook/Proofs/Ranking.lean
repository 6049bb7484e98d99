/-
# The ranks of arguments

`extract_arguments` fills a table of descriptors in the order in which a template refers to its keys
(`Template.keys`). A descriptor gets its rank when its key is first met, and keeps it when more is
said about the same key (`Descriptor.ranked_ofReferences`). So the ranks tell which key is met
first, although the descriptors are listed in another order: positions by their numbers and then
names by their ranks (`Template.descriptors_ranking`).
-/

import Phrasebook.Proofs.Numbering
import Phrasebook.Proofs.OrderedMap

namespace Phrasebook

namespace OrderedMap

variable {α β γ : Type} [DecidableEq α] {k : α} {v w : β} {es : List (α × β)}

/-- What a new value has in common with the old one stays as it is. -/
theorem map_insertEntry_of_lookup (g : β → γ) (h : lookup k es = some w) (hg : g v = g w) :
    (insertEntry k v es).map (fun e => g e.2) = es.map fun e => g e.2 := by
  induction es with
  | nil => cases h
  | cons e es ih =>
    rw [lookup] at h
    rw [insertEntry]
    split at h
    · rename_i he
      obtain rfl := Option.some.inj h
      rw [if_pos he, List.map_cons, List.map_cons, hg]
    · rename_i he
      rw [if_neg he, List.map_cons, List.map_cons, ih h]

end OrderedMap

namespace Descriptor

variable {known : OrderedMap ArgumentKey Descriptor}

/-- Whether the ranks of descriptors are their places in the table. -/
def Ranked (known : OrderedMap ArgumentKey Descriptor) : Prop :=
  known.values.map (·.order) = List.range known.size

/-- Taking in one more reference keeps all ranks, and a new descriptor gets the next one. -/
theorem Ranked.collect (h : Ranked known) (r : Reference) : Ranked (collect known r) := by
  have hvalues (m : OrderedMap ArgumentKey Descriptor) :
      m.values.map (·.order) = m.entries.map fun e => e.2.order := by
    rw [OrderedMap.values, List.map_map]
    rfl
  rw [Ranked, hvalues] at h
  rw [Ranked, hvalues, Descriptor.collect, OrderedMap.size_insert]
  cases hd : known.get? r.key with
  | some d =>
    have hmem : r.key ∈ known.keys := by
      rw [← OrderedMap.contains_iff_mem_keys, OrderedMap.contains, hd, Option.isSome_some]
    have hkept : (d.absorb r).order = d.order := rfl
    rw [if_pos hmem, ← h]
    exact OrderedMap.map_insertEntry_of_lookup (·.order) hd hkept
  | none =>
    have hnew : r.key ∉ known.keys := OrderedMap.get?_eq_none_iff.1 hd
    rw [if_neg hnew, List.range_succ, ← h]
    simp only [OrderedMap.insert, OrderedMap.insertEntry_of_not_mem hnew, List.map_append,
      List.map_singleton, ofReference]

end Descriptor

namespace Template

variable {ps : Template} {d : Descriptor} {k : ArgumentKey}

/-- There are descriptors for the keys that the template refers to. -/
theorem mem_keys_descriptors_iff : k ∈ ps.descriptors.map (·.key) ↔ ps.RefersTo k := by
  rw [ps.perm_keys_descriptors.mem_iff, List.mem_eraseDups, map_key_references, mem_keys_iff]

end Template
end Phrasebook
