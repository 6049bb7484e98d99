/-
# What a map has after insertions

A map that is filled by inserting pairs one after the other has the keys of the pairs in the order
in which they are first met (`keys_ofList`), and under each key the last value that was inserted for
it (`get?_ofList`). Pairs with distinct keys are its entries as they are (`entries_ofList`). Pairs
that are inserted into any map go behind what is there, and where their key is there they replace
its value (`keys_insertAll`, `get?_insertAll`).
-/

import Phrasebook.Proofs.Descriptor

namespace Phrasebook
namespace OrderedMap

variable {α β : Type} [DecidableEq α] {k : α} {v : β} {e : α × β} {es ps : List (α × β)}

/-- The map with pairs inserted one after the other. -/
def insertAll (m : OrderedMap α β) (ps : List (α × β)) : OrderedMap α β :=
  ps.foldl (fun m p => m.insert p.1 p.2) m

/-- Pairs in a row are inserted one list after the other. -/
theorem insertAll_append (m : OrderedMap α β) (ps qs : List (α × β)) :
    m.insertAll (ps ++ qs) = (m.insertAll ps).insertAll qs :=
  List.foldl_append

/-- Inserting into the empty map makes the map of the pairs. -/
theorem insertAll_empty (ps : List (α × β)) : empty.insertAll ps = ofList ps := rfl

/-- A map is made of pairs one after the other. -/
theorem ofList_concat (ps : List (α × β)) (p : α × β) :
    ofList (ps ++ [p]) = (ofList ps).insert p.1 p.2 :=
  insertAll_append empty ps [p]

/-- **Keys stand in the order in which they are first met.** -/
theorem keys_ofList (ps : List (α × β)) : (ofList ps).keys = (ps.map Prod.fst).eraseDups := by
  induction ps using List.reverseRecOn with
  | nil => rfl
  | append_singleton ps p ih =>
    rw [ofList_concat, keys_insert, List.map_append, List.map_singleton, eraseDups_concat]
    simp only [ih, List.mem_eraseDups]

/-- **A key has the last value that was inserted for it.** -/
theorem get?_ofList (ps : List (α × β)) (k : α) : (ofList ps).get? k = lookup k ps.reverse := by
  induction ps using List.reverseRecOn with
  | nil => rfl
  | append_singleton ps p ih =>
    rw [ofList_concat, get?_insert, ih, List.reverse_append, List.reverse_singleton,
      List.singleton_append, lookup]

/-- An entry with a new key comes last. -/
theorem insertEntry_of_not_mem (h : k ∉ es.map Prod.fst) : insertEntry k v es = es ++ [(k, v)] := by
  induction es with
  | nil => rfl
  | cons e es ih =>
    obtain ⟨hne, hk⟩ := not_or.1 (mt List.mem_cons.2 h)
    rw [insertEntry, if_neg (Ne.symm hne), ih hk, List.cons_append]

/-- **Pairs with distinct keys are the entries.** -/
theorem entries_ofList (h : (ps.map Prod.fst).Nodup) : (ofList ps).entries = ps := by
  induction ps using List.reverseRecOn with
  | nil => rfl
  | append_singleton ps p ih =>
    rw [List.map_append, List.nodup_append] at h
    obtain ⟨hps, -, hdisjoint⟩ := h
    have hentries := ih hps
    have hnew : p.1 ∉ (ofList ps).entries.map Prod.fst := by
      rw [hentries]
      exact fun hp => hdisjoint p.1 hp p.1 (List.mem_singleton_self _) rfl
    rw [ofList_concat]
    exact (insertEntry_of_not_mem hnew).trans (by rw [hentries])

/-- Nothing but the pairs is in the map. -/
theorem mem_of_mem_entries_ofList (h : e ∈ (ofList ps).entries) : e ∈ ps := by
  induction ps using List.reverseRecOn with
  | nil => cases h
  | append_singleton ps p ih =>
    rw [ofList_concat] at h
    rcases mem_of_mem_insertEntry h with rfl | h
    · exact List.mem_append_right _ (List.mem_singleton_self _)
    · exact List.mem_append_left _ (ih h)

/-- An entry is what is found under its key. -/
theorem lookup_of_mem (hes : (es.map Prod.fst).Nodup) (h : e ∈ es) : lookup e.1 es = some e.2 := by
  induction es with
  | nil => cases h
  | cons a es ih =>
    obtain ⟨hnew, hes⟩ := List.nodup_cons.1 hes
    rcases List.mem_cons.1 h with rfl | h
    · rw [lookup, if_pos rfl]
    · have hne : a.1 ≠ e.1 := fun ha => hnew (ha ▸ List.mem_map_of_mem h)
      rw [lookup, if_neg hne, ih hes h]

/-- **After insertions a key has the last value that was inserted for it,** and otherwise the value
that it had. -/
theorem get?_insertAll (m : OrderedMap α β) (ps : List (α × β)) (k : α) :
    (m.insertAll ps).get? k = (lookup k ps.reverse).or (m.get? k) := by
  induction ps using List.reverseRecOn with
  | nil => rfl
  | append_singleton ps p ih =>
    rw [insertAll_append, insertAll, List.foldl_cons, List.foldl_nil, get?_insert, ih,
      List.reverse_append, List.reverse_singleton, List.singleton_append, lookup]
    split <;> rfl

/-- Without duplicates there is nothing to erase. -/
theorem eraseDups_of_nodup {l : List α} (h : l.Nodup) : l.eraseDups = l := by
  induction l using List.reverseRecOn with
  | nil => rfl
  | append_singleton l a ih =>
    obtain ⟨hl, -, hdisjoint⟩ := List.nodup_append.1 h
    rw [eraseDups_concat, if_neg fun ha => hdisjoint a ha a (List.mem_singleton_self a) rfl, ih hl]

/-- New keys come behind those that were there, in the order in which they are first met. -/
theorem keys_insertAll (m : OrderedMap α β) (ps : List (α × β)) :
    (m.insertAll ps).keys = (m.keys ++ ps.map Prod.fst).eraseDups := by
  induction ps using List.reverseRecOn with
  | nil =>
    rw [List.map_nil, List.append_nil]
    exact (eraseDups_of_nodup m.nodup).symm
  | append_singleton ps p ih =>
    rw [insertAll_append, insertAll, List.foldl_cons, List.foldl_nil, keys_insert, List.map_append,
      List.map_singleton, ← List.append_assoc, eraseDups_concat]
    simp only [ih, List.mem_eraseDups]

/-- Nothing is in the map after insertions but what was there and the pairs. -/
theorem mem_of_mem_insertAll {m : OrderedMap α β} (h : e ∈ (m.insertAll ps).entries) :
    e ∈ m.entries ∨ e ∈ ps := by
  induction ps generalizing m with
  | nil => exact .inl h
  | cons p ps ih =>
    rcases ih h with h | h
    · rcases mem_of_mem_insertEntry h with rfl | h
      · exact .inr (.head _)
      · exact .inl h
    · exact .inr (.tail _ h)

/-- A key that is inserted once has the value that was inserted. -/
theorem get?_insertAll_of_mem (m : OrderedMap α β) (h : (ps.map Prod.fst).Nodup) (he : e ∈ ps) :
    (m.insertAll ps).get? e.1 = some e.2 := by
  have hreverse : (ps.reverse.map Prod.fst).Nodup := by
    rw [List.map_reverse]
    exact List.nodup_reverse.2 h
  rw [get?_insertAll, lookup_of_mem hreverse (List.mem_reverse.2 he), Option.some_or]

/-- Keys that are not inserted keep their values. -/
theorem get?_insertAll_of_not_mem (m : OrderedMap α β) (h : k ∉ ps.map Prod.fst) :
    (m.insertAll ps).get? k = m.get? k := by
  have hnone : lookup k ps.reverse = none := by
    rwa [lookup_eq_none_iff, List.map_reverse, List.mem_reverse]
  rw [get?_insertAll, hnone, Option.none_or]

/-- The map without a key. -/
def erase (m : OrderedMap α β) (k : α) : OrderedMap α β :=
  ⟨m.entries.filter (·.1 ≠ k), m.nodup.sublist (List.filter_sublist.map Prod.fst)⟩

/-- Without the entries of a key nothing is found for it, and for other keys nothing changes. -/
theorem lookup_filter (k x : α) (es : List (α × β)) :
    lookup x (es.filter (·.1 ≠ k)) = if k = x then none else lookup x es := by
  induction es with
  | nil => simp [lookup]
  | cons e es ih =>
    by_cases he : e.1 = k
    · rw [List.filter_cons_of_neg (by simpa using he), ih, lookup, he]
      split <;> rfl
    · rw [List.filter_cons_of_pos (by simpa using he), lookup, ih, lookup]
      split
      · rename_i hx
        rw [if_neg fun hk => he (hx.trans hk.symm)]
      · rfl

/-- **Nothing is found under the key, and all others are as before.** -/
theorem get?_erase (m : OrderedMap α β) (k x : α) :
    (m.erase k).get? x = if k = x then none else m.get? x :=
  lookup_filter k x m.entries

end OrderedMap
end Phrasebook
