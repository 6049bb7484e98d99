/-
# Maps in order of insertion

A map is a list of entries with distinct keys. A new key goes to the end; a key that
is there already keeps its place and gets the new value.
-/

namespace Phrasebook

/-- A finite map whose entries stand in the order in which their keys were first inserted. -/
@[ext]
structure OrderedMap (α β : Type) where
  entries : List (α × β)
  nodup : (entries.map Prod.fst).Nodup
  deriving DecidableEq

namespace OrderedMap

variable {α β : Type}

/-- The map without entries. -/
def empty : OrderedMap α β := ⟨[], List.nodup_nil⟩

instance : Inhabited (OrderedMap α β) := ⟨empty⟩

/-- The keys in order. -/
def keys (m : OrderedMap α β) : List α := m.entries.map Prod.fst

/-- The values in the order of their keys. -/
def values (m : OrderedMap α β) : List β := m.entries.map Prod.snd

/-- The number of entries. -/
def size (m : OrderedMap α β) : Nat := m.entries.length

/-- A map is as large as the list of its keys. -/
theorem size_eq_length_keys (m : OrderedMap α β) : m.size = m.keys.length := by
  simp [size, keys]

/-- The same keys with other values. -/
def mapValues {γ : Type} (f : β → γ) (m : OrderedMap α β) : OrderedMap α γ :=
  ⟨m.entries.map fun e => (e.1, f e.2), by
    have h : (m.entries.map fun e => (e.1, f e.2)).map Prod.fst = m.entries.map Prod.fst := by
      simp [List.map_map, Function.comp_def]
    rw [h]
    exact m.nodup⟩

variable [DecidableEq α]

/-- The first value for a key in a list of entries. -/
def lookup (k : α) : List (α × β) → Option β
  | [] => none
  | e :: es => if e.1 = k then some e.2 else lookup k es

/-- The value of a key. -/
def get? (m : OrderedMap α β) (k : α) : Option β := lookup k m.entries

/-- Whether a key is there. -/
def contains (m : OrderedMap α β) (k : α) : Bool := (m.get? k).isSome

/-- The entries with the value of a key replaced, or with a new entry at the end. -/
def insertEntry (k : α) (v : β) : List (α × β) → List (α × β)
  | [] => [(k, v)]
  | e :: es => if e.1 = k then (e.1, v) :: es else e :: insertEntry k v es

/-- Inserting brings in no other key. -/
theorem mem_keys_insertEntry {k : α} {v : β} {es : List (α × β)} {x : α}
    (h : x ∈ (insertEntry k v es).map Prod.fst) : x = k ∨ x ∈ es.map Prod.fst := by
  induction es with
  | nil => exact Or.inl (by simpa [insertEntry] using h)
  | cons e es ih =>
    unfold insertEntry at h
    split at h
    · exact Or.inr h
    · rcases List.mem_cons.1 h with rfl | h
      · exact Or.inr (List.mem_cons_self ..)
      · exact (ih h).imp_right (List.mem_cons_of_mem _)

/-- Inserting leaves no key twice. -/
theorem nodup_insertEntry {k : α} {v : β} {es : List (α × β)} (h : (es.map Prod.fst).Nodup) :
    ((insertEntry k v es).map Prod.fst).Nodup := by
  induction es with
  | nil => simp [insertEntry]
  | cons e es ih =>
    obtain ⟨hmem, hnd⟩ := List.nodup_cons.1 h
    unfold insertEntry
    split
    · exact h
    · rename_i hne
      refine List.nodup_cons.2 ⟨fun hx => ?_, ih hnd⟩
      rcases mem_keys_insertEntry hx with hk | hk
      · exact hne hk
      · exact hmem hk

/-- The map with a value for a key. -/
def insert (m : OrderedMap α β) (k : α) (v : β) : OrderedMap α β :=
  ⟨insertEntry k v m.entries, nodup_insertEntry m.nodup⟩

/-- The map that results from inserting the pairs one after the other. -/
def ofList (ps : List (α × β)) : OrderedMap α β := ps.foldl (fun m p => m.insert p.1 p.2) empty

/-- An inserted entry answers for its own key, and for other keys nothing changes. -/
theorem lookup_insertEntry (k x : α) (v : β) (es : List (α × β)) :
    lookup x (insertEntry k v es) = if k = x then some v else lookup x es := by
  induction es with
  | nil => simp [insertEntry, lookup]
  | cons e es ih =>
    unfold insertEntry
    split
    · rename_i he
      by_cases hx : k = x
      · simp [lookup, he, hx]
      · simp [lookup, he, hx]
    · rename_i he
      by_cases hx : k = x
      · have hne : e.1 ≠ x := hx ▸ he
        rw [lookup, if_neg hne, ih, if_pos hx, if_pos hx]
      · rw [lookup, lookup, ih, if_neg hx, if_neg hx]

/-- **The new key has the new value, and all others are as before.** -/
theorem get?_insert (m : OrderedMap α β) (k x : α) (v : β) :
    (m.insert k v).get? x = if k = x then some v else m.get? x :=
  lookup_insertEntry k x v m.entries

/-- Nothing is found exactly for a key that no entry has. -/
theorem lookup_eq_none_iff {k : α} {es : List (α × β)} :
    lookup k es = none ↔ k ∉ es.map Prod.fst := by
  induction es with
  | nil => simp [lookup]
  | cons e es ih =>
    by_cases he : e.1 = k
    · simp [lookup, he]
    · simp only [lookup, he, if_false, ih, List.map_cons, List.mem_cons, not_or]
      exact ⟨fun h => ⟨fun hk => he hk.symm, h⟩, And.right⟩

/-- A map has no value for exactly the keys that it does not list. -/
theorem get?_eq_none_iff {m : OrderedMap α β} {k : α} : m.get? k = none ↔ k ∉ m.keys :=
  lookup_eq_none_iff

/-- A map contains exactly the keys that it lists. -/
theorem contains_iff_mem_keys {m : OrderedMap α β} {k : α} : m.contains k = true ↔ k ∈ m.keys := by
  unfold contains
  rw [Option.isSome_iff_ne_none, Ne, get?_eq_none_iff, Classical.not_not]

/-- A known key keeps its place, and a new one comes last. -/
theorem keys_insertEntry (k : α) (v : β) (es : List (α × β)) :
    (insertEntry k v es).map Prod.fst =
      if k ∈ es.map Prod.fst then es.map Prod.fst else es.map Prod.fst ++ [k] := by
  induction es with
  | nil => simp [insertEntry]
  | cons e es ih =>
    unfold insertEntry
    split
    · rename_i he
      simp [he]
    · rename_i he
      have hk : k ≠ e.1 := fun h => he h.symm
      simp only [List.map_cons, ih, List.mem_cons, hk, false_or]
      split <;> simp

/-- **A new key goes to the end, a known one stays where it is.** -/
theorem keys_insert (m : OrderedMap α β) (k : α) (v : β) :
    (m.insert k v).keys = if k ∈ m.keys then m.keys else m.keys ++ [k] :=
  keys_insertEntry k v m.entries

/-- After an insertion the map contains the new key and those from before. -/
theorem contains_insert (m : OrderedMap α β) (k x : α) (v : β) :
    (m.insert k v).contains x = (decide (k = x) || m.contains x) := by
  rw [contains, get?_insert]
  by_cases hx : k = x <;> simp [hx, contains]

/-- A map grows by one entry exactly if the key is new. -/
theorem size_insert (m : OrderedMap α β) (k : α) (v : β) :
    (m.insert k v).size = if k ∈ m.keys then m.size else m.size + 1 := by
  rw [size_eq_length_keys, keys_insert, size_eq_length_keys]
  split <;> simp

end OrderedMap

end Phrasebook
