/-
# Arguments and their names

An introspection is asked for an argument by a text or by an integer (`TemplateIntrospection.get`),
and answers the first descriptor whose key is written like it. Positions and names go through the
same texts here, so the answer is the descriptor that is meant only if no two keys are written
alike. A key that an application builds can be written like another one, but a name that is read is
an identifier, and identifiers are no numerals (`ArgumentKey.IsWritable.text_eq_iff`).

So a key that the template refers to is found by its text, and no other text is found
(`Introspection.get?_text`, `Introspection.get?_eq_none_iff`). This is so for keys that blocks take
from the arguments around them, too, and for positions that are written with leading zeros.
-/

import Phrasebook.Introspection
import Phrasebook.Proofs.ArgumentSources

namespace Phrasebook

variable {k l : ArgumentKey} {d e : Descriptor} {ds : List Descriptor} {s : String}

namespace ArgumentKey

/-- A name is written as it is. -/
theorem text_named (name : String) : (named name).text = name := String.ofList_toList

/-- **Keys that can be written are written differently.** -/
theorem IsWritable.text_eq_iff (hk : k.IsWritable) (hl : l.IsWritable) :
    k.text = l.text ↔ k = l := by
  refine ⟨fun h => ?_, congrArg text⟩
  cases k with
  | positional i =>
    cases l with
    | positional j => exact congrArg positional (text_positional_injective h)
    | named name => exact absurd (h.trans (text_named name)) (text_positional_ne hl i)
  | named name =>
    cases l with
    | positional j => exact absurd (h.symm.trans (text_named name)) (text_positional_ne hk j)
    | named name' => rw [← text_named name, h, text_named]

end ArgumentKey

namespace Descriptor

/-- Where names are distinct, the first descriptor with a name is the only one. -/
theorem find?_name_eq_some_iff (h : (ds.map name).Nodup) :
    ds.find? (·.name == s) = some d ↔ d ∈ ds ∧ d.name = s := by
  constructor
  · intro hd
    exact ⟨List.mem_of_find?_eq_some hd, by simpa using List.find?_some hd⟩
  · rintro ⟨hd, rfl⟩
    obtain ⟨e, he⟩ : ∃ e, ds.find? (·.name == d.name) = some e :=
      Option.isSome_iff_exists.1 (List.find?_isSome.2 ⟨d, hd, beq_self_eq_true _⟩)
    have hname : e.name = d.name := by simpa using List.find?_some he
    rw [he, List.inj_on_of_nodup_map h (List.mem_of_find?_eq_some he) hd hname]

/-- **Descriptors are listed with positions first.** -/
theorem arranged_eq_append (ds : List Descriptor) :
    arranged ds = (arranged ds).filter (·.key.isPositional) ++
      (arranged ds).filter (!·.key.isPositional) := by
  have hfront : ∀ d ∈ (ds.filter (·.key.isPositional)).mergeSort positionLe,
      d.key.isPositional = true :=
    fun d hd => (List.mem_filter.1 (List.mem_mergeSort.1 hd)).2
  have hback : ∀ d ∈ ds.filter (!·.key.isPositional), d.key.isPositional = false :=
    fun d hd => by simpa using (List.mem_filter.1 hd).2
  have hnone : (ds.filter (!·.key.isPositional)).filter (·.key.isPositional) = [] :=
    List.filter_eq_nil_iff.2 fun d hd => by simp [hback d hd]
  have hpositional : (arranged ds).filter (·.key.isPositional) =
      (ds.filter (·.key.isPositional)).mergeSort positionLe := by
    rw [arranged, List.filter_append, List.filter_eq_self.2 hfront, hnone, List.append_nil]
  have hkeyed : (arranged ds).filter (!·.key.isPositional) =
      ds.filter (!·.key.isPositional) := by
    rw [arranged, List.filter_append, List.filter_eq_nil_iff.2 fun d hd => by simp [hfront d hd],
      List.filter_eq_self.2 fun d hd => by simp [hback d hd], List.nil_append]
  rw [hpositional, hkeyed, arranged]

end Descriptor

namespace Introspection

variable {templateId source : String} {i : Introspection}

/-- A source text has an introspection exactly if it reads as a template, and then it is that of the
template. -/
theorem ofSource_eq_ok_iff : ofSource templateId source = .ok i ↔
    ∃ ps, Template.parse source = .ok ps ∧ ofParts templateId ps = i :=
  map_eq_ok_iff

section

variable (h : ofSource templateId source = .ok i)
include h

/-- The descriptors are those of the parts. -/
theorem arguments_eq : i.arguments = i.parts.descriptors := by
  obtain ⟨ps, -, rfl⟩ := ofSource_eq_ok_iff.1 h
  rfl

/-- A template that has been read refers only to keys that can be written. -/
theorem isWritable_of_refersTo (hk : i.parts.RefersTo k) : k.IsWritable := by
  obtain ⟨ps, hparse, rfl⟩ := ofSource_eq_ok_iff.1 h
  exact hk.isWritable (Template.isWellFormed_of_mem hparse)

/-- There is a descriptor for a key exactly if the template refers to it. -/
theorem exists_key_iff : (∃ d ∈ i.arguments, d.key = k) ↔ i.parts.RefersTo k := by
  rw [← Template.mem_keys_descriptors_iff, arguments_eq h, List.mem_map]

/-- **No two descriptors have the same name.** -/
theorem nodup_names : (i.arguments.map (·.name)).Nodup := by
  have hwritable {k : ArgumentKey} (hk : k ∈ i.arguments.map (·.key)) : k.IsWritable :=
    isWritable_of_refersTo h ((exists_key_iff h).1 (List.mem_map.1 hk))
  have hnames : i.arguments.map (·.name) = (i.arguments.map (·.key)).map (·.text) := by
    rw [List.map_map]
    rfl
  have hnodup : (i.arguments.map (·.key)).Nodup :=
    arguments_eq h ▸ i.parts.nodup_keys_descriptors
  rw [hnames]
  exact hnodup.map_on fun k hk l hl heq => ((hwritable hk).text_eq_iff (hwritable hl)).1 heq

/-- A descriptor is found by a text exactly if it is one of the arguments and the text is its
name. -/
theorem get?_eq_some_iff : i.get? s = some d ↔ d ∈ i.arguments ∧ d.name = s :=
  Descriptor.find?_name_eq_some_iff (nodup_names h)

/-- **A key that the template refers to is found by its text.** -/
theorem get?_text (hk : i.parts.RefersTo k) :
    ∃ d ∈ i.arguments, d.key = k ∧ i.get? k.text = some d := by
  obtain ⟨d, hd, rfl⟩ := (exists_key_iff h).2 hk
  exact ⟨d, hd, rfl, (get?_eq_some_iff h).2 ⟨hd, rfl⟩⟩

/-- **Nothing is found by a text that no key of the template has.** -/
theorem get?_eq_none_iff : i.get? s = none ↔ ∀ k, i.parts.RefersTo k → k.text ≠ s := by
  have hnone : i.get? s = none ↔ ∀ d ∈ i.arguments, d.name ≠ s := by
    simp [get?, List.find?_eq_none]
  rw [hnone]
  constructor
  · intro hs k hk
    obtain ⟨d, hd, rfl⟩ := (exists_key_iff h).2 hk
    exact hs d hd
  · exact fun hs d hd => hs d.key ((exists_key_iff h).1 ⟨d, hd, rfl⟩)

/-- A template is keyed if it has arguments and refers to no position. -/
theorem isKeyed_iff : i.isKeyed = true ↔
    (∃ k, i.parts.RefersTo k) ∧ ∀ n, ¬ i.parts.RefersTo (.positional n) := by
  have hall : (∀ d ∈ i.arguments, d.key.isPositional = false) ↔
      ∀ n, ¬ i.parts.RefersTo (.positional n) := by
    constructor
    · intro hd n hn
      obtain ⟨d, hmem, hk⟩ := (exists_key_iff h).2 hn
      have := hd d hmem
      rw [hk] at this
      cases this
    · intro hn d hd
      cases hk : d.key with
      | positional n => exact absurd ((exists_key_iff h).1 ⟨d, hd, hk⟩) (hn n)
      | named name => rfl
  have hany : i.arguments ≠ [] ↔ ∃ k, i.parts.RefersTo k := by
    constructor
    · intro hne
      obtain ⟨d, hd⟩ := List.exists_mem_of_ne_nil _ hne
      exact ⟨d.key, (exists_key_iff h).1 ⟨d, hd, rfl⟩⟩
    · rintro ⟨k, hk⟩
      obtain ⟨d, hd, -⟩ := (exists_key_iff h).2 hk
      exact List.ne_nil_of_mem hd
  rw [← hall, ← hany]
  simp [isKeyed]

end

/-- **Names identify the arguments of a template that is read.** No two descriptors have the same
name. An integer that can be written is answered with the descriptor of this position, if the
template refers to it, and with nothing otherwise. A text is answered with the descriptor of this
name, which is an identifier then, or of the position with this numeral, if the template refers to
it, and with nothing otherwise. The descriptors of positions are listed first and those of names
behind them, and a template is keyed exactly if it refers to something and to no position. -/
theorem arguments_by_name (h : ofSource templateId source = .ok i) :
    Template.parse source = .ok i.parts ∧
    (i.arguments.map (·.name)).Nodup ∧
    (∀ n : Nat, n < 10 ^ ArgumentKey.maxIndexDigits →
      (i.parts.RefersTo (.positional n) →
        ∃ d ∈ i.arguments, d.key = .positional n ∧ i.getIndex? n = some d) ∧
      (¬ i.parts.RefersTo (.positional n) → i.getIndex? n = none)) ∧
    (∀ s : String,
      (i.parts.RefersTo (.named s) → ArgumentKey.isIdentifier s.toList = true ∧
        ∃ d ∈ i.arguments, d.key = .named s ∧ i.get? s = some d) ∧
      (∀ n, i.parts.RefersTo (.positional n) → s.toList = Text.numeral n →
        ∃ d ∈ i.arguments, d.key = .positional n ∧ i.get? s = some d) ∧
      (¬ i.parts.RefersTo (.named s) →
        (∀ n, i.parts.RefersTo (.positional n) → s.toList ≠ Text.numeral n) → i.get? s = none)) ∧
    i.arguments = i.positional ++ i.keyed ∧
    (i.isKeyed = true ↔
      (∃ k, i.parts.RefersTo k) ∧ ∀ n, ¬ i.parts.RefersTo (.positional n)) := by
  have hnumeral {s : String} {n : Nat} :
      s.toList = Text.numeral n ↔ (ArgumentKey.positional n).text = s := by
    rw [ArgumentKey.text, ArgumentKey.chars, ← String.toList_inj, String.toList_ofList, eq_comm]
  have hget (s : String) (k : ArgumentKey) (hs : k.text = s) (hk : i.parts.RefersTo k) :
      ∃ d ∈ i.arguments, d.key = k ∧ i.get? s = some d := hs ▸ get?_text h hk
  refine ⟨?_, nodup_names h, fun n hn => ⟨hget _ _ rfl, fun hnone => ?_⟩, fun s => ⟨fun hs => ?_,
    fun n hn hs => hget s _ (hnumeral.1 hs) hn, fun hs hnone => ?_⟩, ?_, isKeyed_iff h⟩
  · obtain ⟨ps, hparse, rfl⟩ := ofSource_eq_ok_iff.1 h
    exact hparse
  · refine (get?_eq_none_iff h).2 fun k hk htext => hnone ?_
    have hposition : (ArgumentKey.positional n).IsWritable := hn
    rwa [← ((isWritable_of_refersTo h hk).text_eq_iff hposition).1 htext]
  · exact ⟨isWritable_of_refersTo h hs, hget s _ (ArgumentKey.text_named s) hs⟩
  · refine (get?_eq_none_iff h).2 fun k hk htext => ?_
    cases k with
    | positional n => exact hnone n hk (hnumeral.2 htext)
    | named name =>
      obtain rfl := (ArgumentKey.text_named name).symm.trans htext
      exact hs hk
  · rw [positional, keyed, arguments_eq h]
    exact Descriptor.arranged_eq_append _

/-- A position with leading zeros, and a block that takes it as its key and has a name that ends in
it. -/
def pages : String := "{007}{{a|{_7}}}"

/-- A position is found by its number and by its numeral, but not with leading zeros, and a name
that ends in the same digit is found under itself. -/
theorem arguments_by_name_pages :
    ∃ i, ofSource "pages" pages = .ok i ∧ i.arguments = i.positional ++ i.keyed ∧
      (∃ d ∈ i.arguments, d.key = .positional 7 ∧ i.getIndex? 7 = some d) ∧
      (∃ d ∈ i.arguments, d.key = .positional 7 ∧ i.get? "7" = some d) ∧
      (∃ d ∈ i.arguments, d.key = .named "_7" ∧ i.get? "_7" = some d) ∧
      i.getIndex? 70 = none ∧ i.get? "007" = none ∧ i.isKeyed ≠ true := by
  obtain ⟨i, hi, hparts⟩ : ∃ i, ofSource "pages" pages = .ok i ∧ i.parts = [
      .argument { key := .positional 7 },
      .plural {
        key := .positional 7
        forms := [⟨.one, [.text "a"]⟩, ⟨.other, [.argument { key := .named "_7" }]⟩] }] :=
    ⟨ofParts "pages" _, ofSource_eq_ok_iff.2 ⟨_, by cbv, rfl⟩, rfl⟩
  have hkeys (k : ArgumentKey) : i.parts.RefersTo k ↔ k = .positional 7 ∨ k = .named "_7" := by
    rw [← Template.mem_keys_iff, hparts]
    simp [Template.keys, Part.keys, PluralBlock.arguments, FormElement.argument?]
  have hseven : i.parts.RefersTo (.positional 7) := (hkeys _).2 (.inl rfl)
  have hlow (n : Nat) (hn : n < 10 ^ 2) : n < 10 ^ ArgumentKey.maxIndexDigits :=
    Nat.lt_of_lt_of_le hn (Nat.pow_le_pow_right (by decide) (by decide))
  obtain ⟨-, -, hindex, hname, harguments, hkeyed⟩ := arguments_by_name hi
  refine ⟨i, hi, harguments, (hindex 7 (hlow 7 (by decide))).1 hseven,
    (hname "7").2.1 7 hseven rfl, ((hname "_7").1 ((hkeys _).2 (.inr rfl))).2,
    (hindex 70 (hlow 70 (by decide))).2 fun h => ?_,
    (hname "007").2.2 (fun h => ?_) fun n hn => ?_, fun h => (hkeyed.1 h).2 7 hseven⟩
  · simp [hkeys] at h
  · simp [hkeys] at h
  · have hn : n = 7 := by simpa [hkeys] using hn
    rw [hn]
    decide

end Introspection

end Phrasebook
