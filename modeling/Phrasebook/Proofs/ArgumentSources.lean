/-
# Values by position

Values may be given as a sequence, as a mapping from integers or as a mapping from numerals
(`_lookup`). A template that was read is rendered alike with all of them
(`Renderer.render_by_position`), and a numeral in a mapping does not matter where the integer is
there too.

A sequence has no names and a mapping from numerals has some, so this holds only because the names
that are read are identifiers and no numeral is one (`ArgumentKey.text_positional_ne`). Every key
that rendering looks up was read (`Renderer.isWritable_of_mem_lookups`).
-/

import Phrasebook.Proofs.Lookup
import Phrasebook.Proofs.Ranking
import Phrasebook.Proofs.WellFormed

namespace Phrasebook

variable {source : String} {ps : Template} {vs : List Value} {k : ArgumentKey}

namespace ArgumentKey

/-- Different positions have different numerals. -/
theorem text_positional_injective : Function.Injective fun i => (positional i).text := by
  intro i j h
  have hchars : Text.numeral i = Text.numeral j := by
    simpa [text, chars] using congrArg String.toList h
  rw [← Text.asciiValue_numeral i, hchars, Text.asciiValue_numeral]

/-- **No name that can be written is a numeral.** -/
theorem text_positional_ne {name : String} (h : (named name).IsWritable) (i : Nat) :
    (positional i).text ≠ name := by
  rintro rfl
  obtain ⟨c, r, hs, hc, -⟩ := isIdentifier_cons h
  have hmem : c ∈ Text.numeral i := by
    rw [text, chars, String.toList_ofList] at hs
    rw [hs]
    exact List.mem_cons_self ..
  rw [Text.isAsciiDigit_of_mem_numeral hmem] at hc
  cases hc

end ArgumentKey

namespace OrderedMap

variable {α β : Type} [DecidableEq α] {key : Nat → α}

/-- A list that is put under distinct keys is found under them, and nothing else is. -/
theorem get?_ofList_mapIdx (hkey : Function.Injective key) (l : List β) (i : Nat) :
    (ofList (l.mapIdx fun i v => (key i, v))).get? (key i) = l[i]? := by
  induction l using List.reverseRecOn with
  | nil => rfl
  | append_singleton l v ih =>
    rw [List.mapIdx_concat, ofList_concat, get?_insert, ih]
    by_cases hi : l.length = i
    · subst hi
      rw [if_pos rfl, List.getElem?_concat_length]
    · rw [if_neg fun h => hi (hkey h), List.getElem?_append]
      split
      · rfl
      · rename_i hlt
        rw [List.getElem?_eq_none (by omega), List.getElem?_eq_none (by simp; omega)]

/-- A map of values under numbered keys has nothing for another kind of key. -/
theorem get?_ofList_mapIdx_of_ne {x : α} (hx : ∀ i, key i ≠ x) (l : List β) :
    (ofList (l.mapIdx fun i v => (key i, v))).get? x = none := by
  induction l using List.reverseRecOn with
  | nil => rfl
  | append_singleton l v ih =>
    rw [List.mapIdx_concat, ofList_concat, get?_insert, if_neg (hx _), ih]

end OrderedMap

namespace Arguments

/-- Values under the integers from zero on. -/
def byIndex (vs : List Value) : Arguments :=
  .mapping (.ofList (vs.mapIdx fun i v => (.index i, v)))

/-- Values under the numerals from zero on. -/
def byNumeral (vs : List Value) : Arguments :=
  .mapping (.ofList (vs.mapIdx fun i v => (.name (ArgumentKey.positional i).text, v)))

/-- A sequence has the values of positions, and so has a mapping from integers. -/
theorem find?_byIndex (vs : List Value) (k : ArgumentKey) :
    (byIndex vs).find? k = (sequence vs).find? k := by
  have hname (s : String) : (OrderedMap.ofList (vs.mapIdx fun i v =>
      (MappingKey.index i, v))).get? (.name s) = none :=
    OrderedMap.get?_ofList_mapIdx_of_ne (fun i => by simp) vs
  cases k with
  | positional i =>
    have hkey : Function.Injective fun i : Nat => MappingKey.index i :=
      fun i j h => by simpa using h
    simp only [find?, byIndex]
    rw [OrderedMap.get?_ofList_mapIdx hkey, hname, Option.or_none]
  | named s => exact hname s

/-- **A mapping from numerals has no values of names that can be written.** -/
theorem find?_byNumeral (hk : k.IsWritable) : (byNumeral vs).find? k = (sequence vs).find? k := by
  cases k with
  | positional i =>
    have hkey : Function.Injective fun i => MappingKey.name (ArgumentKey.positional i).text :=
      fun i j h => ArgumentKey.text_positional_injective (MappingKey.name.inj h)
    have hindex : ∀ j, MappingKey.name (ArgumentKey.positional j).text ≠ .index i :=
      fun j => by simp
    simp only [find?, byNumeral]
    rw [OrderedMap.get?_ofList_mapIdx_of_ne hindex, OrderedMap.get?_ofList_mapIdx hkey,
      Option.none_or]
  | named s =>
    exact OrderedMap.get?_ofList_mapIdx_of_ne
      (fun i h => ArgumentKey.text_positional_ne hk i (MappingKey.name.inj h)) vs

/-- **A numeral is not looked for where the integer is there.** -/
theorem find?_erase_numeral {m : OrderedMap MappingKey Value} {i : Nat}
    (hi : m.contains (.index i) = true) (hk : k.IsWritable) :
    (mapping (m.erase (.name (ArgumentKey.positional i).text))).find? k = (mapping m).find? k := by
  cases k with
  | positional j =>
    simp only [find?, OrderedMap.get?_erase]
    by_cases hij : i = j
    · subst hij
      obtain ⟨v, hv⟩ := Option.isSome_iff_exists.1 hi
      rw [hv]
      simp
    · have hne : (ArgumentKey.positional i).text ≠ (ArgumentKey.positional j).text := fun h =>
        hij (ArgumentKey.text_positional_injective h)
      simp [hne]
  | named s =>
    have hne := ArgumentKey.text_positional_ne hk i
    simp [find?, OrderedMap.get?_erase, hne]

end Arguments

/-- The keys that a template refers to can be written if its parts are as reading makes them. -/
theorem Template.RefersTo.isWritable (h : ∀ part ∈ ps, part.IsWellFormed) (hk : ps.RefersTo k) :
    k.IsWritable := by
  cases hk with
  | argument ha => exact Argument.IsWritable.key (h _ ha)
  | block hb => exact PluralBlock.IsWellFormed.key (h _ hb)
  | inside hb hf ha =>
    exact Argument.IsWritable.key ((PluralBlock.IsWellFormed.forms (h _ hb) _ hf).elements _ ha)

namespace Renderer

variable {t : Renderer} {args args' : Arguments}

/-- **Every key that rendering looks up can be written,** if the template was read. -/
theorem isWritable_of_mem_lookups (h : Template.parse source = .ok ps)
    (hk : k ∈ t.lookups args ps) :
    k.IsWritable := by
  obtain ⟨r, hr, rfl⟩ := exists_reference_of_mem_lookups hk
  refine Template.RefersTo.isWritable (Template.isWellFormed_of_mem h) (Template.mem_keys_iff.1 ?_)
  rw [← Template.map_key_references]
  exact List.mem_map_of_mem hr

/-- A template that was read is rendered alike with arguments that have the same values under the
keys that can be written. -/
theorem render_eq_of_find? (h : Template.parse source = .ok ps)
    (hfind : ∀ k : ArgumentKey, k.IsWritable → args.find? k = args'.find? k) :
    t.render args ps = t.render args' ps :=
  render_congr fun k hk => by
    rw [Arguments.lookup, Arguments.lookup, hfind k (isWritable_of_mem_lookups h hk)]

/-- **Values by position.** A template that was read is rendered to the same text or error, with the
same numbers asked about, for a sequence of values, for the mapping of the integers from zero on to
these values, and for the mapping of the numerals. In a mapping that has an integer, the value of
its numeral makes no difference. -/
theorem render_by_position (h : Template.parse source = .ok ps) (t : Renderer) :
    (∀ vs, t.render (.byIndex vs) ps = t.render (.sequence vs) ps ∧
      t.render (.byNumeral vs) ps = t.render (.sequence vs) ps) ∧
    ∀ (m : OrderedMap MappingKey Value) (i : Nat), m.contains (.index i) = true →
      t.render (.mapping (m.erase (.name (ArgumentKey.positional i).text))) ps =
        t.render (.mapping m) ps := by
  refine ⟨fun vs => ⟨?_, ?_⟩, fun m i hi => ?_⟩
  · exact render_eq_of_find? h fun k _ => Arguments.find?_byIndex vs k
  · exact render_eq_of_find? h fun k hk => Arguments.find?_byNumeral hk
  · exact render_eq_of_find? h fun k hk => Arguments.find?_erase_numeral hi hk

/-- Positions out of order and with a leading zero, a name, and a block with positions in its
forms. -/
def gaps : String := "{03}{_1}{{2: {0}|{?} of {1}{0}}}"

/-- The template that is read from them. -/
def gapParts : Template := [
  .argument { key := .positional 3 }, .argument { key := .named "_1" },
  .plural {
    key := .positional 2
    forms := [⟨.one, [.text " ", .argument { key := .positional 0 }]⟩,
      ⟨.other, [.value, .text " of ", .argument { key := .positional 1 },
        .argument { key := .positional 0 }]⟩]
    explicitKey := true }]

/-- Three values, one of which is nothing. -/
def gapValues : List Value := [.text "a", .none, .number (.decimal (.finite false 5 0))]

/-- A mapping that has position 2 as an integer and as a numeral. -/
def bothValues : OrderedMap MappingKey Value := .ofList [
  (.name "2", .bool true), (.name "0", .text "a"),
  (.index 2, .number (.decimal (.finite false 5 0)))]

/-- A renderer with a resolver that always answers the same. -/
def indifferent : Renderer := ⟨.function fun _ => .ok "other", .empty⟩

/-- What is shown for the values: the one for position 2 drives the block, and those for position 3
and for the name are missing. -/
def gapRendering : Rendering String := ⟨[.decimal (.finite false 5 0)], .ok "5 of a"⟩

/-- Three values are shown alike in order, by integer and by numeral, and so they are where a
position is in the mapping in both ways. -/
theorem render_by_position_gaps :
    Template.parse gaps = .ok gapParts ∧
      indifferent.render (.sequence gapValues) gapParts = gapRendering ∧
      indifferent.render (.byIndex gapValues) gapParts = gapRendering ∧
      indifferent.render (.byNumeral gapValues) gapParts = gapRendering ∧
      bothValues.contains (.index 2) = true ∧
      indifferent.render (.mapping (bothValues.erase (.name (ArgumentKey.positional 2).text)))
        gapParts = gapRendering := by
  have hparse : Template.parse gaps = .ok gapParts := by cbv
  have hsequence : indifferent.render (.sequence gapValues) gapParts = gapRendering := by rfl
  have hboth : indifferent.render (.mapping bothValues) gapParts = gapRendering := by rfl
  have hcontains : bothValues.contains (.index 2) = true := by decide
  obtain ⟨hsame, herase⟩ := render_by_position hparse indifferent
  obtain ⟨hindex, hnumeral⟩ := hsame gapValues
  exact ⟨hparse, hsequence, hindex.trans hsequence, hnumeral.trans hsequence, hcontains,
    (herase bothValues 2 hcontains).trans hboth⟩

end Renderer

end Phrasebook
