/-
# What a template refers to

A template refers to a key with an argument at the top, with a plural block, or with an argument
inside a form (`Template.RefersTo`). `Template.keys` are these keys in the order of its source text:
the key of a block stands before the keys of the arguments in its forms.

The references that are collected from a template, which are what `_iter_arguments` passes to the
table of descriptors, have these keys in this order (`Template.map_key_references`). So a key is
collected if and only if the template refers to it (`Template.mem_keys_iff`).
-/

import Phrasebook.Descriptor
import Mathlib

namespace Phrasebook

/-- The argument that an element of a form inserts. -/
def FormElement.argument? : FormElement → Option Argument
  | .argument a => some a
  | _ => none

/-- The arguments in the forms of a block, in order. -/
def PluralBlock.arguments (b : PluralBlock) : List Argument :=
  b.forms.flatMap fun f => f.elements.filterMap (·.argument?)

/-- The arguments that a part inserts, in order. -/
def Part.arguments : Part → List Argument
  | .text _ => []
  | .argument a => [a]
  | .plural b => b.arguments

/-- The arguments that a template inserts, those in forms included, in the order of its source
text. -/
def Template.arguments (ps : Template) : List Argument := ps.flatMap Part.arguments

/-- The keys that a part refers to, in order: a block refers to its own key first. -/
def Part.keys : Part → List ArgumentKey
  | .text _ => []
  | .argument a => [a.key]
  | .plural b => b.key :: b.arguments.map (·.key)

/-- The keys that a template refers to, in order, as often as it does. -/
def Template.keys (ps : Template) : List ArgumentKey := ps.flatMap Part.keys

/-- Whether a template refers to a key: with an argument at the top, with a block, or with an
argument inside a form. -/
inductive Template.RefersTo (ps : Template) : ArgumentKey → Prop
  | argument {a : Argument} (ha : .argument a ∈ ps) : RefersTo ps a.key
  | block {b : PluralBlock} (hb : .plural b ∈ ps) : RefersTo ps b.key
  | inside {b : PluralBlock} {f : PluralForm} {a : Argument} (hb : .plural b ∈ ps)
      (hf : f ∈ b.forms) (ha : .argument a ∈ f.elements) : RefersTo ps a.key

/-- The references of a block are the block itself and then its arguments. -/
theorem Reference.ofPart_plural (b : PluralBlock) :
    ofPart (.plural b) = { key := b.key, pluralized := true } :: b.arguments.map ofArgument := by
  have helements (es : List FormElement) :
      es.flatMap ofElement = (es.filterMap (·.argument?)).map ofArgument := by
    induction es with
    | nil => rfl
    | cons e es ih =>
      rw [List.flatMap_cons, ih, List.filterMap_cons]
      cases e <;> rfl
  simp only [ofPart, PluralBlock.arguments, helements, List.map_flatMap]

namespace Template

variable {ps : Template} {k : ArgumentKey} {a : Argument} {r : Reference}

/-- Arguments stand at the top and in forms. -/
theorem mem_arguments_iff :
    a ∈ ps.arguments ↔
      .argument a ∈ ps ∨ ∃ b f, .plural b ∈ ps ∧ f ∈ b.forms ∧ .argument a ∈ f.elements := by
  have helement (e : FormElement) : e.argument? = some a ↔ e = .argument a := by
    cases e <;> simp [FormElement.argument?]
  have hblock (b : PluralBlock) : a ∈ b.arguments ↔ ∃ f ∈ b.forms, .argument a ∈ f.elements := by
    simp [PluralBlock.arguments, helement]
  rw [arguments, List.mem_flatMap]
  constructor
  · rintro ⟨p, hp, ha⟩
    cases p with
    | text s => cases ha
    | argument a' => exact .inl (List.mem_singleton.1 ha ▸ hp)
    | plural b =>
      obtain ⟨f, hf, ha⟩ := (hblock b).1 ha
      exact .inr ⟨b, f, hp, hf, ha⟩
  · rintro (hp | ⟨b, f, hp, hf, ha⟩)
    · exact ⟨_, hp, List.mem_singleton_self a⟩
    · exact ⟨_, hp, (hblock b).2 ⟨f, hf, ha⟩⟩

/-- References are those of blocks and those of arguments. -/
theorem mem_references_iff :
    r ∈ ps.references ↔
      (∃ b, .plural b ∈ ps ∧ r = { key := b.key, pluralized := true }) ∨
        ∃ a ∈ ps.arguments, r = .ofArgument a := by
  have hpart (p : Part) : r ∈ Reference.ofPart p ↔
      (∃ b, p = .plural b ∧ r = { key := b.key, pluralized := true }) ∨
        ∃ a ∈ p.arguments, r = .ofArgument a := by
    cases p with
    | text s => simp [Reference.ofPart, Part.arguments]
    | argument a => simp [Reference.ofPart, Part.arguments]
    | plural b => simp [Reference.ofPart_plural, Part.arguments, eq_comm]
  simp only [references, arguments, List.mem_flatMap, hpart]
  constructor
  · rintro ⟨p, hp, ⟨b, rfl, hr⟩ | ⟨a, ha, hr⟩⟩
    · exact .inl ⟨b, hp, hr⟩
    · exact .inr ⟨a, ⟨p, hp, ha⟩, hr⟩
  · rintro (⟨b, hp, hr⟩ | ⟨a, ⟨p, hp, ha⟩, hr⟩)
    · exact ⟨_, hp, .inl ⟨b, rfl, hr⟩⟩
    · exact ⟨p, hp, .inr ⟨a, ha, hr⟩⟩

/-- The program refers to the keys in their order. -/
theorem map_key_references (ps : Template) : ps.references.map (·.key) = ps.keys := by
  have hpart (p : Part) : (Reference.ofPart p).map (·.key) = p.keys := by
    cases p with
    | text s => rfl
    | argument a => rfl
    | plural b =>
      rw [Reference.ofPart_plural, List.map_cons, List.map_map]
      rfl
  simp only [references, keys, List.map_flatMap, hpart]

/-- The keys of a template are those that it refers to. -/
theorem mem_keys_iff : k ∈ ps.keys ↔ ps.RefersTo k := by
  rw [← map_key_references, List.mem_map]
  constructor
  · rintro ⟨r, hr, rfl⟩
    rcases mem_references_iff.1 hr with ⟨b, hb, rfl⟩ | ⟨a, ha, rfl⟩
    · exact .block hb
    · rcases mem_arguments_iff.1 ha with ha | ⟨b, f, hb, hf, ha⟩
      · exact .argument ha
      · exact .inside hb hf ha
  · rintro (ha | hb | ⟨hb, hf, ha⟩)
    · exact ⟨_, mem_references_iff.2 (.inr ⟨_, mem_arguments_iff.2 (.inl ha), rfl⟩), rfl⟩
    · exact ⟨_, mem_references_iff.2 (.inl ⟨_, hb, rfl⟩), rfl⟩
    · have hmem := mem_arguments_iff.2 (.inr ⟨_, _, hb, hf, ha⟩)
      exact ⟨_, mem_references_iff.2 (.inr ⟨_, hmem, rfl⟩), rfl⟩

end Template

end Phrasebook
