/-
# Rendering without formatters

A template whose arguments name no formatter asks little of its values. A value has a text unless
an integer in it is too long to be written (`Value.exists_rendered_iff`), and a block shows some
form, or nothing, whatever drives it: with one exception. An integer that rounds to no binary
number is not tested for being finite (`_is_finite`), but refused (`Part.Overruns`).

With a resolver that always answers, such a template is rendered exactly if no block is driven by
such an integer, and otherwise the test is what fails (`Renderer.exists_render_iff`).
-/

import Phrasebook.Proofs.Lookup
import Phrasebook.Proofs.NumberValue

namespace Phrasebook

variable {v : Value} {args : Arguments} {k : ArgumentKey}

namespace Value

mutual

/-- The integers in a value. -/
def integers : Value → List Int
  | none => []
  | bool _ => []
  | number (.int n) => [n]
  | number (.float _) => []
  | number (.decimal _) => []
  | text _ => []
  | date _ => []
  | time _ => []
  | datetime _ => []
  | list vs => integersOfAll vs

/-- The integers in the values of a list. -/
def integersOfAll : List Value → List Int
  | [] => []
  | v :: vs => integers v ++ integersOfAll vs

end

/-- Whether all integers in a value are short enough to be written. -/
def IsWritable (v : Value) : Prop := ∀ n ∈ v.integers, n.natAbs < tenTo Number.maxDigits

/-- An integer can be written exactly if it is short enough. -/
theorem exists_numeral_iff {n : Int} :
    (∃ s, Number.numeral n = .ok s) ↔ n.natAbs < tenTo Number.maxDigits := by
  unfold Number.numeral
  split
  · rename_i hn
    exact iff_of_true ⟨_, rfl⟩ hn
  · rename_i hn
    exact iff_of_false (fun ⟨_, h⟩ => nomatch h) hn

mutual

/-- A value can be shown as an element of a list exactly if no integer in it is too long. -/
theorem exists_shown_iff : ∀ v : Value, (∃ s, v.shown = .ok s) ↔ v.IsWritable
  | none => iff_of_true ⟨_, rfl⟩ nofun
  | bool _ => iff_of_true ⟨_, rfl⟩ nofun
  | number (.int n) => by
    rw [shown, IsWritable, integers, List.forall_mem_singleton]
    exact exists_numeral_iff
  | number (.float _) => iff_of_true ⟨_, rfl⟩ nofun
  | number (.decimal _) => iff_of_true ⟨_, rfl⟩ nofun
  | text _ => iff_of_true ⟨_, rfl⟩ nofun
  | date _ => iff_of_true ⟨_, rfl⟩ nofun
  | time _ => iff_of_true ⟨_, rfl⟩ nofun
  | datetime _ => iff_of_true ⟨_, rfl⟩ nofun
  | list vs => by
    rw [shown, IsWritable, integers, ← exists_shownAll_iff vs]
    simp only [map_eq_ok_iff]
    constructor
    · rintro ⟨_, ss, hss, rfl⟩
      exact ⟨ss, hss⟩
    · rintro ⟨ss, hss⟩
      exact ⟨_, ss, hss, rfl⟩

/-- The values of a list have texts exactly if no integer in them is too long. -/
theorem exists_shownAll_iff : ∀ vs : List Value,
    (∃ ss, shownAll vs = .ok ss) ↔ ∀ n ∈ integersOfAll vs, n.natAbs < tenTo Number.maxDigits
  | [] => iff_of_true ⟨_, rfl⟩ nofun
  | v :: vs => by
    have hv := exists_shown_iff v
    rw [shownAll, integersOfAll, List.forall_mem_append, ← exists_shownAll_iff vs]
    rw [IsWritable] at hv
    rw [← hv]
    simp only [bind_eq_ok_iff, map_eq_ok_iff]
    constructor
    · rintro ⟨_, s, hs, ss, hss, rfl⟩
      exact ⟨⟨s, hs⟩, ss, hss⟩
    · rintro ⟨⟨s, hs⟩, ss, hss⟩
      exact ⟨_, s, hs, ss, hss, rfl⟩

end

/-- **A value has a text exactly if no integer in it is too long.** -/
theorem exists_rendered_iff (v : Value) : (∃ s, v.rendered = .ok s) ↔ v.IsWritable := by
  rcases v with _ | _ | (n | _ | _) | _ | _ | _ | _ | vs
  case number.int =>
    rw [IsWritable, integers, List.forall_mem_singleton, ← exists_numeral_iff]
    rfl
  case list => exact exists_shown_iff (.list vs)
  all_goals exact iff_of_true ⟨_, rfl⟩ nofun

/-- An integer that drives a block out of the range of binary numbers is an integer itself. -/
theorem eq_of_drivingNumber {i : Int} (h : v.drivingNumber = .int i)
    (hi : Binary64.integerBound ≤ i.natAbs) : v = .number (.int i) := by
  have hbound : 1 < Binary64.integerBound := by decide +kernel
  rcases v with _ | b | n | _ | _ | _ | _ | _
  case bool =>
    obtain rfl := Number.int.inj h
    have hle : (if b then (1 : Int) else 0).natAbs ≤ 1 := by cases b <;> decide
    omega
  case number =>
    obtain rfl : n = .int i := h
    rfl
  all_goals cases h

end Value

namespace Arguments

/-- The values that there are. -/
def values : Arguments → List Value
  | sequence vs => vs
  | mapping m => m.values
  | bare => []

/-- Whether all integers in the values are short enough to be written. -/
def IsWritable (args : Arguments) : Prop := ∀ v ∈ args.values, v.IsWritable

/-- What is found is a value of the arguments. -/
theorem mem_values_of_find? (h : args.find? k = some v) : v ∈ args.values := by
  have hmapping {m : OrderedMap MappingKey Value} {key : MappingKey} (hm : m.get? key = some v) :
      v ∈ m.values := List.mem_map_of_mem (f := Prod.snd) (OrderedMap.mem_of_lookup hm)
  rcases args with vs | m | _ <;> rcases k with i | s
  · exact List.mem_of_getElem? h
  · cases h
  · rcases Option.or_eq_some_iff.1 h with h | ⟨-, h⟩
    · exact hmapping h
    · exact hmapping h
  · exact hmapping h
  · cases h
  · cases h

/-- What is looked up among values that can be written can be written. -/
theorem IsWritable.lookup (h : args.IsWritable) (k : ArgumentKey) : (args.lookup k).IsWritable := by
  unfold Arguments.lookup
  cases hv : args.find? k with
  | none => exact nofun
  | some v => exact h v (mem_values_of_find? hv)

end Arguments

/-- Whether no argument of a template names a formatter. -/
def Template.IsUnformatted (ps : Template) : Prop := ∀ r ∈ ps.references, r.formatters = []

/-- Whether a resolver has an answer for every number. -/
def PluralResolver.AlwaysAnswers (resolver : PluralResolver) : Prop :=
  ∀ n, ∃ category, resolver.category n = .ok category

/-- Whether a part is a block that is driven by an integer that rounds to no binary number. -/
def Part.Overruns (args : Arguments) (p : Part) : Prop :=
  ∃ b i, p = .plural b ∧ args.lookup b.key = .number (.int i) ∧
    Binary64.integerBound ≤ i.natAbs

namespace Renderer

variable {t : Renderer} {p : Part} {ps : Template} {b : PluralBlock} {es : List FormElement}

/-- An argument without formatters is shown, if the values can be written. -/
theorem exists_argument {a : Argument} (hargs : args.IsWritable) (ha : a.formatters = []) :
    ∃ s, t.argument args a = .ok s := by
  obtain ⟨s, hs⟩ := (Value.exists_rendered_iff _).2 (hargs.lookup a.key)
  have hvalue : Value.rendering (args.lookup a.key) = .ok s := mapError_eq_ok_iff.2 hs
  refine ⟨s, ?_⟩
  rw [argument, ha]
  exact hvalue

/-- So are the elements of a form. -/
theorem exists_elements (hargs : args.IsWritable) (hv : v.IsWritable)
    (hes : ∀ r ∈ es.flatMap Reference.ofElement, r.formatters = []) :
    ∃ s, t.elements args v es = .ok s := by
  induction es with
  | nil => exact ⟨"", rfl⟩
  | cons e es ih =>
    rw [List.flatMap_cons, List.forall_mem_append] at hes
    have hhead : ∃ s, t.element args v e = .ok s := by
      rcases e with s | a | _
      · exact ⟨s, rfl⟩
      · exact exists_argument hargs (hes.1 (.ofArgument a) (List.mem_singleton_self _))
      · obtain ⟨s, hs⟩ := (Value.exists_rendered_iff v).2 hv
        exact ⟨s, mapError_eq_ok_iff.2 hs⟩
    obtain ⟨s, hs⟩ := hhead
    obtain ⟨u, hu⟩ := ih hes.2
    exact ⟨s ++ u, bind_eq_ok_iff.2 ⟨s, hs, map_eq_ok_iff.2 ⟨u, hu, rfl⟩⟩⟩

/-- A block selects a form or none, unless it is driven by an integer out of range. -/
theorem exists_select (hresolver : t.resolver.AlwaysAnswers) :
    (∃ f, (b.select t.resolver v.drivingNumber).outcome = .ok f) ∨
      ∃ i, v = .number (.int i) ∧ Binary64.integerBound ≤ i.natAbs := by
  unfold PluralBlock.select
  split
  · rename_i e he
    obtain ⟨-, i, hi, hbound⟩ := Number.isFinite_eq_error_iff.1 he
    exact .inr ⟨i, Value.eq_of_drivingNumber hi hbound, hbound⟩
  · exact .inl ⟨_, rfl⟩
  · split
    · exact .inl ⟨_, rfl⟩
    · obtain ⟨category, hc⟩ := hresolver v.drivingNumber
      exact .inl ⟨b.formFor? category, map_eq_ok_iff.2 ⟨category, mapError_eq_ok_iff.2 hc, rfl⟩⟩

/-- **A part without formatters is rendered,** unless it overruns. -/
theorem exists_part (hp : ∀ r ∈ Reference.ofPart p, r.formatters = []) (hargs : args.IsWritable)
    (hresolver : t.resolver.AlwaysAnswers) (hrange : ¬ p.Overruns args) :
    ∃ s, (t.part args p).outcome = .ok s := by
  rcases p with s | a | b
  · exact ⟨s, rfl⟩
  · exact exists_argument hargs (hp (.ofArgument a) (List.mem_singleton_self _))
  · have hv := hargs.lookup b.key
    obtain ⟨f, hf⟩ | ⟨i, hi, hbound⟩ :=
      exists_select (b := b) (v := args.lookup b.key) hresolver
    · have hform : ∃ s, t.form args (args.lookup b.key) f = .ok s := by
        rcases f with _ | f
        · exact ⟨"", rfl⟩
        · refine exists_elements hargs hv fun r hr => hp r ?_
          exact List.mem_cons_of_mem _
            (List.mem_flatMap.2 ⟨f, PluralBlock.mem_of_select hf, hr⟩)
      obtain ⟨s, hs⟩ := hform
      refine ⟨s, ?_⟩
      rw [part, plural, Rendering.bind_ok hf]
      exact hs
    · exact absurd ⟨b, i, rfl, hi, hbound⟩ hrange

/-- A part that overruns fails in the test for finite numbers. -/
theorem part_of_overruns (h : p.Overruns args) :
    (t.part args p).outcome = .error (.fault (.number .beyondBinary)) := by
  obtain ⟨b, i, rfl, hi, hbound⟩ := h
  have hfinite : (args.lookup b.key).drivingNumber.isFinite = .error .beyondBinary := by
    rw [hi]
    exact Number.isFinite_eq_error_iff.2 ⟨rfl, i, rfl, hbound⟩
  have hselect : (b.select t.resolver (args.lookup b.key).drivingNumber).outcome =
      .error (.fault (.number .beyondBinary)) := by
    rw [PluralBlock.select, hfinite]
    rfl
  rw [part, plural, Rendering.bind_error hselect]

/-- A template without formatters is rendered, or some block in it overruns and the test fails. -/
theorem exists_render_or (hps : ps.IsUnformatted) (hargs : args.IsWritable)
    (hresolver : t.resolver.AlwaysAnswers) :
    (∃ s, (t.render args ps).outcome = .ok s) ∧ (∀ p ∈ ps, ¬ p.Overruns args) ∨
      (t.render args ps).outcome = .error (.fault (.number .beyondBinary)) ∧
        ∃ p ∈ ps, p.Overruns args := by
  induction ps with
  | nil => exact .inl ⟨⟨"", rfl⟩, nofun⟩
  | cons p ps ih =>
    rw [Template.IsUnformatted, Template.references, List.flatMap_cons,
      List.forall_mem_append] at hps
    rw [render_cons]
    by_cases hp : p.Overruns args
    · refine .inr ⟨?_, p, List.mem_cons_self .., hp⟩
      rw [Rendering.bind_error (part_of_overruns hp)]
    · obtain ⟨s, hs⟩ := exists_part hps.1 hargs hresolver hp
      rw [Rendering.bind_ok hs]
      obtain ⟨⟨u, hu⟩, hrange⟩ | ⟨herror, p', hp', hover⟩ := ih hps.2
      · exact .inl ⟨⟨s ++ u, map_eq_ok_iff.2 ⟨u, hu, rfl⟩⟩, List.forall_mem_cons.2 ⟨hp, hrange⟩⟩
      · exact .inr ⟨map_eq_error_iff.2 herror, p', List.mem_cons_of_mem _ hp', hover⟩

/-- **Without formatters rendering fails only for the range of a driving integer.** Where the
integers in the values can be written and the resolver always answers, a template without
formatters is rendered exactly if none of its blocks is driven by an integer that rounds to no
binary number, and if it is not, that is the error. -/
theorem exists_render_iff (hps : ps.IsUnformatted) (hargs : args.IsWritable)
    (hresolver : t.resolver.AlwaysAnswers) :
    ((∃ s, (t.render args ps).outcome = .ok s) ↔ ∀ p ∈ ps, ¬ p.Overruns args) ∧
      ∀ e, (t.render args ps).outcome = .error e → e = .fault (.number .beyondBinary) := by
  obtain ⟨hrendered, hrange⟩ | ⟨herror, p, hp, hover⟩ := exists_render_or hps hargs hresolver
  · refine ⟨iff_of_true hrendered hrange, fun e he => ?_⟩
    obtain ⟨s, hs⟩ := hrendered
    rw [hs] at he
    cases he
  · refine ⟨iff_of_false (fun ⟨s, hs⟩ => ?_) fun h => h p hp hover, fun e he => ?_⟩
    · rw [hs] at herror
      cases herror
    · rw [he] at herror
      exact Except.error.inj herror

/-- The resolver that calls every number other. -/
def anyOther : PluralResolver := .function fun _ => .ok "other"

/-- The resolver that calls every number other always answers. -/
theorem alwaysAnswers_anyOther : anyOther.AlwaysAnswers := fun _ => ⟨"other", rfl⟩

/-- One block with a form for one and a form for all other numbers. -/
def items : Template := [
  .plural { key := .positional 0, forms := [⟨.one, [.text "item"]⟩, ⟨.other, [.text "items"]⟩] }]

/-- Blocks that are driven by a signaling value that is no number, by a list and by nothing, and two
arguments, the last one a long integer. -/
def oddities : Template := items ++ [
  .plural { key := .positional 1, forms := [⟨.zero, []⟩, ⟨.other, [.value, .text ", "]⟩] },
  .plural {
    key := .named "missing"
    forms := [⟨.other, [.argument { key := .positional 0 }, .value, .text ", "]⟩] },
  .argument { key := .positional 2 }]

/-- A mapping with the values for these blocks. -/
def oddValues : Arguments := .mapping (.ofList [
  (.name "0", .number (.decimal (.nan false true 0))),
  (.index 1, .list [.none, .bool true, .list []]), (.index 2, .number (.int (tenTo 400)))])

/-- The oddities are shown, with a signaling value, a list and nothing to drive their blocks. -/
theorem exists_render_iff_oddities :
    oddities.IsUnformatted ∧ oddValues.IsWritable ∧ anyOther.AlwaysAnswers ∧
      ∃ s, (Renderer.render ⟨anyOther, .empty⟩ oddValues oddities).outcome = .ok s := by
  have hps : oddities.IsUnformatted := by
    unfold Template.IsUnformatted
    decide +kernel
  have hargs : oddValues.IsWritable := by
    unfold Arguments.IsWritable Value.IsWritable
    decide +kernel
  have hrange : ∀ p ∈ oddities, ¬ p.Overruns oddValues := by
    have hsignaling :
        oddValues.lookup (.positional 0) = .number (.decimal (.nan false true 0)) := rfl
    have hlist : oddValues.lookup (.positional 1) = .list [.none, .bool true, .list []] := rfl
    have hnone : oddValues.lookup (.named "missing") = .none := rfl
    rintro p hp ⟨b, i, rfl, hi, -⟩
    simp only [oddities, items, List.cons_append, List.nil_append, List.mem_cons, Part.plural.injEq,
      List.not_mem_nil, reduceCtorEq, or_false] at hp
    rcases hp with rfl | rfl | rfl
    · rw [hsignaling] at hi
      cases hi
    · rw [hlist] at hi
      cases hi
    · rw [hnone] at hi
      cases hi
  have h := exists_render_iff (t := ⟨anyOther, .empty⟩) hps hargs alwaysAnswers_anyOther
  exact ⟨hps, hargs, alwaysAnswers_anyOther, h.1.2 hrange⟩

/-- **An integer of 310 digits makes rendering fail,** without any formatter. -/
theorem not_exists_render :
    ¬ ∀ (t : Renderer) (args : Arguments) (ps : Template), ps.IsUnformatted → args.IsWritable →
      t.resolver.AlwaysAnswers → ∃ s, (t.render args ps).outcome = .ok s := by
  intro h
  have hps : items.IsUnformatted := by
    unfold Template.IsUnformatted
    decide +kernel
  have hargs : (Arguments.sequence [.number (.int (tenTo 309))]).IsWritable := by
    unfold Arguments.IsWritable Value.IsWritable
    decide +kernel
  have hover : ∃ p ∈ items, p.Overruns (.sequence [.number (.int (tenTo 309))]) :=
    ⟨_, List.mem_singleton_self _, _, _, rfl, rfl, by decide +kernel⟩
  obtain ⟨s, hs⟩ := h ⟨anyOther, .empty⟩ _ _ hps hargs alwaysAnswers_anyOther
  obtain ⟨-, hrange⟩ | ⟨herror, -⟩ :=
    exists_render_or (t := ⟨anyOther, .empty⟩) hps hargs alwaysAnswers_anyOther
  · obtain ⟨p, hp, hover⟩ := hover
    exact hrange p hp hover
  · rw [hs] at herror
    cases herror

end Renderer

end Phrasebook
