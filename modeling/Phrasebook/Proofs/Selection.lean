/-
# Which form is shown, and what the resolver is asked

A value that counts as a finite number (`_to_number`) has an amount, its exact value, whatever its
kind and however it is written (`Value.amount?`). The amount alone decides between the form `zero`,
the form `other` and a question to the resolver (`TemplateTranslator._select_form`,
`PluralBlock.Selects`, `selects_of_select`), and the resolver is asked exactly by the blocks whose
value has an amount, unless it is zero and there is a form for zeros (`PluralBlock.Asks`).

A rendered template is so the texts of its parts in a row, and the resolver has been asked once by
every block that asks, in the order of the blocks (`Renderer.asked_of_render`). A resolver that
sees only values makes a block show the same form for the same amount
(`Renderer.same_form_of_amount`).
-/

import Phrasebook.Proofs.NumberValue
import Phrasebook.Proofs.Outcome
import Phrasebook.Proofs.Text.Trimming
import Phrasebook.Renderer

namespace Phrasebook

variable {q : ℚ} {v : Value} {b : PluralBlock} {f : Option PluralForm} {resolver : PluralResolver}

/-- Blanks around a numeral do not count. -/
theorem Decimal.read?_trim (s : List Char) : Decimal.read? (Text.trim s) = Decimal.read? s := by
  have hplain : Decimal.plain (Text.trim s) = Decimal.plain s := by
    rw [Decimal.plain, Decimal.plain, Text.trim_trim]
  rw [Decimal.read?, Decimal.read?, hplain]

/-- The exact value of what counts as a finite number: a truth value, a finite number, or a text
that is a numeral with blanks around it. -/
def Value.amount? : Value → Option ℚ
  | .bool b => some (if b then 1 else 0)
  | .number n => n.value?
  | .text s => (Decimal.read? (Text.trim s.toList)).bind fun d => (Number.decimal d).value?
  | _ => Option.none

/-- **The number that drives a block has the value's amount.** -/
theorem Value.value?_drivingNumber (v : Value) : v.drivingNumber.value? = v.amount? := by
  rcases v with _ | b | n | s | _ | _ | _ | _
  case bool => cases b <;> simp [drivingNumber, amount?, Number.value?]
  case text =>
    rw [drivingNumber, amount?, Decimal.read?_trim]
    cases Decimal.read? s.toList with
    | none => rfl
    | some d => rfl
  all_goals rfl

namespace PluralBlock

/-- Whether a block asks the resolver about a value. -/
def Asks (b : PluralBlock) (v : Value) : Prop :=
  v.amount?.isSome ∧ ¬ (v.amount? = some 0 ∧ (b.form? PluralCategory.zero.name).isSome)

instance (b : PluralBlock) (v : Value) : Decidable (b.Asks v) :=
  inferInstanceAs (Decidable (_ ∧ _))

/-- The form that a block shows for a value, if it shows any: the first one for `other` if the
value has no amount, the first one for `zero` if the amount is zero and there is one, and otherwise
the first one for the category that the resolver answers, or else the first one for `other`. -/
inductive Selects (b : PluralBlock) (resolver : PluralResolver) (v : Value) :
    Option PluralForm → Prop
  | noAmount (hv : v.amount? = none) :
      Selects b resolver v (b.form? PluralCategory.other.name)
  | zero {f : PluralForm} (hv : v.amount? = some 0)
      (hf : b.form? PluralCategory.zero.name = some f) : Selects b resolver v (some f)
  | answered {category : String} (hv : b.Asks v)
      (hc : resolver.category v.drivingNumber = .ok category) :
      Selects b resolver v ((b.form? category).or (b.form? PluralCategory.other.name))

/-- The form for zero is shown for an amount of zero, if there is one. -/
theorem zeroForm?_eq_some_iff {g : PluralForm} :
    b.zeroForm? v.drivingNumber = some g ↔
      v.amount? = some 0 ∧ b.form? PluralCategory.zero.name = some g := by
  rw [zeroForm?, ← Value.value?_drivingNumber, ← Number.isZero_eq_true_iff]
  by_cases hz : v.drivingNumber.isZero = true <;> simp [hz]

/-- No form for zero is shown if the amount is not zero or there is none. -/
theorem zeroForm?_eq_none_iff :
    b.zeroForm? v.drivingNumber = none ↔
      ¬ (v.amount? = some 0 ∧ (b.form? PluralCategory.zero.name).isSome) := by
  rw [zeroForm?, ← Value.value?_drivingNumber, ← Number.isZero_eq_true_iff]
  by_cases hz : v.drivingNumber.isZero = true <;> simp [hz]

/-- **Where a form is selected, it is the one that the amount calls for,** and the resolver is asked
about the number just if the block asks. -/
theorem selects_of_select (h : (b.select resolver v.drivingNumber).outcome = .ok f) :
    b.Selects resolver v f ∧
      (b.select resolver v.drivingNumber).asked =
        if b.Asks v then [v.drivingNumber] else [] := by
  unfold select at h ⊢
  split at h
  · cases h
  · rename_i hfinite
    have hsome := Number.isFinite_eq_ok hfinite
    rw [Value.value?_drivingNumber] at hsome
    have hnone : v.amount? = none := by simpa using hsome.symm
    obtain rfl := Except.ok.inj h
    rw [if_neg fun hasks : b.Asks v => by simp [hnone, Asks] at hasks]
    exact ⟨.noAmount hnone, rfl⟩
  · rename_i hfinite
    have hsome := Number.isFinite_eq_ok hfinite
    rw [Value.value?_drivingNumber] at hsome
    cases hz : b.zeroForm? v.drivingNumber with
    | some g =>
      rw [hz] at h
      obtain ⟨hzero, hg⟩ := zeroForm?_eq_some_iff.1 hz
      obtain rfl := Except.ok.inj h
      rw [if_neg fun hasks : b.Asks v => hasks.2 ⟨hzero, by rw [hg]; rfl⟩]
      exact ⟨.zero hzero hg, rfl⟩
    | none =>
      rw [hz] at h
      have hasks : b.Asks v := ⟨hsome.symm, zeroForm?_eq_none_iff.1 hz⟩
      obtain ⟨category, hc, rfl⟩ := map_eq_ok_iff.1 h
      rw [if_pos hasks]
      exact ⟨.answered hasks (mapError_eq_ok_iff.1 hc), rfl⟩

/-- A form that is found for a category is the first one of its own category. -/
theorem form?_category {category : String} {g : PluralForm} (h : b.form? category = some g) :
    b.form? g.category.name = some g := by
  have hname : g.category.name = category := by simpa using List.find?_some h
  rw [hname, h]

/-- The form that is shown is the first one of its category. -/
theorem Selects.form?_category (h : b.Selects resolver v f) :
    ∀ g ∈ f, b.form? g.category.name = some g := by
  intro g hg
  rcases h with _ | ⟨_, hf⟩ | _
  · exact PluralBlock.form?_category hg
  · obtain rfl := Option.some.inj hg
    exact PluralBlock.form?_category hf
  · rcases Option.or_eq_some_iff.1 hg with hg | ⟨-, hg⟩
    · exact PluralBlock.form?_category hg
    · exact PluralBlock.form?_category hg

end PluralBlock

/-- The number that a part of a template asks the resolver about, if any. -/
def Part.asked? (args : Arguments) : Part → Option Number
  | .text _ => none
  | .argument _ => none
  | .plural b =>
    if b.Asks (args.lookup b.key) then some (args.lookup b.key).drivingNumber else none

namespace Renderer

variable {t : Renderer} {args : Arguments} {p : Part} {ps : Template} {s : String}

/-- What is shown for a part of a template. A block without the form that it should show shows
nothing. -/
inductive Shows (t : Renderer) (args : Arguments) : Part → String → Prop
  | text (s : String) : Shows t args (.text s) s
  | argument {a : Argument} {s : String} (hs : t.argument args a = .ok s) :
      Shows t args (.argument a) s
  | noForm {b : PluralBlock} (hf : b.Selects t.resolver (args.lookup b.key) none) :
      Shows t args (.plural b) ""
  | form {b : PluralBlock} {f : PluralForm} {s : String}
      (hf : b.Selects t.resolver (args.lookup b.key) (some f))
      (hs : t.elements args (args.lookup b.key) f.elements = .ok s) : Shows t args (.plural b) s

/-- A rendered block has selected a form and shows it. -/
theorem exists_select_of_plural (h : (t.plural args b).outcome = .ok s) :
    ∃ f, (b.select t.resolver (args.lookup b.key).drivingNumber).outcome = .ok f ∧
      t.form args (args.lookup b.key) f = .ok s ∧
      (t.plural args b).asked =
        (b.select t.resolver (args.lookup b.key).drivingNumber).asked := by
  unfold plural at h ⊢
  cases hf : (b.select t.resolver (args.lookup b.key).drivingNumber).outcome with
  | error e =>
    rw [Rendering.bind_error hf] at h
    cases h
  | ok f =>
    rw [Rendering.bind_ok hf] at h ⊢
    exact ⟨f, rfl, h, List.append_nil _⟩

/-- One part asks about its own number, if any, and shows its own text. -/
theorem asked_of_part (h : (t.part args p).outcome = .ok s) :
    (t.part args p).asked = (p.asked? args).toList ∧ t.Shows args p s := by
  rcases p with r | a | b
  case text =>
    obtain rfl := Except.ok.inj h
    exact ⟨rfl, .text r⟩
  case argument => exact ⟨rfl, .argument h⟩
  case plural =>
    obtain ⟨f, hf, hs, hasked⟩ := exists_select_of_plural h
    obtain ⟨hselects, hnumbers⟩ := PluralBlock.selects_of_select hf
    refine ⟨?_, ?_⟩
    · show (t.plural args b).asked = (if b.Asks _ then some _ else none : Option Number).toList
      rw [hasked, hnumbers]
      split <;> rfl
    · rcases f with _ | f
      · obtain rfl := Except.ok.inj hs
        exact .noForm hselects
      · exact .form hselects hs

/-- **The resolver is asked by the blocks that ask, once each and in their order,** and what is
shown is what the parts show, one after the other. -/
theorem asked_of_render (h : (t.render args ps).outcome = .ok s) :
    (t.render args ps).asked = ps.filterMap (·.asked? args) ∧
      ∃ texts, List.Forall₂ (t.Shows args) ps texts ∧ s = String.join texts := by
  induction ps generalizing s with
  | nil =>
    obtain rfl := Except.ok.inj h
    exact ⟨rfl, [], .nil, rfl⟩
  | cons p ps ih =>
    rw [render_cons] at h ⊢
    cases hp : (t.part args p).outcome with
    | error e =>
      rw [Rendering.bind_error hp] at h
      cases h
    | ok r =>
      rw [Rendering.bind_ok hp] at h ⊢
      obtain ⟨u, hu, rfl⟩ := map_eq_ok_iff.1 h
      obtain ⟨hnumbers, texts, hshows, rfl⟩ := ih hu
      obtain ⟨hnumber, hshow⟩ := asked_of_part hp
      refine ⟨?_, r :: texts, .cons hshow hshows, String.join_cons.symm⟩
      show (t.part args p).asked ++ (t.render args ps).asked = _
      rw [hnumber, hnumbers, List.filterMap_cons]
      cases p.asked? args <;> rfl

/-- A resolver that knows the number one, and calls every other number few. -/
def oneOrFew : PluralResolver :=
  .custom fun n => .ok (if n.same (.int 1) then "one" else "few")

/-- A block that is driven by the value at a position. -/
def drivenBlock (index : Nat) (forms : List (PluralCategory × String)) : PluralBlock where
  key := .positional index
  forms := forms.map fun f => ⟨f.1, [.text f.2]⟩

/-- Five blocks: for a zero with a form for it, no number, one, a zero without a form for it, and a
number that there is no form for. -/
def tally : Template := [
  .plural (drivenBlock 0 [(.zero, "none"), (.other, "some")]), .text ", ",
  .plural (drivenBlock 1 [(.one, "single"), (.other, "unknown")]), .text ", ",
  .plural (drivenBlock 2 [(.one, "single"), (.other, "several")]), .text ", ",
  .plural (drivenBlock 3 [(.one, "single"), (.other, "several")]), .text ", ",
  .plural (drivenBlock 4 [(.one, "single"), (.two, "pair")])]

/-- The values for the five blocks: a numeral, a word, a truth value, a negative zero, an
integer. -/
def tallyValues : Arguments := .sequence [
  .text " 0.00", .text "many", .bool true, .number (.float (.ofRank true 0)), .number (.int 7)]

/-- Of the five blocks those for one, for a zero without a form for it and for the integer ask the
resolver, in this order. -/
theorem asked_of_render_tally :
    (Renderer.render ⟨oneOrFew, .empty⟩ tallyValues tally).outcome =
        .ok "none, unknown, single, several, " ∧
      [Number.int 1, .float (.ofRank true 0), .int 7] = tally.filterMap (·.asked? tallyValues) ∧
      ∃ texts, List.Forall₂ (Shows ⟨oneOrFew, .empty⟩ tallyValues) tally texts ∧
        "none, unknown, single, several, " = String.join texts := by
  have hrender : (Renderer.render ⟨oneOrFew, .empty⟩ tallyValues tally).outcome =
      .ok "none, unknown, single, several, " := by decide +kernel
  have hasked : (Renderer.render ⟨oneOrFew, .empty⟩ tallyValues tally).asked =
      [.int 1, .float (.ofRank true 0), .int 7] := by decide +kernel
  obtain ⟨hnumbers, hshows⟩ := asked_of_render hrender
  exact ⟨hrender, hasked.symm.trans hnumbers, hshows⟩

end Renderer

/-- Whether a resolver has at most one answer for all numbers with the same value. -/
def PluralResolver.SeesValues (resolver : PluralResolver) : Prop :=
  ∀ (n m : Number) (q : ℚ) (c d : String), n.value? = some q → m.value? = some q →
    resolver.category n = .ok c → resolver.category m = .ok d → c = d

/-- **A resolver that sees only values has the same form shown for the same amount.** -/
theorem PluralBlock.Selects.unique {w : Value} {g : Option PluralForm}
    (hresolver : resolver.SeesValues) (hv : v.amount? = some q) (hw : w.amount? = some q)
    (hf : b.Selects resolver v f) (hg : b.Selects resolver w g) : f = g := by
  have hasks : b.Asks v ↔ b.Asks w := by rw [Asks, Asks, hv, hw]
  have hzero {u : Value} {h : PluralForm} (hu : u.amount? = some 0)
      (hh : b.form? PluralCategory.zero.name = some h) : ¬ b.Asks u :=
    fun hasks => hasks.2 ⟨hu, by rw [hh]; rfl⟩
  rcases hf with hn | ⟨hv0, hf⟩ | ⟨ha, hc⟩
  · rw [hv] at hn
    cases hn
  · rcases hg with hn | ⟨-, hg⟩ | ⟨ha, -⟩
    · rw [hw] at hn
      cases hn
    · exact hf.symm.trans hg
    · exact absurd (hasks.2 ha) (hzero hv0 hf)
  · rcases hg with hn | ⟨hw0, hg⟩ | ⟨-, hd⟩
    · rw [hw] at hn
      cases hn
    · exact absurd (hasks.1 ha) (hzero hw0 hg)
    · rw [← Value.value?_drivingNumber] at hv hw
      rw [hresolver _ _ q _ _ hv hw hc hd]

namespace Renderer

variable {t : Renderer} {args args' : Arguments} {s s' : String}

/-- **The same amount is shown in the same form.** Where the resolver sees only values, two values
with the same amount, of whatever kinds, select the same form of a block or no form both: it is
the first one of its category, and so at the same place among the forms. -/
theorem same_form_of_amount (hresolver : t.resolver.SeesValues)
    (hv : (args.lookup b.key).amount? = some q) (hw : (args'.lookup b.key).amount? = some q)
    (hs : (t.plural args b).outcome = .ok s) (hs' : (t.plural args' b).outcome = .ok s') :
    ∃ f, (b.select t.resolver (args.lookup b.key).drivingNumber).outcome = .ok f ∧
      (b.select t.resolver (args'.lookup b.key).drivingNumber).outcome = .ok f ∧
      (∀ g ∈ f, b.form? g.category.name = some g) ∧
      t.form args (args.lookup b.key) f = .ok s ∧
      t.form args' (args'.lookup b.key) f = .ok s' := by
  obtain ⟨f, hf, hform, -⟩ := exists_select_of_plural hs
  obtain ⟨g, hg, hform', -⟩ := exists_select_of_plural hs'
  have hselects := (PluralBlock.selects_of_select hf).1
  obtain rfl := hselects.unique hresolver hv hw (PluralBlock.selects_of_select hg).1
  exact ⟨f, hf, hg, hselects.form?_category, hform, hform'⟩

/-- The resolver for one and few answers alike for numbers with the same value. -/
theorem seesValues_oneOrFew : oneOrFew.SeesValues := by
  intro n m q c d hn hm hc hd
  have hone : (Number.int 1).value? = some 1 := rfl
  have hsame : n.same (.int 1) = m.same (.int 1) := by
    rw [Bool.eq_iff_iff, Number.same_eq_true_iff hn hone, Number.same_eq_true_iff hm hone]
  obtain rfl := Except.ok.inj hc
  obtain rfl := Except.ok.inj hd
  rw [hsame]

/-- One in five ways: as a truth value, an integer, a binary number, a decimal and a numeral. -/
def ones : List Value := [
  .bool true, .number (.int 1), .number (.float (.ofRank false 0x3FF0000000000000)),
  .number (.decimal (.finite false 1000 (-3))), .text " 0.1e+1\n"]

/-- One is one in all five ways. -/
theorem amount?_ones {v : Value} (h : v ∈ ones) : v.amount? = some 1 := by
  have hrank : Binary64.ofRank false 0x3FF0000000000000 =
      .finite false ⟨0x3FF0000000000000, by decide⟩ := rfl
  have hread : Decimal.read? (Text.trim " 0.1e+1\n".toList) = some (.finite false 1 0) := by cbv
  simp only [ones, List.mem_cons, List.not_mem_nil, or_false] at h
  rcases h with rfl | rfl | rfl | rfl | rfl
  · rfl
  · rfl
  · rw [hrank]
    norm_num [Value.amount?, Number.value?, signed, Binary64.magnitude, Binary64.significand,
      Binary64.exponent, twoTo_eq]
  · norm_num [Value.amount?, Number.value?, signed]
  · norm_num [Value.amount?, hread, Number.value?, signed]

/-- A block with two forms for one number, the second of which is never shown. -/
def twoForOne : PluralBlock :=
  drivenBlock 0 [(.other, "several"), (.one, "single"), (.one, "lonely")]

/-- One selects the same form in all five ways. -/
theorem same_form_of_amount_ones :
    (ones.map (·.amount?) = List.replicate 5 (some 1) ∧ oneOrFew.SeesValues) ∧
      ones.Pairwise fun v w => ∃ f, f ≠ none ∧
        (twoForOne.select oneOrFew v.drivingNumber).outcome = .ok f ∧
        (twoForOne.select oneOrFew w.drivingNumber).outcome = .ok f := by
  have hamount : ∀ v ∈ ones, ((Arguments.sequence [v]).lookup twoForOne.key).amount? = some 1 :=
    fun v hv => amount?_ones hv
  have hshown : ∀ v ∈ ones,
      (Renderer.plural ⟨oneOrFew, .empty⟩ (.sequence [v]) twoForOne).outcome = .ok "single" := by
    simp only [ones, List.forall_mem_cons]
    decide +kernel
  refine ⟨⟨List.eq_replicate_iff.2 ⟨rfl, List.forall_mem_map.2 hamount⟩, seesValues_oneOrFew⟩, ?_⟩
  refine List.pairwise_of_forall_mem_list fun v hv w hw => ?_
  obtain ⟨f, hf, hg, -, hform, -⟩ := same_form_of_amount (t := ⟨oneOrFew, .empty⟩)
    seesValues_oneOrFew (hamount v hv) (hamount w hw) (hshown v hv) (hshown w hw)
  refine ⟨f, ?_, hf, hg⟩
  rintro rfl
  have hnothing : "" = "single" := Except.ok.inj hform
  exact absurd hnothing (by decide)

end Renderer

end Phrasebook
