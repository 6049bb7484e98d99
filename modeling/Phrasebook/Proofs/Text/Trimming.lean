/-
# Trimming

What stays of a text when it is trimmed: everything but blanks, and trimming it again
changes nothing. A text that does not start with a blank keeps its start.
-/

import Phrasebook.Text.Blank
import Mathlib.Data.List.DropRight

namespace Phrasebook
namespace Text

variable {s : List Char} {c : Char}

/-- Whether a text starts with a blank. -/
def startsBlank : List Char → Bool
  | [] => false
  | c :: _ => isBlank c

/-- A text is its leading blanks and then what trimming leaves. -/
theorem exists_append_trimLeft (s : List Char) :
    ∃ b, (∀ c ∈ b, isBlank c = true) ∧ s = b ++ trimLeft s :=
  ⟨s.takeWhile isBlank, fun _ hc => List.mem_takeWhile_imp hc, List.takeWhile_append_dropWhile.symm⟩

/-- A blank at the start is dropped. -/
theorem trimLeft_cons_of_blank (hc : isBlank c = true) : trimLeft (c :: s) = trimLeft s :=
  List.dropWhile_cons_of_pos hc

/-- A character that is not blank stays at the start. -/
theorem trimLeft_cons (hc : isBlank c = false) : trimLeft (c :: s) = c :: s :=
  List.dropWhile_cons_of_neg (by simp [hc])

/-- A text that starts with no blank has none to drop at its start. -/
theorem trimLeft_of_not_startsBlank (h : startsBlank s = false) : trimLeft s = s := by
  cases s with
  | nil => rfl
  | cons c s => exact trimLeft_cons h

/-- Without its leading blanks a text does not start with one. -/
theorem startsBlank_trimLeft (s : List Char) : startsBlank (trimLeft s) = false := by
  induction s with
  | nil => rfl
  | cons c s ih =>
    cases hc : isBlank c with
    | true => rwa [trimLeft_cons_of_blank hc]
    | false => rwa [trimLeft_cons hc]

/-- Blanks in front of a text are trimmed. -/
theorem trimLeft_append {b : List Char} (h : ∀ c ∈ b, isBlank c = true) (s : List Char) :
    trimLeft (b ++ s) = trimLeft s :=
  List.dropWhile_append_of_pos h

/-- Blanks behind a text are trimmed. -/
theorem trimRight_append {b : List Char} (h : ∀ c ∈ b, isBlank c = true) (s : List Char) :
    trimRight (s ++ b) = trimRight s := by
  have hrev : ∀ c ∈ b.reverse, isBlank c = true := fun c hc => h c (List.mem_reverse.1 hc)
  rw [trimRight, trimRight, List.reverse_append, List.dropWhile_append_of_pos hrev]

/-- A text is what trimming leaves and then its trailing blanks. -/
theorem exists_trimRight_append (s : List Char) :
    ∃ b, (∀ c ∈ b, isBlank c = true) ∧ s = trimRight s ++ b := by
  refine ⟨s.rtakeWhile isBlank, fun c hc => List.mem_rtakeWhile_imp hc, ?_⟩
  exact List.rdropWhile_append_rtakeWhile.symm

/-- A character that is not blank stays at the end. -/
theorem trimRight_concat (hc : isBlank c = false) : trimRight (s ++ [c]) = s ++ [c] := by
  refine List.rdropWhile_eq_self_iff.2 fun _ => ?_
  rw [List.getLast_append_singleton, hc]
  exact Bool.false_ne_true

/-- A text is its leading blanks, what trimming leaves, and its trailing blanks. -/
theorem exists_append_trim_append (s : List Char) :
    ∃ b d, (∀ c ∈ b, isBlank c = true) ∧ (∀ c ∈ d, isBlank c = true) ∧
      s = b ++ (trim s ++ d) := by
  obtain ⟨b, hb, hs⟩ := exists_append_trimLeft s
  obtain ⟨d, hd, ht⟩ := exists_trimRight_append (trimLeft s)
  refine ⟨b, d, hb, hd, ?_⟩
  rw [trim, ← ht]
  exact hs

/-- Blanks around a text that neither starts nor ends with blanks are trimmed. -/
theorem trim_append_append {b d : List Char} (hb : ∀ c ∈ b, isBlank c = true)
    (hd : ∀ c ∈ d, isBlank c = true) (hc : isBlank c = false) (hs : trimRight (c :: s) = c :: s) :
    trim (b ++ (c :: s ++ d)) = c :: s := by
  rw [trim, trimLeft_append hb, List.cons_append, trimLeft_cons hc, ← List.cons_append,
    trimRight_append hd, hs]

/-- A text without blanks has nothing to be trimmed. -/
theorem trimRight_eq_self (h : ∀ c ∈ s, isBlank c = false) : trimRight s = s :=
  List.rdropWhile_eq_self_iff.2 fun hs => by simp [h _ (List.getLast_mem hs)]

/-- A text without blanks stays as it is. -/
theorem trim_eq_self (h : ∀ c ∈ s, isBlank c = false) : trim s = s := by
  have hl : trimLeft s = s := by
    cases s with
    | nil => rfl
    | cons c s => exact trimLeft_cons (h c (by simp))
  rw [trim, hl, trimRight_eq_self h]

/-- What is left by trimming is a part of the text. -/
theorem trim_isInfix (s : List Char) : trim s <:+: s :=
  (List.rdropWhile_prefix _ _).isInfix.trans (List.dropWhile_suffix _).isInfix

/-- Trimming brings in no character. -/
theorem mem_of_mem_trim (h : c ∈ trim s) : c ∈ s := (trim_isInfix s).subset h

/-- Trimming the end drops blanks only. -/
theorem mem_trimRight (h : c ∈ s) (hc : isBlank c = false) : c ∈ trimRight s := by
  have hs : s = s.rdropWhile isBlank ++ s.rtakeWhile isBlank :=
    List.rdropWhile_append_rtakeWhile.symm
  rw [hs] at h
  rcases List.mem_append.1 h with h | h
  · exact h
  · rw [List.mem_rtakeWhile_imp h] at hc
    cases hc

/-- Trimming takes nothing but blanks. -/
theorem mem_trim (h : c ∈ s) (hc : isBlank c = false) : c ∈ trim s := by
  obtain ⟨b, hb, hs⟩ := exists_append_trimLeft s
  rw [hs] at h
  rcases List.mem_append.1 h with h | h
  · rw [hb c h] at hc
    cases hc
  · exact mem_trimRight h hc

/-- **Trimming twice is trimming once.** -/
theorem trim_trim (s : List Char) : trim (trim s) = trim s := by
  have hl : trimLeft (trim s) = trim s := by
    cases ht : trim s with
    | nil => rfl
    | cons c r =>
      refine trimLeft_cons ?_
      have hp : c :: r <+: trimLeft s := ht ▸ List.rdropWhile_prefix _ _
      obtain ⟨q, hq⟩ := hp
      have hstart := startsBlank_trimLeft s
      rwa [← hq] at hstart
  calc trim (trim s) = trimRight (trim s) := by rw [trim, hl]
    _ = trim s := List.rdropWhile_idempotent _ _

end Text
end Phrasebook
