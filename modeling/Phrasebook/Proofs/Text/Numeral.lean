/-
# Numerals

A numeral has ASCII digits only, denotes the number that it was written for, and is as
long as the number is large.
-/

import Phrasebook.Text.Digit
import Mathlib

namespace Phrasebook
namespace Text

variable {s : List Char} {c : Char} {n : Nat}

/-- The digits of ASCII are those from zero to nine. -/
theorem isAsciiDigit_iff : isAsciiDigit c = true ↔ 48 ≤ c.toNat ∧ c.toNat ≤ 57 := by
  simp only [isAsciiDigit, Bool.and_eq_true, decide_eq_true_eq]
  exact Iff.rfl

/-- They are the digits of core. -/
theorem isAsciiDigit_eq_isDigit (c : Char) : isAsciiDigit c = c.isDigit := by
  rw [Bool.eq_iff_iff, isAsciiDigit_iff, Char.isDigit_iff_toNat]
  rfl

/-- A numeral has digits only. -/
theorem isAsciiDigit_of_mem_numeral (h : c ∈ numeral n) : isAsciiDigit c = true := by
  rw [isAsciiDigit_eq_isDigit]
  exact Nat.isDigit_of_mem_toDigits (by omega) (by omega) h

/-- No numeral is empty. -/
theorem numeral_ne_nil (n : Nat) : numeral n ≠ [] := Nat.toDigits_ne_nil

/-- **A numeral denotes the number it was written for.** -/
theorem asciiValue_numeral (n : Nat) : asciiValue (numeral n) = n := by
  have h : asciiValue (numeral n) = Nat.ofDigitChars 10 (Nat.toDigits 10 n) 0 := by
    rw [asciiValue, ofDigits, List.foldl_map, Nat.ofDigitChars_eq_foldl]
    rfl
  rw [h, Nat.ofDigitChars_ten_toDigits]

/-- A numeral has so many digits at most exactly if the number is below that power of ten. -/
theorem length_numeral_le_iff {k : Nat} (hk : 0 < k) : (numeral n).length ≤ k ↔ n < 10 ^ k :=
  Nat.length_toDigits_le_iff (by omega) hk

/-- The value of a digit is below ten. -/
theorem asciiDigit_lt (h : isAsciiDigit c = true) : asciiDigit c < 10 := by
  have := isAsciiDigit_iff.1 h
  unfold asciiDigit
  omega

/-- A number with so many digits is below that power of ten. -/
theorem asciiValue_lt (h : s.all isAsciiDigit = true) : asciiValue s < 10 ^ s.length := by
  have hfold (l : List Char) (hl : l.all isAsciiDigit = true) (n : Nat) :
      (l.map asciiDigit).foldl (fun n d => 10 * n + d) n < (n + 1) * 10 ^ l.length := by
    induction l generalizing n with
    | nil => simp
    | cons c l ih =>
      rw [List.all_cons, Bool.and_eq_true] at hl
      have hc := asciiDigit_lt hl.1
      have hle : 10 * n + asciiDigit c + 1 ≤ (n + 1) * 10 := by omega
      calc (l.map asciiDigit).foldl (fun n d => 10 * n + d) (10 * n + asciiDigit c)
          < (10 * n + asciiDigit c + 1) * 10 ^ l.length := ih hl.2 _
        _ ≤ (n + 1) * 10 * 10 ^ l.length := Nat.mul_le_mul_right _ hle
        _ = (n + 1) * 10 ^ (l.length + 1) := by rw [Nat.pow_succ, Nat.mul_assoc, Nat.mul_comm 10]
  simpa [asciiValue, ofDigits] using hfold s h 0

end Text
end Phrasebook
