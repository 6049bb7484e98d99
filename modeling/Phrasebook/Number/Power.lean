/-
# Powers

The powers of the bases that numbers are written and kept in, two, ten, and five, by which
they differ.
-/

namespace Phrasebook

/-- A power of two. -/
def twoTo (n : Nat) : Nat := Nat.pow 2 n

/-- A power of five. -/
def fiveTo (n : Nat) : Nat := Nat.pow 5 n

/-- A power of ten. -/
def tenTo (n : Nat) : Nat := Nat.pow 10 n

/-- Ten to the power of nothing is one. -/
@[simp] theorem tenTo_zero : tenTo 0 = 1 := rfl

/-- One power more is ten times as much. -/
theorem tenTo_succ (n : Nat) : tenTo (n + 1) = tenTo n * 10 := rfl

/-- A power of ten is not zero. -/
theorem tenTo_pos (n : Nat) : 0 < tenTo n := by
  induction n with
  | zero => decide
  | succ n ih =>
    rw [tenTo_succ]
    omega

/-- Powers of ten multiply by adding their exponents. -/
theorem tenTo_add (m n : Nat) : tenTo (m + n) = tenTo m * tenTo n := by
  induction n with
  | zero => simp
  | succ n ih => rw [← Nat.add_assoc, tenTo_succ, tenTo_succ, ih, Nat.mul_assoc]

end Phrasebook
