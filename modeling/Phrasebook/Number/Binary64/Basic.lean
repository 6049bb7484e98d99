/-
# Binary floating point

The numbers of 64 bits are `s * 2 ^ q` with `s < 2 ^ 53` and `-1074 ≤ q ≤ 971`, each with
two signs, two infinities, and a value that is no number. The magnitudes are counted
from zero upwards: a finite number is a sign and the rank of its magnitude, which is the
bit pattern without the sign. In this order every 2 ^ 52 numbers the spacing doubles.

`nearest` rounds a quotient of natural numbers to the nearest of these numbers, half way
to the even rank.
-/

import Phrasebook.Number.Power
import Phrasebook.Number.Rounding

namespace Phrasebook

/-- The number of finite magnitudes. -/
def Binary64.magnitudes : Nat := 0x7FF0000000000000

/-- A binary floating point number of 64 bits. -/
inductive Binary64 where
  | nan
  | infinite (negative : Bool)
  | finite (negative : Bool) (rank : Fin Binary64.magnitudes)
  deriving DecidableEq

namespace Binary64

/-- The significand of the magnitude of a rank. -/
def significand (rank : Nat) : Nat :=
  if rank < twoTo 53 then rank else twoTo 52 + rank % twoTo 52

/-- The exponent of the magnitude of a rank. -/
def exponent (rank : Nat) : Int :=
  if rank < twoTo 53 then -1074 else (rank / twoTo 52 : Nat) - 1075

/-- The number of a rank, an infinity if there is no such magnitude. -/
def ofRank (negative : Bool) (rank : Nat) : Binary64 :=
  if h : rank < magnitudes then finite negative ⟨rank, h⟩ else infinite negative

/-- A quotient divided by a power of two, as numerator and denominator. -/
def shifted (num den : Nat) : Int → Nat × Nat
  | .ofNat q => (num, den * twoTo q)
  | .negSucc q => (num * twoTo (q + 1), den)

/-- The exponent for a positive quotient: the significand has 53 bits, unless the exponent is
the least one. -/
def quotientExponent (num den : Nat) : Int :=
  let q : Int := (num.log2 : Int) - den.log2 - 52
  let (n, d) := shifted num den q
  max (-1074) (if n < twoTo 52 * d then q - 1 else q)

/-- The rank nearest to a quotient. -/
def nearestRank (num den : Nat) : Nat :=
  if num = 0 then 0
  else
    let q := quotientExponent num den
    let (n, d) := shifted num den q
    (q + 1074).toNat * twoTo 52 + nearestEven n d

/-- The number nearest to a quotient, with a sign. -/
def nearest (negative : Bool) (num den : Nat) : Binary64 := ofRank negative (nearestRank num den)

/-- Whether a number is finite. -/
def isFinite : Binary64 → Bool
  | nan => false
  | infinite _ => false
  | finite .. => true

/-- Whether a number is one of the two zeros. -/
def isZero : Binary64 → Bool
  | nan => false
  | infinite _ => false
  | finite _ rank => rank.val == 0

/-- The magnitude of a rank as numerator and denominator. -/
def quotient (rank : Nat) : Nat × Nat :=
  match exponent rank with
  | .ofNat q => (significand rank * twoTo q, 1)
  | .negSucc q => (significand rank, twoTo (q + 1))

/-- The magnitude nearest to a quotient, as numerator and denominator. -/
def roundedQuotient (num den : Nat) : Nat × Nat := quotient (nearestRank num den)

/-- The magnitude of a rank as a coefficient and a power of ten. -/
def decimalQuotient (rank : Nat) : Nat × Int :=
  match exponent rank with
  | .ofNat q => (significand rank * twoTo q, 0)
  | .negSucc q => (significand rank * fiveTo (q + 1), .negSucc q)

/-- The least magnitude of integers that are nearer to the first number out of range than to
the last one in range. -/
def integerBound : Nat := twoTo 1024 - twoTo 970

end Binary64

end Phrasebook
