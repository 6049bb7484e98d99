/-
# Plural rules

A plural rule gives conditions for the plural categories of a language. A number belongs
to the first category whose condition it meets, and to the category `other` if it meets
none. A condition is a choice of alternatives, each of which is a list of relations that
must all hold. A relation says whether an operand, or its remainder by some number, is
an integer in one of several ranges.

Conditions are read from the left, no further than needed.
-/

import Phrasebook.Cldr.PluralOperands
import Phrasebook.Template.Basic

namespace Phrasebook
namespace Cldr

/-- The integers from `low` to `high`. -/
structure PluralRange where
  low : Nat
  high : Nat
  deriving DecidableEq

/-- A number stands for the range of that number only. -/
instance (k : Nat) : OfNat PluralRange k := ⟨⟨k, k⟩⟩

/-- A relation between an operand and some ranges. -/
structure PluralRelation where
  operand : PluralOperand
  modulus : Option Nat
  negated : Bool
  ranges : List PluralRange
  deriving DecidableEq

/-- Alternatives, each a list of relations that must all hold. -/
abbrev PluralCondition := List (List PluralRelation)

/-- The conditions for the categories of a language. -/
abbrev PluralRule := List (PluralCategory × PluralCondition)

namespace PluralOperand

/-- The operand is in one of the ranges. -/
def isIn (o : PluralOperand) (ranges : List PluralRange) : PluralRelation :=
  ⟨o, none, false, ranges⟩

/-- The operand is in none of the ranges. -/
def isNotIn (o : PluralOperand) (ranges : List PluralRange) : PluralRelation :=
  ⟨o, none, true, ranges⟩

/-- The remainder of the operand is in one of the ranges. -/
def modIn (o : PluralOperand) (m : Nat) (ranges : List PluralRange) : PluralRelation :=
  ⟨o, some m, false, ranges⟩

/-- The remainder of the operand is in none of the ranges. -/
def modNotIn (o : PluralOperand) (m : Nat) (ranges : List PluralRange) : PluralRelation :=
  ⟨o, some m, true, ranges⟩

end PluralOperand

/-- Whether a quantity is an integer in one of the ranges. -/
def Quantity.isAmong (q : Quantity) (ranges : List PluralRange) : Bool :=
  match q.integral? with
  | some n => ranges.any fun r => r.low ≤ n && n ≤ r.high
  | none => false

namespace PluralRelation

/-- What a relation compares. -/
def subject (r : PluralRelation) (q : Quantity) : Except NumberFault Quantity :=
  match r.modulus with
  | some m => (q.operand r.operand).remainder m
  | none => .ok (q.operand r.operand)

/-- Whether a magnitude meets a relation. -/
def holds (r : PluralRelation) (q : Quantity) : Except NumberFault Bool :=
  (r.subject q).map fun s => s.isAmong r.ranges != r.negated

end PluralRelation

namespace PluralCondition

/-- Whether a magnitude meets all relations. -/
def allHold (q : Quantity) : List PluralRelation → Except NumberFault Bool
  | [] => .ok true
  | r :: rs => (r.holds q).bind fun b => if b then allHold q rs else .ok false

/-- Whether a magnitude meets a condition. -/
def holds (condition : PluralCondition) (q : Quantity) : Except NumberFault Bool :=
  match condition with
  | [] => .ok false
  | rs :: rest => (allHold q rs).bind fun b => if b then .ok true else holds rest q

end PluralCondition

/-- The category of a magnitude. -/
def PluralRule.category (rule : PluralRule) (q : Quantity) : Except NumberFault PluralCategory :=
  match rule with
  | [] => .ok .other
  | (c, condition) :: rest =>
    (condition.holds q).bind fun b => if b then .ok c else PluralRule.category rest q

end Cldr
end Phrasebook
