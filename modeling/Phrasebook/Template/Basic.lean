/-
# Templates

A template is a sequence of parts: literal text, argument placeholders and plural blocks
(`Text`, `Argument`, `PluralBlock`). A plural block holds one form for each of some plural
categories; a form is again a sequence of text and arguments, and of places for the value
that drives the block.

An argument is known by its key, a position or a name (`PositionalKey`, `NamedKey`). Both
the key of an argument and the key of a plural block say which of the caller's values is
meant.
-/

namespace Phrasebook

/-- The plural categories that languages distinguish. -/
inductive PluralCategory where
  | zero
  | one
  | two
  | few
  | many
  | other
  deriving DecidableEq

namespace PluralCategory

/-- All categories, the one that every language has last. -/
def all : List PluralCategory := [zero, one, two, few, many, other]

/-- The word for a category, as it stands in templates. -/
def name : PluralCategory → String
  | zero => "zero"
  | one => "one"
  | two => "two"
  | few => "few"
  | many => "many"
  | other => "other"

/-- The category with the given name. -/
def ofName? (s : String) : Option PluralCategory := all.find? (·.name == s)

/-- **Reading a name finds the category that has it.** -/
theorem ofName?_eq_some_iff {s : String} {c : PluralCategory} :
    ofName? s = some c ↔ s = c.name := by
  constructor
  · intro h
    unfold ofName? at h
    have hc := List.find?_some h
    exact (eq_of_beq hc).symm
  · rintro rfl
    cases c <;> decide

end PluralCategory

/-- How a template refers to one of the caller's values. -/
inductive ArgumentKey where
  | positional (index : Nat)
  | named (name : String)
  deriving DecidableEq

/-- An argument placeholder: the key, the declared type, the formatters that are applied
from left to right, and whether the value may be left out. -/
structure Argument where
  key : ArgumentKey
  typeTag : Option String := none
  formatters : List String := []
  optional : Bool := false
  deriving DecidableEq

/-- A piece of a plural form; `value` is the place of the value that drives the block. -/
inductive FormElement where
  | text (s : String)
  | argument (a : Argument)
  | value
  deriving DecidableEq

/-- One alternative of a plural block. -/
structure PluralForm where
  category : PluralCategory
  elements : List FormElement
  deriving DecidableEq

/-- Alternatives for the value of one argument. The key is explicit if the block itself
names it, and otherwise taken from the arguments around the block. -/
structure PluralBlock where
  key : ArgumentKey
  forms : List PluralForm
  explicitKey : Bool := false
  deriving DecidableEq

/-- A piece of a template. -/
inductive Part where
  | text (s : String)
  | argument (a : Argument)
  | plural (b : PluralBlock)
  deriving DecidableEq

/-- A template. -/
abbrev Template := List Part

/-- The first form with the category of the given name (`_find_form`). -/
def PluralBlock.form? (b : PluralBlock) (category : String) : Option PluralForm :=
  b.forms.find? (·.category.name == category)

end Phrasebook
