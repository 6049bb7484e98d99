/-
# Plural resolvers

A resolver answers the plural category of a number. It follows the rules of a locale
(`LocalePluralResolver`), or it is an application's own; a plain function can be made into one
(`CallablePluralResolver`). An application's resolver may answer any word.
-/

import Phrasebook.Plural.Select

namespace Phrasebook

/-- A plural resolver. -/
inductive PluralResolver where
  | locale (library : LocaleLibrary) (code : String)
  | custom (category : Number → Except Fault String)
  | function (category : Number → Except Fault String)

/-- What applications hand in as a plural resolver: a resolver, a plain function, or a value of
some kind. -/
inductive ResolverInput where
  | resolver (r : PluralResolver)
  | function (category : Number → Except Fault String)
  | value (kind : ValueKind)

/-- A value was handed in as a plural resolver. -/
structure ResolverFault where
  kind : ValueKind
  deriving DecidableEq

/-- What is reported. -/
def ResolverFault.message (f : ResolverFault) : String :=
  "Expected PluralResolver or callable, got " ++ f.kind.word

namespace PluralResolver

/-- The resolver that is meant by what an application hands in (`as_plural_resolver`). -/
def ofInput : ResolverInput → Except ResolverFault PluralResolver
  | .resolver r => .ok r
  | .function category => .ok (.function category)
  | .value kind => .error ⟨kind⟩

/-- The category of a number (`PluralResolver.category_for`). -/
def category (r : PluralResolver) (n : Number) : Except Fault String :=
  match r with
  | locale library code => n.pluralCategory library code
  | custom category => category n
  | function category => category n

/-- The category of a value, which must be a number. -/
def categoryOfValue (r : PluralResolver) (v : Value) : Except Fault String :=
  match v.number? with
  | some n => r.category n
  | none => .error (.noMagnitude v.kind)

/-- The code of the locale whose rules a resolver follows. -/
def locale? : PluralResolver → Option String
  | locale _ code => some code
  | custom _ => none
  | function _ => none

/-- A short account of a resolver, where there is one. -/
def summary? (r : PluralResolver) : Option String :=
  r.locale?.map fun code => "LocalePluralResolver(" ++ Text.quotedString code ++ ")"

/-- Whether a resolver has been made of a plain function. -/
def isFunction : PluralResolver → Bool
  | locale .. => false
  | custom _ => false
  | function _ => true

end PluralResolver

end Phrasebook
