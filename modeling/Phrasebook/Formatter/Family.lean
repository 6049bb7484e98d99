/-
# A registry and its copies

A family starts with one registry, number zero. Copying any registry of the family
(`FormatterRegistry.copy`) adds one to it, under the next number; from then on the two are
independent.
-/

import Phrasebook.Formatter.Registry

namespace Phrasebook

/-- A registry and the copies that have been made of its members. -/
structure RegistryFamily where
  members : List Registry

/-- What can be done with a registry of a family, the methods of `FormatterRegistry`. -/
inductive RegistryAction where
  | register (name : String) (input : FormatterInput)
  | resolve (name : String)
  | call (name : String) (v : Value)
  | contains (name : String)
  | names
  | size
  | copy

/-- What comes of an action. -/
inductive RegistryReply where
  | registered
  | resolved (f : Formatter)
  | value (v : Value)
  | flag (b : Bool)
  | names (ns : List String)
  | number (n : Nat)

/-- Why an action fails. -/
inductive RegistryError where
  | noMember (index : Nat)
  | registration (f : RegistrationFault)
  | failure (f : Failure)
  | render (e : RenderError)

namespace RegistryFamily

/-- The family of one registry. -/
def ofRegistry (r : Registry) : RegistryFamily := ⟨[r]⟩

/-- The result of an action that changes nothing. -/
def answer (family : RegistryFamily) (r : Registry) :
    RegistryAction → Except RegistryError RegistryReply
  | .register name input =>
    match r.register name input with
    | .ok _ => .ok .registered
    | .error e => .error (.registration e)
  | .resolve name =>
    match r.resolve name with
    | .ok f => .ok (.resolved f)
    | .error e => .error (.failure e)
  | .call name v =>
    match r.call name v with
    | .ok w => .ok (.value w)
    | .error e => .error (.render e)
  | .contains name => .ok (.flag (r.contains name))
  | .names => .ok (.names r.names)
  | .size => .ok (.number r.size)
  | .copy => .ok (.number family.members.length)

/-- The family after an action on the registry `r` under a number. -/
def next (family : RegistryFamily) (index : Nat) (r : Registry) : RegistryAction → RegistryFamily
  | .register name input =>
    match r.register name input with
    | .ok r => ⟨family.members.set index r⟩
    | .error _ => family
  | .copy => ⟨family.members ++ [r]⟩
  | _ => family

/-- An action on the registry under a number: the result, and the family after it. -/
def act (family : RegistryFamily) (index : Nat) (a : RegistryAction) :
    Except RegistryError RegistryReply × RegistryFamily :=
  match family.members[index]? with
  | some r => (family.answer r a, family.next index r a)
  | none => (.error (.noMember index), family)

end RegistryFamily

end Phrasebook
