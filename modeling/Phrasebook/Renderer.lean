/-
# Rendering templates

A template is rendered from left to right (`TemplateTranslator`). An argument shows its
value after its formatters have been applied in turn, and a missing value shows nothing.

A plural block shows one of its forms (`TemplateTranslator._select_form`). Its value drives
it: a number is taken as it is, a truth value counts as one or zero, a text counts as the
decimal that it denotes, and everything else is no number. For what is not finite the form
`other` is shown. A zero shows the form `zero` if there is one. In all other cases the
resolver is asked for the category, and if there is no form for it the form `other` is
shown.
-/

import Phrasebook.Arguments
import Phrasebook.Number.Decimal.Numeral
import Phrasebook.Rendering

namespace Phrasebook

/-- The number that a value is as the driver of a plural block (`_to_number`). -/
def Value.drivingNumber : Value → Number
  | .bool b => .int (if b then 1 else 0)
  | .number n => n
  | .text s => .decimal ((Decimal.read? s.toList).getD (.nan false false 0))
  | _ => .decimal (.nan false false 0)

namespace PluralBlock

/-- The form that is shown if no other form is meant. -/
def otherForm? (b : PluralBlock) : Option PluralForm := b.form? PluralCategory.other.name

/-- The form that is shown for a category. -/
def formFor? (b : PluralBlock) (category : String) : Option PluralForm :=
  (b.form? category).or b.otherForm?

/-- The form for zeros, if the number is one. -/
def zeroForm? (b : PluralBlock) (n : Number) : Option PluralForm :=
  if n.isZero then b.form? PluralCategory.zero.name else none

/-- The form that is shown for a number (`TemplateTranslator._select_form`). -/
def select (b : PluralBlock) (resolver : PluralResolver) (n : Number) :
    Rendering (Option PluralForm) :=
  match n.isFinite with
  | .error e => .ofExcept (.error (.fault (.number e)))
  | .ok false => .done b.otherForm?
  | .ok true =>
    match b.zeroForm? n with
    | some f => .done (some f)
    | none => (Rendering.ask resolver n).map b.formFor?

end PluralBlock

/-- The text that is shown for a value (`_to_text`). -/
def Value.rendering (v : Value) : Except RenderError String :=
  v.rendered.mapError fun e => .fault (.number e)

/-- The value that the formatters of a list, applied in turn, make of a value
(`TemplateTranslator._render_argument`). -/
def Registry.callAll (r : Registry) (v : Value) : List String → Except RenderError Value
  | [] => .ok v
  | name :: names => (r.call name v).bind (callAll r · names)

/-- What templates are rendered with (`TemplateTranslator`). -/
structure Renderer where
  resolver : PluralResolver
  registry : Registry

/-- Why templates cannot be rendered with what an application hands in. -/
inductive SetupFault where
  | resolver (f : ResolverFault)
  | registration (f : RegistrationFault)
  deriving DecidableEq

/-- What is reported. -/
def SetupFault.message : SetupFault → String
  | resolver f => f.message
  | registration f => f.message

namespace Renderer

/-- The renderer for what an application hands in; the resolver is looked at first. -/
def ofInputs (resolver : ResolverInput) (formatters : FormattersInput) :
    Except SetupFault Renderer :=
  match PluralResolver.ofInput resolver with
  | .error f => .error (.resolver f)
  | .ok resolver =>
    match Registry.ofInput formatters with
    | .error f => .error (.registration f)
    | .ok registry => .ok ⟨resolver, registry⟩

/-- The text of an argument (`TemplateTranslator._render_argument`). -/
def argument (t : Renderer) (args : Arguments) (a : Argument) : Except RenderError String :=
  (t.registry.callAll (args.lookup a.key) a.formatters).bind Value.rendering

/-- The text of an element of a form, with the value that drives the block
(`TemplateTranslator._render_form_element`). -/
def element (t : Renderer) (args : Arguments) (v : Value) :
    FormElement → Except RenderError String
  | .text s => .ok s
  | .argument a => t.argument args a
  | .value => v.rendering

/-- The text of the elements of a form. -/
def elements (t : Renderer) (args : Arguments) (v : Value) :
    List FormElement → Except RenderError String
  | [] => .ok ""
  | e :: es => (t.element args v e).bind fun s => (t.elements args v es).map (s ++ ·)

/-- The text of a form; nothing where there is none. -/
def form (t : Renderer) (args : Arguments) (v : Value) :
    Option PluralForm → Except RenderError String
  | none => .ok ""
  | some f => t.elements args v f.elements

/-- The rendering of a plural block (`TemplateTranslator._render_plural`). -/
def plural (t : Renderer) (args : Arguments) (b : PluralBlock) : Rendering String :=
  let v := args.lookup b.key
  (b.select t.resolver v.drivingNumber).bind fun f => .ofExcept (t.form args v f)

/-- The rendering of a part of a template (`TemplateTranslator._render_part`). -/
def part (t : Renderer) (args : Arguments) : Part → Rendering String
  | .text s => .done s
  | .argument a => .ofExcept (t.argument args a)
  | .plural b => t.plural args b

/-- The rendering of a template (`TemplateTranslator.translate`). -/
def render (t : Renderer) (args : Arguments) : Template → Rendering String
  | [] => .done ""
  | p :: ps => (t.part args p).bind fun s => (t.render args ps).map (s ++ ·)

/-- A template is shown one part after the other. -/
theorem render_cons (t : Renderer) (args : Arguments) (p : Part) (ps : Template) :
    t.render args (p :: ps) =
      (t.part args p).bind fun s => (t.render args ps).map (s ++ ·) := rfl

/-- **Two templates in a row are rendered one after the other.** -/
theorem render_append (t : Renderer) (args : Arguments) (ps qs : Template) :
    t.render args (ps ++ qs) =
      (t.render args ps).bind fun s => (t.render args qs).map (s ++ ·) := by
  induction ps with
  | nil =>
    have hid : (fun s : String => "" ++ s) = id := funext fun s => by simp
    rw [List.nil_append, render, Rendering.done_bind, hid, Rendering.map_id]
  | cons p ps ih =>
    rw [List.cons_append, render_cons, render_cons, ih, Rendering.bind_assoc]
    refine congrArg ((t.part args p).bind ·) (funext fun s => ?_)
    rw [Rendering.map_bind, Rendering.bind_map]
    refine congrArg ((t.render args ps).bind ·) (funext fun u => ?_)
    rw [Rendering.map_map]
    exact congrArg (Rendering.map · _) (funext fun v => (String.append_assoc ..).symm)

end Renderer

end Phrasebook
