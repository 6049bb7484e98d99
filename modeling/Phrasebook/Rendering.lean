/-
# Renderings

Rendering (`TemplateTranslator.translate`) asks the plural resolver about numbers and may
stop with an error. A rendering keeps both: the numbers in the order in which they were
asked about, and what came out. Renderings are put in sequence; after an error nothing is
asked any more.
-/

import Phrasebook.Plural.Resolver
import Phrasebook.Formatter.Registry

namespace Phrasebook

/-- What a step of rendering asked about, and what came out of it. -/
structure Rendering (α : Type) where
  asked : List Number
  outcome : Except RenderError α

namespace Rendering

variable {α β γ : Type}

/-- The rendering that asks nothing and has a value. -/
def done (a : α) : Rendering α := ⟨[], .ok a⟩

/-- The rendering that asks nothing and has an outcome. -/
def ofExcept (x : Except RenderError α) : Rendering α := ⟨[], x⟩

/-- The rendering that asks a resolver about a number. -/
def ask (resolver : PluralResolver) (n : Number) : Rendering String :=
  ⟨[n], (resolver.category n).mapError .fault⟩

/-- A rendering followed by another one that depends on its value. -/
def bind (x : Rendering α) (f : α → Rendering β) : Rendering β :=
  match x.outcome with
  | .ok a =>
    let y := f a
    ⟨x.asked ++ y.asked, y.outcome⟩
  | .error e => ⟨x.asked, .error e⟩

/-- A rendering with another value. -/
def map (f : α → β) (x : Rendering α) : Rendering β := ⟨x.asked, x.outcome.map f⟩

/-- A step after what is done is this step. -/
@[simp] theorem done_bind (a : α) (f : α → Rendering β) : (done a).bind f = f a := rfl

/-- After a success the next step adds its questions and decides the outcome. -/
theorem bind_ok {x : Rendering α} {a : α} (h : x.outcome = .ok a) (f : α → Rendering β) :
    x.bind f = ⟨x.asked ++ (f a).asked, (f a).outcome⟩ := by
  rw [bind, h]

/-- After an error there is no next step. -/
theorem bind_error {x : Rendering α} {e : RenderError} (h : x.outcome = .error e)
    (f : α → Rendering β) : x.bind f = ⟨x.asked, .error e⟩ := by
  rw [bind, h]

/-- A last step that only hands on changes nothing. -/
@[simp] theorem bind_done (x : Rendering α) : x.bind done = x := by
  obtain ⟨asked, outcome⟩ := x
  cases outcome <;> simp [bind, done]

/-- Leaving what is shown as it is leaves the rendering as it is. -/
@[simp] theorem map_id (x : Rendering α) : x.map id = x := by
  obtain ⟨asked, outcome⟩ := x
  cases outcome <;> rfl

/-- One function after the other is a function of what is shown. -/
theorem map_map (f : α → β) (g : β → γ) (x : Rendering α) : (x.map f).map g = x.map (g ∘ f) := by
  obtain ⟨asked, outcome⟩ := x
  cases outcome <;> rfl

/-- A function of what two steps show is a function of what the second one shows. -/
theorem map_bind (f : β → γ) (x : Rendering α) (g : α → Rendering β) :
    (x.bind g).map f = x.bind fun a => (g a).map f := by
  obtain ⟨asked, outcome⟩ := x
  cases outcome <;> rfl

/-- A step after a function is a step that applies it. -/
theorem bind_map (f : α → β) (x : Rendering α) (g : β → Rendering γ) :
    (x.map f).bind g = x.bind fun a => g (f a) := by
  obtain ⟨asked, outcome⟩ := x
  cases outcome <;> rfl

/-- **Putting renderings in sequence is associative.** -/
theorem bind_assoc (x : Rendering α) (f : α → Rendering β) (g : β → Rendering γ) :
    (x.bind f).bind g = x.bind fun a => (f a).bind g := by
  obtain ⟨asked, outcome⟩ := x
  cases outcome with
  | error e => rfl
  | ok a =>
    cases h : (f a).outcome with
    | error e => simp [bind, h]
    | ok b => simp [bind, h, List.append_assoc]

end Rendering

end Phrasebook
