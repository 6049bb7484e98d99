/-
# Workspaces without caches

A plain workspace does what a workspace does and has no caches. It is stated on its own: a plain
bundle is a map from identifiers to source texts, a function that tells plural categories, and the
number of a registry; a registry is a map from names to formatters (`PlainBundle`,
`PlainWorkspace`). A source text is read whenever its template is needed. The values of a call are
the named ones if there are any, else those in order (`PlainBundle.given`); a formatter is put into
a map if it is accepted (`FormatterInput.accept`); and categories come from what was handed in as a
resolver or from the locale (`PlainWorkspace.categoryOf`).

A workspace (`TemplateBundle`, `ParseCache`, `FormatterRegistry`) is a plain workspace with caches
beside it (`Workspace.plain`). As long as all of them are coherent, one step of both has the same
result and leaves the same plain workspace (`Workspace.step_refines`). So a run has the results of
the plain run, whatever caches its bundles have and share and whenever these are cleared
(`Workspace.replies_run`).
-/

import Phrasebook.Workspace
import Phrasebook.Proofs.CacheHistory
import Phrasebook.Proofs.RegistryLog

namespace Phrasebook

/-- A dictionary of templates that works without a cache. -/
structure PlainBundle where
  templates : OrderedMap String String
  /-- The plural category of a number. -/
  category : Number → Except Fault String
  /-- The number of the registry. -/
  registry : Nat

/-- Plain bundles with their registries, which are formatters by name. -/
structure PlainWorkspace where
  /-- The locale library that new bundles work with. -/
  library : LocaleLibrary
  registries : List (OrderedMap String Formatter)
  bundles : List PlainBundle

/-- Named values as a mapping from keys. -/
def OrderedMap.underNames (values : OrderedMap String Value) : OrderedMap MappingKey Value where
  entries := values.entries.map fun e => (.name e.1, e.2)
  nodup := by
    have hkeys : (values.entries.map fun e => (MappingKey.name e.1, e.2)).map Prod.fst =
        values.keys.map MappingKey.name := by
      simp [keys, Function.comp_def]
    rw [hkeys]
    exact values.nodup.map fun _ _ h => MappingKey.name.inj h

namespace PlainBundle

/-- The source texts of a dictionary after adding templates in turn, with the diagnostics on
them. -/
def addAll (store : OrderedMap String String) :
    List (String × String) → Except ParseError (List Diagnostic) × OrderedMap String String
  | [] => (.ok [], store)
  | (id, source) :: rest =>
    match Introspection.ofSource id source with
    | .error e => (.error e, store)
    | .ok i =>
      let (ds, store) := addAll (store.insert id source) rest
      (ds.map (i.diagnostics ++ ·), store)

/-- The values of a call: the named ones if there are any, else those in order. They cannot be given
both. -/
def given (positional : List Value) (named : OrderedMap String Value) :
    Except BundleError Arguments :=
  if named.entries.isEmpty then .ok (.sequence positional)
  else if positional.isEmpty then .ok (.mapping named.underNames)
  else .error .mixedArguments

/-- The values of a call are refused only if they are given both in order and under names. -/
theorem given_eq_error_iff {positional : List Value} {named : OrderedMap String Value}
    {e : BundleError} :
    given positional named = .error e ↔
      positional ≠ [] ∧ named.entries ≠ [] ∧ e = .mixedArguments := by
  unfold given
  rcases hnamed : named.entries with _ | ⟨entry, entries⟩
  · simp
  · rcases positional with _ | ⟨v, vs⟩ <;> simp [eq_comm]

/-- The text of a template. -/
def format (b : PlainBundle) (formatters : OrderedMap String Formatter) (id : String)
    (args : Arguments) : Except BundleError String :=
  match b.templates.get? id with
  | none => .ok id
  | some source =>
    match Template.parse source with
    | .error e => .error (.parse e)
    | .ok parts =>
      (Renderer.render ⟨.function b.category, ⟨formatters⟩⟩ args parts).outcome.mapError .render

/-- The introspection of a template. -/
def introspect (b : PlainBundle) (id : String) : Except BundleError Introspection :=
  match b.templates.get? id with
  | none => .error (.unknownTemplate id)
  | some source => (Introspection.ofSource id source).mapError .parse

end PlainBundle

/-- A step in the use of a workspace: a new cache, registry or bundle, a source text that is asked
for at a cache itself, or an action on a bundle. -/
inductive WorkspaceStep where
  | openCache
  | openRegistry (r : Registry)
  | openBundle (s : BundleSettings)
  | read (cache : Nat) (source : String)
  | act (index : Nat) (a : BundleAction)

/-- What comes of a step. -/
inductive WorkspaceReply where
  | done
  | fault (f : BundleFault)
  | template (r : Except ParseError Template)
  | result (r : Except BundleError BundleReply)
  deriving DecidableEq

namespace WorkspaceStep

/-- A step without what it says of caches; nothing if it concerns caches alone. -/
def cacheless : WorkspaceStep → Option WorkspaceStep
  | .openCache => none
  | .openRegistry r => some (.openRegistry r)
  | .openBundle s => some (.openBundle { s with cache := none })
  | .read _ source => some (.read 0 source)
  | .act _ .clearCache => none
  | .act index a => some (.act index a)

/-- The results of steps without those of steps that concern caches alone. -/
def answers (xs : List WorkspaceStep) (rs : List WorkspaceReply) : List WorkspaceReply :=
  ((xs.zip rs).filter (·.1.cacheless.isSome)).map Prod.snd

/-- The results of a run are that of its first step, unless it concerns caches alone, and those of
the steps behind. -/
theorem answers_cons (x : WorkspaceStep) (xs : List WorkspaceStep) (r : WorkspaceReply)
    (rs : List WorkspaceReply) :
    answers (x :: xs) (r :: rs) =
      if x.cacheless.isSome then r :: answers xs rs else answers xs rs := by
  rw [answers, List.zip_cons_cons, List.filter_cons]
  split <;> rfl

end WorkspaceStep

namespace PlainWorkspace

/-- The plain workspace without bundles. -/
def empty (library : LocaleLibrary) : PlainWorkspace := ⟨library, [], []⟩

/-- The plain workspace with one more registry. -/
def addRegistry (p : PlainWorkspace) (formatters : OrderedMap String Formatter) : PlainWorkspace :=
  { p with registries := p.registries ++ [formatters] }

/-- The formatters that are handed in under names, if all of them are accepted. -/
def acceptAll : List (String × FormatterInput) →
    Except RegistrationFault (List (String × Formatter))
  | [] => .ok []
  | (name, input) :: rest =>
    (input.accept name).bind fun f => (acceptAll rest).map fun fs => (name, f) :: fs

/-- The number of the registry of a new bundle, and the plain workspace with that registry. -/
def openRegistry (p : PlainWorkspace) (locale : String) :
    BundleFormatters → Except RegistrationFault (Nat × PlainWorkspace)
  | .standard =>
    .ok (p.registries.length, p.addRegistry (.ofList (Formatter.standard p.library locale)))
  | .shared registry => .ok (registry, p)
  | .own (.registry r) => .ok (p.registries.length, p.addRegistry r.formatters)
  | .own (.mapping m) =>
    (acceptAll m.entries).map fun fs => (p.registries.length, p.addRegistry (.ofList fs))

/-- How a new bundle tells plural categories: as it is told to, or as is usual in its locale. -/
def categoryOf (p : PlainWorkspace) (locale : String) :
    Option ResolverInput → Except ResolverFault (Number → Except Fault String)
  | none => .ok (Number.pluralCategory p.library locale)
  | some (.resolver r) => .ok r.category
  | some (.function category) => .ok category
  | some (.value kind) => .error ⟨kind⟩

/-- The plain workspace with one more bundle. -/
def openBundle (p : PlainWorkspace) (s : BundleSettings) : Except BundleFault PlainWorkspace :=
  if s.locale.isEmpty then .error .emptyLocale
  else
    match p.openRegistry s.locale s.formatters with
    | .error f => .error (.setup (.registration f))
    | .ok (registry, p) =>
      match p.categoryOf s.locale s.resolver with
      | .error f => .error (.setup (.resolver f))
      | .ok category => .ok { p with bundles := p.bundles ++ [⟨.empty, category, registry⟩] }

/-- The registry under a number. -/
def registryAt (p : PlainWorkspace) (index : Nat) : OrderedMap String Formatter :=
  p.registries[index]?.getD .empty

/-- The plain workspace with another registry under a number. -/
def setRegistry (p : PlainWorkspace) (index : Nat) (formatters : OrderedMap String Formatter) :
    PlainWorkspace :=
  { p with registries := p.registries.set index formatters }

/-- The plain workspace with another bundle under a number. -/
def setBundle (p : PlainWorkspace) (index : Nat) (b : PlainBundle) : PlainWorkspace :=
  { p with bundles := p.bundles.set index b }

/-- An action on the plain bundle `b`, which has the number `index`. -/
def actOn (p : PlainWorkspace) (index : Nat) (b : PlainBundle) :
    BundleAction → Except BundleError BundleReply × PlainWorkspace
  | .add templates =>
    let (ds, store) := PlainBundle.addAll b.templates templates.entries
    ((ds.map .diagnostics).mapError .parse, p.setBundle index { b with templates := store })
  | .format id positional named =>
    match PlainBundle.given positional named with
    | .error e => (.error e, p)
    | .ok args => ((b.format (p.registryAt b.registry) id args).map .text, p)
  | .introspect id => ((b.introspect id).map .introspection, p)
  | .validate => (((Validation.ofDictionary b.templates).map .validation).mapError .parse, p)
  | .contains id => (.ok (.flag (b.templates.contains id)), p)
  | .source id => (.ok (.source (b.templates.get? id)), p)
  | .ids => (.ok (.ids b.templates.keys), p)
  | .addFormatter name input =>
    match input.accept name with
    | .error f => (.error (.registration f), p)
    | .ok f => (.ok .done, p.setRegistry b.registry ((p.registryAt b.registry).insert name f))
  | .clearCache => (.ok .done, p)

/-- An action on the plain bundle under a number. -/
def act (p : PlainWorkspace) (index : Nat) (a : BundleAction) :
    Except BundleError BundleReply × PlainWorkspace :=
  match p.bundles[index]? with
  | some b => p.actOn index b a
  | none => (.error (.noBundle index), p)

/-- A step, where there are no caches: the result, and the plain workspace after it. -/
def step (p : PlainWorkspace) : WorkspaceStep → WorkspaceReply × PlainWorkspace
  | .openCache => (.done, p)
  | .openRegistry r => (.done, p.addRegistry r.formatters)
  | .openBundle s =>
    match p.openBundle s with
    | .ok p => (.done, p)
    | .error f => (.fault f, p)
  | .read _ source => (.template (Template.parse source), p)
  | .act index a =>
    let (r, p) := p.act index a
    (.result r, p)

/-- The results of steps in turn. -/
def replies (p : PlainWorkspace) : List WorkspaceStep → List WorkspaceReply
  | [] => []
  | x :: xs => (p.step x).1 :: (p.step x).2.replies xs

/-- The plain workspace after steps in turn. -/
def after (p : PlainWorkspace) (xs : List WorkspaceStep) : PlainWorkspace :=
  xs.foldl (fun p x => (p.step x).2) p

variable {p : PlainWorkspace} {x y : WorkspaceStep}

/-- A step that concerns caches alone does nothing where there are none. -/
theorem step_of_cacheless_eq_none (h : x.cacheless = none) : (p.step x).2 = p := by
  cases x with
  | openCache => rfl
  | openRegistry r => cases h
  | openBundle s => cases h
  | read cache source => cases h
  | act index a =>
    cases a with
    | clearCache =>
      rw [step, act]
      cases p.bundles[index]? with
      | none => rfl
      | some b => rfl
    | _ => cases h

/-- What a step says of caches does not matter where there are none. -/
theorem step_of_cacheless_eq_some (h : x.cacheless = some y) : p.step x = p.step y := by
  cases x with
  | openCache => cases h
  | act index a => cases a <;> cases h <;> rfl
  | _ =>
    cases h
    rfl

/-- Steps that concern caches alone can be left out where there are none. -/
theorem answers_replies (p : PlainWorkspace) (xs : List WorkspaceStep) :
    WorkspaceStep.answers xs (p.replies xs) = p.replies (xs.filterMap (·.cacheless)) := by
  induction xs generalizing p with
  | nil => rfl
  | cons x xs ih =>
    rw [replies, WorkspaceStep.answers_cons, ih]
    cases hx : x.cacheless with
    | none =>
      rw [List.filterMap_cons_none hx, step_of_cacheless_eq_none hx]
      rfl
    | some y =>
      rw [List.filterMap_cons_some hx, replies, step_of_cacheless_eq_some hx]
      rfl

end PlainWorkspace

namespace Renderer

/-- What a form shows does not depend on the resolver. -/
theorem form_eq_form (r r' : PluralResolver) (registry : Registry) (args : Arguments) (v : Value)
    (f : Option PluralForm) :
    form ⟨r, registry⟩ args v f = form ⟨r', registry⟩ args v f := by
  have helements (es : List FormElement) :
      elements ⟨r, registry⟩ args v es = elements ⟨r', registry⟩ args v es := by
    induction es with
    | nil => rfl
    | cons e es ih =>
      rw [elements, elements, ih]
      cases e <;> rfl
  cases f with
  | none => rfl
  | some f => exact helements f.elements

/-- **A rendering depends on no more of a resolver than the categories that it tells.** -/
theorem render_function (r : PluralResolver) (registry : Registry) (args : Arguments)
    (ps : Template) :
    render ⟨.function r.category, registry⟩ args ps = render ⟨r, registry⟩ args ps := by
  have hpart (p : Part) :
      part ⟨.function r.category, registry⟩ args p = part ⟨r, registry⟩ args p := by
    cases p with
    | plural b =>
      simp only [part, plural, form_eq_form (.function r.category) r]
      rfl
    | _ => rfl
  induction ps with
  | nil => rfl
  | cons p ps ih => rw [render_cons, render_cons, hpart, ih]

end Renderer

/-- The arguments of a call are the values that are given. -/
theorem Bundle.arguments_eq_given (positional : List Value) (named : OrderedMap String Value) :
    arguments positional named = PlainBundle.given positional named := by
  obtain ⟨entries, hnodup⟩ := named
  have hnames := OrderedMap.entries_ofList (OrderedMap.underNames ⟨entries, hnodup⟩).nodup
  rcases entries with _ | ⟨e, es⟩ <;> rcases positional with _ | ⟨v, vs⟩
  · rfl
  · rfl
  · exact congrArg (Except.ok ∘ Arguments.mapping) (OrderedMap.ext hnames)
  · rfl

/-- What is registered one after the other is what is accepted. -/
theorem Registry.registerAll_eq (r : Registry) (ps : List (String × FormatterInput)) :
    r.registerAll ps =
      (PlainWorkspace.acceptAll ps).map fun fs => ⟨r.formatters.insertAll fs⟩ := by
  induction ps generalizing r with
  | nil => rfl
  | cons p ps ih =>
    rw [registerAll, register_eq, PlainWorkspace.acceptAll]
    cases p.2.accept p.1 with
    | error e => rfl
    | ok f =>
      show registerAll _ ps = _
      rw [ih]
      show _ = Except.map _ (Except.map _ _)
      cases PlainWorkspace.acceptAll ps <;> rfl

/-- A bundle without its cache. -/
def Bundle.plain (b : Bundle) : PlainBundle := ⟨b.templates, b.resolver.category, b.registry⟩

namespace Workspace

variable {ρ : Type} {w : Workspace} {c : TemplateCache}

/-- A workspace without its caches. -/
def plain (w : Workspace) : PlainWorkspace :=
  ⟨w.library, w.registries.map (·.formatters), w.bundles.map Bundle.plain⟩

/-- Whether all caches are coherent. -/
def Coherent (w : Workspace) : Prop := ∀ c ∈ w.caches, c.Coherent

/-- A step: the result, and the workspace after it. -/
def step (w : Workspace) : WorkspaceStep → WorkspaceReply × Workspace
  | .openCache => (.done, w.addCache .empty)
  | .openRegistry r => (.done, w.addRegistry r)
  | .openBundle s =>
    match w.openBundle s with
    | .ok w => (.done, w)
    | .error f => (.fault f, w)
  | .read cache source =>
    let (r, c) := (w.cacheAt cache).get source
    (.template r, w.setCache cache c)
  | .act index a =>
    let (r, w) := w.act index a
    (.result r, w)

/-- The results of steps in turn. -/
def replies (w : Workspace) : List WorkspaceStep → List WorkspaceReply
  | [] => []
  | x :: xs => (w.step x).1 :: (w.step x).2.replies xs

/-- The workspace after steps in turn. -/
def after (w : Workspace) (xs : List WorkspaceStep) : Workspace :=
  xs.foldl (fun w x => (w.step x).2) w

/-- The same outcome with and without caches, and the caches are coherent. -/
structure Refines (x : ρ × Workspace) (y : ρ × PlainWorkspace) : Prop where
  fst : x.1 = y.1
  plain : x.2.plain = y.2
  coherent : x.2.Coherent

/-- Without caches all of them are coherent. -/
theorem coherent_empty (library : LocaleLibrary) : (empty library).Coherent := fun c h => by cases h

namespace Coherent

/-- The cache under a number is coherent if all are. -/
theorem cacheAt (h : w.Coherent) (index : Nat) : (w.cacheAt index).Coherent := by
  unfold Workspace.cacheAt
  cases hc : w.caches[index]? with
  | none => exact .empty
  | some c => exact h c (List.mem_of_getElem? hc)

/-- A coherent cache may be put in the place of another. -/
theorem setCache (h : w.Coherent) (hc : c.Coherent) (index : Nat) :
    (w.setCache index c).Coherent := by
  intro c' hmem
  obtain hmem | rfl := List.mem_or_eq_of_mem_set hmem
  · exact h c' hmem
  · exact hc

/-- A coherent cache may be added. -/
theorem addCache (h : w.Coherent) (hc : c.Coherent) : (w.addCache c).Coherent := by
  intro c' hmem
  obtain hmem | hmem := List.mem_append.1 hmem
  · exact h c' hmem
  · obtain rfl := List.mem_singleton.1 hmem
    exact hc

end Coherent

/-- Putting a bundle under a number does so without caches, too. -/
theorem plain_setBundle (w : Workspace) (index : Nat) (b : Bundle) :
    (w.setBundle index b).plain = w.plain.setBundle index b.plain := by
  simp [plain, setBundle, PlainWorkspace.setBundle, List.map_set]

/-- Adding a registry adds it without caches, too. -/
theorem plain_addRegistry (w : Workspace) (r : Registry) :
    (w.addRegistry r).plain = w.plain.addRegistry r.formatters := by
  simp [plain, addRegistry, PlainWorkspace.addRegistry]

/-- Putting a registry under a number does so without caches, too. -/
theorem plain_setRegistry (w : Workspace) (index : Nat) (r : Registry) :
    (w.setRegistry index r).plain = w.plain.setRegistry index r.formatters := by
  simp [plain, setRegistry, PlainWorkspace.setRegistry, List.map_set]

/-- The registry under a number is the same without caches. -/
theorem registryAt_plain (w : Workspace) (index : Nat) :
    w.plain.registryAt index = (w.registryAt index).formatters := by
  simp only [PlainWorkspace.registryAt, registryAt, plain, List.getElem?_map]
  cases w.registries[index]? <;> rfl

/-- Adding templates through a coherent cache is adding them without one. -/
theorem addAll_refines (hc : c.Coherent) (store : OrderedMap String String)
    (ts : List (String × String)) :
    (Bundle.addAll store c ts).1 = (PlainBundle.addAll store ts).1 ∧
      (Bundle.addAll store c ts).2.1 = (PlainBundle.addAll store ts).2 ∧
        (Bundle.addAll store c ts).2.2.Coherent := by
  induction ts generalizing store c with
  | nil => exact ⟨rfl, rfl, hc⟩
  | cons entry rest ih =>
    obtain ⟨id, source⟩ := entry
    have hfst := hc.introspect_fst id source
    have hsnd := hc.introspect_snd id source
    rw [Bundle.addAll, PlainBundle.addAll, ← hfst]
    generalize c.introspect id source = answer at hsnd ⊢
    obtain ⟨e | i, c'⟩ := answer
    · exact ⟨rfl, rfl, hsnd⟩
    · obtain ⟨hds, hstore, hcoherent⟩ := ih hsnd (store.insert id source)
      exact ⟨congrArg (Except.map (i.diagnostics ++ ·)) hds, hstore, hcoherent⟩

/-- A coherent cache does not change the text of a template, and stays coherent. -/
theorem format_refines (hc : c.Coherent) (b : Bundle) (r : Registry) (id : String)
    (args : Arguments) :
    (b.format r c id args).1 = b.plain.format r.formatters id args ∧
      (b.format r c id args).2.Coherent := by
  unfold Bundle.format PlainBundle.format Bundle.plain
  cases b.templates.get? id with
  | none => exact ⟨rfl, hc⟩
  | some source =>
    have hfst := hc.get_fst source
    have hsnd := hc.get_snd source
    simp only
    rw [← hfst]
    generalize c.get source = answer at hsnd ⊢
    obtain ⟨e | parts, c'⟩ := answer
    · exact ⟨rfl, hsnd⟩
    · exact ⟨by simp only [Renderer.render_function], hsnd⟩

/-- A coherent cache does not change the introspection of a template, and stays coherent. -/
theorem introspect_refines (hc : c.Coherent) (b : Bundle) (id : String) :
    (b.introspect c id).1 = b.plain.introspect id ∧ (b.introspect c id).2.Coherent := by
  unfold Bundle.introspect PlainBundle.introspect Bundle.plain
  cases b.templates.get? id with
  | none => exact ⟨rfl, hc⟩
  | some source =>
    exact ⟨congrArg (Except.mapError _) (hc.introspect_fst id source), hc.introspect_snd id source⟩

/-- **An action on a bundle has the same outcome with and without caches.** -/
theorem actOn_refines (h : w.Coherent) (index : Nat) (b : Bundle) (a : BundleAction) :
    Refines (w.actOn index b a) (w.plain.actOn index b.plain a) := by
  have hc := h.cacheAt b.cache
  cases a with
  | add templates =>
    obtain ⟨hds, hstore, hcoherent⟩ := addAll_refines hc b.templates templates.entries
    exact ⟨congrArg (fun ds => (ds.map BundleReply.diagnostics).mapError BundleError.parse) hds,
      (plain_setBundle _ index _).trans (congrArg
        (fun store => w.plain.setBundle index { b.plain with templates := store }) hstore),
      h.setCache hcoherent b.cache⟩
  | format id positional named =>
    simp only [actOn, PlainWorkspace.actOn, ← Bundle.arguments_eq_given]
    cases Bundle.arguments positional named with
    | error e => exact ⟨rfl, rfl, h⟩
    | ok args =>
      obtain ⟨htext, hcoherent⟩ := format_refines hc b (w.registryAt b.registry) id args
      rw [← registryAt_plain] at htext
      exact ⟨congrArg (Except.map _) htext, rfl, h.setCache hcoherent _⟩
  | introspect id =>
    obtain ⟨hi, hcoherent⟩ := introspect_refines hc b id
    exact ⟨congrArg (Except.map _) hi, rfl, h.setCache hcoherent _⟩
  | validate =>
    exact ⟨congrArg (fun v => (v.map BundleReply.validation).mapError BundleError.parse)
      (hc.validate_fst b.templates), rfl, h.setCache (hc.validate_snd b.templates) _⟩
  | contains id => exact ⟨rfl, rfl, h⟩
  | source id => exact ⟨rfl, rfl, h⟩
  | ids => exact ⟨rfl, rfl, h⟩
  | addFormatter name input =>
    have hregistry : w.plain.registryAt b.plain.registry = (w.registryAt b.registry).formatters :=
      w.registryAt_plain b.registry
    simp only [actOn, PlainWorkspace.actOn, Registry.register_eq, hregistry]
    cases input.accept name with
    | error f => exact ⟨rfl, rfl, h⟩
    | ok f => exact ⟨rfl, plain_setRegistry w b.registry _, h⟩
  | clearCache => exact ⟨rfl, rfl, h.setCache .empty _⟩

/-- An action on the bundle under a number has the same outcome with and without caches. -/
theorem act_refines (h : w.Coherent) (index : Nat) (a : BundleAction) :
    Refines (w.act index a) (w.plain.act index a) := by
  have hbundle : w.plain.bundles[index]? = w.bundles[index]?.map Bundle.plain :=
    List.getElem?_map ..
  rw [act, PlainWorkspace.act, hbundle]
  cases w.bundles[index]? with
  | none => exact ⟨rfl, rfl, h⟩
  | some b => exact actOn_refines h index b a

/-- The registry of a new bundle is the same with and without caches, and the caches stay. -/
theorem openRegistry_refines (w : Workspace) (locale : String) (f : BundleFormatters) :
    w.plain.openRegistry locale f =
        (w.openRegistry locale f).map (fun r => (r.1, r.2.plain)) ∧
      ∀ r, w.openRegistry locale f = .ok r → r.2.caches = w.caches := by
  have hlength : w.plain.registries.length = w.registries.length := List.length_map _
  rcases f with _ | registry | (r | m)
  · refine ⟨?_, by rintro _ ⟨⟩; rfl⟩
    rw [PlainWorkspace.openRegistry, openRegistry, map_ok, plain_addRegistry, hlength]
    rfl
  · exact ⟨rfl, by rintro _ ⟨⟩; rfl⟩
  · refine ⟨?_, by rintro _ ⟨⟩; rfl⟩
    rw [PlainWorkspace.openRegistry, openRegistry, Registry.ofInput, map_ok, map_ok,
      plain_addRegistry, hlength]
  · rw [PlainWorkspace.openRegistry, openRegistry, Registry.ofInput, Registry.ofMapping,
      Registry.registerAll_eq]
    cases PlainWorkspace.acceptAll m.entries with
    | error e => exact ⟨rfl, by rintro _ ⟨⟩⟩
    | ok fs =>
      refine ⟨?_, by rintro _ ⟨⟩; rfl⟩
      simp only [map_ok, plain_addRegistry, hlength]
      rfl

/-- How a new bundle tells categories is the same with and without caches. -/
theorem categoryOf_plain (w : Workspace) (locale : String) (input : Option ResolverInput) :
    w.plain.categoryOf locale input = (w.resolverOf locale input).map PluralResolver.category := by
  rcases input with _ | _ | _ | _ <;> rfl

/-- A new cache is not seen without caches. -/
theorem openCache_refines (h : w.Coherent) (cache : Option Nat) :
    (w.openCache cache).2.plain = w.plain ∧ (w.openCache cache).2.Coherent := by
  cases cache with
  | none => exact ⟨rfl, h.addCache .empty⟩
  | some index => exact ⟨rfl, h⟩

/-- A new bundle is the same with and without caches, and so is the reason why there is none. -/
theorem openBundle_refines (h : w.Coherent) (s : BundleSettings) :
    w.plain.openBundle s = (w.openBundle s).map plain ∧
      ∀ w', w.openBundle s = .ok w' → w'.Coherent := by
  obtain ⟨hplain, hcaches⟩ := w.openRegistry_refines s.locale s.formatters
  unfold openBundle PlainWorkspace.openBundle
  rw [hplain]
  split
  · exact ⟨rfl, by rintro _ ⟨⟩⟩
  · cases ho : w.openRegistry s.locale s.formatters with
    | error f => exact ⟨rfl, by rintro _ ⟨⟩⟩
    | ok r =>
      obtain ⟨registry, w₁⟩ := r
      have hcoherent : w₁.Coherent := by
        unfold Coherent
        rwa [hcaches _ ho]
      simp only [map_ok, categoryOf_plain]
      cases w₁.resolverOf s.locale s.resolver with
      | error f => exact ⟨rfl, by rintro _ ⟨⟩⟩
      | ok resolver =>
        obtain ⟨hcache, hopened⟩ := openCache_refines hcoherent s.cache
        refine ⟨congrArg Except.ok ?_, by rintro _ ⟨⟩; exact hopened⟩
        rw [← hcache]
        simp [plain, Bundle.plain]

/-- **One step has the same outcome with and without caches.** -/
theorem step_refines (h : w.Coherent) (x : WorkspaceStep) :
    Refines (w.step x) (w.plain.step x) := by
  cases x with
  | openCache => exact ⟨rfl, rfl, h.addCache .empty⟩
  | openRegistry r => exact ⟨rfl, plain_addRegistry w r, h⟩
  | openBundle s =>
    obtain ⟨hplain, hcoherent⟩ := openBundle_refines h s
    rw [step, PlainWorkspace.step, hplain]
    cases ho : w.openBundle s with
    | error f => exact ⟨rfl, rfl, h⟩
    | ok w' => exact ⟨rfl, rfl, hcoherent w' ho⟩
  | read cache source =>
    have hc := h.cacheAt cache
    exact ⟨congrArg WorkspaceReply.template (hc.get_fst source), rfl,
      h.setCache (hc.get_snd source) _⟩
  | act index a =>
    obtain ⟨hfst, hplain, hcoherent⟩ := act_refines h index a
    exact ⟨congrArg WorkspaceReply.result hfst, hplain, hcoherent⟩

/-- **A run has the same results with and without caches,** and leaves the same plain workspace. -/
theorem run_refines (h : w.Coherent) (xs : List WorkspaceStep) :
    w.replies xs = w.plain.replies xs ∧ (w.after xs).plain = w.plain.after xs := by
  induction xs generalizing w with
  | nil => exact ⟨rfl, rfl⟩
  | cons x xs ih =>
    obtain ⟨hfst, hplain, hcoherent⟩ := step_refines h x
    obtain ⟨hreplies, hafter⟩ := ih hcoherent
    rw [hplain] at hreplies hafter
    exact ⟨congrArg₂ List.cons hfst hreplies, hafter⟩

/-- **Caches change no result.** In a run from the beginning every step has the result that it has
without caches; and two runs that differ in nothing but which caches there are, which bundles share
them and when they are cleared have the same results. -/
theorem replies_run (library : LocaleLibrary) (xs : List WorkspaceStep) :
    (empty library).replies xs = (PlainWorkspace.empty library).replies xs ∧
    ((empty library).after xs).plain = (PlainWorkspace.empty library).after xs ∧
    ∀ ys : List WorkspaceStep, xs.filterMap (·.cacheless) = ys.filterMap (·.cacheless) →
      WorkspaceStep.answers xs ((empty library).replies xs) =
        WorkspaceStep.answers ys ((empty library).replies ys) := by
  obtain ⟨hreplies, hafter⟩ := run_refines (coherent_empty library) xs
  refine ⟨hreplies, hafter, fun ys hxy => ?_⟩
  have hys : (empty library).replies ys = (PlainWorkspace.empty library).replies ys :=
    (run_refines (coherent_empty library) ys).1
  have hxs : (empty library).replies xs = (PlainWorkspace.empty library).replies xs := hreplies
  rw [hxs, hys, PlainWorkspace.answers_replies, PlainWorkspace.answers_replies, hxy]

/-- A category for one and one for all other numbers. -/
def oneOrOther (n : Number) : Except Fault String := .ok (if n = .int 1 then "one" else "other")

/-- Two bundles that share a cache and a registry that is empty at first. The cache is cleared in
between, and a formatter comes late. -/
def sharing : List WorkspaceStep := [
  .openCache, .openRegistry .empty,
  .openBundle {
    locale := "en", formatters := .shared 0, resolver := some (.function oneOrOther)
    cache := some 0 },
  .openBundle { locale := "lv", formatters := .shared 0, cache := some 0 },
  .act 0 (.add (.ofList [("COUNT", "{0|same} {{item|items}}")])),
  .act 1 (.add (.ofList [("COUNT", "{0|same} {{item|items}}"), ("HELLO", "Hi {name}")])),
  .act 0 .clearCache,
  .act 0 (.format "COUNT" [.number (.int 2)] .empty),
  .act 1 (.addFormatter "same" (.formatter .ok)),
  .act 0 (.format "COUNT" [.number (.int 1)] .empty),
  .act 0 (.format "COUNT" [.number (.int 2)] .empty),
  .act 1 (.format "COUNT" [.number (.int 1)] .empty),
  .act 1 (.format "HELLO" [] (.ofList [("name", .text "Ada")])),
  .act 1 (.format "HELLO" [.text "Ada"] .empty),
  .act 1 (.format "HELLO" [.text "Bo"] (.ofList [("name", .text "Ada")])),
  .act 0 (.format "HELLO" [] .empty),
  .act 0 (.add (.ofList [("LATE", "Only {1}")])),
  .act 1 (.introspect "HELLO"),
  .act 1 .ids]

/-- The same bundles, each with a cache of its own. -/
def apart : List WorkspaceStep := [
  .openRegistry .empty,
  .openBundle {
    locale := "en", formatters := .shared 0, resolver := some (.function oneOrOther) },
  .openBundle { locale := "lv", formatters := .shared 0 },
  .act 0 (.add (.ofList [("COUNT", "{0|same} {{item|items}}")])),
  .act 1 (.add (.ofList [("COUNT", "{0|same} {{item|items}}"), ("HELLO", "Hi {name}")])),
  .act 0 (.format "COUNT" [.number (.int 2)] .empty),
  .act 1 (.addFormatter "same" (.formatter .ok)),
  .act 0 (.format "COUNT" [.number (.int 1)] .empty),
  .act 0 (.format "COUNT" [.number (.int 2)] .empty),
  .act 1 (.format "COUNT" [.number (.int 1)] .empty),
  .act 1 (.format "HELLO" [] (.ofList [("name", .text "Ada")])),
  .act 1 (.format "HELLO" [.text "Ada"] .empty),
  .act 1 (.format "HELLO" [.text "Bo"] (.ofList [("name", .text "Ada")])),
  .act 0 (.format "HELLO" [] .empty),
  .act 0 (.add (.ofList [("LATE", "Only {1}")])),
  .act 1 (.introspect "HELLO"),
  .act 1 .ids]

/-- The values of a call are the named ones if there are any, a formatter that comes late is found,
and what is added to one bundle is not in the other. -/
theorem replies_run_sharing :
    sharing.filterMap (·.cacheless) = apart.filterMap (·.cacheless) ∧
      WorkspaceStep.answers sharing ((empty .lone).replies sharing) =
        WorkspaceStep.answers apart ((empty .lone).replies apart) ∧
      (empty .lone).replies sharing = [.done, .done, .done, .done,
        .result (.ok (.diagnostics [])), .result (.ok (.diagnostics [])), .result (.ok .done),
        .result (.error (.render (.failure (.notFound "same")))), .result (.ok .done),
        .result (.ok (.text "1 item")), .result (.ok (.text "2 items")),
        .result (.ok (.text "1 item")), .result (.ok (.text "Hi Ada")),
        .result (.ok (.text "Hi ")), .result (.error .mixedArguments),
        .result (.ok (.text "HELLO")), .result (.ok (.diagnostics [
          .argumentExpected .nonContiguousIndex 0 "1" "LATE", .skippedIndex "LATE"])),
        .result (.ok (.introspection {
          templateId := "HELLO"
          parts := [.text "Hi ", .argument { key := .named "name" }]
          arguments := [{
            key := .named "name", typeTag := none, formatters := [], order := 0
            pluralized := false, optional := false }]
          diagnostics := [] })),
        .result (.ok (.ids ["COUNT", "HELLO"]))] := by
  obtain ⟨hreplies, -, hsame⟩ := replies_run .lone sharing
  have h : sharing.filterMap (·.cacheless) = apart.filterMap (·.cacheless) := rfl
  refine ⟨h, hsame apart h, hreplies.trans ?_⟩
  decide +kernel

end Workspace

end Phrasebook
