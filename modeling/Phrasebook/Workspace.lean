/-
# Workspaces

A workspace holds bundles (`TemplateBundle`) with the template caches and the registries
that they work with (`ParseCache`, `FormatterRegistry`). A new bundle brings its own cache
and its own registry unless it is given one that is there.

An action on a bundle has a result and leaves a workspace. Where it fails, what it did
before stays.
-/

import Phrasebook.Bundle

namespace Phrasebook

/-- Bundles with their caches and registries. -/
structure Workspace where
  /-- The locale library that new bundles work with. -/
  library : LocaleLibrary
  caches : List TemplateCache
  registries : List Registry
  bundles : List Bundle

/-- The formatters of a new bundle: the standard ones, those of a registry that is there, or what
an application hands in. -/
inductive BundleFormatters where
  | standard
  | shared (registry : Nat)
  | own (input : FormattersInput)

/-- What a new bundle is made from. Without a resolver it follows the rules of its locale, without
a number of a cache it gets one of its own. -/
structure BundleSettings where
  locale : String
  formatters : BundleFormatters := .standard
  resolver : Option ResolverInput := none
  cache : Option Nat := none

/-- Why there is no new bundle. -/
inductive BundleFault where
  | emptyLocale
  | setup (f : SetupFault)
  deriving DecidableEq

namespace BundleFault

/-- What is reported. -/
def message : BundleFault → String
  | emptyLocale => "Locale code cannot be empty"
  | setup f => f.message

end BundleFault

namespace Workspace

/-- The workspace without bundles. -/
def empty (library : LocaleLibrary) : Workspace := ⟨library, [], [], []⟩

/-- The workspace with one more cache. -/
def addCache (w : Workspace) (c : TemplateCache) : Workspace := { w with caches := w.caches ++ [c] }

/-- The workspace with one more registry. -/
def addRegistry (w : Workspace) (r : Registry) : Workspace :=
  { w with registries := w.registries ++ [r] }

/-- The number of the registry of a new bundle, and the workspace with that registry
(`TemplateBundle.__init__`). -/
def openRegistry (w : Workspace) (locale : String) :
    BundleFormatters → Except RegistrationFault (Nat × Workspace)
  | .standard => .ok (w.registries.length, w.addRegistry (.standard w.library locale))
  | .shared registry => .ok (registry, w)
  | .own input => (Registry.ofInput input).map fun r => (w.registries.length, w.addRegistry r)

/-- The number of the cache of a new bundle, and the workspace with that cache. -/
def openCache (w : Workspace) : Option Nat → Nat × Workspace
  | some cache => (cache, w)
  | none => (w.caches.length, w.addCache .empty)

/-- The resolver of a new bundle (`TemplateBundle.__init__`). -/
def resolverOf (w : Workspace) (locale : String) :
    Option ResolverInput → Except ResolverFault PluralResolver
  | none => .ok (.locale w.library locale)
  | some input => PluralResolver.ofInput input

/-- The workspace with one more bundle (`TemplateBundle.__init__`). The formatters are looked at
before the resolver. -/
def openBundle (w : Workspace) (s : BundleSettings) : Except BundleFault Workspace :=
  if s.locale.isEmpty then .error .emptyLocale
  else
    match w.openRegistry s.locale s.formatters with
    | .error f => .error (.setup (.registration f))
    | .ok (registry, w) =>
      match w.resolverOf s.locale s.resolver with
      | .error f => .error (.setup (.resolver f))
      | .ok resolver =>
        let (cache, w) := w.openCache s.cache
        .ok { w with bundles := w.bundles ++ [⟨s.locale, .empty, resolver, registry, cache⟩] }

/-- The cache under a number. -/
def cacheAt (w : Workspace) (index : Nat) : TemplateCache := w.caches[index]?.getD .empty

/-- The registry under a number. -/
def registryAt (w : Workspace) (index : Nat) : Registry := w.registries[index]?.getD .empty

/-- The workspace with another cache under a number. -/
def setCache (w : Workspace) (index : Nat) (c : TemplateCache) : Workspace :=
  { w with caches := w.caches.set index c }

/-- The workspace with another registry under a number. -/
def setRegistry (w : Workspace) (index : Nat) (r : Registry) : Workspace :=
  { w with registries := w.registries.set index r }

/-- The workspace with another bundle under a number. -/
def setBundle (w : Workspace) (index : Nat) (b : Bundle) : Workspace :=
  { w with bundles := w.bundles.set index b }

/-- An action on the bundle `b`, which has the number `index`. -/
def actOn (w : Workspace) (index : Nat) (b : Bundle) :
    BundleAction → Except BundleError BundleReply × Workspace
  | .add templates =>
    let (ds, store, cache) := Bundle.addAll b.templates (w.cacheAt b.cache) templates.entries
    ((ds.map .diagnostics).mapError .parse,
      (w.setCache b.cache cache).setBundle index { b with templates := store })
  | .format id positional named =>
    match Bundle.arguments positional named with
    | .error e => (.error e, w)
    | .ok args =>
      let (text, cache) := b.format (w.registryAt b.registry) (w.cacheAt b.cache) id args
      (text.map .text, w.setCache b.cache cache)
  | .introspect id =>
    let (i, cache) := b.introspect (w.cacheAt b.cache) id
    (i.map .introspection, w.setCache b.cache cache)
  | .validate =>
    let (v, cache) := (w.cacheAt b.cache).validate b.templates
    ((v.map .validation).mapError .parse, w.setCache b.cache cache)
  | .contains id => (.ok (.flag (b.templates.contains id)), w)
  | .source id => (.ok (.source (b.templates.get? id)), w)
  | .ids => (.ok (.ids b.templates.keys), w)
  | .addFormatter name input =>
    match (w.registryAt b.registry).register name input with
    | .error f => (.error (.registration f), w)
    | .ok r => (.ok .done, w.setRegistry b.registry r)
  | .clearCache => (.ok .done, w.setCache b.cache (w.cacheAt b.cache).clear)

/-- An action on the bundle under a number: the result, and the workspace after it. -/
def act (w : Workspace) (index : Nat) (a : BundleAction) :
    Except BundleError BundleReply × Workspace :=
  match w.bundles[index]? with
  | some b => w.actOn index b a
  | none => (.error (.noBundle index), w)

end Workspace

end Phrasebook
