/-
# Bundles

A bundle (`TemplateBundle`) is a dictionary of templates for one locale, with the plural
resolver and the formatters that they are rendered with. It works through a template cache.
Several bundles may share a cache or a registry, so both belong to a workspace, which knows
them by number.

An identifier without a template is rendered as itself. Adding a list of templates stops at
the first that cannot be read; those before it stay.
-/

import Phrasebook.Formatter.Standard
import Phrasebook.TemplateCache
import Phrasebook.Renderer

namespace Phrasebook

/-- A dictionary of templates for one locale (`TemplateBundle`). -/
structure Bundle where
  locale : String
  templates : OrderedMap String String
  resolver : PluralResolver
  /-- The number of the registry. -/
  registry : Nat
  /-- The number of the template cache. -/
  cache : Nat

/-- What can be done with a bundle, the methods of `TemplateBundle`. -/
inductive BundleAction where
  | add (templates : OrderedMap String String)
  | format (id : String) (positional : List Value) (named : OrderedMap String Value)
  | introspect (id : String)
  | validate
  | contains (id : String)
  | source (id : String)
  | ids
  | addFormatter (name : String) (input : FormatterInput)
  | clearCache

/-- What comes of an action. -/
inductive BundleReply where
  | done
  | diagnostics (ds : List Diagnostic)
  | text (s : String)
  | introspection (i : Introspection)
  | validation (v : Validation)
  | flag (b : Bool)
  | source (s : Option String)
  | ids (ids : List String)
  deriving DecidableEq

/-- Why an action fails. -/
inductive BundleError where
  | noBundle (index : Nat)
  | parse (e : ParseError)
  | render (e : RenderError)
  | mixedArguments
  | unknownTemplate (id : String)
  | registration (f : RegistrationFault)
  deriving DecidableEq

/-- What is reported, if anything of its own. -/
def BundleError.message? : BundleError → Option String
  | noBundle _ => none
  | parse e => some e.message
  | render _ => none
  | mixedArguments => some "Pass either positional or keyword arguments, not both"
  | unknownTemplate id => some ("Template '" ++ id ++ "' not found")
  | registration f => some f.message

namespace Bundle

/-- The source texts of a dictionary after adding templates in turn, with the diagnostics on them,
and the cache after that (`TemplateBundle.add_templates`). -/
def addAll (store : OrderedMap String String) (cache : TemplateCache) :
    List (String × String) →
      Except ParseError (List Diagnostic) × OrderedMap String String × TemplateCache
  | [] => (.ok [], store, cache)
  | (id, source) :: rest =>
    match cache.introspect id source with
    | (.error e, cache) => (.error e, store, cache)
    | (.ok i, cache) =>
      let (ds, store, cache) := addAll (store.insert id source) cache rest
      (ds.map (i.diagnostics ++ ·), store, cache)

/-- The arguments that values and named values make up; they cannot be given both
(`TemplateBundle.format`). -/
def arguments (positional : List Value) (named : OrderedMap String Value) :
    Except BundleError Arguments :=
  match positional, named.entries with
  | vs, [] => .ok (.sequence vs)
  | [], _ :: _ => .ok (.ofNames named)
  | _ :: _, _ :: _ => .error .mixedArguments

/-- The text of a template, and the cache after that (`TemplateBundle.format`). -/
def format (b : Bundle) (registry : Registry) (cache : TemplateCache) (id : String)
    (args : Arguments) : Except BundleError String × TemplateCache :=
  match b.templates.get? id with
  | none => (.ok id, cache)
  | some source =>
    match cache.get source with
    | (.error e, cache) => (.error (.parse e), cache)
    | (.ok parts, cache) =>
      let rendering := Renderer.render ⟨b.resolver, registry⟩ args parts
      (rendering.outcome.mapError .render, cache)

/-- The introspection of a template, and the cache after that (`TemplateBundle.introspect`). -/
def introspect (b : Bundle) (cache : TemplateCache) (id : String) :
    Except BundleError Introspection × TemplateCache :=
  match b.templates.get? id with
  | none => (.error (.unknownTemplate id), cache)
  | some source =>
    let (i, cache) := cache.introspect id source
    (i.mapError .parse, cache)

/-- The number of templates. -/
def size (b : Bundle) : Nat := b.templates.size

/-- A short account of a bundle (`TemplateBundle.__repr__`). -/
def summary (b : Bundle) : String :=
  "TemplateBundle(locale=" ++ Text.quotedString b.locale ++ ", templates=" ++
    String.ofList (Text.numeral b.size) ++ ")"

end Bundle

end Phrasebook
