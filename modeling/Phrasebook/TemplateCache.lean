/-
# Template caches

A template cache (`ParseCache`) keeps the templates of source texts that have been read, and
counts how often it was asked for a text that it had or did not have. A text that cannot be
read is counted and not kept. Clearing a cache forgets the templates and the counts.
-/

import Phrasebook.Introspection
import Phrasebook.Number.Binary64.Shortest
import Phrasebook.OrderedMap
import Phrasebook.Validation

namespace Phrasebook

/-- A template cache (`ParseCache`). -/
structure TemplateCache where
  entries : OrderedMap String Template
  hits : Nat
  misses : Nat

namespace TemplateCache

/-- The cache without entries. -/
def empty : TemplateCache := ⟨.empty, 0, 0⟩

instance : Inhabited TemplateCache := ⟨empty⟩

/-- The template of a source text, and the cache after that (`ParseCache.get_parts`). -/
def get (cache : TemplateCache) (source : String) : Except ParseError Template × TemplateCache :=
  match cache.entries.get? source with
  | some parts => (.ok parts, { cache with hits := cache.hits + 1 })
  | none =>
    let missed := { cache with misses := cache.misses + 1 }
    match Template.parse source with
    | .ok parts => (.ok parts, { missed with entries := cache.entries.insert source parts })
    | .error e => (.error e, missed)

/-- The introspection of a source text, and the cache after that (`introspect_template`). -/
def introspect (cache : TemplateCache) (templateId source : String) :
    Except ParseError Introspection × TemplateCache :=
  let (parts, cache) := cache.get source
  (parts.map (Introspection.ofParts templateId), cache)

/-- The introspections of the templates of a dictionary up to the first that cannot be read, and the
cache after that (`validate_templates`). -/
def introspectAll (cache : TemplateCache) :
    List (String × String) → Except ParseError (List Introspection) × TemplateCache
  | [] => (.ok [], cache)
  | (templateId, source) :: rest =>
    match cache.introspect templateId source with
    | (.error e, cache) => (.error e, cache)
    | (.ok i, cache) =>
      let (is, cache) := cache.introspectAll rest
      (is.map (i :: ·), cache)

/-- The validation of a dictionary, and the cache after that (`TemplateBundle.validate`). -/
def validate (cache : TemplateCache) (dictionary : OrderedMap String String) :
    Except ParseError Validation × TemplateCache :=
  let (is, cache) := cache.introspectAll dictionary.entries
  (is.map Validation.ofIntrospections, cache)

/-- The cache without its entries and its counts (`ParseCache.clear`). -/
def clear (_ : TemplateCache) : TemplateCache := empty

/-- Whether a source text is kept. -/
def contains (cache : TemplateCache) (source : String) : Bool := cache.entries.contains source

/-- The number of source texts that are kept. -/
def size (cache : TemplateCache) : Nat := cache.entries.size

/-- The share of hits in percent, rounded to two places in binary arithmetic; zero for a cache that
has not been used (`ParseCache.get_stats`). -/
def hitRate (cache : TemplateCache) : Binary64 :=
  let total := cache.hits + cache.misses
  if total = 0 then Binary64.nearest false 0 1
  else
    let share := Binary64.roundedQuotient cache.hits total
    let percent := Binary64.roundedQuotient (share.1 * 100) share.2
    Binary64.nearest false (nearestEven (percent.1 * 100) percent.2) 100

end TemplateCache

end Phrasebook
