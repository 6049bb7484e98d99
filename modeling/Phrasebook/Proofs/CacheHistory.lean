/-
# What a template cache knows of its history

A cache (`ParseCache`) is coherent if every template that it keeps is what its source text reads as
(`Coherent`). Asking a coherent cache is reading: whatever is kept, the answer is the one
without a cache, and the cache stays coherent.

In a run every request for a source text is put down, with what came of it and with whether
the text had to be read for it. What a cache keeps and counts is then what follows from the
requests since it was last cleared (`Accounts`): one more request keeps the accounts
(`Accounts.get`), so every action does (`Accounts.act`), and so does every run
(`accounts_run`).
-/

import Phrasebook.Proofs.Descriptor
import Phrasebook.Proofs.Outcome
import Phrasebook.TemplateCache

namespace Phrasebook
namespace TemplateCache

variable {cache : TemplateCache}

/-- A request for the template of a source text: what came of it, and whether the text had to be
read for it. -/
structure Request where
  source : String
  outcome : Except ParseError Template
  read : Bool

/-- Whether a request has given the template of a source text. -/
def Request.yields (r : Request) (s : String) : Bool := r.source == s && r.outcome.isOk

/-- The request for a source text that is made now. -/
def request (cache : TemplateCache) (s : String) : Request :=
  ⟨s, (cache.get s).1, !cache.contains s⟩

/-- A text that is kept is not read; what cannot be read is counted and not kept. -/
theorem get_cases (cache : TemplateCache) (s : String) :
    (∃ parts, cache.entries.get? s = some parts ∧ cache.request s = ⟨s, .ok parts, false⟩ ∧
      cache.get s = (.ok parts, { cache with hits := cache.hits + 1 })) ∨
    (cache.entries.get? s = none ∧
      ((∃ parts, Template.parse s = .ok parts ∧ cache.request s = ⟨s, .ok parts, true⟩ ∧
          cache.get s =
            (.ok parts, ⟨cache.entries.insert s parts, cache.hits, cache.misses + 1⟩)) ∨
        ∃ e, Template.parse s = .error e ∧ cache.request s = ⟨s, .error e, true⟩ ∧
          cache.get s = (.error e, { cache with misses := cache.misses + 1 }))) := by
  cases hs : cache.entries.get? s with
  | some parts =>
    refine .inl ⟨parts, rfl, ?_⟩
    simp [request, get, contains, OrderedMap.contains, hs]
  | none =>
    refine .inr ⟨rfl, ?_⟩
    cases hp : Template.parse s with
    | ok parts =>
      refine .inl ⟨parts, rfl, ?_⟩
      simp [request, get, contains, OrderedMap.contains, hs, hp]
    | error e =>
      refine .inr ⟨e, rfl, ?_⟩
      simp [request, get, contains, OrderedMap.contains, hs, hp]

/-- Whether every template that is kept is what its source text reads as. -/
def Coherent (cache : TemplateCache) : Prop :=
  ∀ entry ∈ cache.entries.entries, Template.parse entry.1 = .ok entry.2

namespace Coherent

/-- A new cache is coherent. -/
theorem empty : Coherent empty := fun _ h => by cases h

/-- **Asking a coherent cache is reading.** -/
theorem get_fst (h : cache.Coherent) (s : String) : (cache.get s).1 = Template.parse s := by
  obtain ⟨parts, hs, -, hg⟩ | ⟨-, ⟨parts, hp, -, hg⟩ | ⟨e, hp, -, hg⟩⟩ := cache.get_cases s
  · have hp : Template.parse s = .ok parts := h (s, parts) (OrderedMap.mem_of_lookup hs)
    rw [hg, hp]
  · rw [hg, hp]
  · rw [hg, hp]

/-- Requests leave a coherent cache coherent. -/
theorem get_snd (h : cache.Coherent) (s : String) : (cache.get s).2.Coherent := by
  obtain ⟨parts, -, -, hg⟩ | ⟨-, ⟨parts, hp, -, hg⟩ | ⟨e, -, -, hg⟩⟩ := cache.get_cases s
  · rw [hg]
    exact h
  · rw [hg]
    intro entry hmem
    obtain rfl | hmem := OrderedMap.mem_of_mem_insertEntry hmem
    · exact hp
    · exact h entry hmem
  · rw [hg]
    exact h

/-- Introspecting through a coherent cache says what introspecting the source text says. -/
theorem introspect_fst (h : cache.Coherent) (templateId s : String) :
    (cache.introspect templateId s).1 = Introspection.ofSource templateId s :=
  congrArg (Except.map (Introspection.ofParts templateId)) (h.get_fst s)

/-- Introspecting through a coherent cache leaves it coherent. -/
theorem introspect_snd (h : cache.Coherent) (templateId s : String) :
    (cache.introspect templateId s).2.Coherent := h.get_snd s

/-- A coherent cache introspects the templates of a dictionary as they are without it, and stays
coherent. -/
theorem introspectAll (h : cache.Coherent) (dictionary : List (String × String)) :
    (cache.introspectAll dictionary).1 = Validation.introspectAll dictionary ∧
      (cache.introspectAll dictionary).2.Coherent := by
  induction dictionary generalizing cache with
  | nil => exact ⟨rfl, h⟩
  | cons entry rest ih =>
    obtain ⟨templateId, s⟩ := entry
    have hfst := h.introspect_fst templateId s
    have hsnd := h.introspect_snd templateId s
    rw [TemplateCache.introspectAll, Validation.introspectAll, ← hfst]
    generalize cache.introspect templateId s = answer at hsnd ⊢
    obtain ⟨e | i, cache'⟩ := answer
    · exact ⟨rfl, hsnd⟩
    · obtain ⟨hrest, hcoherent⟩ := ih hsnd
      exact ⟨congrArg (Except.map (i :: ·)) hrest, hcoherent⟩

/-- Validating through a coherent cache says what validating the dictionary says. -/
theorem validate_fst (h : cache.Coherent) (dictionary : OrderedMap String String) :
    (cache.validate dictionary).1 = Validation.ofDictionary dictionary :=
  congrArg (Except.map Validation.ofIntrospections) (h.introspectAll dictionary.entries).1

/-- Validating through a coherent cache leaves it coherent. -/
theorem validate_snd (h : cache.Coherent) (dictionary : OrderedMap String String) :
    (cache.validate dictionary).2.Coherent := (h.introspectAll dictionary.entries).2

end Coherent

/-- A cache keeps what it had and what the request gives. -/
theorem contains_get (cache : TemplateCache) (s x : String) :
    (cache.get s).2.contains x = (cache.contains x || (cache.request s).yields x) := by
  obtain ⟨parts, hs, hr, hg⟩ | ⟨-, ⟨parts, -, hr, hg⟩ | ⟨e, -, hr, hg⟩⟩ := cache.get_cases s
  · by_cases hsx : s = x
    · subst hsx
      simp [hg, contains, OrderedMap.contains, hs]
    · simp [hg, hr, contains, Request.yields, hsx]
  · rw [hg, hr, contains, OrderedMap.contains_insert, Bool.or_comm, contains]
    exact congrArg _ (Bool.and_true _).symm
  · rw [hg, hr, contains, contains, Request.yields, Except.isOk, Except.toBool, Bool.and_false,
      Bool.or_false]

/-- Every request is a hit or a miss. -/
theorem hits_add_misses_get (cache : TemplateCache) (s : String) :
    (cache.get s).2.hits + (cache.get s).2.misses = cache.hits + cache.misses + 1 := by
  obtain ⟨parts, -, -, hg⟩ | ⟨-, ⟨parts, -, -, hg⟩ | ⟨e, -, -, hg⟩⟩ := cache.get_cases s
  · rw [hg, Nat.add_right_comm]
  · rw [hg, Nat.add_assoc]
  · rw [hg, Nat.add_assoc]

/-- The requests that read their text are the misses. -/
theorem misses_get (cache : TemplateCache) (s : String) :
    (cache.get s).2.misses = cache.misses + if (cache.request s).read then 1 else 0 := by
  obtain ⟨parts, -, hr, hg⟩ | ⟨-, ⟨parts, -, hr, hg⟩ | ⟨e, -, hr, hg⟩⟩ := cache.get_cases s
  · rw [hg, hr]
    rfl
  · rw [hg, hr]
    rfl
  · rw [hg, hr]
    rfl

/-- A miss leaves an entry unless it fails. -/
theorem size_get (cache : TemplateCache) (s : String) :
    (cache.get s).2.size + (if !(cache.request s).outcome.isOk then 1 else 0) =
      cache.size + if (cache.request s).read then 1 else 0 := by
  obtain ⟨parts, -, hr, hg⟩ | ⟨hs, ⟨parts, -, hr, hg⟩ | ⟨e, -, hr, hg⟩⟩ := cache.get_cases s
  · rw [hg, hr]
    rfl
  · have hk := OrderedMap.get?_eq_none_iff.1 hs
    rw [hg, hr, size, OrderedMap.size_insert, if_neg hk]
    rfl
  · rw [hg, hr]
    rfl

/-- The requests for source texts that are made in turn. -/
def requests (cache : TemplateCache) : List String → List Request
  | [] => []
  | s :: rest => cache.request s :: (cache.get s).2.requests rest

/-- The cache after requests for source texts in turn. -/
def after (cache : TemplateCache) : List String → TemplateCache
  | [] => cache
  | s :: rest => (cache.get s).2.after rest

/-- The source texts that are asked for when the templates of a dictionary are introspected: those
up to the first for which there is no template. -/
def asked (cache : TemplateCache) : List (String × String) → List String
  | [] => []
  | (_, s) :: rest =>
    match cache.get s with
    | (.error _, _) => [s]
    | (.ok _, cache) => s :: cache.asked rest

/-- Introspecting the templates of a dictionary leaves the cache as asking for them does. -/
theorem introspectAll_snd (cache : TemplateCache) (dictionary : List (String × String)) :
    (cache.introspectAll dictionary).2 = cache.after (cache.asked dictionary) := by
  induction dictionary generalizing cache with
  | nil => rfl
  | cons entry rest ih =>
    obtain ⟨templateId, s⟩ := entry
    rw [introspectAll, introspect, asked]
    cases hg : cache.get s with
    | mk answer cache' =>
      have hafter : (cache.get s).2 = cache' := congrArg Prod.snd hg
      cases answer with
      | error e => exact hafter.symm
      | ok parts =>
        rw [after, hafter]
        exact ih cache'

end TemplateCache

/-- What can be done with a cache. -/
inductive CacheAction where
  | get (source : String)
  | introspect (templateId source : String)
  | validate (dictionary : OrderedMap String String)
  | contains (source : String)
  | clear

/-- What comes of an action on a cache. -/
inductive CacheReply where
  | template (r : Except ParseError Template)
  | introspection (r : Except ParseError Introspection)
  | validation (r : Except ParseError Validation)
  | flag (b : Bool)
  | done

/-- An action on a cache: the result, and the cache after it. -/
def TemplateCache.act (cache : TemplateCache) : CacheAction → CacheReply × TemplateCache
  | .get s => (.template (cache.get s).1, (cache.get s).2)
  | .introspect templateId s =>
    (.introspection (cache.introspect templateId s).1, (cache.introspect templateId s).2)
  | .validate dictionary =>
    (.validation (cache.validate dictionary).1, (cache.validate dictionary).2)
  | .contains s => (.flag (cache.contains s), cache)
  | .clear => (.done, cache.clear)

/-- A cache with the requests that were made of it since it was last cleared. -/
structure CacheHistory where
  cache : TemplateCache
  requests : List TemplateCache.Request

namespace CacheHistory

open TemplateCache

variable {h : CacheHistory}

/-- The history of a new cache. -/
def empty : CacheHistory := ⟨.empty, []⟩

/-- The requests since the cache was last cleared, after one more action. -/
def requestsAfter (h : CacheHistory) : CacheAction → List Request
  | .get s => h.requests ++ h.cache.requests [s]
  | .introspect _ s => h.requests ++ h.cache.requests [s]
  | .validate dictionary => h.requests ++ h.cache.requests (h.cache.asked dictionary.entries)
  | .contains _ => h.requests
  | .clear => []

/-- The history with one more action. -/
def act (h : CacheHistory) (a : CacheAction) : CacheHistory :=
  ⟨(h.cache.act a).2, h.requestsAfter a⟩

/-- The history of a new cache after actions in turn. -/
def run (as : List CacheAction) : CacheHistory := as.foldl act empty

/-- What comes of an action, by reading alone and by the requests that have been made. -/
def answer (h : CacheHistory) : CacheAction → CacheReply
  | .get s => .template (Template.parse s)
  | .introspect templateId s => .introspection (Introspection.ofSource templateId s)
  | .validate dictionary => .validation (Validation.ofDictionary dictionary)
  | .contains s => .flag (h.requests.any (·.yields s))
  | .clear => .done

/-- What a cache keeps and counts follows from the requests. Every request is a hit or a miss, every
miss has left an entry or has failed, and a text is read exactly where it is a miss. -/
structure Accounts (h : CacheHistory) : Prop where
  coherent : h.cache.Coherent
  outcome : ∀ r ∈ h.requests, r.outcome = Template.parse r.source
  contains : ∀ s, h.cache.contains s = h.requests.any (·.yields s)
  total : h.cache.hits + h.cache.misses = h.requests.length
  misses : h.cache.misses = h.cache.size + h.requests.countP (!·.outcome.isOk)
  read : h.cache.misses = h.requests.countP (·.read)
  /-- A text that can be read has been read once if it is kept, and not at all otherwise. -/
  readOnce : ∀ s, (Template.parse s).isOk = true →
    h.requests.countP (fun r => r.read && r.source == s) = if h.cache.contains s then 1 else 0

namespace Accounts

/-- Of a new cache there is nothing to account for. -/
theorem empty : empty.Accounts where
  coherent := .empty
  outcome := fun r hr => by cases hr
  contains := fun s => rfl
  total := rfl
  misses := rfl
  read := rfl
  readOnce := fun s _ => rfl

/-- **One more request keeps the accounts.** -/
theorem get (ha : h.Accounts) (s : String) :
    (⟨(h.cache.get s).2, h.requests ++ [h.cache.request s]⟩ : CacheHistory).Accounts := by
  have hget : (h.cache.request s).outcome = Template.parse s := ha.coherent.get_fst s
  have hmisses := h.cache.misses_get s
  constructor
  case coherent => exact ha.coherent.get_snd s
  case outcome =>
    intro r hr
    obtain hr | hr := List.mem_append.1 hr
    · exact ha.outcome r hr
    · obtain rfl := List.mem_singleton.1 hr
      exact hget
  case contains =>
    intro x
    rw [contains_get, ha.contains, List.any_append, List.any_cons, List.any_nil, Bool.or_false]
  case total =>
    rw [hits_add_misses_get, ha.total, List.length_append, List.length_singleton]
  case misses =>
    have hsize := h.cache.size_get s
    have hbefore := ha.misses
    simp only [List.countP_append, List.countP_singleton]
    omega
  case read =>
    rw [hmisses, ha.read, List.countP_append, List.countP_singleton]
  case readOnce =>
    intro x hx
    have hread : (h.cache.request s).read = !h.cache.contains s := rfl
    rw [List.countP_append, List.countP_singleton, ha.readOnce x hx, contains_get, hread]
    -- of all requests for the text that is asked for now, the first one reads it
    by_cases hsx : s = x
    · subst hsx
      have hsource : (h.cache.request s).source = s := rfl
      have hyields : (h.cache.request s).yields s = true := by
        simp [Request.yields, hget, hx, hsource]
      rw [hyields, hsource]
      cases h.cache.contains s <;> simp
    · simp [Request.yields, request, hsx]

/-- Requests in turn keep the accounts. -/
theorem after (ha : h.Accounts) (ss : List String) :
    (⟨h.cache.after ss, h.requests ++ h.cache.requests ss⟩ : CacheHistory).Accounts := by
  induction ss generalizing h with
  | nil => simpa [TemplateCache.after, TemplateCache.requests] using ha
  | cons s ss ih =>
    have hrest := ih (ha.get s)
    rwa [List.append_assoc] at hrest

/-- **Whatever is done with a cache keeps the accounts.** -/
theorem act (ha : h.Accounts) (a : CacheAction) : (h.act a).Accounts := by
  cases a with
  | get s => exact ha.after [s]
  | introspect templateId s => exact ha.after [s]
  | validate dictionary =>
    have hafter := ha.after (h.cache.asked dictionary.entries)
    rwa [← introspectAll_snd] at hafter
  | contains s => exact ha
  | clear => exact .empty

/-- What comes of an action is told by reading and by the requests. -/
theorem act_fst (ha : h.Accounts) (a : CacheAction) : (h.cache.act a).1 = h.answer a := by
  cases a with
  | get s => exact congrArg CacheReply.template (ha.coherent.get_fst s)
  | introspect templateId s =>
    exact congrArg CacheReply.introspection (ha.coherent.introspect_fst templateId s)
  | validate dictionary =>
    exact congrArg CacheReply.validation (ha.coherent.validate_fst dictionary)
  | contains s => exact congrArg CacheReply.flag (ha.contains s)
  | clear => rfl

end Accounts

/-- Whatever is done with a cache in turn keeps the accounts. -/
theorem accounts_foldl (ha : h.Accounts) (as : List CacheAction) : (as.foldl act h).Accounts := by
  induction as generalizing h with
  | nil => exact ha
  | cons a as ih => exact ih (ha.act a)

/-- **In every state that a cache can come to, the accounts are right,** and what comes of the next
action is what reading and the requests so far tell. -/
theorem accounts_run (as : List CacheAction) :
    (run as).Accounts ∧ ∀ a, ((run as).cache.act a).1 = (run as).answer a := by
  have ha := accounts_foldl .empty as
  exact ⟨ha, ha.act_fst⟩

/-- A template without parts is kept as any other. -/
example : (run [.get "", .introspect "empty" ""]).requests.map (·.read) = [true, false] := by cbv

end CacheHistory

end Phrasebook
