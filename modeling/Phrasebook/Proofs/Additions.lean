/-
# Validating a bundle that has grown

Templates are added to a bundle in dictionaries (`TemplateBundle.add_templates`), one after the
other. If every addition succeeds, the bundle stores what a map has after inserting all source texts
in turn, and all of them can be read (`PlainWorkspace.store_after`); nothing else that is done in
the workspace changes this.

What is said of the stored templates does then not depend on how they came there: validating the
bundle agrees with introspecting its templates one by one (`Workspace.exists_validatesAs`), and with
the diagnostics that the additions gave, if no identifier was added twice
(`Workspace.validate_after_additions`).
-/

import Phrasebook.Proofs.Dictionary
import Phrasebook.Proofs.PlainWorkspace

namespace Phrasebook

variable {sources : List (String × String)} {templates : List (String × Template)} {index : Nat}

/-- **A successful addition stores all its source texts, and all of them can be read;** the
diagnostics are those on their templates. -/
theorem PlainBundle.addAll_eq_ok {store : OrderedMap String String} {ds : List Diagnostic}
    (h : (addAll store sources).1 = .ok ds) :
    (addAll store sources).2 = store.insertAll sources ∧
      ∃ templates, Reads sources templates ∧ ds = templates.flatMap diagnosticsOn := by
  induction sources generalizing store ds with
  | nil =>
    obtain rfl := Except.ok.inj h
    exact ⟨rfl, [], .nil, rfl⟩
  | cons s sources ih =>
    rw [addAll] at h ⊢
    cases hs : Template.parse s.2 with
    | error e =>
      rw [Introspection.ofSource, hs] at h
      cases h
    | ok parts =>
      rw [ofSource_of_parse hs] at h ⊢
      obtain ⟨rest, hrest, rfl⟩ := map_eq_ok_iff.1 h
      obtain ⟨hstore, templates, htemplates, rfl⟩ := ih hrest
      exact ⟨hstore, (s.1, parts) :: templates, .cons ⟨rfl, hs⟩ htemplates, rfl⟩

/-- Introspecting a stored source text tells of the template that is read from it. -/
theorem PlainBundle.introspect_of_parse {b : PlainBundle} {id s : String} {parts : Template}
    (hs : b.templates.get? id = some s) (h : Template.parse s = .ok parts) :
    b.introspect id = .ok (.ofParts id parts) := by
  rw [introspect, hs]
  show (Introspection.ofSource id s).mapError BundleError.parse = _
  rw [ofSource_of_parse h]
  rfl

/-- The dictionary that a step adds to the bundle under a number, if it is such a step. -/
def WorkspaceStep.dictionary? (index : Nat) : WorkspaceStep → Option (OrderedMap String String)
  | .act i (.add d) => if i = index then some d else none
  | _ => none

/-- The diagnostics that an addition gave, if it succeeded. -/
def WorkspaceReply.diagnostics? : WorkspaceReply → Option (List Diagnostic)
  | .result (.ok (.diagnostics ds)) => some ds
  | _ => none

/-- The dictionaries that steps add to the bundle under a number, each with the diagnostics that the
addition gave if it succeeded. -/
def additions (index : Nat) (xs : List WorkspaceStep) (rs : List WorkspaceReply) :
    List (OrderedMap String String × Option (List Diagnostic)) :=
  (xs.zip rs).filterMap fun p => (p.1.dictionary? index).map fun d => (d, p.2.diagnostics?)

/-- The additions of a run are that of its first step, if it is one, and those of the steps
behind. -/
theorem additions_cons (index : Nat) (x : WorkspaceStep) (xs : List WorkspaceStep)
    (r : WorkspaceReply) (rs : List WorkspaceReply) :
    additions index (x :: xs) (r :: rs) =
      ((x.dictionary? index).map fun d => (d, r.diagnostics?)).toList ++ additions index xs rs := by
  rw [additions, List.zip_cons_cons, List.filterMap_cons]
  cases x.dictionary? index with
  | none => rfl
  | some d => rfl

namespace PlainWorkspace

variable {p p' : PlainWorkspace} {x : WorkspaceStep} {xs : List WorkspaceStep}
  {d : OrderedMap String String} {ds : List Diagnostic}

/-- The source texts of the bundle under a number; none if there is no such bundle. -/
def store (p : PlainWorkspace) (index : Nat) : OrderedMap String String :=
  (p.bundles[index]?.map (·.templates)).getD .empty

/-- A new registry leaves the bundles. -/
theorem bundles_openRegistry {locale : String} {formatters : BundleFormatters} {registry : Nat}
    (h : p.openRegistry locale formatters = .ok (registry, p')) : p'.bundles = p.bundles := by
  rcases formatters with _ | shared | (r | m)
  case own.mapping =>
    obtain ⟨fs, -, hfs⟩ := map_eq_ok_iff.1 h
    obtain ⟨-, rfl⟩ := Prod.mk.inj hfs
    rfl
  all_goals
    obtain ⟨-, rfl⟩ := Prod.mk.inj (Except.ok.inj h)
    rfl

/-- A new bundle comes last and has no templates. -/
theorem exists_bundles_openBundle {s : BundleSettings} (h : p.openBundle s = .ok p') :
    ∃ b, p'.bundles = p.bundles ++ [b] ∧ b.templates = .empty := by
  unfold openBundle at h
  split at h
  · cases h
  · split at h
    · cases h
    · rename_i registry p₁ hregistry
      split at h
      · cases h
      · obtain rfl := Except.ok.inj h
        exact ⟨_, by rw [← bundles_openRegistry hregistry], rfl⟩

/-- A new bundle changes the source texts under no number. -/
theorem store_openBundle {s : BundleSettings} (h : p.openBundle s = .ok p') :
    p'.store index = p.store index := by
  obtain ⟨b, hb, hempty⟩ := exists_bundles_openBundle h
  rw [store, store, hb]
  rcases Nat.lt_trichotomy index p.bundles.length with hlt | rfl | hgt
  · rw [List.getElem?_append_left hlt]
  · simp [hempty]
  · have hlast : (p.bundles ++ [b]).length ≤ index := by
      rw [List.length_append, List.length_singleton]
      omega
    rw [List.getElem?_eq_none hlast, List.getElem?_eq_none (Nat.le_of_lt hgt)]

/-- **A step that adds nothing to a bundle leaves its source texts.** -/
theorem store_step_of_eq_none (h : x.dictionary? index = none) :
    (p.step x).2.store index = p.store index := by
  rcases x with _ | r | s | ⟨cache, source⟩ | ⟨i, a⟩
  case openBundle =>
    rw [step]
    split
    · rename_i p' hp
      exact store_openBundle hp
    · rfl
  case act =>
    rw [step, act]
    cases hb : p.bundles[i]? with
    | none => rfl
    | some b =>
      rcases a with d | _ | _ | _ | _ | _ | _ | ⟨name, input⟩ | _
      case add =>
        have hne : i ≠ index := fun hi => by simp [WorkspaceStep.dictionary?, hi] at h
        show ((p.bundles.set i _)[index]?.map (·.templates)).getD .empty = _
        rw [List.getElem?_set_ne hne]
        rfl
      case format =>
        simp only [actOn]
        split <;> rfl
      case addFormatter =>
        simp only [actOn]
        split <;> rfl
      all_goals rfl
  all_goals rfl

/-- **A successful addition stores the source texts of its dictionary,** and all of them can be
read. -/
theorem store_step_of_eq_some (h : x.dictionary? index = some d)
    (hds : (p.step x).1.diagnostics? = some ds) :
    (p.step x).2.store index = (p.store index).insertAll d.entries ∧
      ∃ templates, Reads d.entries templates ∧ ds = templates.flatMap diagnosticsOn := by
  rcases x with _ | _ | _ | _ | ⟨i, a⟩
  case act =>
    rcases a with d' | _ | _ | _ | _ | _ | _ | _ | _
    case add =>
      have hi : i = index ∧ d' = d := by simpa [WorkspaceStep.dictionary?] using h
      obtain ⟨rfl, rfl⟩ := hi
      rw [step, act] at hds ⊢
      cases hb : p.bundles[i]? with
      | none =>
        rw [hb] at hds
        cases hds
      | some b =>
        rw [hb] at hds
        have hadded : (PlainBundle.addAll b.templates d'.entries).1 = .ok ds := by
          simp only [actOn] at hds
          generalize PlainBundle.addAll b.templates d'.entries = added at hds ⊢
          obtain ⟨_ | ds', store'⟩ := added
          · cases hds
          · exact congrArg Except.ok (Option.some.inj hds)
        obtain ⟨hstore, hreads⟩ := PlainBundle.addAll_eq_ok hadded
        refine ⟨?_, hreads⟩
        have hlt : i < p.bundles.length := (List.getElem?_eq_some_iff.1 hb).1
        show ((p.bundles.set i _)[i]?.map (·.templates)).getD .empty = _
        rw [List.getElem?_set_self hlt, store, hb]
        exact hstore
    all_goals cases h
  all_goals cases h

/-- **After steps in which all additions to a bundle succeed, it stores what has been added,** and
all of it can be read. -/
theorem store_after (adds : List (OrderedMap String String × List Diagnostic))
    (h : additions index xs (p.replies xs) = adds.map fun a => (a.1, some a.2)) :
    (p.after xs).store index = (p.store index).insertAll (adds.flatMap (·.1.entries)) ∧
      ∃ templates, Reads (adds.flatMap (·.1.entries)) templates ∧
        adds.flatMap (·.2) = templates.flatMap diagnosticsOn := by
  induction xs generalizing p adds with
  | nil =>
    obtain rfl : adds = [] := List.map_eq_nil_iff.1 h.symm
    exact ⟨rfl, [], .nil, rfl⟩
  | cons x xs ih =>
    rw [replies, additions_cons] at h
    show ((p.step x).2.after xs).store index = _ ∧ _
    cases hx : x.dictionary? index with
    | none =>
      rw [hx] at h
      obtain ⟨hafter, hreads⟩ := ih adds h
      exact ⟨hafter.trans (by rw [store_step_of_eq_none hx]), hreads⟩
    | some d =>
      rw [hx] at h
      obtain ⟨a, rest, rfl, ha, hrest⟩ := List.map_eq_cons_iff.1 h.symm
      obtain ⟨rfl, hds⟩ := Prod.mk.inj ha
      obtain ⟨hstore, templates, hreads, hdiagnostics⟩ := store_step_of_eq_some hx hds.symm
      obtain ⟨hafter, others, hothers, hmore⟩ := ih rest hrest.symm
      refine ⟨?_, templates ++ others, hreads.append hothers, ?_⟩
      · rw [hafter, hstore, List.flatMap_cons, OrderedMap.insertAll_append]
      · rw [List.flatMap_cons, List.flatMap_append, hdiagnostics, hmore]

end PlainWorkspace

namespace Workspace

variable {w : Workspace} {b : Bundle} {xs : List WorkspaceStep}

/-- Caches stay coherent in a run. -/
theorem Coherent.after (h : w.Coherent) (xs : List WorkspaceStep) : (w.after xs).Coherent := by
  induction xs generalizing w with
  | nil => exact h
  | cons x xs ih => exact ih (step_refines h x).coherent

/-- What validating the bundle under a number says: `v`. The bundle stores the source texts of the
given templates; `v` has their descriptors and the diagnostics on them, in the order of the bundle,
and says of each of them what introspecting it says. -/
structure ValidatesAs (w : Workspace) (index : Nat) (templates : List (String × Template))
    (v : Validation) : Prop where
  reply : (w.act index .validate).1 = .ok (.validation v)
  ids : (w.act index .ids).1 = .ok (.ids (templates.map Prod.fst))
  source : ∀ t ∈ templates, ∃ s, (w.act index (.source t.1)).1 = .ok (.source (some s)) ∧
    Template.parse s = .ok t.2
  arguments : v.arguments.entries = templates.map fun t => (t.1, t.2.descriptors)
  warnings : v.warnings = templates.flatMap fun t => Descriptor.diagnostics t.2.descriptors t.1
  introspection : ∀ t ∈ templates, ∃ i, (w.act index (.introspect t.1)).1 = .ok (.introspection i) ∧
    v.warningsFor t.1 = i.diagnostics ∧ v.arguments.get? t.1 = some i.arguments
  noWarnings : ∀ id ∉ templates.map Prod.fst, v.warningsFor id = []
  isValid : v.isValid = true ↔ ∀ t ∈ templates, ∃ i,
    (w.act index (.introspect t.1)).1 = .ok (.introspection i) ∧ i.isConsistent = true

/-- What an action on a bundle gives, it gives without caches. -/
theorem act_fst_of_coherent (hw : w.Coherent) (hb : w.bundles[index]? = some b) (a : BundleAction) :
    (w.act index a).1 = (w.plain.actOn index b.plain a).1 := by
  have hplain : w.plain.bundles[index]? = some b.plain := by
    show (w.bundles.map Bundle.plain)[index]? = _
    rw [List.getElem?_map, hb]
    rfl
  rw [(act_refines hw index a).fst, PlainWorkspace.act, hplain]

/-- **Validating a bundle whose source texts can be read agrees with introspecting its templates,**
whatever is kept in the caches. -/
theorem exists_validatesAs (hw : w.Coherent) (hb : w.bundles[index]? = some b)
    (hreads : Reads b.templates.entries templates) : ∃ v, w.ValidatesAs index templates v := by
  obtain ⟨v, hv, harguments, hwarnings⟩ := Validation.ofDictionary_of_reads hreads
  have hact := act_fst_of_coherent hw hb
  have hkeys : templates.map Prod.fst = b.templates.keys := hreads.map_fst
  have hnodup : (templates.map Prod.fst).Nodup := hkeys ▸ b.templates.nodup
  have hintrospect : ∀ t ∈ templates,
      (w.act index (.introspect t.1)).1 = .ok (.introspection (.ofParts t.1 t.2)) := by
    intro t ht
    obtain ⟨s, hs, hread⟩ := hreads.get? ht
    rw [hact, PlainWorkspace.actOn, PlainBundle.introspect_of_parse (b := b.plain) hs hread, map_ok]
  refine ⟨v, ?_, ?_, ?_, harguments, hwarnings, ?_, ?_, ?_⟩
  · have hplain : Validation.ofDictionary b.plain.templates = .ok v := hv
    rw [hact, PlainWorkspace.actOn, hplain]
    rfl
  · rw [hact, hkeys]
    rfl
  · intro t ht
    obtain ⟨s, hs, hread⟩ := hreads.get? ht
    exact ⟨s, by rw [hact, ← hs]; rfl, hread⟩
  · intro t ht
    refine ⟨_, hintrospect t ht, ?_, ?_⟩
    · rw [Validation.warningsFor, hwarnings]
      exact Validation.filter_diagnosticsOn hnodup ht
    · have hentries : (v.arguments.entries.map Prod.fst).Nodup := v.arguments.nodup
      rw [OrderedMap.get?]
      exact OrderedMap.lookup_of_mem (e := (t.1, t.2.descriptors)) hentries
        (harguments ▸ List.mem_map_of_mem (f := fun t => (t.1, t.2.descriptors)) ht)
  · intro id hid
    rw [Validation.warningsFor, hwarnings]
    exact Validation.filter_diagnosticsOn_eq_nil hid
  · rw [Validation.isValid, hwarnings, List.isEmpty_iff, List.flatMap_eq_nil_iff]
    refine forall₂_congr fun t ht => ⟨fun h => ⟨_, hintrospect t ht, List.isEmpty_iff.2 h⟩, ?_⟩
    rintro ⟨i, hi, hconsistent⟩
    obtain rfl : Introspection.ofParts t.1 t.2 = i := by
      simpa using (hintrospect t ht).symm.trans hi
    exact List.isEmpty_iff.1 hconsistent

/-- **Validating a bundle agrees with how its dictionary has grown.** After a run in which all
additions to the bundle succeed, it stores the identifiers in the order in which they were first
added, each with the source text that was added last; its validation agrees with introspecting
each of them, and has the diagnostics that the additions gave if no identifier was added twice. -/
theorem validate_after_additions (library : LocaleLibrary)
    (adds : List (OrderedMap String String × List Diagnostic))
    (hbundle : index < ((empty library).after xs).bundles.length)
    (hadds : additions index xs ((empty library).replies xs) = adds.map fun a => (a.1, some a.2)) :
    ∃ v templates, ((empty library).after xs).ValidatesAs index templates v ∧
      templates.map Prod.fst = ((adds.flatMap (·.1.entries)).map Prod.fst).eraseDups ∧
      (∀ id, (((empty library).after xs).act index (.source id)).1 =
        .ok (.source (OrderedMap.lookup id (adds.flatMap (·.1.entries)).reverse))) ∧
      (((adds.flatMap (·.1.entries)).map Prod.fst).Nodup → v.warnings = adds.flatMap (·.2)) := by
  obtain ⟨hreplies, hplain⟩ := run_refines (coherent_empty library) xs
  have hcoherent := (coherent_empty library).after xs
  generalize (empty library).after xs = w at hbundle hplain hcoherent ⊢
  obtain ⟨hstore, read, hread, hdiagnostics⟩ :=
    PlainWorkspace.store_after (p := (empty library).plain) adds (hreplies ▸ hadds)
  generalize adds.flatMap (·.1.entries) = sources at hstore hread ⊢
  have hb : w.bundles[index]? = some w.bundles[index] := List.getElem?_eq_getElem hbundle
  generalize w.bundles[index] = b at hb
  have hempty : (empty library).plain.store index = .empty := by
    simp [PlainWorkspace.store, plain, empty]
  have htemplates : b.templates = .ofList sources := by
    have hown : w.plain.store index = b.templates := by
      simp [PlainWorkspace.store, plain, hb, Bundle.plain]
    rw [← hown, hplain, hstore, hempty, OrderedMap.insertAll_empty]
  have hreadable : ∀ s ∈ b.templates.entries, ∃ parts, Template.parse s.2 = .ok parts := by
    intro s hs
    rw [htemplates] at hs
    exact hread.template_of_mem (OrderedMap.mem_of_mem_entries_ofList hs)
  obtain ⟨templates, hreads⟩ := exists_reads hreadable
  obtain ⟨v, hv⟩ := exists_validatesAs hcoherent hb hreads
  refine ⟨v, templates, hv, ?_, fun id => ?_, fun hnodup => ?_⟩
  · have hkeys : templates.map Prod.fst = b.templates.keys := hreads.map_fst
    rw [hkeys, htemplates, OrderedMap.keys_ofList]
  · rw [act_fst_of_coherent hcoherent hb, ← OrderedMap.get?_ofList, ← htemplates]
    rfl
  · rw [htemplates, OrderedMap.entries_ofList hnodup] at hreads
    rw [hv.warnings, hdiagnostics, hread.unique hreads]
    rfl

/-- A dictionary with a template that mixes kinds of arguments, and what adding it gives. -/
def firstAddition : OrderedMap String String × List Diagnostic :=
  (.ofList [("GAP", "\x7b0\x7d"), ("MIXED", "\x7ba\x7d \x7b0\x7d")],
    [.argumentExpected .mixedArgumentKinds 1 "a" "MIXED", .mixedArgumentKinds "MIXED"])

/-- A dictionary that replaces a template by one with a gap, and what adding it gives. -/
def secondAddition : OrderedMap String String × List Diagnostic :=
  (.ofList [("NONE", ""), ("GAP", "\x7b1\x7d")],
    [.argumentExpected .nonContiguousIndex 0 "1" "GAP", .skippedIndex "GAP"])

/-- The first dictionary is added to a bundle whose cache is shared with another one. -/
def started : List WorkspaceStep := [
  .openCache, .openRegistry .empty,
  .openBundle { locale := "en", formatters := .shared 0, cache := some 0 },
  .openBundle { locale := "lv", formatters := .shared 0, cache := some 0 },
  .act 0 (.add firstAddition.1), .act 1 (.add (.ofList [("GAP", "\x7b1\x7d")]))]

/-- The other bundle clears the cache before the second dictionary is added. -/
def grown : List WorkspaceStep := started ++ [.act 1 .clearCache, .act 0 (.add secondAddition.1)]

set_option maxRecDepth 20000 in
/-- A bundle that stores two dictionaries validates as the templates in it, whatever another bundle
does to the cache they share. -/
theorem validate_after_additions_grown :
    (∃ v templates, ((empty .lone).after started).ValidatesAs 0 templates v ∧
      v.warnings = firstAddition.2) ∧
      ∃ v templates, ((empty .lone).after grown).ValidatesAs 0 templates v ∧
        templates.map Prod.fst = ["GAP", "MIXED", "NONE"] ∧
        (((empty .lone).after grown).act 0 (.source "GAP")).1 =
          .ok (.source (some "\x7b1\x7d")) := by
  have hbundle : 0 < ((empty .lone).after started).bundles.length := by cbv
  have hadds : additions 0 started ((empty .lone).replies started) =
      [firstAddition].map fun a => (a.1, some a.2) := by cbv
  have hbundle' : 0 < ((empty .lone).after grown).bundles.length := by cbv
  have hadds' : additions 0 grown ((empty .lone).replies grown) =
      [firstAddition, secondAddition].map fun a => (a.1, some a.2) := by cbv
  have hnodup : (([firstAddition].flatMap (·.1.entries)).map Prod.fst).Nodup := by decide
  obtain ⟨v, templates, hv, -, -, hwarnings⟩ :=
    validate_after_additions .lone [firstAddition] hbundle hadds
  obtain ⟨v', templates', hv', hids, hsource, -⟩ :=
    validate_after_additions .lone [firstAddition, secondAddition] hbundle' hadds'
  exact ⟨⟨v, templates, hv, hwarnings hnodup⟩, v', templates', hv', hids, hsource "GAP"⟩

end Workspace

end Phrasebook
