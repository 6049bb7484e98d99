/-
# What failing leaves behind

A template is read before it is stored (`TemplateBundle.add_templates`). So whatever is done
in a workspace and whatever fails on the way, every source text that a bundle stores can be
read (`PlainWorkspace.Readable.after`), and nothing but an addition ever meets a text that
cannot be read.

An addition that fails has stopped at its first text that cannot be read (`StopsAt`). The
texts in front of it are stored, and nothing else has changed (`Workspace.KeepsPrefix`). Any
other action that fails leaves bundles and registries as they are.
-/

import Phrasebook.Proofs.Additions
import Phrasebook.Proofs.IndexLimit

namespace Phrasebook

variable {sources front rest : List (String × String)} {entry : String × String}
variable {index : Nat} {e : ParseError}

/-- Whether all source texts can be read. -/
def Readable (sources : List (String × String)) : Prop :=
  ∀ s ∈ sources, ∃ parts, Template.parse s.2 = .ok parts

/-- Whether `entry` is the first of some source texts that cannot be read, with `front` in front of
it and `rest` behind it. -/
structure StopsAt (sources front : List (String × String)) (entry : String × String)
    (rest : List (String × String)) (e : ParseError) : Prop where
  sources_eq : sources = front ++ entry :: rest
  readable : Readable front
  parse_eq : Template.parse entry.2 = .error e

/-- Where source texts stop, if not all of them can be read. -/
theorem readable_or_stopsAt (sources : List (String × String)) :
    Readable sources ∨ ∃ front entry rest e, StopsAt sources front entry rest e := by
  induction sources with
  | nil => exact .inl fun s hs => by cases hs
  | cons s sources ih =>
    cases hs : Template.parse s.2 with
    | error e => exact .inr ⟨[], s, sources, e, rfl, fun s hs => (by cases hs), hs⟩
    | ok parts =>
      rcases ih with h | ⟨front, entry, rest, e, rfl, h, he⟩
      · exact .inl (List.forall_mem_cons.2 ⟨⟨parts, hs⟩, h⟩)
      · exact .inr ⟨s :: front, entry, rest, e, rfl,
          List.forall_mem_cons.2 ⟨⟨parts, hs⟩, h⟩, he⟩

namespace PlainBundle

variable {store : OrderedMap String String}

/-- Readable texts are added before the texts behind them. -/
theorem addAll_append (h : Readable front) (sources : List (String × String))
    (store : OrderedMap String String) :
    (addAll store (front ++ sources)).2 = (addAll (store.insertAll front) sources).2 ∧
      ∃ ds, (addAll store (front ++ sources)).1 =
        (addAll (store.insertAll front) sources).1.map (ds ++ ·) := by
  induction front generalizing store with
  | nil =>
    refine ⟨rfl, [], ?_⟩
    show (addAll store sources).1 = (addAll store sources).1.map ([] ++ ·)
    cases (addAll store sources).1 <;> rfl
  | cons s front ih =>
    obtain ⟨⟨parts, hs⟩, hrest⟩ := List.forall_mem_cons.1 h
    obtain ⟨hstore, ds, hds⟩ := ih hrest (store.insert s.1 s.2)
    rw [List.cons_append, addAll, ofSource_of_parse hs]
    refine ⟨hstore, (Introspection.ofParts s.1 parts).diagnostics ++ ds, ?_⟩
    show Except.map _ (addAll _ (front ++ sources)).1 = _
    rw [hds]
    show _ = Except.map _ (addAll ((store.insert s.1 s.2).insertAll front) sources).1
    cases (addAll ((store.insert s.1 s.2).insertAll front) sources).1 <;> simp

/-- **An addition of readable texts stores all of them.** -/
theorem addAll_of_readable (h : Readable sources) (store : OrderedMap String String) :
    ∃ ds, addAll store sources = (.ok ds, store.insertAll sources) := by
  obtain ⟨hstore, ds, hds⟩ := addAll_append h [] store
  rw [List.append_nil] at hstore hds
  exact ⟨ds ++ [], Prod.ext hds hstore⟩

/-- **An addition that stops stores what is in front of the text that cannot be read.** -/
theorem addAll_of_stopsAt (h : StopsAt sources front entry rest e)
    (store : OrderedMap String String) :
    addAll store sources = (.error e, store.insertAll front) := by
  obtain ⟨hstore, ds, hds⟩ := addAll_append h.readable (entry :: rest) store
  have hentry : Introspection.ofSource entry.1 entry.2 = .error e := by
    rw [Introspection.ofSource, h.parse_eq, map_error]
  rw [addAll, hentry] at hstore hds
  rw [h.sources_eq]
  exact Prod.ext hds hstore

/-- What is stored after an addition can be read, whether it stopped or not. -/
theorem readable_addAll (h : Readable store.entries) (sources : List (String × String)) :
    Readable (addAll store sources).2.entries := by
  have hinsert {front : List (String × String)} (hfront : Readable front) :
      Readable (store.insertAll front).entries := fun s hs =>
    (OrderedMap.mem_of_mem_insertAll hs).elim (h s) (hfront s)
  rcases readable_or_stopsAt sources with hall | ⟨front, entry, rest, e, hstop⟩
  · obtain ⟨ds, hadd⟩ := addAll_of_readable hall store
    rw [hadd]
    exact hinsert hall
  · rw [addAll_of_stopsAt hstop]
    exact hinsert hstop.readable

end PlainBundle

namespace PlainWorkspace

variable {p : PlainWorkspace}

/-- Whether all bundles store texts that can be read. -/
def Readable (p : PlainWorkspace) : Prop := ∀ b ∈ p.bundles, Phrasebook.Readable b.templates.entries

namespace Readable

/-- No action stores a text that cannot be read. -/
theorem act (h : p.Readable) (index : Nat) (a : BundleAction) : (p.act index a).2.Readable := by
  rw [PlainWorkspace.act]
  cases hb : p.bundles[index]? with
  | none => exact h
  | some b =>
    have hown := h b (List.mem_of_getElem? hb)
    cases a with
    | add d =>
      intro b' hb'
      rcases List.mem_or_eq_of_mem_set hb' with hmem | rfl
      · exact h b' hmem
      · exact PlainBundle.readable_addAll hown d.entries
    | format id positional named =>
      simp only [actOn]
      split <;> exact h
    | addFormatter name input =>
      simp only [actOn]
      split <;> exact h
    | _ => exact h

/-- **A step keeps the stored texts readable,** whether it fails or not. -/
theorem step (h : p.Readable) (x : WorkspaceStep) : (p.step x).2.Readable := by
  rcases x with _ | r | s | ⟨cache, source⟩ | ⟨index, a⟩
  case openBundle =>
    rw [PlainWorkspace.step]
    split
    · rename_i p' hp
      obtain ⟨b, hbundles, hempty⟩ := exists_bundles_openBundle hp
      intro b' hb'
      rw [hbundles] at hb'
      rcases List.mem_append.1 hb' with hmem | hmem
      · exact h b' hmem
      · rw [List.mem_singleton.1 hmem, hempty]
        exact fun s hs => by cases hs
    · exact h
  case act => exact h.act index a
  all_goals exact h

/-- **After any run, all stored texts can be read.** -/
theorem after (h : p.Readable) (xs : List WorkspaceStep) : (p.after xs).Readable := by
  induction xs generalizing p with
  | nil => exact h
  | cons x xs ih => exact ih (h.step x)

end Readable

/-- No action but an addition meets a text that cannot be read, if all that is stored can be. -/
theorem actOn_ne_parse {b : PlainBundle} {a : BundleAction}
    (hb : Phrasebook.Readable b.templates.entries) (ha : ∀ d, a ≠ .add d) :
    (p.actOn index b a).1 ≠ .error (.parse e) := by
  have hread {id source : String} (hs : b.templates.get? id = some source) :
      ∃ parts, Template.parse source = .ok parts :=
    hb (id, source) (OrderedMap.mem_of_lookup hs)
  cases a with
  | add d => exact absurd rfl (ha d)
  | format id positional named =>
    simp only [actOn]
    rcases hargs : PlainBundle.given positional named with e' | args
    · -- values that are refused are reported as such
      obtain ⟨-, -, rfl⟩ := PlainBundle.given_eq_error_iff.1 hargs
      simp
    · simp only [PlainBundle.format]
      cases hs : b.templates.get? id with
      | none => simp
      | some source =>
        obtain ⟨parts, hparts⟩ := hread hs
        simp only [hparts]
        cases (Renderer.render ⟨.function b.category, ⟨p.registryAt b.registry⟩⟩ args
          parts).outcome <;>
          simp [Except.mapError]
  | introspect id =>
    simp only [actOn]
    cases hs : b.templates.get? id with
    | none => simp [PlainBundle.introspect, hs]
    | some source =>
      obtain ⟨parts, hparts⟩ := hread hs
      rw [PlainBundle.introspect_of_parse hs hparts]
      simp
  | validate =>
    obtain ⟨templates, htemplates⟩ := exists_reads hb
    obtain ⟨v, hv, -⟩ := Validation.ofDictionary_of_reads htemplates
    simp [actOn, hv, Except.mapError]
  | addFormatter name input =>
    simp only [actOn]
    split <;> simp
  | _ => simp [actOn]

end PlainWorkspace

namespace Workspace

variable {w : Workspace} {b : Bundle} {a : BundleAction} {d : OrderedMap String String}
variable {xs : List WorkspaceStep} {err : BundleError}

/-- What a failed addition leaves of a workspace: the texts `front` are stored in the bundle, in
their order and in the place of others with their identifiers, and for `rest` there is what there
was. All else is as it was but for the caches. -/
structure KeepsPrefix (w w' : Workspace) (index : Nat) (b : Bundle)
    (front rest : List (String × String)) : Prop where
  bundles : w'.bundles = w.bundles.set index { b with templates := b.templates.insertAll front }
  registries : w'.registries = w.registries
  library : w'.library = w.library
  ids : (b.templates.insertAll front).keys = (b.templates.keys ++ front.map Prod.fst).eraseDups
  stored : ∀ s ∈ front, (b.templates.insertAll front).get? s.1 = some s.2
  kept : ∀ s ∈ rest, (b.templates.insertAll front).get? s.1 = b.templates.get? s.1

/-- **An addition fails at a text that cannot be read,** and stores what is in front of the first
one. -/
theorem add_of_stopsAt (hw : w.Coherent) (hb : w.bundles[index]? = some b)
    (h : StopsAt d.entries front entry rest e) :
    (w.act index (.add d)).1 = .error (.parse e) ∧
      w.KeepsPrefix (w.act index (.add d)).2 index b front (entry :: rest) := by
  obtain ⟨hds, hstore, -⟩ := addAll_refines (hw.cacheAt b.cache) b.templates d.entries
  rw [PlainBundle.addAll_of_stopsAt h] at hds hstore
  have hact : w.act index (.add d) = w.actOn index b (.add d) := by rw [act, hb]
  have hkeys : (front.map Prod.fst ++ (entry :: rest).map Prod.fst).Nodup := by
    rw [← List.map_append, ← h.sources_eq]
    exact d.nodup
  obtain ⟨hfront, -, hdisjoint⟩ := List.nodup_append.1 hkeys
  rw [hact]
  refine ⟨?_, ?_, rfl, rfl, OrderedMap.keys_insertAll _ _, fun s hs => ?_, fun s hs => ?_⟩
  · simp only [actOn, hds]
    rfl
  · show w.bundles.set index { b with templates := (Bundle.addAll _ _ _).2.1 } = _
    rw [hstore]
  · exact OrderedMap.get?_insertAll_of_mem _ hfront hs
  · -- an identifier stands in a dictionary once, so none of `rest` is in front
    exact OrderedMap.get?_insertAll_of_not_mem _ fun hmem =>
      hdisjoint s.1 hmem s.1 (List.mem_map_of_mem hs) rfl

/-- An addition fails for nothing else. -/
theorem exists_stopsAt_of_add (hw : w.Coherent) (hb : w.bundles[index]? = some b)
    (h : (w.act index (.add d)).1 = .error err) :
    ∃ front entry rest e, err = .parse e ∧ StopsAt d.entries front entry rest e := by
  rcases readable_or_stopsAt d.entries with hall | ⟨front, entry, rest, e, hstop⟩
  · obtain ⟨ds, hadd⟩ := PlainBundle.addAll_of_readable hall b.plain.templates
    rw [act_fst_of_coherent hw hb, PlainWorkspace.actOn, hadd] at h
    cases h
  · have hfails := (add_of_stopsAt hw hb hstop).1
    exact ⟨front, entry, rest, e, Except.error.inj (h.symm.trans hfails), hstop⟩

/-- Where all stored texts can be read, nothing but an addition meets one that cannot be. -/
theorem act_ne_parse (hw : w.Coherent) (hreadable : ∀ b ∈ w.bundles, Readable b.templates.entries)
    (ha : ∀ d, a ≠ .add d) : (w.act index a).1 ≠ .error (.parse e) := by
  cases hb : w.bundles[index]? with
  | none => simp [act, hb]
  | some b =>
    rw [act_fst_of_coherent hw hb]
    exact PlainWorkspace.actOn_ne_parse (hreadable b (List.mem_of_getElem? hb)) ha

/-- An action that adds nothing and fails changes nothing but caches. -/
theorem act_eq_error (ha : ∀ d, a ≠ .add d) (h : (w.act index a).1 = .error err) :
    (w.act index a).2.bundles = w.bundles ∧ (w.act index a).2.registries = w.registries := by
  rw [act] at h ⊢
  cases hb : w.bundles[index]? with
  | none => exact ⟨rfl, rfl⟩
  | some b =>
    rw [hb] at h
    cases a with
    | add d => exact absurd rfl (ha d)
    | format id positional named =>
      simp only [actOn]
      split <;> exact ⟨rfl, rfl⟩
    | addFormatter name input =>
      simp only [actOn] at h ⊢
      split at h
      · exact ⟨rfl, rfl⟩
      · cases h
    | _ => exact ⟨rfl, rfl⟩

/-- **Whatever was done, stored templates can be read, and failing leaves what was there.** In a
workspace after any run, all stored texts can be read. An addition fails if and only if one of its
texts cannot be read; it has then stored the texts in front of the first such text and nothing else.
No other action meets a text that cannot be read, and one that fails leaves bundles and registries
as they are. -/
theorem failures_after (library : LocaleLibrary) (xs : List WorkspaceStep) :
    (∀ b ∈ ((empty library).after xs).bundles, Readable b.templates.entries) ∧
      (∀ index b d, ((empty library).after xs).bundles[index]? = some b →
        (∀ err, (((empty library).after xs).act index (.add d)).1 = .error err →
          ∃ front entry rest e, err = .parse e ∧ StopsAt d.entries front entry rest e) ∧
        ∀ front entry rest e, StopsAt d.entries front entry rest e →
          (((empty library).after xs).act index (.add d)).1 = .error (.parse e) ∧
            ((empty library).after xs).KeepsPrefix
              (((empty library).after xs).act index (.add d)).2 index b front (entry :: rest)) ∧
      ∀ index a err, (∀ d, a ≠ .add d) → (((empty library).after xs).act index a).1 = .error err →
        (∀ e, err ≠ .parse e) ∧
          (((empty library).after xs).act index a).2.bundles = ((empty library).after xs).bundles ∧
          (((empty library).after xs).act index a).2.registries =
            ((empty library).after xs).registries := by
  have hw := (coherent_empty library).after xs
  have hplain : ((empty library).after xs).plain.Readable := by
    rw [(run_refines (coherent_empty library) xs).2]
    exact PlainWorkspace.Readable.after (fun b hb => by cases hb) xs
  generalize (empty library).after xs = w at hw hplain ⊢
  have hreadable (b : Bundle) (hb : b ∈ w.bundles) : Readable b.templates.entries :=
    hplain b.plain (List.mem_map_of_mem hb)
  refine ⟨hreadable, fun index b d hb => ⟨fun err herr => ?_, fun front entry rest e => ?_⟩,
    fun index a err ha herr => ⟨?_, act_eq_error ha herr⟩⟩
  · exact exists_stopsAt_of_add hw hb herr
  · exact add_of_stopsAt hw hb
  · rintro e rfl
    exact act_ne_parse hw hreadable ha herr

/-- A bundle with two templates. -/
def stocked : List WorkspaceStep := [
  .openRegistry .empty, .openBundle { locale := "en", formatters := .shared 0 },
  .act 0 (.add (.ofList [("AGE", "{0}"), ("NAME", "{n}")]))]

/-- A new template, one that cannot be read in the place of another, and one more behind it. -/
def spoiled : List (String × String) :=
  [("NEW", "new"), ("NAME", Template.overlong 4301), ("AGE", "{x}")]

/-- An addition that fails at its second template keeps the first one and nothing else, and an
identifier that is not known leaves all bundles as they are. -/
theorem failures_after_stocked :
    (∃ b, ((empty .lone).after stocked).bundles[0]? = some b ∧
      (((empty .lone).after stocked).act 0 (.add (.ofList spoiled))).1 =
        .error (.parse (.indexTooLong 4301)) ∧
      ((empty .lone).after stocked).KeepsPrefix
        (((empty .lone).after stocked).act 0 (.add (.ofList spoiled))).2 0 b
        [("NEW", "new")] [("NAME", Template.overlong 4301), ("AGE", "{x}")]) ∧
    (((empty .lone).after stocked).act 0 (.introspect "GONE")).1 =
        .error (.unknownTemplate "GONE") ∧
      (((empty .lone).after stocked).act 0 (.introspect "GONE")).2.bundles =
        ((empty .lone).after stocked).bundles := by
  have hbundle : 0 < ((empty .lone).after stocked).bundles.length := by cbv
  have hgone : (((empty .lone).after stocked).act 0 (.introspect "GONE")).1 =
      .error (.unknownTemplate "GONE") := by cbv
  have hnew : Template.parse "new" = .ok [.text "new"] := by cbv
  have hstop : StopsAt (OrderedMap.ofList spoiled).entries [("NEW", "new")]
      ("NAME", Template.overlong 4301) [("AGE", "{x}")] (.indexTooLong 4301) := by
    refine ⟨OrderedMap.entries_ofList (by decide), fun s hs => ?_,
      Template.parse_overlong (by decide)⟩
    rw [List.mem_singleton.1 hs]
    exact ⟨_, hnew⟩
  obtain ⟨-, hadd, hfail⟩ := failures_after .lone stocked
  obtain ⟨-, hstopped⟩ := hadd 0 _ _ (List.getElem?_eq_getElem hbundle)
  obtain ⟨herror, hkeeps⟩ := hstopped _ _ _ _ hstop
  obtain ⟨-, hbundles, -⟩ := hfail 0 (.introspect "GONE") _ (fun d hd => by cases hd) hgone
  exact ⟨⟨_, List.getElem?_eq_getElem hbundle, herror, hkeeps⟩, hgone, hbundles⟩

end Workspace
end Phrasebook
