/-
# The names of formatters

A registry (`FormatterRegistry.register`) takes a name that is not empty and has no blanks at its
ends. In a template a name stands between bars and braces; blanks at its ends are taken off, and
blank names are left out. So every name in a template can be registered, and a name that can be
registered stands in some template exactly if it has no bars and no braces
(`Template.registrable_iff_writable`).

Such a name can always stand behind position 0. Rendered with a single value, this template calls
the formatter of the name with this value and calls nothing else (`Renderer.evaluation_showing`).
-/

import Phrasebook.Proofs.Evaluation
import Phrasebook.Proofs.Ranking
import Phrasebook.Proofs.RegistryLog
import Phrasebook.Proofs.WellFormed

namespace Phrasebook

variable {name : String} {f : Formatter} {v : Value}

namespace Registry

variable {r r' : Registry}

/-- Whether a name is taken depends on the name alone. -/
theorem exists_register_iff :
    (∃ r', r.register name (.formatter f) = .ok r') ↔ isName name = true := by
  by_cases hname : isName name = true
  · exact iff_of_true ⟨_, r.register_of_isName hname⟩ hname
  · refine iff_of_false ?_ hname
    rintro ⟨r', h⟩
    rw [register, if_neg hname] at h
    cases h

/-- A formatter is found under the name that it is registered under. -/
theorem resolve_of_register (h : r.register name (.formatter f) = .ok r') :
    r'.resolve name = .ok f := by
  rw [r.register_of_isName (exists_register_iff.1 ⟨r', h⟩)] at h
  obtain rfl := Except.ok.inj h
  simp [resolve, OrderedMap.get?_insert]

/-- A chain of one formatter calls it. -/
theorem callAll_singleton (r : Registry) (v : Value) (name : String) :
    r.callAll v [name] = r.call name v := by
  rw [callAll]
  cases r.call name v <;> rfl

/-- A chain of one formatter makes one call. -/
theorem calls_singleton (r : Registry) (v : Value) (name : String) :
    r.calls v [name] = [⟨name, v⟩] := by
  rw [calls]
  cases r.call name v <;> rfl

end Registry

/-- **The words are the names that a registry takes,** those with bars or braces left out. -/
theorem isWord_toList_iff : IsWord name.toList ↔
    Registry.isName name = true ∧ ∀ x ∈ name.toList, x ≠ '|' ∧ x ≠ '{' ∧ x ≠ '}' := by
  have hne : name.toList ≠ [] ↔ name ≠ "" := not_congr String.toList_eq_nil_iff
  have htrim : Text.trim name.toList = name.toList ↔ Text.trimmed name = name := by
    rw [← String.toList_inj, Text.trimmed, String.toList_ofList]
  rw [Registry.isName_eq_true_iff, ← hne, ← htrim]
  exact ⟨fun h => ⟨⟨h.ne_nil, h.trim_eq⟩, h.free⟩, fun h => ⟨h.1.1, h.1.2, h.2⟩⟩

/-- The argument at position 0 with a single formatter. -/
def Argument.showing (name : String) : Argument where
  key := .positional 0
  formatters := [name]

/-- An argument with one formatter can be written if the name is a word. -/
theorem Argument.isWritable_showing (h : IsWord name.toList) : (showing name).IsWritable where
  key := Nat.pow_pos (by decide)
  typeTag := nofun
  formatters hmem := List.mem_singleton.1 hmem ▸ h

namespace Template

variable {ps : Template} {source : String}

/-- Whether an argument of a template, at the top or inside a form, has a formatter of the given
name. -/
def NamesFormatter (ps : Template) (name : String) : Prop :=
  ∃ a ∈ ps.arguments, name ∈ a.formatters

/-- The source text of a template that shows the value at position 0 with a single formatter. -/
def sourceShowing (name : String) : String := "\x7b0|" ++ name ++ "\x7d"

/-- Whatever name a template has is a word. -/
theorem NamesFormatter.isWord (h : parse source = .ok ps) (hname : ps.NamesFormatter name) :
    IsWord name.toList := by
  obtain ⟨a, ha, hmem⟩ := hname
  have hparts := isWellFormed_of_mem h
  rcases mem_arguments_iff.1 ha with ha | ⟨b, form, hb, hform, ha⟩
  · exact Argument.IsWritable.formatters (hparts _ ha) hmem
  · have hforms := (PluralBlock.IsWellFormed.forms (hparts _ hb) form hform).elements
    exact Argument.IsWritable.formatters (hforms _ ha) hmem

/-- **Every word is named by a template.** -/
theorem parse_sourceShowing (h : IsWord name.toList) :
    parse (sourceShowing name) = .ok [.argument (.showing name)] := by
  have hchars :
      (sourceShowing name).toList = '{' :: ((Argument.showing name).content ++ ['}']) := by
    have hkey : (ArgumentKey.positional 0).chars = ['0'] := by rfl
    simp [sourceShowing, Argument.showing, Argument.content, Argument.typeChars, hkey]
  have hread := TemplatePlaceholder.read_argument (Argument.isWritable_showing h) []
  refine parse_eq_ok_iff.2 ⟨[.placeholder (.argument (.showing name))], ?_, .argument _ .nil⟩
  rw [hchars]
  exact .placeholder hread .nil

end Template

namespace Renderer

/-- A single value and a single formatter: the formatter is called once, with this value, and what
it makes of it is shown. -/
theorem evaluation_showing {t : Renderer} (h : t.registry.resolve name = .ok f) (v : Value) :
    t.evaluation (.sequence [v]) [.argument (.showing name)] =
      ⟨[.positional 0], [], [⟨name, v⟩],
        ((f v).mapError (Registry.errorOf name)).bind Value.rendering⟩ := by
  have hcall : t.registry.call name v = (f v).mapError (Registry.errorOf name) := by
    rw [Registry.call, h]
  have hargument : t.argument (.sequence [v]) (.showing name) =
      ((f v).mapError (Registry.errorOf name)).bind Value.rendering := by
    rw [← hcall, ← Registry.callAll_singleton]
    rfl
  have hcalls : t.argumentCalls (.sequence [v]) (.showing name) = [⟨name, v⟩] :=
    Registry.calls_singleton ..
  rw [evaluation_singleton, part, hargument, partCalls, hcalls]
  rfl

end Renderer

namespace Template

/-- **Registrable names and names in templates.** A name is the name of a formatter in a template
that is read exactly if a registry takes it for a formatter and it has no bars and no braces.
Registered under such a name, a formatter is found there; and wherever it is found, the template
that shows the value at position 0 with this name looks up this position, calls the formatter once
with the value there, calls and asks nothing else, and shows what the formatter makes of it. -/
theorem registrable_iff_writable (name : String) (r : Registry) (f : Formatter) :
    ((∃ source ps, parse source = .ok ps ∧ NamesFormatter ps name) ↔
      (∃ r', r.register name (.formatter f) = .ok r') ∧
        ∀ x ∈ name.toList, x ≠ '|' ∧ x ≠ '{' ∧ x ≠ '}') ∧
    ∀ r', r.register name (.formatter f) = .ok r' →
      (∀ x ∈ name.toList, x ≠ '|' ∧ x ≠ '{' ∧ x ≠ '}') →
        r'.resolve name = .ok f ∧
        ∃ ps, parse (sourceShowing name) = .ok ps ∧ NamesFormatter ps name ∧
          ∀ (t : Renderer) (v : Value), t.registry.resolve name = .ok f →
            t.evaluation (.sequence [v]) ps =
              ⟨[.positional 0], [], [⟨name, v⟩],
                ((f v).mapError (Registry.errorOf name)).bind Value.rendering⟩ := by
  have hnames : NamesFormatter [.argument (.showing name)] name :=
    ⟨_, mem_arguments_iff.2 (.inl (List.mem_singleton_self _)), List.mem_singleton_self _⟩
  refine ⟨?_, fun r' hregister hfree => ?_⟩
  · rw [Registry.exists_register_iff, ← isWord_toList_iff]
    constructor
    · rintro ⟨source, ps, hparse, hps⟩
      exact hps.isWord hparse
    · exact fun hword => ⟨_, _, parse_sourceShowing hword, hnames⟩
  · have hword := isWord_toList_iff.2 ⟨Registry.exists_register_iff.1 ⟨r', hregister⟩, hfree⟩
    exact ⟨Registry.resolve_of_register hregister, _, parse_sourceShowing hword, hnames,
      fun t v ht => Renderer.evaluation_showing ht v⟩

/-- A name of two words can be registered and written, and a name with a closing brace cannot be
written. -/
theorem registrable_iff_writable_two_words :
    (∃ r ps, Registry.empty.register "two words" (.formatter Renderer.emphatic) = .ok r ∧
      parse "\x7b0|two words\x7d" = .ok ps ∧ NamesFormatter ps "two words" ∧
      Renderer.evaluation ⟨.function fun _ => .ok "other", r⟩ (.sequence [.text "Ada"]) ps =
        ⟨[.positional 0], [], [⟨"two words", .text "Ada"⟩], .ok "Ada!"⟩) ∧
    ¬ ∃ source ps, parse source = .ok ps ∧ NamesFormatter ps "a\x7db" := by
  have hfree : ∀ x ∈ "two words".toList, x ≠ '|' ∧ x ≠ '{' ∧ x ≠ '}' := by simp
  obtain ⟨r, hregister⟩ :
      ∃ r, Registry.empty.register "two words" (.formatter Renderer.emphatic) = .ok r := ⟨_, rfl⟩
  obtain ⟨-, hwritten⟩ := registrable_iff_writable "two words" .empty Renderer.emphatic
  obtain ⟨hresolve, ps, hparse, hnames, hshown⟩ := hwritten r hregister hfree
  obtain ⟨hiff, -⟩ := registrable_iff_writable "a\x7db" .empty Renderer.emphatic
  refine ⟨⟨r, ps, hregister, hparse, hnames, hshown ⟨_, r⟩ (.text "Ada") hresolve⟩, fun h => ?_⟩
  exact ((hiff.1 h).2 '}' (by decide)).2.2 rfl

end Template

end Phrasebook
