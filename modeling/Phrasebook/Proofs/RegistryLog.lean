/-
# Registries as logs

What a registry (`FormatterRegistry`) has is told by its log: the names that have been registered,
each with its formatter, in their order, and those first that had been registered in the registry it
was copied from. A log only ever grows at its end. Read as a registry (`Registry.ofLog`) it has
every name once, where it was first registered, with the formatter that was registered last
(`RegistryLog.last?`).

A family of registries and the history of their logs (`RegistryHistory`) give the same
answers in every run, and in the end each registry is what its log says
(`RegistryFamily.run_eq`). As an action changes one log at most, it changes one registry at
most (`RegistryFamily.ActsAlone`).
-/

import Phrasebook.Formatter.Family
import Phrasebook.Formatter.Standard
import Phrasebook.Proofs.OrderedMap
import Phrasebook.Proofs.Outcome

namespace Phrasebook

/-- What has been registered, in its order. -/
abbrev RegistryLog := List (String × Formatter)

variable {log : RegistryLog} {name : String} {input : FormatterInput} {r : Registry}

namespace RegistryLog

/-- The names of a log, each where it is first met. -/
def names (log : RegistryLog) : List String := (log.map Prod.fst).eraseDups

/-- The formatter that was registered last under a name. -/
def last? (log : RegistryLog) (name : String) : Option Formatter :=
  (log.filter (·.1 == name)).getLast?.map Prod.snd

/-- Whether all names of a log are names for formatters. -/
def Clean (log : RegistryLog) : Prop := ∀ e ∈ log, e.1 ≠ "" ∧ Text.trimmed e.1 = e.1

/-- The last formatter under a name is the first one from behind. -/
theorem last?_eq (log : RegistryLog) (name : String) :
    log.last? name = OrderedMap.lookup name log.reverse := by
  induction log using List.reverseRecOn with
  | nil => rfl
  | append_singleton log e ih =>
    rw [last?, List.filter_append, List.reverse_append, List.reverse_singleton,
      List.singleton_append,
      OrderedMap.lookup, ← ih]
    by_cases he : e.1 = name
    · simp [he]
    · simp [he, last?]

end RegistryLog

/-- What a name and what is handed in as a formatter are worth: the formatter, or why it is not
registered. -/
def FormatterInput.accept (name : String) (input : FormatterInput) :
    Except RegistrationFault Formatter :=
  if name = "" ∨ Text.trimmed name ≠ name then .error (.invalidName name)
  else
    match input with
    | .formatter f => .ok f
    | .value kind => .error (.notCallable name kind)

/-- What is accepted is a formatter under a name for one. -/
theorem FormatterInput.accept_eq_ok_iff {f : Formatter} : input.accept name = .ok f ↔
    (name ≠ "" ∧ Text.trimmed name = name) ∧ input = .formatter f := by
  unfold accept
  split
  · rename_i hname
    constructor
    · intro h
      cases h
    · intro h
      exact absurd hname (by simpa [not_or] using h.1)
  · rename_i hname
    have hname : name ≠ "" ∧ Text.trimmed name = name := by simpa [not_or] using hname
    cases input with
    | formatter g => simp [hname]
    | value kind => simp

namespace Registry

/-- A name for a formatter is not empty and has no blanks around it. -/
theorem isName_eq_true_iff : isName name = true ↔ name ≠ "" ∧ Text.trimmed name = name := by
  simp [isName]

/-- A formatter is put under its name, whatever is there. -/
theorem register_of_isName {f : Formatter} (r : Registry) (h : isName name = true) :
    r.register name (.formatter f) = .ok ⟨r.formatters.insert name f⟩ := by
  rw [register, if_pos h]

/-- **Registering puts a formatter that is accepted under its name,** and fails otherwise. -/
theorem register_eq (r : Registry) (name : String) (input : FormatterInput) :
    r.register name input = (input.accept name).map fun f => ⟨r.formatters.insert name f⟩ := by
  have hname : isName name = true ↔ ¬ (name = "" ∨ Text.trimmed name ≠ name) := by
    rw [isName_eq_true_iff, not_or, Classical.not_not]
  unfold register FormatterInput.accept
  by_cases h : isName name = true
  · rw [if_pos h, if_neg (hname.1 h)]
    cases input <;> rfl
  · rw [if_neg h, if_pos (Classical.not_not.1 (mt hname.2 h))]
    rfl

/-- The registry that a log says there is. -/
def ofLog (log : RegistryLog) : Registry := ⟨.ofList log⟩

/-- **Registering is one more entry in the log,** where it does not fail. -/
theorem register_ofLog (log : RegistryLog) (name : String) (input : FormatterInput) :
    (ofLog log).register name input =
      (input.accept name).map fun f => ofLog (log ++ [(name, f)]) := by
  rw [register_eq]
  refine congrArg ((input.accept name).map ·) (funext fun f => ?_)
  rw [ofLog, ofLog, OrderedMap.ofList_concat]

/-- A registry lists each name of its log where it is first met. -/
theorem names_ofLog (log : RegistryLog) : (ofLog log).names = log.names :=
  OrderedMap.keys_ofList log

/-- A registry has under a name what was registered last. -/
theorem get?_ofLog (log : RegistryLog) (name : String) :
    (ofLog log).formatters.get? name = log.last? name := by
  rw [ofLog, OrderedMap.get?_ofList, RegistryLog.last?_eq]

/-- Resolving a name finds what was registered last under it, or says that there is nothing. -/
theorem resolve_ofLog (log : RegistryLog) (name : String) : (ofLog log).resolve name =
    match log.last? name with
    | some f => .ok f
    | none => .error (.notFound name) := by
  cases hlast : log.last? name <;> simp only [resolve, get?_ofLog, hlast]

/-- A registry contains the names of its log. -/
theorem contains_ofLog (log : RegistryLog) (name : String) :
    (ofLog log).contains name = decide (name ∈ log.names) := by
  rw [Bool.eq_iff_iff, decide_eq_true_iff, ← names_ofLog]
  exact OrderedMap.contains_iff_mem_keys

/-- A registry is as large as its log has names. -/
theorem size_ofLog (log : RegistryLog) : (ofLog log).size = log.names.length := by
  rw [← names_ofLog]
  exact OrderedMap.size_eq_length_keys _

/-- Whether a registry keeps names for formatters, each once, and all that is said of it is said of
these names. -/
structure Agrees (r : Registry) : Prop where
  isName : ∀ name ∈ r.names, name ≠ "" ∧ Text.trimmed name = name
  nodup : r.names.Nodup
  size : r.size = r.names.length
  contains : ∀ name, r.contains name = true ↔ name ∈ r.names
  resolve : ∀ name, (∃ f, r.resolve name = .ok f) ↔ name ∈ r.names

/-- **What a log says agrees,** if its names are names for formatters. -/
theorem agrees_ofLog (h : log.Clean) : (ofLog log).Agrees where
  isName name hname := by
    rw [names_ofLog, RegistryLog.names, List.mem_eraseDups] at hname
    obtain ⟨e, he, rfl⟩ := List.mem_map.1 hname
    exact h e he
  nodup := (ofLog log).formatters.nodup
  size := OrderedMap.size_eq_length_keys _
  contains _ := OrderedMap.contains_iff_mem_keys
  resolve name := by
    rw [names, ← OrderedMap.contains_iff_mem_keys, OrderedMap.contains, resolve]
    cases (ofLog log).formatters.get? name <;> simp

end Registry

/-- The log of a registry, and the logs of the copies that have been made. -/
structure RegistryHistory where
  logs : List RegistryLog

namespace RegistryHistory

/-- The result of an action, as the log of the registry tells it. -/
def answer (h : RegistryHistory) (log : RegistryLog) :
    RegistryAction → Except RegistryError RegistryReply
  | .register name input => ((input.accept name).map fun _ => .registered).mapError .registration
  | .resolve name =>
    match log.last? name with
    | some f => .ok (.resolved f)
    | none => .error (.failure (.notFound name))
  | .call name v =>
    match log.last? name with
    | some f => ((f v).map .value).mapError fun fault => .render (Registry.errorOf name fault)
    | none => .error (.render (.failure (.notFound name)))
  | .contains name => .ok (.flag (decide (name ∈ log.names)))
  | .names => .ok (.names log.names)
  | .size => .ok (.number log.names.length)
  | .copy => .ok (.number h.logs.length)

/-- The history after an action on the registry with the log `log`. -/
def next (h : RegistryHistory) (index : Nat) (log : RegistryLog) : RegistryAction → RegistryHistory
  | .register name input =>
    match input.accept name with
    | .ok f => ⟨h.logs.set index (log ++ [(name, f)])⟩
    | .error _ => h
  | .copy => ⟨h.logs ++ [log]⟩
  | _ => h

/-- An action on the registry under a number: the result, and the history after it. -/
def act (h : RegistryHistory) (index : Nat) (a : RegistryAction) :
    Except RegistryError RegistryReply × RegistryHistory :=
  match h.logs[index]? with
  | some log => (h.answer log a, h.next index log a)
  | none => (.error (.noMember index), h)

/-- The results of actions in turn, each on the registry under its number. -/
def replies (h : RegistryHistory) :
    List (Nat × RegistryAction) → List (Except RegistryError RegistryReply)
  | [] => []
  | x :: xs => (h.act x.1 x.2).1 :: (h.act x.1 x.2).2.replies xs

/-- The history after actions in turn. -/
def after (h : RegistryHistory) (xs : List (Nat × RegistryAction)) : RegistryHistory :=
  xs.foldl (fun h x => (h.act x.1 x.2).2) h

/-- The registries that the logs say there are. -/
def family (h : RegistryHistory) : RegistryFamily := ⟨h.logs.map .ofLog⟩

/-- Whether all names in the logs are names for formatters. -/
def Clean (h : RegistryHistory) : Prop := ∀ log ∈ h.logs, log.Clean

end RegistryHistory

namespace RegistryHistory

/-- **An action keeps the logs clean.** -/
theorem Clean.act {h : RegistryHistory} (hc : h.Clean) (index : Nat) (a : RegistryAction) :
    (h.act index a).2.Clean := by
  rw [RegistryHistory.act]
  cases hlog : h.logs[index]? with
  | none => exact hc
  | some log =>
    have hown := hc log (List.mem_of_getElem? hlog)
    cases a with
    | register name input =>
      show (h.next index log (.register name input)).Clean
      rw [next]
      cases hf : input.accept name with
      | error e => exact hc
      | ok f =>
        intro log' hlog'
        rcases List.mem_or_eq_of_mem_set hlog' with hmem | rfl
        · exact hc log' hmem
        · exact List.forall_mem_append.2 ⟨hown, List.forall_mem_singleton.2
            (FormatterInput.accept_eq_ok_iff.1 hf).1⟩
    | copy => exact List.forall_mem_append.2 ⟨hc, List.forall_mem_singleton.2 hown⟩
    | _ => exact hc

/-- **A run keeps the logs clean.** -/
theorem Clean.after {h : RegistryHistory} (hc : h.Clean) (xs : List (Nat × RegistryAction)) :
    (h.after xs).Clean := by
  induction xs generalizing h with
  | nil => exact hc
  | cons x xs ih => exact ih (hc.act x.1 x.2)

end RegistryHistory

namespace RegistryFamily

/-- The results of actions in turn, each on the registry under its number. -/
def replies (family : RegistryFamily) :
    List (Nat × RegistryAction) → List (Except RegistryError RegistryReply)
  | [] => []
  | x :: xs => (family.act x.1 x.2).1 :: (family.act x.1 x.2).2.replies xs

/-- The family after actions in turn. -/
def after (family : RegistryFamily) (xs : List (Nat × RegistryAction)) : RegistryFamily :=
  xs.foldl (fun family x => (family.act x.1 x.2).2) family

variable {h : RegistryHistory}

/-- A registry answers as its log tells. -/
theorem answer_ofLog (h : RegistryHistory) (log : RegistryLog) (a : RegistryAction) :
    h.family.answer (.ofLog log) a = h.answer log a := by
  cases a with
  | register name input =>
    rw [answer, RegistryHistory.answer, Registry.register_ofLog]
    cases input.accept name <;> rfl
  | resolve name =>
    rw [answer, RegistryHistory.answer, Registry.resolve_ofLog]
    cases log.last? name <;> rfl
  | call name v =>
    rw [answer, RegistryHistory.answer, Registry.call, Registry.resolve_ofLog]
    cases log.last? name with
    | none => rfl
    | some f =>
      dsimp only
      cases f v <;> rfl
  | contains name => rw [answer, RegistryHistory.answer, Registry.contains_ofLog]
  | names => rw [answer, RegistryHistory.answer, Registry.names_ofLog]
  | size => rw [answer, RegistryHistory.answer, Registry.size_ofLog]
  | copy => rw [answer, RegistryHistory.answer, RegistryHistory.family, List.length_map]

/-- An action changes the registry as it changes its log. -/
theorem next_ofLog (h : RegistryHistory) (index : Nat) (log : RegistryLog) (a : RegistryAction) :
    h.family.next index (.ofLog log) a = (h.next index log a).family := by
  cases a with
  | register name input =>
    rw [next, RegistryHistory.next, Registry.register_ofLog]
    cases input.accept name with
    | error e => rfl
    | ok f => simp [RegistryHistory.family, List.map_set]
  | copy => simp [next, RegistryHistory.next, RegistryHistory.family]
  | _ => rfl

/-- **An action has the outcome that the logs say it has.** -/
theorem act_family (h : RegistryHistory) (index : Nat) (a : RegistryAction) :
    h.family.act index a = ((h.act index a).1, (h.act index a).2.family) := by
  have hmember : h.family.members[index]? = h.logs[index]?.map .ofLog := List.getElem?_map
  rw [act, RegistryHistory.act, hmember]
  cases h.logs[index]? with
  | none => rfl
  | some log => exact Prod.ext (answer_ofLog h log a) (next_ofLog h index log a)

/-- **A run has the results that the logs say it has,** and in the end each registry is what its log
says. -/
theorem run_eq (h : RegistryHistory) (xs : List (Nat × RegistryAction)) :
    h.family.replies xs = h.replies xs ∧ h.family.after xs = (h.after xs).family := by
  induction xs generalizing h with
  | nil => exact ⟨rfl, rfl⟩
  | cons x xs ih =>
    obtain ⟨hreplies, hafter⟩ := ih (h.act x.1 x.2).2
    rw [replies, RegistryHistory.replies, act_family]
    refine ⟨congrArg _ hreplies, ?_⟩
    show (h.family.act x.1 x.2).2.after xs = _
    rw [act_family]
    exact hafter

/-- What an action can change: nothing if it fails or only looks at a registry; the one registry
that a formatter is registered in, where a new name comes last and a known one keeps its place; and
a copy is one registry more. -/
structure ActsAlone (family : RegistryFamily) : Prop where
  failure : ∀ index a err, (family.act index a).1 = .error err → (family.act index a).2 = family
  look : ∀ index a, (∀ name input, a ≠ .register name input) → a ≠ .copy →
    (family.act index a).2 = family
  register : ∀ index member name f, family.members[index]? = some member → name ≠ "" →
    Text.trimmed name = name → ∃ member' : Registry,
      family.act index (.register name (.formatter f)) =
        (.ok .registered, ⟨family.members.set index member'⟩) ∧
      member'.names = (if name ∈ member.names then member.names else member.names ++ [name]) ∧
      ∀ other, member'.resolve other = if name = other then .ok f else member.resolve other
  copy : ∀ index member, family.members[index]? = some member →
    family.act index .copy = (.ok (.number family.members.length), ⟨family.members ++ [member]⟩)

/-- **No action changes more than it should.** -/
theorem actsAlone (family : RegistryFamily) : family.ActsAlone where
  failure index a err herr := by
    rw [act] at herr ⊢
    cases hm : family.members[index]? with
    | none => rfl
    | some member =>
      rw [hm] at herr
      cases a with
      | register name input =>
        simp only [answer] at herr
        simp only [next]
        split at herr
        · cases herr
        · rfl
      | copy => cases herr
      | _ => rfl
  look index a hregister hcopy := by
    rw [act]
    cases family.members[index]? with
    | none => rfl
    | some member =>
      cases a with
      | register name input => exact absurd rfl (hregister name input)
      | copy => exact absurd rfl hcopy
      | _ => rfl
  register index member name f hm hne htrim := by
    have hname : Registry.isName name = true := Registry.isName_eq_true_iff.2 ⟨hne, htrim⟩
    have hregister : member.register name (.formatter f) =
        .ok ⟨member.formatters.insert name f⟩ := member.register_of_isName hname
    refine ⟨⟨member.formatters.insert name f⟩, ?_, OrderedMap.keys_insert .., fun other => ?_⟩
    · simp only [act, hm, answer, next, hregister]
    · rw [Registry.resolve, OrderedMap.get?_insert, Registry.resolve]
      by_cases hother : name = other <;> simp [hother]
  copy index member hm := by simp only [act, hm, answer, next]

end RegistryFamily

/-- The formatters among what is handed in, under their names. -/
def accepted (ps : List (String × FormatterInput)) : RegistryLog :=
  ps.filterMap fun p =>
    match p.2 with
    | .formatter f => some (p.1, f)
    | .value _ => none

/-- Where nothing fails, all that is handed in is registered, in its order. -/
theorem Registry.registerAll_ofLog {ps : List (String × FormatterInput)}
    (h : (ofLog log).registerAll ps = .ok r) : r = ofLog (log ++ accepted ps) ∧
      (accepted ps).Clean := by
  induction ps generalizing log with
  | nil =>
    obtain rfl := Except.ok.inj h
    exact ⟨by rw [accepted, List.filterMap_nil, List.append_nil], fun e he => by cases he⟩
  | cons p ps ih =>
    obtain ⟨name, input⟩ := p
    obtain ⟨r₁, hregister, hrest⟩ := bind_eq_ok_iff.1 h
    rw [register_ofLog] at hregister
    obtain ⟨f, hf, rfl⟩ := map_eq_ok_iff.1 hregister
    obtain ⟨hname, rfl⟩ := FormatterInput.accept_eq_ok_iff.1 hf
    obtain ⟨hr, hclean⟩ := ih hrest
    have hcons : accepted ((name, .formatter f) :: ps) = (name, f) :: accepted ps := rfl
    rw [hcons]
    exact ⟨by rw [hr, List.append_assoc, List.singleton_append],
      List.forall_mem_cons.2 ⟨hname, hclean⟩⟩

/-- What a registry is started from: nothing, a mapping, or the standard formatters for a locale. -/
inductive RegistryOrigin where
  | empty
  | mapping (m : OrderedMap String FormatterInput)
  | standard (library : LocaleLibrary) (code : String)

namespace RegistryOrigin

/-- The registry, if the mapping has nothing that cannot be registered. -/
def registry : RegistryOrigin → Except RegistrationFault Registry
  | empty => .ok .empty
  | mapping m => Registry.ofMapping m
  | standard library code => .ok (.standard library code)

/-- What is registered at the start, in its order. -/
def registered : RegistryOrigin → RegistryLog
  | empty => []
  | mapping m => accepted m.entries
  | standard library code => Formatter.standard library code

/-- The history at the start. -/
def history (o : RegistryOrigin) : RegistryHistory := ⟨[o.registered]⟩

/-- **At the start a registry is what its log says,** and its names are names for formatters. -/
theorem registry_eq_ok {o : RegistryOrigin} (h : o.registry = .ok r) :
    r = .ofLog o.registered ∧ o.registered.Clean := by
  cases o with
  | empty =>
    obtain rfl := Except.ok.inj h
    exact ⟨rfl, fun e he => by cases he⟩
  | mapping m =>
    have hall : (Registry.ofLog []).registerAll m.entries = .ok r := h
    exact Registry.registerAll_ofLog hall
  | standard library code =>
    obtain rfl := Except.ok.inj h
    refine ⟨rfl, ?_⟩
    have hnames : ∀ name ∈ (Formatter.standard library code).map Prod.fst,
        name ≠ "" ∧ Text.trimmed name = name := by
      rw [show (Formatter.standard library code).map Prod.fst = ["uppercase", "lowercase", "identity",
        "ignore", "number", "date", "time"] from rfl]
      decide
    exact fun e he => hnames e.1 (List.mem_map_of_mem he)

end RegistryOrigin

namespace RegistryFamily

/-- **A registry and its copies are maps in order of registration.** Started from nothing, from a
mapping or from the standard formatters, in every run they answer what their logs say, and in the
end each of them is what its log says. They keep names for formatters, each once, on which listing,
size, membership and lookup agree. Whatever is done next changes nothing if it fails or only looks
at a registry, and never more than one registry. -/
theorem follows_logs {o : RegistryOrigin} (h : o.registry = .ok r)
    (xs : List (Nat × RegistryAction)) :
    (ofRegistry r).replies xs = o.history.replies xs ∧
      (ofRegistry r).after xs = (o.history.after xs).family ∧
      (∀ member ∈ ((ofRegistry r).after xs).members, member.Agrees) ∧
      ((ofRegistry r).after xs).ActsAlone := by
  obtain ⟨rfl, hclean⟩ := RegistryOrigin.registry_eq_ok h
  have hfamily : ofRegistry (.ofLog o.registered) = o.history.family := rfl
  have hstart : o.history.Clean := List.forall_mem_singleton.2 hclean
  obtain ⟨hreplies, hafter⟩ := run_eq o.history xs
  rw [hfamily]
  refine ⟨hreplies, hafter, ?_, actsAlone _⟩
  rw [hafter]
  intro member hmember
  obtain ⟨log, hlog, rfl⟩ := List.mem_map.1 hmember
  exact Registry.agrees_ofLog (hstart.after xs log hlog)

/-- Two formatters by name. -/
def pair : OrderedMap String FormatterInput :=
  .ofList [("b", .formatter .identity), ("a", .formatter .ignore)]

/-- A copy gets another formatter for a name and one more name, after two that it does not get. -/
def forked : List (Nat × RegistryAction) := [
  (0, .copy), (1, .register "b" (.formatter .uppercase)), (1, .register " c" (.formatter .ignore)),
  (1, .register "c" (.value .none)), (1, .register "c" (.formatter .identity)), (0, .resolve "b"),
  (1, .resolve "b"), (1, .call "a" .none), (0, .names), (1, .names)]

/-- A copy that gets another formatter and one more name keeps them for itself, and what is refused
is registered nowhere. -/
theorem follows_logs_forked : ∃ r, (RegistryOrigin.mapping pair).registry = .ok r ∧
    (ofRegistry r).replies forked = [.ok (.number 1), .ok .registered,
      .error (.registration (.invalidName " c")), .error (.registration (.notCallable "c" .none)),
      .ok .registered, .ok (.resolved .identity), .ok (.resolved .uppercase), .ok (.value (.text "")),
      .ok (.names ["b", "a"]), .ok (.names ["b", "a", "c"])] ∧
    ((ofRegistry r).after forked).ActsAlone := by
  obtain ⟨r, hr⟩ : ∃ r, (RegistryOrigin.mapping pair).registry = .ok r := ⟨_, by cbv⟩
  obtain ⟨hreplies, -, -, hacts⟩ := follows_logs hr forked
  exact ⟨r, hr, hreplies.trans (by cbv), hacts⟩

end RegistryFamily

end Phrasebook
