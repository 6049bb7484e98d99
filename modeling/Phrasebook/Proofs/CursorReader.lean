/-
# Reading step by step

`CursorReader.parse` is reading (`TemplateParser.parse`) with every step that might fail: a
character is asked for at a cursor, a list for its first or last element, a position is made
from an integer, a category is looked up by its word, and categories and texts are put
together in pairs of which none may be left over. Each of these steps has a fault of its own
(`ReadFault`).

It answers what `Template.parse` answers (`CursorReader.parse_eq`), so none of these faults
is ever met. What is left is a position with too many digits, for a run of digits that
stands in the text (`CursorReader.parse_fails_only_for_long_runs`).
-/

import Phrasebook.Proofs.CursorScan
import Phrasebook.Proofs.IndexLimit
import Phrasebook.Proofs.Spelling

namespace Phrasebook
namespace CursorReader

open Text (Cursor)

variable {s body content : List Char} {texts : List (List Char)} {c : Cursor}

section Keys

/-- The integer that a text of ASCII digits denotes. -/
def integer (s : List Char) : Int := s.foldl (fun n x => 10 * n + ((x.toNat : Int) - 48)) 0

/-- The key that a text without surrounding blanks and without a mark denotes. -/
def key (s : List Char) : Except ReadFault (Option ArgumentKey) :=
  if s = [] then .ok none
  else if s.all Text.isAsciiDigit then
    if s.length ≤ ArgumentKey.maxIndexDigits then
      ((ArgumentKey.ofIndex (integer s)).mapError .build).map some
    else .error (.parse (.indexTooLong s.length))
  else if ArgumentKey.isIdentifier s then .ok (some (.named (String.ofList s)))
  else .ok none

/-- The key that a text denotes, and whether a question mark marks it as optional. -/
def markedKey (s : List Char) : Except ReadFault (Option (ArgumentKey × Bool)) :=
  (key (ArgumentKey.unmarked s)).map (·.map (·, (Text.trim s).getLast? == some '?'))

/-- The argument that the content of a placeholder describes. The first piece is what is in front of
the bars. -/
def argument (content : List Char) : Except ReadFault (Option Argument) :=
  match Text.pieces '|' content with
  | [] => .error .noElement
  | declaration :: names =>
    let r := Text.cut ':' declaration
    (markedKey r.1).map (·.map fun k =>
      { key := k.1, typeTag := typeTag? r.2, formatters := formatterNames names, optional := k.2 })

/-- The key that the body of a plural block starts with, and the text behind the colon. -/
def prefixedKey (body : List Char) : Except ReadFault (Option (ArgumentKey × List Char)) :=
  match Text.cut ':' body with
  | (_, none) => .ok none
  | (head, some rest) =>
    if head.contains '|' || head.contains '{' then .ok none
    else (markedKey head).map (·.map fun k => (k.1, rest))

/-- **The integer of a text of digits is never negative.** -/
theorem integer_eq (h : s.all Text.isAsciiDigit = true) :
    integer s = (Text.asciiValue s : Int) := by
  induction s using List.reverseRecOn with
  | nil => rfl
  | append_singleton s x ih =>
    rw [List.all_append, Bool.and_eq_true] at h
    have hx := Text.isAsciiDigit_iff.1 (List.all_eq_true.1 h.2 x (by simp))
    have ih := ih h.1
    rw [integer] at ih
    rw [integer, List.foldl_concat, ih, Text.asciiValue, Text.asciiValue, List.map_append,
      List.map_singleton, Text.ofDigits_append_singleton, Text.asciiDigit]
    omega

/-- A key that is read step by step is the key that the text denotes, with the one fault that it
has. -/
theorem key_eq (s : List Char) : key s = checked (ArgumentKey.read s) := by
  unfold key ArgumentKey.read
  split
  · rfl
  · split
    · rename_i hdigits
      split
      · rw [integer_eq hdigits]
        rfl
      · rfl
    · split <;> rfl

/-- A key with a mark is read step by step as it is in one go. -/
theorem markedKey_eq (s : List Char) : markedKey s = checked (ArgumentKey.readMarked s) := by
  rw [markedKey, key_eq, ArgumentKey.readMarked_eq, checked_map]

/-- The content of a placeholder is read step by step as it is in one go. -/
theorem argument_eq (content : List Char) : argument content = checked (Argument.read content) := by
  cases hp : Text.pieces '|' content with
  | nil => exact absurd hp (Text.pieces_ne_nil '|' content)
  | cons declaration names => simp only [argument, Argument.read, hp, markedKey_eq, checked_map]

/-- The key in front of a body is read step by step as it is in one go. -/
theorem prefixedKey_eq (body : List Char) : prefixedKey body = checked (keyPrefix body) := by
  rcases hcut : Text.cut ':' body with ⟨head, _ | rest⟩
  · simp only [prefixedKey, keyPrefix, hcut, checked_ok]
  · simp only [prefixedKey, keyPrefix, hcut]
    split
    · rfl
    · rw [markedKey_eq, checked_map]

end Keys

section Labels

/-- The words that label a form. -/
def labelWords : List String := ["zero", "one", "two", "few", "many", "other"]

/-- The text behind the word and an equals sign. -/
def behindWord? (s : List Char) (word : String) : Option (List Char) :=
  (Text.after? word.toList (Text.trimLeft s)).bind fun t =>
    match Text.trimLeft t with
    | '=' :: rest => some (Text.trimLeft rest)
    | _ => none

/-- The category with the given name. -/
def category (word : String) : Except ReadFault PluralCategory :=
  (PluralCategory.ofName word).mapError .build

/-- The category that a text is labelled with, and the text behind the label. -/
def label (s : List Char) : Except ReadFault (Option (PluralCategory × List Char)) :=
  match labelWords.findSome? fun word => (behindWord? s word).map (word, ·) with
  | none => .ok none
  | some (word, rest) => (category word).map fun c => some (c, rest)

/-- The words for unlabelled forms by their number. -/
def positionalWords : Nat → List String
  | 0 => ["zero", "one", "two", "few", "other"]
  | 2 => ["one", "other"]
  | 3 => ["zero", "one", "other"]
  | n => ["zero", "one", "two", "few", "many"].take (min n 6 - 1) ++ ["other"]

/-- The pairs of two lists of one length. -/
def zipStrict {α β : Type} (xs : List α) (ys : List β) : Except ReadFault (List (α × β)) :=
  if xs.length = ys.length then .ok (xs.zip ys) else .error (.unequalLengths xs.length ys.length)

/-- The categories and texts of unlabelled forms. -/
def positionalPairs (texts : List (List Char)) :
    Except ReadFault (List (PluralCategory × List Char)) :=
  ((positionalWords texts.length).mapM category).bind fun categories =>
    match texts.getLast? with
    | none => .error .noElement
    | some last => zipStrict categories (texts.take (categories.length - 1) ++ [last])

/-- The categories of the forms of a plural block, each with the text of the form. -/
def pairs (texts : List (List Char)) : Except ReadFault (List (PluralCategory × List Char)) :=
  (texts.mapM label).bind fun labels =>
    if labels.all Option.isSome then .ok (labels.filterMap id)
    else
      match texts with
      | [t] => .ok [(.one, []), (.other, t)]
      | texts => positionalPairs texts

/-- **Every category has its name.** -/
theorem category_name (c : PluralCategory) : category c.name = .ok c := by
  rw [category, PluralCategory.ofName, PluralCategory.ofName?_eq_some_iff.2 rfl]
  rfl

/-- The label of a form is that of the first category whose word the text starts with. -/
theorem formLabel?_eq (s : List Char) :
    formLabel? s = PluralCategory.all.findSome? fun c => (behindWord? s c.name).map (c, ·) := by
  rw [formLabel?]
  congr 1
  funext c
  rw [behindWord?]
  cases Text.after? c.name.toList (Text.trimLeft s) with
  | none => rfl
  | some t =>
    dsimp only [Option.bind_some]
    cases Text.trimLeft t with
    | nil => rfl
    | cons x u =>
      by_cases hx : x = '='
      · subst hx
        rfl
      · simp [hx]

/-- Reading a label does not fail. -/
theorem label_eq (s : List Char) : label s = .ok (formLabel? s) := by
  have hwords : labelWords = PluralCategory.all.map PluralCategory.name := rfl
  rw [label, hwords, formLabel?_eq]
  induction PluralCategory.all with
  | nil => rfl
  | cons c cs ih =>
    rw [List.map_cons, List.findSome?_cons, List.findSome?_cons]
    cases behindWord? s c.name with
    | none => exact ih
    | some rest =>
      dsimp only [Option.map_some]
      rw [category_name]
      rfl

/-- The words for unlabelled forms are the names of their categories. -/
theorem positionalWords_eq (n : Nat) :
    positionalWords n = (positionalCategories n).map PluralCategory.name := by
  match n with
  | 0 | 1 | 2 | 3 => rfl
  | n + 4 =>
    simp only [positionalWords, positionalCategories, List.map_append, List.map_take]
    rfl

/-- **As many texts are kept as there are categories.** -/
theorem positionalPairs_eq (h : 2 ≤ texts.length) :
    positionalPairs texts = .ok (positionalForms texts) := by
  have hcategories : (positionalWords texts.length).mapM category =
      .ok (positionalCategories texts.length) := by
    have hname : category ∘ PluralCategory.name = fun c => pure (id c) := funext category_name
    rw [positionalWords_eq, List.mapM_map, hname, List.mapM_pure, List.map_id]
    rfl
  obtain ⟨last, hlast⟩ : ∃ last, texts.getLast? = some last := by
    refine Option.ne_none_iff_exists'.1 fun hnone => ?_
    rw [List.getLast?_eq_none_iff.1 hnone] at h
    simp at h
  have hlen : (positionalCategories texts.length).length =
      (texts.take ((positionalCategories texts.length).length - 1) ++ [last]).length := by
    rw [List.length_append, List.length_take, List.length_singleton, length_positionalCategories h]
    omega
  simp only [positionalPairs, hcategories, Except.bind, hlast, zipStrict, if_pos hlen,
    positionalForms, Option.toList_some]

/-- If each text has a label, the labels are those of all texts. -/
theorem formLabels?_eq_some (h : ∀ t ∈ texts, (formLabel? t).isSome = true) :
    formLabels? texts = some (texts.filterMap formLabel?) := by
  induction texts with
  | nil => rfl
  | cons t texts ih =>
    obtain ⟨f, hf⟩ := Option.isSome_iff_exists.1 (h t (by simp))
    rw [formLabels?, hf, ih fun t ht => h t (by simp [ht]), List.filterMap_cons_some hf]

/-- **The texts of a block always have their categories.** -/
theorem pairs_eq (texts : List (List Char)) : pairs texts = .ok (labelledForms texts) := by
  have hlabels : texts.mapM label = .ok (texts.map formLabel?) := by
    rw [show label = fun s => pure (formLabel? s) from funext label_eq, List.mapM_pure]
    rfl
  unfold pairs
  rw [hlabels]
  by_cases h : ∀ t ∈ texts, (formLabel? t).isSome = true
  · have hall : (texts.map formLabel?).all Option.isSome = true := by simpa using h
    show (if _ then _ else _) = _
    rw [if_pos hall, List.filterMap_map, Function.id_comp]
    simp only [labelledForms, formLabels?_eq_some h]
  · have hall : ¬ (texts.map formLabel?).all Option.isSome = true := by simpa using h
    have hnone : formLabels? texts = none := formLabels?_eq_none h
    show (if _ then _ else _) = _
    rw [if_neg hall]
    rcases texts with _ | ⟨t, _ | ⟨u, texts⟩⟩
    · simp at h
    · simp only [labelledForms, hnone]
    · simp only [labelledForms, hnone]
      exact positionalPairs_eq (by simp)

end Labels

section Placeholders

/-- The text up to the next closing brace and the place behind the brace; `none` if no brace closes,
or if a brace is opened in the text. -/
def braced? (c : Cursor) : Option (List Char × Cursor) :=
  let start := c.advance 1
  let close := start.find ['}']
  if close = c.source.length then none
  else
    let content := start.sliceTo close
    if content.contains '{' then none else some (content, c.moveTo (close + 1))

/-- The place of the two braces that end the body of a plural block, looked for from a place on. The
number counts the braces that are open. -/
def closing? (source : List Char) (depth index : Nat) : Option Nat :=
  if h : index < source.length then
    if source[index] = '{' then closing? source (depth + 1) (index + 1)
    else if source[index] = '}' then
      if 0 < depth then closing? source (depth - 1) (index + 1)
      else if (Text.after? ['}', '}'] (source.drop index)).isSome then some index
      else closing? source depth (index + 1)
    else closing? source depth (index + 1)
  else none
  termination_by source.length - index

/-- The body of the plural block that starts at two braces, and the place behind its end. -/
def plural? (c : Cursor) : Option (List Char × Cursor) :=
  (closing? c.source 0 (c.position + 2)).map fun stop =>
    ((c.source.take stop).drop (c.position + 2), c.moveTo (stop + 2))

/-- The placeholder of a template at an opening brace. -/
def templatePlaceholder (c : Cursor) : Except ReadFault (Option (TemplatePlaceholder × Cursor)) :=
  match if c.startsWith ['{', '{'] then plural? c else none with
  | some (body, rest) => .ok (some (.plural body, rest))
  | none =>
    match braced? c with
    | none => .ok none
    | some (content, rest) => (argument content).map (·.map fun a => (.argument a, rest))

/-- The placeholder of a plural form at an opening brace. -/
def formPlaceholder (c : Cursor) : Except ReadFault (Option (FormPlaceholder × Cursor)) :=
  match braced? c with
  | none => .ok none
  | some (content, rest) =>
    if Text.trim content = ['?'] then .ok (some (.value, rest))
    else (argument content).map (·.map fun a => (.argument a, rest))

/-- Up to the next closing brace there is a content unless a brace is opened. -/
theorem braced?_closed (hp : '}' ∉ content) (r : List Char) :
    Phrasebook.braced? (content ++ '}' :: r) =
      if content.contains '{' then none else some (content, r) := by
  split
  · rename_i hopen
    cases hb : Phrasebook.braced? (content ++ '}' :: r) with
    | none => rfl
    | some found =>
      obtain ⟨he, hfree⟩ := braced?_eq_some_iff.1 hb
      have hcut := Text.cut_append_cons (fun h => (hfree _ h).2 rfl) found.2
      rw [← he, Text.cut_append_cons hp] at hcut
      rw [(Prod.mk.inj hcut).1] at hopen
      exact absurd rfl (hfree '{' (List.contains_iff_mem.1 hopen)).1
  · rename_i hopen
    refine braced?_eq_some_iff.2 ⟨rfl, fun x hx => ⟨?_, ne_of_mem_of_not_mem hx hp⟩⟩
    rintro rfl
    exact hopen (List.contains_iff_mem.2 hx)

/-- Without a closing brace no brace is closed. -/
theorem braced?_of_not_mem (h : '}' ∉ s) : Phrasebook.braced? s = none := by
  cases hb : Phrasebook.braced? s with
  | none => rfl
  | some found => exact absurd (by rw [braced?_eq_some hb]; simp) h

/-- **From a cursor the same text between braces is found,** and the same text behind them. -/
theorem braced?_eq (h : c.rest = '{' :: s) :
    (braced? c).map (fun r => (r.1, r.2.rest)) = Phrasebook.braced? s := by
  have hin := Cursor.source_length h
  have hstart : (c.advance 1).rest = s := Cursor.rest_advance (p := ['{']) h
  have hpos : (c.advance 1).position = c.position + 1 := by
    show min (c.position + 1) c.source.length = c.position + 1
    omega
  obtain ⟨p, r, happ, hp, hr, hfind⟩ :=
    Cursor.exists_find '}' (Cursor.moveTo_position_le c (c.position + 1))
  change (c.advance 1).rest = p ++ r at happ
  change (c.advance 1).find ['}'] = (c.advance 1).position + p.length at hfind
  have hlen := congrArg List.length (hstart.symm.trans happ)
  rw [List.length_append] at hlen
  rw [hpos] at hfind
  -- the search has met the end of the text, or the first closing brace
  cases r with
  | nil =>
    have hend : (c.advance 1).find ['}'] = c.source.length := by
      rw [hfind]
      simp only [List.length_nil] at hlen
      omega
    rw [List.append_nil, hstart] at happ
    simp only [braced?, hend, if_pos]
    rw [happ, braced?_of_not_mem hp]
    rfl
  | cons x r =>
    obtain rfl := hr x rfl
    have hmore : (c.advance 1).find ['}'] ≠ c.source.length := by
      rw [hfind]
      simp only [List.length_cons] at hlen
      omega
    have hslice : (c.advance 1).sliceTo ((c.advance 1).find ['}']) = p := by
      rw [hfind, ← hpos]
      exact (Cursor.sliceTo_of_rest happ).1
    have hrest : (c.moveTo ((c.advance 1).find ['}'] + 1)).rest = r := by
      have hbehind : (c.advance 1).rest = (p ++ ['}']) ++ r := by simpa using happ
      rw [hfind, ← (Cursor.sliceTo_of_rest hbehind).2, hpos, List.length_append]
      rfl
    rw [hstart] at happ
    simp only [braced?, if_neg hmore, hslice]
    rw [happ, braced?_closed hp]
    split
    · rfl
    · simp [hrest]

/-- Where a character does not close the block, the end is as far from it as from the next one. -/
theorem map_pluralBody?_drop {source : List Char} {depth index : Nat} (h : index < source.length)
    (hc : ¬ (source[index] = '}' ∧ depth = 0 ∧ ∃ r, source.drop (index + 1) = '}' :: r)) :
    (pluralBody? depth (source.drop index)).map (fun r => index + r.1.length) =
      (pluralBody? (braceStep depth source[index]) (source.drop (index + 1))).map
        fun r => index + 1 + r.1.length := by
  rw [List.drop_eq_getElem_cons h, pluralBody?_cons hc, Option.map_map]
  congr 1
  funext r
  simp only [Function.comp_apply, List.length_cons]
  omega

/-- **The end of a block is found where its body ends.** -/
theorem closing?_eq (source : List Char) (depth index : Nat) : closing? source depth index =
    (pluralBody? depth (source.drop index)).map fun r => index + r.1.length := by
  induction depth, index using closing?.induct source with
  | case1 depth index h hc ih =>
    rw [closing?, dif_pos h, if_pos hc, ih, map_pluralBody?_drop h (by simp [hc]), hc,
      braceStep_open]
  | case2 depth index h ho hc hd ih =>
    rw [closing?, dif_pos h, if_neg ho, if_pos hc, if_pos hd, ih, map_pluralBody?_drop h (by omega),
      hc]
    obtain ⟨d, rfl⟩ : ∃ d, depth = d + 1 := ⟨depth - 1, by omega⟩
    rw [braceStep_close, Nat.add_sub_cancel]
  | case3 depth index h ho hc hd ha =>
    obtain ⟨r, hr⟩ := Option.isSome_iff_exists.1 ha
    obtain rfl : depth = 0 := by omega
    rw [closing?, dif_pos h, if_neg ho, if_pos hc, if_neg hd, if_pos ha, Text.after?_eq_some hr]
    rfl
  | case4 depth index h ho hc hd ha ih =>
    obtain rfl : depth = 0 := by omega
    have hclose : ¬ ∃ r, source.drop (index + 1) = '}' :: r := by
      rintro ⟨r, hr⟩
      rw [List.drop_eq_getElem_cons h, hc, hr] at ha
      exact ha rfl
    rw [closing?, dif_pos h, if_neg ho, if_pos hc, if_neg hd, if_neg ha, ih,
      map_pluralBody?_drop h (fun hn => hclose hn.2.2), hc]
    rfl
  | case5 depth index h ho hc ih =>
    rw [closing?, dif_pos h, if_neg ho, if_neg hc, ih, map_pluralBody?_drop h (fun hn => hc hn.1),
      braceStep_of_ne ho hc]
  | case6 depth index h =>
    rw [closing?, dif_neg h, List.drop_eq_nil_of_le (by omega), pluralBody?_nil]
    rfl

/-- **From a cursor the same body of a block is found,** and the same text behind it, whatever the
two characters are that are taken for braces. -/
theorem plural?_eq_pluralBody? (c : Cursor) : (plural? c).map (fun r => (r.1, r.2.rest)) =
    pluralBody? 0 (c.source.drop (c.position + 2)) := by
  rw [plural?, closing?_eq, Option.map_map, Option.map_map]
  cases hb : pluralBody? 0 (c.source.drop (c.position + 2)) with
  | none => rfl
  | some r =>
    obtain ⟨body, rest⟩ := r
    -- the same text, as it stands behind a cursor at the body
    have hbody : (Cursor.mk c.source (c.position + 2)).rest = body ++ '}' :: '}' :: rest :=
      pluralBody?_eq_some hb
    have hbehind : (Cursor.mk c.source (c.position + 2)).rest = (body ++ ['}', '}']) ++ rest := by
      simpa using hbody
    have hslice := (Cursor.sliceTo_of_rest hbody).1
    have hrest := (Cursor.sliceTo_of_rest hbehind).2
    rw [List.length_append] at hrest
    exact congrArg some (Prod.ext hslice hrest)

/-- The body of a block that is found by place is the body that is found in the text. -/
theorem plural?_eq (h : c.rest = '{' :: '{' :: s) :
    (plural? c).map (fun r => (r.1, r.2.rest)) = pluralBody? 0 s := by
  have hdrop : c.source.drop (c.position + 2) = s := by
    rw [← List.drop_drop]
    exact congrArg (List.drop 2) h
  rw [plural?_eq_pluralBody?, hdrop]

/-- **The placeholders of a form are read from a cursor.** -/
theorem readsAs_formPlaceholder : ReadsAs formPlaceholder FormPlaceholder.opener := by
  intro c s h
  show _ = checked (FormPlaceholder.read s)
  have hbraced := braced?_eq h
  rw [formPlaceholder, FormPlaceholder.read, ← hbraced]
  cases braced? c with
  | none => rfl
  | some r =>
    dsimp only [Option.map_some]
    split
    · rfl
    · rw [argument_eq]
      rcases Argument.read r.1 with e | _ | a <;> rfl

/-- A block is looked for at two braces only. -/
theorem startsWith_plural?_eq (h : c.rest = '{' :: s) :
    (if c.startsWith ['{', '{'] then plural? c else none).map (fun r => (r.1, r.2.rest)) =
      readPlural s := by
  have hin : c.position ≤ c.source.length := by
    have := Cursor.source_length h
    omega
  rcases s with _ | ⟨x, s⟩
  · simp [Cursor.startsWith, h, Text.after?, readPlural]
  · by_cases hx : x = '{'
    · subst hx
      simp [Cursor.startsWith, h, Text.after?, readPlural, hin, plural?_eq h]
    · rw [readPlural_of_ne fun r hr => hx (List.cons.inj hr).1]
      simp [Cursor.startsWith, h, Text.after?, Ne.symm hx]

/-- **The placeholders of a template are read from a cursor.** -/
theorem readsAs_templatePlaceholder : ReadsAs templatePlaceholder TemplatePlaceholder.opener := by
  intro c s h
  show _ = checked (TemplatePlaceholder.read s)
  have hbraced := braced?_eq h
  rw [templatePlaceholder, TemplatePlaceholder.read, ← startsWith_plural?_eq h]
  cases (if c.startsWith ['{', '{'] then plural? c else none) with
  | some r => rfl
  | none =>
    dsimp only [Option.map_none]
    rw [readArgument, ← hbraced]
    cases braced? c with
    | none => rfl
    | some r =>
      dsimp only [Option.map_some]
      rw [argument_eq]
      rcases Argument.read r.1 with e | _ | a <;> rfl

end Placeholders

section Templates

/-- The elements of a plural form. -/
def elements (s : List Char) : Except ReadFault (List FormElement) :=
  (scan formPlaceholder s).map (·.map FormElement.ofSegment)

/-- One form of a plural block. -/
def form (p : PluralCategory × List Char) : Except ReadFault PluralForm :=
  (elements p.2).map fun elements => { category := p.1, elements }

/-- The plural block with the given body, bound to `fallback` if the body names no key. -/
def block (fallback : ArgumentKey) (body : List Char) : Except ReadFault PluralBlock :=
  (prefixedKey body).bind fun
    | some (key, rest) =>
      ((pairs (formTexts rest)).bind (·.mapM form)).map ({ key, forms := ·, explicitKey := true })
    | none => ((pairs (formTexts body)).bind (·.mapM form)).map ({ key := fallback, forms := · })

/-- The parts for the segments of a template; a plural block without a key of its own is bound to
the key of the last argument, to `first` if there is none yet. -/
def bind (first : ArgumentKey) :
    Option ArgumentKey → List (Segment TemplatePlaceholder) → Except ReadFault Template
  | _, [] => .ok []
  | last, .literal s :: rest => (bind first last rest).map (.text (String.ofList s) :: ·)
  | _, .placeholder (.argument a) :: rest => (bind first (some a.key) rest).map (.argument a :: ·)
  | last, .placeholder (.plural body) :: rest =>
    (block (last.getD first) body).bind fun b => (bind first last rest).map (.plural b :: ·)

/-- The template that a source text stands for. -/
def parse (source : String) : Except ReadFault Template :=
  (scan templatePlaceholder source.toList).bind fun segments =>
    bind (Template.firstKey segments) none segments

/-- The elements of a form are read step by step as they are in one go. -/
theorem elements_eq (s : List Char) : elements s = checked (FormElement.readAll s) := by
  rw [elements, scan_eq readsAs_formPlaceholder, FormElement.readAll, checked_map]

/-- Forms with their categories are read one after the other. -/
theorem mapM_form_eq (ps : List (PluralCategory × List Char)) :
    ps.mapM form = checked (PluralForm.readAll ps) := by
  induction ps with
  | nil => rfl
  | cons p ps ih =>
    rw [List.mapM_cons, form, elements_eq, ih, PluralForm.readAll]
    cases FormElement.readAll p.2 with
    | error e => rfl
    | ok elements => cases PluralForm.readAll ps <;> rfl

/-- The forms of a block are read step by step as they are in one go. -/
theorem forms_eq (s : List Char) : (pairs (formTexts s)).bind (·.mapM form) =
    checked (PluralForm.readAll (labelledForms (formTexts s))) := by
  rw [pairs_eq]
  exact mapM_form_eq _

/-- A block is read step by step as it is in one go. -/
theorem block_eq (fallback : ArgumentKey) (body : List Char) :
    block fallback body = checked (PluralBlock.read fallback body) := by
  rw [block, prefixedKey_eq, PluralBlock.read]
  cases keyPrefix body with
  | error e => rfl
  | ok found =>
    cases found with
    | none =>
      show Except.map _ ((pairs (formTexts body)).bind (·.mapM form)) = _
      rw [forms_eq, checked_map]
    | some k =>
      show Except.map _ ((pairs (formTexts k.2)).bind (·.mapM form)) = _
      rw [forms_eq, checked_map]

/-- Segments are bound one after the other, each to the last key so far. -/
theorem bind_eq (first : ArgumentKey) (last : Option ArgumentKey)
    (segments : List (Segment TemplatePlaceholder)) :
    bind first last segments = checked (Template.bind (last.getD first) segments) := by
  induction segments generalizing last with
  | nil => rfl
  | cons y segments ih =>
    rcases y with s | (a | body)
    · rw [bind, ih, Template.bind, checked_map]
    · rw [bind, ih, Template.bind, checked_map, Option.getD_some]
    · rw [bind, block_eq, ih, Template.bind]
      cases PluralBlock.read (last.getD first) body with
      | error e => rfl
      | ok b => exact (checked_map _ _).symm

/-- **Reading step by step answers what reading answers.** -/
theorem parse_eq (source : String) : parse source = checked (Template.parse source) := by
  rw [parse, scan_eq readsAs_templatePlaceholder, Template.parse]
  cases Segment.scan TemplatePlaceholder.opener source.toList with
  | error e => rfl
  | ok segments => exact bind_eq _ none segments

/-- **Reading fails for a long run of digits, and for nothing else.** Step by step as in one piece,
a text is read unless it has more digits in a row than a position may be written with. If it is not
read, the fault is none of a cursor, of pairs, of categories or of negative positions, and the loops
end: it is the error for a run of digits that stands in the text, with the length of this run. -/
theorem parse_fails_only_for_long_runs (source : String) :
    parse source = checked (Template.parse source) ∧
      (ShortRuns source.toList → ∃ ps, parse source = .ok ps) ∧
      ∀ fault, parse source = .error fault →
        ∃ e : ParseError, fault = .parse e ∧ e.StandsIn source.toList := by
  refine ⟨parse_eq source, fun hshort => ?_, fun fault h => ?_⟩
  · rw [parse_eq]
    cases h : Template.parse source with
    | ok ps => exact ⟨ps, rfl⟩
    | error e => exact absurd hshort (Template.standsIn_of_parse h).not_shortRuns
  · rw [parse_eq] at h
    cases hparse : Template.parse source with
    | ok ps =>
      rw [hparse] at h
      cases h
    | error e =>
      rw [hparse] at h
      exact ⟨e, (Except.error.inj h).symm, Template.standsIn_of_parse hparse⟩

/-- Braces that open nothing, a block that does not close, and a block whose one form has a
label. -/
def wreckage : String := "\x7b\x7b\x7d\x7b \x7ba|{b} {{0:one=x|{?}}}\x7b\x7bc"

/-- A wrecked source text with short numbers is read, and a number of 4301 digits is not. -/
theorem parse_fails_only_for_long_runs_wreckage :
    (ShortRuns wreckage.toList ∧ ∃ ps, parse wreckage = .ok ps) ∧
      parse (Template.overlong 4301) = .error (.parse (.indexTooLong 4301)) ∧
      (ParseError.indexTooLong 4301).StandsIn (Template.overlong 4301).toList := by
  have hshort : ShortRuns wreckage.toList := shortRuns_of_length_le (by decide)
  obtain ⟨-, hread, -⟩ := parse_fails_only_for_long_runs wreckage
  obtain ⟨heq, -, hfails⟩ := parse_fails_only_for_long_runs (Template.overlong 4301)
  rw [Template.parse_overlong (by decide)] at heq
  obtain ⟨e, he, hstands⟩ := hfails _ heq
  obtain rfl := ReadFault.parse.inj he
  exact ⟨⟨hshort, hread hshort⟩, heq, hstands⟩

end Templates
end CursorReader
end Phrasebook
