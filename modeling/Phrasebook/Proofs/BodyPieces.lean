/-
# The pieces of the body of a block

Braces are counted twice in a plural block, once to find its end
(`TemplateParser._scan_plural`), and once behind the key to cut its text at the bars
(`split_top_level`). Both searches have counted the same number of open braces at every
place (`CountAlike`), as the key has no braces.

So each piece alone is balanced, without a bar and without an end of the block outside its braces,
and the last piece does not end in a closing brace that could be taken for one of the end
(`AreBodyPieces`). Such pieces, and no others, make up a body when they are joined
(`isPluralBody_joined_iff`). None of this is lost if pieces in front of the last one are left out
(`AreBodyPieces.sublist`), so what is left is again the body of a block.
-/

import Phrasebook.Proofs.CursorReader
import Phrasebook.Proofs.FormTexts

namespace Phrasebook

variable {s body rest after : List Char} {ps qs : List (List Char)}

/-- What the texts between the bars of a body are: in each of them, taken alone, all braces are
closed, and outside its braces there is no bar and there are no two closing braces in a row. The
last one does not end in a closing brace outside its braces. -/
structure AreBodyPieces (ps : List (List Char)) : Prop where
  ne_nil : ps ≠ []
  isPiece : ∀ p ∈ ps, IsPiece p
  not_closes : ∀ p ∈ ps, ¬ Closes 0 p
  ends_open : ∀ p ∈ ps.getLast?, ∀ u, p = u ++ ['}'] → braceDepth 0 u ≠ 0

/-- Joined texts close a block where one of them does, or where the last one ends in a closing brace
that meets the end. -/
theorem closes_joined_iff (hne : ps ≠ []) (h : ∀ p ∈ ps, braceDepth 0 p = 0) :
    Closes 0 (Text.joined '|' ps ++ ['}']) ↔
      (∃ p ∈ ps, Closes 0 p) ∨ ∃ p ∈ ps.getLast?, ∃ u, p = u ++ ['}'] ∧ braceDepth 0 u = 0 := by
  induction ps with
  | nil => exact absurd rfl hne
  | cons p ps ih =>
    by_cases hps : ps = []
    · subst hps
      simp [closes_concat_iff]
    · have hlast : (p :: ps).getLast? = ps.getLast? := by
        cases ps with
        | nil => exact absurd rfl hps
        | cons q ps => exact List.getLast?_cons_cons
      have ih := ih hps fun q hq => h q (.tail _ hq)
      -- no two closing braces meet over the bar, and all braces in front of it are closed
      rw [Text.joined_cons hps, List.append_assoc, List.cons_append,
        closes_append_cons_iff (by decide), h p (by simp), closes_cons_of_ne (by decide),
        braceStep_of_ne (by decide) (by decide), ih, hlast, ← or_assoc]
      simp

/-- **Pieces make up a body exactly if none of them closes a block,** the last one not even with a
closing brace behind it. -/
theorem isPluralBody_joined_iff (hne : ps ≠ []) (h : ∀ p ∈ ps, IsPiece p) :
    IsPluralBody (Text.joined '|' ps) ↔ AreBodyPieces ps := by
  have hbalanced (p : List Char) (hp : p ∈ ps) : braceDepth 0 p = 0 := (h p hp).balanced
  rw [isPluralBody_iff, closes_joined_iff hne hbalanced, not_or]
  constructor
  · rintro ⟨-, hclosed, hlast⟩
    exact ⟨hne, h, fun p hp hc => hclosed ⟨p, hp, hc⟩, fun p hp u he hu => hlast ⟨p, hp, u, he, hu⟩⟩
  · rintro ⟨-, -, hclosed, hlast⟩
    refine ⟨braceDepth_joined hbalanced, ?_, ?_⟩
    · rintro ⟨p, hp, hc⟩
      exact hclosed p hp hc
    · rintro ⟨p, hp, u, he, hu⟩
      exact hlast p hp u he hu

namespace AreBodyPieces

/-- Pieces joined by bars are a body. -/
theorem isPluralBody (h : AreBodyPieces ps) : IsPluralBody (Text.joined '|' ps) :=
  (isPluralBody_joined_iff h.ne_nil h.isPiece).2 h

/-- The pieces of a body are the texts between its bars. -/
theorem of_isPluralBody (h : IsPluralBody body) : AreBodyPieces (formTexts body) := by
  have hpieces (p : List Char) (hp : p ∈ formTexts body) : IsPiece p :=
    isPiece_of_mem_formTexts h.balanced hp
  refine (isPluralBody_joined_iff (formTexts_ne_nil body) hpieces).1 ?_
  rwa [joined_formTexts]

/-- **Any of the pieces in front of the last one may be left out.** -/
theorem sublist (h : AreBodyPieces ps) (hsub : qs.Sublist ps) (hlast : qs.getLast? = ps.getLast?) :
    AreBodyPieces qs where
  ne_nil := by
    rintro rfl
    exact h.ne_nil (List.getLast?_eq_none_iff.1 hlast.symm)
  isPiece p hp := h.isPiece p (hsub.subset hp)
  not_closes p hp := h.not_closes p (hsub.subset hp)
  ends_open p hp := h.ends_open p (hlast ▸ hp)

end AreBodyPieces

/-- Whether braces are counted alike where the end of a body is looked for, in front of the text
`after`, and where its text behind the key is cut. At every place the search goes on with the number
of open braces in the body so far, cutting with the number of those in the text so far, and these
numbers are the same. -/
structure CountAlike (body rest after : List Char) : Prop where
  search {w v : List Char} : body = w ++ v →
    pluralBody? (braceDepth 0 w) (v ++ '}' :: '}' :: after) = some (v, after)
  pieces {u v : List Char} : rest = u ++ v → ∃ ps p, formTexts u = ps ++ [p] ∧
    formTexts rest = ps ++ p.foldr consFirst (topLevelPieces '|' (braceDepth 0 u) v)
  braceDepth_eq {w u v : List Char} : body = w ++ v → rest = u ++ v →
    braceDepth 0 w = braceDepth 0 u

/-- **Behind the key the braces of a body are counted alike.** -/
theorem countAlike_of_pluralBody? (hbody : pluralBody? 0 s = some (body, after))
    (hrest : BehindKey body rest) : CountAlike body rest after where
  search hw := pluralBody?_of_append (hw ▸ hbody)
  pieces {u v} hu := by
    obtain ⟨ps, p, hps, hcut⟩ := exists_topLevelPieces_append 0 u v
    exact ⟨ps, p, hps, hu ▸ hcut⟩
  braceDepth_eq {w u v} hw hu := by
    obtain ⟨p, hp, rfl⟩ := hrest.exists_braceFree
    rw [hu, ← List.append_assoc] at hw
    rw [← List.append_cancel_right hw, braceDepth_append, hp.braceDepth_eq]

namespace CursorReader

open Text (Cursor)

variable {c c' : Cursor}

/-- A body between its braces is found, whatever stands around them. -/
theorem exists_plural?_of_isPluralBody (h : IsPluralBody body)
    (hc : c.rest = '{' :: '{' :: (body ++ '}' :: '}' :: after)) :
    ∃ c', plural? c = some (body, c') ∧ c'.rest = after := by
  have hfound := plural?_eq hc
  rw [h.pluralBody?_eq after] at hfound
  obtain ⟨⟨_, c'⟩, hc', he⟩ := Option.map_eq_some_iff.1 hfound
  obtain ⟨rfl, hafter⟩ := Prod.mk.inj he
  exact ⟨c', hc', hafter⟩

/-- **The end of a block and its pieces.** Wherever in a source a block is found, the search for
its end and the cutting of the text behind its key count the braces alike. The pieces of this text
make it up when they are joined, each of them can stand alone, and the last one does not reach into
the end of the block. Whichever of the others are left out, what is joined of the rest is cut into
the same pieces, and between the braces of a block, in any place of any source, it is found as the
body. -/
theorem pieces_of_block (h : plural? c = some (body, c')) (hrest : BehindKey body rest) :
    CountAlike body rest c'.rest ∧
      Text.joined '|' (formTexts rest) = rest ∧ AreBodyPieces (formTexts rest) ∧
      ∀ kept, kept.Sublist (formTexts rest) → kept.getLast? = (formTexts rest).getLast? →
        formTexts (Text.joined '|' kept) = kept ∧
        ∀ (start : Cursor) after,
          start.rest = '{' :: '{' :: (Text.joined '|' kept ++ '}' :: '}' :: after) →
          ∃ stop, plural? start = some (Text.joined '|' kept, stop) ∧ stop.rest = after := by
  have hbody : pluralBody? 0 (c.source.drop (c.position + 2)) = some (body, c'.rest) := by
    rw [← plural?_eq_pluralBody?, h]
    rfl
  have hplural : IsPluralBody rest :=
    hrest.isPluralBody (isPluralBody_iff.2 (pluralBody?_eq_some_iff.1 hbody).2)
  have hpieces := AreBodyPieces.of_isPluralBody hplural
  refine ⟨countAlike_of_pluralBody? hbody hrest, joined_formTexts rest, hpieces,
    fun kept hsub hlast => ?_⟩
  have hkept := hpieces.sublist hsub hlast
  exact ⟨formTexts_joined hkept.ne_nil hkept.isPiece,
    fun _ _ => exists_plural?_of_isPluralBody hkept.isPluralBody⟩

/-- A block with a key, a closing brace that closes nothing, bars inside braces, and a brace that is
closed right in front of the end. -/
def orders : List Char :=
  "say \x7b\x7bn:x\x7d|{0|up} of {a}|drop {|} me|{b}\x7d\x7d now".toList

/-- The body of the block. -/
def ordersBody : List Char := "n:x\x7d|{0|up} of {a}|drop {|} me|{b}".toList

/-- The pieces behind its key. -/
def ordersPieces : List (List Char) :=
  ["x\x7d", "{0|up} of {a}", "drop {|} me", "{b}"].map String.toList

/-- In a block with a closing brace that closes nothing, the search for the end and the cutting
count braces alike, and a brace behind the end is left out of the block. -/
theorem pieces_of_block_orders :
    plural? ⟨orders, 4⟩ = some (ordersBody, ⟨orders, 42⟩) ∧
      BehindKey ordersBody (Text.joined '|' ordersPieces) ∧
      CountAlike ordersBody (Text.joined '|' ordersPieces) " now".toList ∧
      AreBodyPieces ordersPieces ∧
      ∃ stop, plural? ⟨"\x7b\x7bx\x7d|{b}\x7d\x7d".toList, 0⟩ = some ("x\x7d|{b}".toList, stop) ∧
        stop.rest = [] := by
  have hread : plural? ⟨orders, 4⟩ = some (ordersBody, ⟨orders, 42⟩) := by cbv
  have hrest : BehindKey ordersBody (Text.joined '|' ordersPieces) :=
    .key (k := .named "n") (keyPrefix_eq_some_iff.1 (by cbv))
  have hcut : formTexts (Text.joined '|' ordersPieces) = ordersPieces := by cbv
  obtain ⟨halike, -, hpieces, hkept⟩ := pieces_of_block hread hrest
  rw [hcut] at hpieces hkept
  obtain ⟨-, hfound⟩ := hkept ["x\x7d".toList, "{b}".toList] (by decide) (by decide)
  exact ⟨hread, hrest, halike, hpieces, hfound _ [] (by decide)⟩

end CursorReader
end Phrasebook
