/-
# Segments of a source text

Scanning (`TemplateParser._scan`) cuts a source text into literal text and placeholders. At
an opening brace an `Opener` says whether a placeholder starts there, and where it ends; a
brace that opens none is literal text, like every closing brace outside a placeholder.

There are two openers (`TemplateParser._scan_placeholder`). In a template a brace opens a
plural block if a second brace follows and the block is closed, and otherwise an argument.
In a plural form a brace opens the place of the driving value, `{?}`, or an argument.

A plural block ends at the first two closing braces in a row that are met outside all
braces of its body, where a closing brace that closes nothing is an ordinary character.
-/

import Phrasebook.Template.Placeholder

namespace Phrasebook

/-- A stretch of a source text: literal text, or a placeholder of some kind. -/
inductive Segment (α : Type) where
  | literal (s : List Char)
  | placeholder (x : α)
  deriving DecidableEq

/-- What may start at an opening brace: given the text behind the brace, the placeholder and
the text behind its end. -/
structure Opener (α : Type) where
  read : List Char → Except ParseError (Option (α × List Char))
  length_le {s : List Char} {x : α} {rest : List Char} :
    read s = .ok (some (x, rest)) → rest.length ≤ s.length

namespace Segment

variable {α : Type}

/-- One more literal character in front of the segments. -/
def consChar (c : Char) : List (Segment α) → List (Segment α)
  | .literal s :: rest => .literal (c :: s) :: rest
  | segments => .literal [c] :: segments

/-- The segments of a source text (`TemplateParser._scan`). -/
def scan (opener : Opener α) : List Char → Except ParseError (List (Segment α))
  | [] => .ok []
  | c :: s =>
    if c = '{' then
      match h : opener.read s with
      | .error e => .error e
      | .ok (some (x, rest)) =>
        have : rest.length ≤ s.length := opener.length_le h
        (scan opener rest).map (.placeholder x :: ·)
      | .ok none => (scan opener s).map (consChar c)
    else (scan opener s).map (consChar c)
  termination_by s => s.length

end Segment

/-- The argument that starts at an opening brace. -/
def readArgument (s : List Char) : Except ParseError (Option (Argument × List Char)) :=
  match braced? s with
  | none => .ok none
  | some (content, rest) => (Argument.read content).map (·.map (·, rest))

/-- The body of a plural block up to its end, and the text behind the end. The number
counts the braces that are open inside the body. -/
def pluralBody? : Nat → List Char → Option (List Char × List Char)
  | _, [] => none
  | depth, c :: s =>
    if c = '{' then (pluralBody? (depth + 1) s).map fun r => (c :: r.1, r.2)
    else if c = '}' then
      match depth, s with
      | depth + 1, s => (pluralBody? depth s).map fun r => (c :: r.1, r.2)
      | 0, '}' :: rest => some ([], rest)
      | 0, s => (pluralBody? 0 s).map fun r => (c :: r.1, r.2)
    else (pluralBody? depth s).map fun r => (c :: r.1, r.2)

/-- The plural block that starts at an opening brace (`TemplateParser._scan_plural`). -/
def readPlural : List Char → Option (List Char × List Char)
  | '{' :: s => pluralBody? 0 s
  | _ => none

/-- A placeholder of a template. -/
inductive TemplatePlaceholder where
  | argument (a : Argument)
  | plural (body : List Char)
  deriving DecidableEq

/-- A placeholder of a plural form. -/
inductive FormPlaceholder where
  | argument (a : Argument)
  | value
  deriving DecidableEq

/-- The placeholder of a template that starts at an opening brace
(`TemplateParser._scan_placeholder`). -/
def TemplatePlaceholder.read (s : List Char) :
    Except ParseError (Option (TemplatePlaceholder × List Char)) :=
  match readPlural s with
  | some (body, rest) => .ok (some (.plural body, rest))
  | none => (readArgument s).map (·.map fun r => (.argument r.1, r.2))

/-- The placeholder of a plural form that starts at an opening brace
(`TemplateParser._scan_placeholder`). -/
def FormPlaceholder.read (s : List Char) :
    Except ParseError (Option (FormPlaceholder × List Char)) :=
  match braced? s with
  | none => .ok none
  | some (content, rest) =>
    if Text.trim content = ['?'] then .ok (some (.value, rest))
    else (Argument.read content).map (·.map fun a => (.argument a, rest))

/-- The body of a plural block and the rest are what there was, without two braces. -/
theorem pluralBody?_eq_some {depth : Nat} {s body rest : List Char}
    (h : pluralBody? depth s = some (body, rest)) : s = body ++ '}' :: '}' :: rest := by
  induction s generalizing depth body with
  | nil => simp [pluralBody?] at h
  | cons c s ih =>
    have step {d : Nat} (h : (pluralBody? d s).map (fun r => (c :: r.1, r.2)) = some (body, rest)) :
        c :: s = body ++ '}' :: '}' :: rest := by
      obtain ⟨⟨body', rest'⟩, hr, he⟩ := Option.map_eq_some_iff.1 h
      obtain ⟨rfl, rfl⟩ := Prod.mk.inj he
      simp [ih hr]
    unfold pluralBody? at h
    split at h
    · exact step h
    · split at h
      · rename_i hc
        split at h
        · exact step h
        · obtain ⟨rfl, rfl⟩ := Prod.mk.inj (Option.some.inj h)
          simp [hc]
        · exact step h
      · exact step h

/-- An argument is read from the start of a text. -/
theorem readArgument_length_le {s rest : List Char} {a : Argument}
    (h : readArgument s = .ok (some (a, rest))) : rest.length ≤ s.length := by
  unfold readArgument at h
  split at h
  · simp at h
  · rename_i content rest' hb
    cases ha : Argument.read content with
    | error e => simp [ha, Except.map] at h
    | ok o =>
      cases o with
      | none => simp [ha, Except.map] at h
      | some a' =>
        simp only [ha, Except.map, Option.map_some, Except.ok.injEq, Option.some.injEq,
          Prod.mk.injEq] at h
        rw [braced?_eq_some hb, ← h.2]
        simp
        omega

/-- Placeholders of a template. -/
def TemplatePlaceholder.opener : Opener TemplatePlaceholder where
  read := TemplatePlaceholder.read
  length_le {s x rest} h := by
    unfold TemplatePlaceholder.read at h
    split at h
    · rename_i body rest' hp
      unfold readPlural at hp
      split at hp
      · simp only [Except.ok.injEq, Option.some.injEq, Prod.mk.injEq] at h
        rw [pluralBody?_eq_some hp, ← h.2]
        simp
        omega
      · simp at hp
    · cases ha : readArgument s with
      | error e => simp [ha, Except.map] at h
      | ok o =>
        cases o with
        | none => simp [ha, Except.map] at h
        | some r =>
          simp only [ha, Except.map, Option.map_some, Except.ok.injEq, Option.some.injEq,
            Prod.mk.injEq] at h
          rw [← h.2]
          exact readArgument_length_le ha

/-- Placeholders of a plural form. -/
def FormPlaceholder.opener : Opener FormPlaceholder where
  read := FormPlaceholder.read
  length_le {s x rest} h := by
    unfold FormPlaceholder.read at h
    split at h
    · simp at h
    · rename_i content rest' hb
      have hs : rest'.length ≤ s.length := by
        rw [braced?_eq_some hb]
        simp
        omega
      split at h
      · simp only [Except.ok.injEq, Option.some.injEq, Prod.mk.injEq] at h
        exact h.2 ▸ hs
      · cases ha : Argument.read content with
        | error e => simp [ha, Except.map] at h
        | ok o =>
          cases o with
          | none => simp [ha, Except.map] at h
          | some a =>
            simp only [ha, Except.map, Option.map_some, Except.ok.injEq, Option.some.injEq,
              Prod.mk.injEq] at h
            exact h.2 ▸ hs

end Phrasebook
