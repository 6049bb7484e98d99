/-
# Scanning with a cursor

`CursorReader.scan` is scanning (`TemplateParser._scan`) as a loop over a cursor: what has been
found so far is kept beside the cursor, and each turn asks for the character behind it. The loop has
more ways to fail than scanning (`ReadFault`): at the end of the text there is no character, and a
loop whose cursor does not move on never ends, which shows as running out of turns. None of them is
met with one turn more than the text has characters (`CursorReader.scan_eq`), if the placeholders
are read from a cursor as they are read from the text behind it (`CursorReader.ReadsAs`).

Only the text behind the cursor matters. What is found in the end are the segments that are kept and
those of this text, where the literal text that is kept stands in front of them (`Scan.outcome`). No
turn changes this, and each one makes the text behind the cursor shorter (`CursorReader.Turn`).
-/

import Phrasebook.Proofs.Seam
import Phrasebook.Proofs.Text.Cutting
import Phrasebook.Text.Cursor

namespace Phrasebook

/-- What can go wrong where a text is read step by step: there is no character, the loop does not
end, a list has no first or last element, two lists do not go together, a part cannot be built, or a
position has too many digits. -/
inductive ReadFault where
  | endOfText (e : Text.EndOfText)
  | unfinished
  | noElement
  | unequalLengths (first second : Nat)
  | build (e : BuildError)
  | parse (e : ParseError)
  deriving DecidableEq

/-- The outcome of reading, where the one fault that reading has is one of many. -/
def checked {α : Type} (r : Except ParseError α) : Except ReadFault α := r.mapError .parse

section Checked

variable {α β : Type}

/-- Checking keeps what has been read. -/
@[simp] theorem checked_ok (x : α) : checked (.ok x) = .ok x := rfl

/-- Checking keeps the one fault that reading has. -/
@[simp] theorem checked_error (e : ParseError) : checked (.error e : Except ParseError α) =
    .error (.parse e) := rfl

/-- A function of what has been read may be applied before or after checking. -/
theorem checked_map (r : Except ParseError α) (f : α → β) :
    checked (r.map f) = (checked r).map f := by
  cases r <;> rfl

end Checked

namespace Text

variable {s p r : List Char} {x : Char} {c : Cursor}

/-- The distance to a character is the length of the text that is cut off in front of it. -/
theorem Cursor.distance?_singleton (x : Char) (s : List Char) :
    Cursor.distance? [x] s = (cut x s).2.map fun _ => (cut x s).1.length := by
  induction s with
  | nil => rfl
  | cons y s ih =>
    by_cases hy : x = y
    · simp [distance?, after?, cut, hy]
    · simp [distance?, after?, cut, hy, Ne.symm hy, ih, Function.comp_def]

namespace Cursor

/-- Nothing is left exactly at the end. -/
theorem rest_eq_nil_iff : c.rest = [] ↔ c.atEnd = true := by
  simp [rest, atEnd]

/-- The current character is the first one that is left. -/
theorem current_of_rest (h : c.rest = x :: s) : c.current = .ok x := by
  have hx : c.source[c.position]? = some x := by
    rw [← List.head?_drop]
    exact congrArg List.head? h
  rw [current, hx]

/-- A cursor with text behind it stands inside its source. -/
theorem source_length (h : c.rest = x :: s) : c.source.length = c.position + s.length + 1 := by
  have hlen := congrArg List.length h
  simp only [rest, List.length_drop, List.length_cons] at hlen
  omega

/-- A cursor that is moved has left what stands behind its place. -/
theorem rest_moveTo (c : Cursor) (n : Nat) : (c.moveTo n).rest = c.source.drop n := by
  rw [rest, moveTo]
  rcases Nat.le_total n c.source.length with h | h
  · rw [Nat.min_eq_left h]
  · rw [Nat.min_eq_right h, List.drop_length, List.drop_eq_nil_of_le h]

/-- What a slice has and what is left behind it make up the text behind the cursor. -/
theorem sliceTo_of_rest (h : c.rest = p ++ r) : c.sliceTo (c.position + p.length) = p ∧
    (c.moveTo (c.position + p.length)).rest = r := by
  rw [rest_moveTo, sliceTo, List.drop_take, Nat.add_sub_cancel_left, ← List.drop_drop]
  change c.rest.take p.length = p ∧ c.rest.drop p.length = r
  simp [h]

/-- A cursor that passes a text has left what stands behind the text. -/
theorem rest_advance (h : c.rest = p ++ r) : (c.advance p.length).rest = r :=
  (sliceTo_of_rest h).2

/-- The next occurrence of a character is behind text without it, and the end of the text if there
is no more than that. -/
theorem exists_find (x : Char) (hc : c.position ≤ c.source.length) :
    ∃ p r, c.rest = p ++ r ∧ x ∉ p ∧
    (∀ y ∈ r.head?, y = x) ∧ c.find [x] = c.position + p.length := by
  cases hcut : cut x c.rest with
  | mk p r? =>
    cases r? with
    | some r =>
      obtain ⟨hrest, hp⟩ := cut_eq_some hcut
      exact ⟨p, x :: r, hrest, hp, by simp, by simp [find, distance?_singleton, hcut, hc]⟩
    | none =>
      obtain ⟨hrest, hp⟩ := cut_eq_none hcut
      have hlen : p.length = c.source.length - c.position := by rw [← hrest, rest, List.length_drop]
      refine ⟨p, [], by rw [hrest, List.append_nil], hp, by simp, ?_⟩
      simp only [find, distance?_singleton, hcut, Option.map_none]
      omega

end Cursor

end Text

namespace CursorReader

open Text (Cursor)

variable {α : Type} {opener : Opener α} {s l : List Char} {c : Cursor}
variable {segments : List (Segment α)}

/-- What the scanning loop keeps: where it is, the literal text since the last placeholder in
pieces, and the segments in front of this text. -/
structure Scan (α : Type) where
  cursor : Cursor
  buffer : List (List Char) := []
  segments : List (Segment α) := []

/-- The literal text that is kept becomes a segment. -/
def Scan.flush (s : Scan α) : Scan α :=
  if s.buffer = [] then s
  else { s with buffer := [], segments := s.segments ++ [.literal s.buffer.flatten] }

variable {readAt : Cursor → Except ReadFault (Option (α × Cursor))} {st : Scan α} {fuel : Nat}

/-- One turn of the loop: at a brace that opens a placeholder its segment is kept, and any other
brace and all text up to the next brace is literal. -/
def step (readAt : Cursor → Except ReadFault (Option (α × Cursor))) (st : Scan α) :
    Except ReadFault (Scan α) :=
  match st.cursor.current with
  | .error e => .error (.endOfText e)
  | .ok c =>
    if c = '{' then
      (readAt st.cursor).map fun
        | some (x, cursor) => { cursor, segments := st.flush.segments ++ [.placeholder x] }
        | none => { st with buffer := st.buffer ++ [['{']], cursor := st.cursor.advance 1 }
    else
      let stop := st.cursor.find ['{']
      .ok { st with
        buffer := st.buffer ++ [st.cursor.sliceTo stop], cursor := st.cursor.moveTo stop }

/-- The loop, for so many turns. -/
def run (readAt : Cursor → Except ReadFault (Option (α × Cursor))) :
    Nat → Scan α → Except ReadFault (Scan α)
  | 0, _ => .error .unfinished
  | fuel + 1, st =>
    if st.cursor.atEnd then .ok st.flush else (step readAt st).bind (run readAt fuel)

/-- The segments of a text, with one turn for each of its characters and one for its end. -/
def scan (readAt : Cursor → Except ReadFault (Option (α × Cursor))) (source : List Char) :
    Except ReadFault (List (Segment α)) :=
  (run readAt (source.length + 1) { cursor := ⟨source, 0⟩ }).map Scan.segments

/-- Whether placeholders are read from a cursor at a brace as the opener reads them from the text
behind the brace. -/
def ReadsAs (readAt : Cursor → Except ReadFault (Option (α × Cursor))) (opener : Opener α) : Prop :=
  ∀ c s, c.rest = '{' :: s →
    (readAt c).map (·.map fun r => (r.1, r.2.rest)) = checked (opener.read s)

/-- Text in front of segments that do not start with a literal is a literal of its own. -/
theorem foldr_consChar (h : Segment.startsLiteral segments = false) :
    l.foldr Segment.consChar segments = Segment.ofLiteral l ++ segments := by
  induction l with
  | nil => rfl
  | cons c l ih =>
    rw [List.foldr_cons, ih]
    cases l with
    | nil => exact Segment.consChar_of_startsLiteral h
    | cons x l => rfl

/-- Scanning goes over text without opening braces. -/
theorem scan_append_of_not_mem (h : '{' ∉ l) : Segment.scan opener (l ++ s) =
    (Segment.scan opener s).map (l.foldr Segment.consChar) := by
  induction l with
  | nil =>
    rw [List.nil_append]
    cases Segment.scan opener s <;> rfl
  | cons c l ih =>
    have hc : c ≠ '{' := fun hc => h (by simp [hc])
    rw [List.cons_append, Segment.scan_cons_of_ne hc, ih fun hl => h (by simp [hl])]
    cases Segment.scan opener s <;> rfl

/-- Keeping the literal text adds its segment, as no piece of it is empty. -/
theorem Scan.segments_flush (st : Scan α) (h : [] ∉ st.buffer) :
    st.flush.segments = st.segments ++ Segment.ofLiteral st.buffer.flatten := by
  unfold Scan.flush
  split
  · rename_i hnil
    simp [hnil, Segment.ofLiteral]
  · rename_i hne
    have hflat : st.buffer.flatten ≠ [] := by
      intro hflat
      obtain ⟨p, ps, hbuffer⟩ := List.exists_cons_of_ne_nil hne
      have hp := List.flatten_eq_nil_iff.1 hflat p (by simp [hbuffer])
      exact h (by simp [hbuffer, ← hp])
    simp [Segment.ofLiteral, hflat]

/-- What scanning finds in the end: the segments that are kept, and those of the text behind the
cursor with the literal text that is kept in front of them. -/
def Scan.outcome (opener : Opener α) (st : Scan α) : Except ReadFault (List (Segment α)) :=
  checked ((Segment.scan opener st.cursor.rest).map fun tail =>
    st.segments ++ st.buffer.flatten.foldr Segment.consChar tail)

/-- What a turn does: no empty text is kept, less text is behind the cursor than before, and
scanning finds the same in the end. -/
structure Turn (opener : Opener α) (st st' : Scan α) : Prop where
  buffer : [] ∉ st'.buffer
  length_lt : st'.cursor.rest.length < st.cursor.rest.length
  outcome : st'.outcome opener = st.outcome opener

/-- A turn that keeps literal text up to the next brace. -/
theorem turn_of_ne {x : Char} (hbuffer : [] ∉ st.buffer) (hrest : st.cursor.rest = x :: s)
    (hx : x ≠ '{') : ∃ st', step readAt st = .ok st' ∧ Turn opener st st' := by
  have hin : st.cursor.position ≤ st.cursor.source.length := by
    have := Cursor.source_length hrest
    omega
  obtain ⟨p, r, happ, hp, hr, hfind⟩ := Cursor.exists_find '{' hin
  obtain ⟨hslice, hmove⟩ := Cursor.sliceTo_of_rest happ
  have hne : p ≠ [] := by
    rintro rfl
    rw [hrest, List.nil_append] at happ
    exact hx (hr x (by rw [← happ]; rfl))
  refine ⟨{ st with buffer := st.buffer ++ [p],
                    cursor := st.cursor.moveTo (st.cursor.position + p.length) }, ?_, ?_⟩
  · simp only [step, Cursor.current_of_rest hrest, if_neg hx, hfind, hslice]
  · refine ⟨by simp [hbuffer, Ne.symm hne], ?_, ?_⟩
    · have hpos := List.length_pos_iff.2 hne
      rw [hmove, happ, List.length_append]
      omega
    · simp only [Scan.outcome, hmove, happ, scan_append_of_not_mem hp, List.flatten_append,
        List.flatten_singleton, List.foldr_append]
      cases Segment.scan opener r <;> rfl

/-- A turn at a brace that opens nothing keeps the brace. -/
theorem turn_of_none (hbuffer : [] ∉ st.buffer) (hrest : st.cursor.rest = '{' :: s)
    (ho : opener.read s = .ok none) :
    Turn opener st { st with buffer := st.buffer ++ [['{']], cursor := st.cursor.advance 1 } := by
  have hnext : (st.cursor.advance 1).rest = s := Cursor.rest_advance (p := ['{']) hrest
  refine ⟨by simp [hbuffer], by simp [hnext, hrest], ?_⟩
  simp only [Scan.outcome, hnext, hrest, Segment.scan_brace_of_none ho, List.flatten_append,
    List.flatten_singleton, List.foldr_append]
  cases Segment.scan opener s <;> rfl

/-- A turn at a brace that opens a placeholder keeps the literal text and the placeholder as
segments. -/
theorem turn_of_some {x : α} {cursor : Cursor} (hbuffer : [] ∉ st.buffer)
    (hrest : st.cursor.rest = '{' :: s) (ho : opener.read s = .ok (some (x, cursor.rest))) :
    Turn opener st { cursor, segments := st.flush.segments ++ [.placeholder x] } := by
  have hle := opener.length_le ho
  have hstarts (tail : List (Segment α)) :
      Segment.startsLiteral (.placeholder x :: tail) = false := rfl
  refine ⟨by simp, by simpa [hrest] using Nat.lt_succ_of_le hle, ?_⟩
  simp only [Scan.outcome, hrest, Segment.scan_brace_of_some ho, st.segments_flush hbuffer]
  cases Segment.scan opener cursor.rest with
  | error e => rfl
  | ok tail => simp [foldr_consChar (hstarts tail)]

/-- **A turn does not fail but for a placeholder,** and where it fails scanning does. -/
theorem step_cases (hread : ReadsAs readAt opener) (hbuffer : [] ∉ st.buffer)
    (hmore : st.cursor.atEnd = false) :
    (∃ st', step readAt st = .ok st' ∧ Turn opener st st') ∨
      ∃ fault, step readAt st = .error fault ∧ st.outcome opener = .error fault := by
  obtain ⟨c, s, hrest⟩ : ∃ c s, st.cursor.rest = c :: s := by
    refine List.exists_cons_of_ne_nil fun hnil => ?_
    rw [Cursor.rest_eq_nil_iff.1 hnil] at hmore
    cases hmore
  by_cases hc : c = '{'
  · subst hc
    have hat := hread st.cursor s hrest
    cases hr : readAt st.cursor with
    | error fault =>
      rw [hr, map_error] at hat
      cases ho : opener.read s with
      | ok r =>
        rw [ho] at hat
        cases hat
      | error e =>
        rw [ho, checked_error] at hat
        refine .inr ⟨fault, ?_, ?_⟩
        · simp only [step, Cursor.current_of_rest hrest, if_pos, hr, map_error]
        · rw [Scan.outcome, hrest, Segment.scan_brace_of_error ho, Except.error.inj hat]
          rfl
    | ok found =>
      rw [hr, map_ok] at hat
      have ho : opener.read s = .ok (found.map fun r => (r.1, r.2.rest)) :=
        mapError_eq_ok_iff.1 hat.symm
      cases found with
      | none =>
        refine .inl ⟨_, ?_, turn_of_none hbuffer hrest ho⟩
        simp only [step, Cursor.current_of_rest hrest, if_pos, hr, map_ok]
      | some r =>
        refine .inl ⟨_, ?_, turn_of_some hbuffer hrest ho⟩
        simp only [step, Cursor.current_of_rest hrest, if_pos, hr, map_ok]
  · exact .inl (turn_of_ne hbuffer hrest hc)

/-- **The loop ends with what scanning finds in the end,** if it has more turns than there are
characters behind the cursor. -/
theorem run_eq (hread : ReadsAs readAt opener) (hbuffer : [] ∉ st.buffer)
    (hfuel : st.cursor.rest.length < fuel) :
    (run readAt fuel st).map Scan.segments = st.outcome opener := by
  induction fuel generalizing st with
  | zero => omega
  | succ fuel ih =>
    rw [run]
    split
    · rename_i hend
      rw [map_ok, st.segments_flush hbuffer, Scan.outcome, Cursor.rest_eq_nil_iff.2 hend,
        Segment.scan_nil, map_ok, foldr_consChar rfl, List.append_nil, checked_ok]
    · rename_i hmore
      rcases step_cases hread hbuffer (Bool.eq_false_of_not_eq_true hmore) with
        ⟨st', hstep, hturn⟩ | ⟨fault, hstep, houtcome⟩
      · have hlt := hturn.length_lt
        rw [hstep, ← hturn.outcome]
        exact ih hturn.buffer (by omega)
      · rw [hstep, houtcome]
        rfl

/-- **The loop finds the segments of a text,** and fails for nothing but what its placeholders fail
for. -/
theorem scan_eq (hread : ReadsAs readAt opener) (source : List Char) :
    scan readAt source = checked (Segment.scan opener source) := by
  refine (run_eq hread (by simp) (by simp [Cursor.rest])).trans ?_
  simp only [Scan.outcome, Cursor.rest, List.drop_zero, List.flatten_nil, List.foldr_nil,
    List.nil_append]
  cases Segment.scan opener source <;> rfl

end CursorReader
end Phrasebook
