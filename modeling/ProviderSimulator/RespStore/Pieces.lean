/-
**What a reader takes of the stream.**

* `cutLine_append` and `cutLine_more` — a line is cut at its own end, and more bytes after it change nothing;
* `Took` — what a reader has taken of the stream, with the pieces that it has not received left as they are;
* `Reader.skip` — the reader past some bytes of the stream;
* `line_eq` and `exactly_eq` — what `line` and `exactly` take of the stream, however it is split, and `line_refused` and
  `exactly_refused` — where the stream ends too early for them.
-/

import Mathlib.Tactic.Common
import ProviderSimulator.RespStore.Wire

namespace ProviderSimulator.RespStore

open ProviderSimulator.Lib ProviderSimulator.Python ProviderSimulator.Domain

/-! ### Lines -/

/-- A line is cut at its own end. -/
theorem cutLine_append {line : Bytes} (plain : 13 ∉ line) (rest : Bytes) :
    cutLine (line ++ crlf ++ rest) = some (line, rest) := by
  induction line with
  | nil => rfl
  | cons first others ih =>
      have here : first ≠ 13 := fun same => plain (same ▸ List.mem_cons_self)
      have later := ih fun member => plain (List.mem_cons_of_mem _ member)
      obtain ⟨second, after, split⟩ : ∃ second after, others ++ crlf ++ rest = second :: after := by
        cases others <;> exact ⟨_, _, rfl⟩
      rw [List.cons_append, List.cons_append, split]
      rw [split] at later
      unfold cutLine
      rw [if_neg fun both => here both.1, later]
      rfl

/-- What is cut off is the line and its end. -/
theorem eq_of_cutLine {bytes line rest : Bytes} (cut : cutLine bytes = some (line, rest)) :
    bytes = line ++ crlf ++ rest := by
  induction bytes generalizing line with
  | nil => cases cut
  | cons first others ih =>
      cases others with
      | nil => cases cut
      | cons second after =>
          unfold cutLine at cut
          split at cut
          · next ends =>
              cases cut
              rw [ends.1, ends.2]
              rfl
          · obtain ⟨⟨found, left⟩, later, same⟩ := Option.map_eq_some_iff.mp cut
            cases same
            rw [ih later]
            rfl

/-- More bytes after a line change nothing. -/
theorem cutLine_more {bytes line rest : Bytes} (cut : cutLine bytes = some (line, rest)) (more : Bytes) :
    cutLine (bytes ++ more) = some (line, rest ++ more) := by
  induction bytes generalizing line with
  | nil => cases cut
  | cons first others ih =>
      cases others with
      | nil => cases cut
      | cons second after =>
          unfold cutLine at cut
          rw [List.cons_append, List.cons_append]
          unfold cutLine
          split at cut
          · next ends =>
              cases cut
              rw [if_pos ends]
          · next goesOn =>
              obtain ⟨⟨found, left⟩, later, same⟩ := Option.map_eq_some_iff.mp cut
              cases same
              rw [if_neg goesOn, ← List.cons_append, ih later]
              rfl

/-! ### Readers -/

/-- The bytes that a reader has or will get. -/
def Reader.stream (reader : Reader) : Bytes := reader.buf ++ reader.pieces.flatten

/-- No piece that is still to come is empty. -/
def Reader.Live (reader : Reader) : Prop := ∀ piece ∈ reader.pieces, piece ≠ []

theorem isEmpty_of_live {buf piece : Bytes} {later : List Bytes} {ending : StoreError}
    (live : Reader.Live ⟨buf, piece :: later, ending⟩) : piece.isEmpty = false := by
  cases piece with
  | nil => exact absurd rfl (live [] List.mem_cons_self)
  | cons => rfl

/-- Receiving a piece moves it into the buffer. -/
theorem stream_received (buf piece : Bytes) (later : List Bytes) (ending : StoreError) :
    Reader.stream ⟨buf ++ piece, later, ending⟩ = Reader.stream ⟨buf, piece :: later, ending⟩ :=
  List.append_assoc _ _ _

theorem live_received {buf piece : Bytes} {later : List Bytes} {ending : StoreError}
    (live : Reader.Live ⟨buf, piece :: later, ending⟩) : Reader.Live ⟨buf ++ piece, later, ending⟩ :=
  fun other member => live other (List.mem_cons_of_mem _ member)

/-- The reader has taken these bytes. It has only received pieces, in their order. -/
structure Took (reader next : Reader) (taken : Bytes) : Prop where
  stream : reader.stream = taken ++ next.stream
  pieces : next.pieces <:+ reader.pieces
  ending : next.ending = reader.ending

namespace Took

variable {reader middle next : Reader} {taken more : Bytes}

theorem refl (reader : Reader) : Took reader reader [] := ⟨rfl, List.suffix_refl _, rfl⟩

theorem trans (first : Took reader middle taken) (second : Took middle next more) : Took reader next (taken ++ more) := by
  refine ⟨?_, second.pieces.trans first.pieces, second.ending.trans first.ending⟩
  rw [first.stream, second.stream, List.append_assoc]

theorem live (took : Took reader next taken) (alive : reader.Live) : next.Live :=
  fun piece member => alive piece (took.pieces.subset member)

end Took

/-- A line that is there is cut off. -/
theorem cutLine_ne_none (line rest : Bytes) : cutLine (line ++ crlf ++ rest) ≠ none := by
  induction line with
  | nil => nofun
  | cons first others ih =>
      obtain ⟨second, after, split⟩ : ∃ second after, others ++ crlf ++ rest = second :: after := by
        cases others <;> exact ⟨_, _, rfl⟩
      rw [List.cons_append, List.cons_append, split]
      rw [split] at ih
      unfold cutLine
      split
      · nofun
      · rw [Ne, Option.map_eq_none_iff]
        exact ih

/-- The reader past some bytes, from the buffer on: it receives as many pieces as have them. -/
def skipFrom (count : ℕ) (ending : StoreError) (buf : Bytes) : List Bytes → Reader
  | [] => ⟨buf.drop count, [], ending⟩
  | piece :: later =>
      if buf.length < count then skipFrom count ending (buf ++ piece) later
      else ⟨buf.drop count, piece :: later, ending⟩

/-- The reader past the first bytes of its stream. -/
def Reader.skip (reader : Reader) (count : ℕ) : Reader := skipFrom count reader.ending reader.buf reader.pieces

/-- **Past some bytes, the rest of the stream is left**, however it is split. -/
theorem skip_stream (reader : Reader) (count : ℕ) : (reader.skip count).stream = reader.stream.drop count := by
  obtain ⟨buf, pieces, ending⟩ := reader
  unfold Reader.skip
  dsimp only
  induction pieces generalizing buf with
  | nil =>
      unfold skipFrom Reader.stream
      rw [List.flatten_nil, List.append_nil, List.append_nil]
  | cons piece later ih =>
      unfold skipFrom
      split
      · rw [ih (buf ++ piece), stream_received]
      · next enough =>
          unfold Reader.stream
          rw [List.drop_append_of_le_length (Nat.le_of_not_lt enough)]

/-- Only pieces are received. -/
theorem skip_pieces (reader : Reader) (count : ℕ) :
    (reader.skip count).pieces <:+ reader.pieces ∧ (reader.skip count).ending = reader.ending := by
  obtain ⟨buf, pieces, ending⟩ := reader
  unfold Reader.skip
  dsimp only
  induction pieces generalizing buf with
  | nil => exact ⟨List.suffix_refl _, rfl⟩
  | cons piece later ih =>
      unfold skipFrom
      split
      · exact (ih (buf ++ piece)).imp_left fun suffix => suffix.trans (List.suffix_cons _ _)
      · exact ⟨List.suffix_refl _, rfl⟩

theorem skip_took (reader : Reader) (count : ℕ) : Took reader (reader.skip count) (reader.stream.take count) where
  stream := by rw [skip_stream, List.take_append_drop]
  pieces := (skip_pieces reader count).1
  ending := (skip_pieces reader count).2

/-- The bytes that the stream begins with are taken. -/
theorem skip_append {reader : Reader} {taken rest : Bytes} (starts : reader.stream = taken ++ rest) :
    (reader.skip taken.length).stream = rest ∧ Took reader (reader.skip taken.length) taken := by
  have took := skip_took reader taken.length
  rw [starts, List.take_left] at took
  rw [skip_stream, starts, List.drop_left]
  exact ⟨rfl, took⟩

theorem length_line (line : Bytes) : (line ++ crlf).length = line.length + 2 := List.length_append

/-- **What `line` takes**, however the stream is split. -/
theorem line_eq {reader : Reader} (live : reader.Live) {line rest : Bytes}
    (cut : cutLine reader.stream = some (line, rest)) : reader.line = .ok (line, reader.skip (line.length + 2)) := by
  obtain ⟨buf, pieces, ending⟩ := reader
  unfold Reader.line Reader.skip
  dsimp only
  -- The buffer past its first line.
  have past : ∀ {buf left : Bytes}, cutLine buf = some (line, left) →
      line.length + 2 ≤ buf.length ∧ buf.drop (line.length + 2) = left := by
    intro buf left cut
    rw [eq_of_cutLine cut, ← length_line, List.drop_left]
    exact ⟨(List.prefix_append (line ++ crlf) left).length_le, rfl⟩
  induction pieces generalizing buf with
  | nil =>
      have whole : cutLine buf = some (line, rest) := by
        rwa [show Reader.stream ⟨buf, [], ending⟩ = buf from List.append_nil buf] at cut
      unfold lineFrom skipFrom
      rw [whole, (past whole).2]
  | cons piece later ih =>
      unfold lineFrom skipFrom
      cases here : cutLine buf with
      | some found =>
          obtain ⟨first, left⟩ := found
          have whole := cutLine_more here (piece :: later).flatten
          cases whole.symm.trans cut
          rw [if_neg (Nat.not_lt.mpr (past here).1), (past here).2]
      | none =>
          have short : buf.length < line.length + 2 := by
            by_contra long
            have starts : buf ++ (piece :: later).flatten = line ++ crlf ++ rest := eq_of_cutLine cut
            have size : (line ++ crlf).length ≤ buf.length := by
              rw [length_line]
              exact Nat.le_of_not_lt long
            obtain ⟨more, same⟩ : line ++ crlf <+: buf :=
              List.prefix_of_prefix_length_le (starts ▸ List.prefix_append _ rest) (List.prefix_append buf _) size
            exact cutLine_ne_none line more (same ▸ here)
          dsimp only
          rw [isEmpty_of_live live, if_pos short]
          exact ih (buf ++ piece) (live_received live) (stream_received .. ▸ cut)

/-- A stream without a line end. -/
theorem line_refused {reader : Reader} (absent : cutLine reader.stream = none) :
    ∃ refusal, reader.line = .error (.refused refusal) := by
  obtain ⟨buf, pieces, ending⟩ := reader
  unfold Reader.line
  dsimp only
  induction pieces generalizing buf with
  | nil =>
      have whole : cutLine buf = none := by
        rwa [show Reader.stream ⟨buf, [], ending⟩ = buf from List.append_nil buf] at absent
      unfold lineFrom
      rw [whole]
      exact ⟨_, rfl⟩
  | cons piece later ih =>
      unfold lineFrom
      cases here : cutLine buf with
      | some found => cases (cutLine_more here (piece :: later).flatten).symm.trans absent
      | none =>
          dsimp only
          split
          · exact ⟨_, rfl⟩
          · exact ih (buf ++ piece) (stream_received .. ▸ absent)

theorem bound_nat (bytes : Bytes) (count : ℕ) : bound bytes count = count := by
  unfold bound
  rw [if_pos (Int.natCast_nonneg count), Int.toNat_natCast]

/-- **What `exactly` takes**, however the stream is split. It does not look at the two bytes after the body. -/
theorem exactly_eq {reader : Reader} (live : reader.Live) {count : ℕ} (enough : count + 2 ≤ reader.stream.length) :
    reader.exactly count = .ok (reader.stream.take count, reader.skip (count + 2)) := by
  obtain ⟨buf, pieces, ending⟩ := reader
  unfold Reader.exactly Reader.skip
  dsimp only
  have place : ∀ buf : Bytes, bound buf ((count : ℤ) + 2) = count + 2 := fun buf => bound_nat buf (count + 2)
  -- Once the buffer is long enough, the slice of the buffer is that of the stream.
  have body : ∀ buf pieces, count + 2 ≤ buf.length →
      buf.take (bound buf count) = (Reader.stream ⟨buf, pieces, ending⟩).take count := by
    intro buf pieces long
    have whole : count ≤ buf.length := by omega
    unfold Reader.stream
    rw [bound_nat, List.take_append_of_le_length whole]
  induction pieces generalizing buf with
  | nil =>
      have long : count + 2 ≤ buf.length := by
        rwa [show Reader.stream ⟨buf, [], ending⟩ = buf from List.append_nil buf] at enough
      unfold exactlyFrom skipFrom
      rw [if_neg (by omega), body buf [] long, place]
  | cons piece later ih =>
      unfold exactlyFrom skipFrom
      by_cases short : buf.length < count + 2
      · rw [if_pos (by omega), isEmpty_of_live live, if_pos short, ← stream_received]
        exact ih (buf ++ piece) (live_received live) (stream_received .. ▸ enough)
      · rw [if_neg (by omega), if_neg short, body buf (piece :: later) (by omega), place]

/-- A stream that ends before the body and its line end. -/
theorem exactly_refused {reader : Reader} {count : ℕ} (short : reader.stream.length < count + 2) :
    ∃ refusal, reader.exactly count = .error (.refused refusal) := by
  obtain ⟨buf, pieces, ending⟩ := reader
  unfold Reader.exactly
  dsimp only
  induction pieces generalizing buf with
  | nil =>
      have whole : buf.length < count + 2 := by
        rwa [show Reader.stream ⟨buf, [], ending⟩ = buf from List.append_nil buf] at short
      unfold exactlyFrom
      rw [if_pos (by omega)]
      exact ⟨_, rfl⟩
  | cons piece later ih =>
      have whole : buf.length < count + 2 := lt_of_le_of_lt (List.prefix_append buf _).length_le short
      unfold exactlyFrom
      rw [if_pos (by omega)]
      split
      · exact ⟨_, rfl⟩
      · exact ih (buf ++ piece) (stream_received .. ▸ short)

/-- A length below minus one cuts the buffer as it is, with slices that count from its end. -/
theorem exactly_negative (reader : Reader) {count : ℤ} (negative : count + 2 ≤ 0) :
    reader.exactly count =
      .ok (reader.buf.take (bound reader.buf count),
        ⟨reader.buf.drop (bound reader.buf (count + 2)), reader.pieces, reader.ending⟩) := by
  obtain ⟨buf, pieces, ending⟩ := reader
  have waits : ¬ (buf.length : ℤ) < count + 2 := by omega
  cases pieces with
  | nil => exact if_neg waits
  | cons piece later => exact if_neg waits

end ProviderSimulator.RespStore
