/-
**Replies that are not RESP2.**

`_run` meets its purpose when it returns a value whose encoding the stream begins with, or raises a `RespStoreError`.
It does not look at the line end behind a body, takes every number that `int` takes and every length below minus one,
and lets the exceptions of `int` and `decode` through.

* `clean_of_decoded` and `decoded_of_clean` — it does so exactly where a value in its standard encoding, or a refusal,
  stands at the front;
* `decodes_iff` — the two together, for every stream and every way to split it;
* `malformed_replies` — a number, a length, a text and a body for which it does not.
-/

import Mathlib.Tactic.Common
import ProviderSimulator.RespStore.RoundTrip

namespace ProviderSimulator.RespStore

open ProviderSimulator.Lib ProviderSimulator.Python ProviderSimulator.Domain

/-- `_run` returns a value whose encoding the stream begins with, or raises a `RespStoreError`. -/
def Decoded (room : ℕ) (pieces : List Bytes) (ending : StoreError) : Prop :=
  match run room pieces ending with
  | .ok reply => ∃ value : RespValue, value.Valid ∧ value.toReply = reply ∧ value.wire <+: pieces.flatten
  | .error (.refused _) => True
  | .error (.raised _) => False

section

variable {room : ℕ} {pieces : List Bytes} {ending : StoreError}

theorem run_of_readReply {reply : Reply} {next : Reader} (reads : readReply room ⟨[], pieces, ending⟩ = .ok (reply, next)) :
    run room pieces ending = .ok reply := by
  unfold run
  rw [reads]
  rfl

theorem run_of_error {error : Raised StoreError} (fails : readReply room ⟨[], pieces, ending⟩ = .error error) :
    run room pieces ending = .error error := by
  unfold run
  rw [fails]
  rfl

/-- A value in its standard encoding or a refusal at the front is enough. -/
theorem decoded_of_clean (full : ∀ piece ∈ pieces, piece ≠ []) (clean : (front room ⟨[], pieces, ending⟩).Clean) :
    Decoded room pieces ending := by
  have live : Reader.Live ⟨[], pieces, ending⟩ := full
  have gives := front_gives room live
  have encodes := front_encodes room ⟨[], pieces, ending⟩
  unfold Decoded
  cases found : front room ⟨[], pieces, ending⟩ with
  | taken value next =>
      rw [found] at clean gives encodes
      obtain ⟨given, rfl⟩ := Option.isSome_iff_exists.mp clean
      obtain ⟨-, reply, reads, same⟩ := gives
      obtain ⟨valid, starts⟩ := encodes given rfl
      rw [run_of_readReply reads]
      exact ⟨given, valid, (same given rfl).symm, ⟨next.stream, starts.symm⟩⟩
  | refused =>
      rw [found] at gives
      obtain ⟨error, fails⟩ := gives
      rw [run_of_error fails]
      exact trivial
  | broken =>
      rw [found] at clean
      exact clean.elim

/-- It is also needed: a value in its standard encoding is what stands at the front. -/
theorem clean_of_decoded (full : ∀ piece ∈ pieces, piece ≠ []) (decoded : Decoded room pieces ending) :
    (front room ⟨[], pieces, ending⟩).Clean := by
  have live : Reader.Live ⟨[], pieces, ending⟩ := full
  have gives := front_gives room live
  unfold Decoded at decoded
  cases found : front room ⟨[], pieces, ending⟩ with
  | refused => exact trivial
  | broken =>
      rw [found] at gives
      obtain ⟨error, fails⟩ := gives
      rw [run_of_error fails] at decoded
      exact decoded
  | taken value next =>
      rw [found] at gives
      obtain ⟨-, reply, reads, -⟩ := gives
      rw [run_of_readReply reads] at decoded
      obtain ⟨given, valid, -, rest, starts⟩ := decoded
      have whole : Reader.stream ⟨[], pieces, ending⟩ = given.wire ++ rest := starts.symm
      rcases wire_stands given valid room whole with ⟨last, stands, -⟩ | ⟨-, breaks⟩
      · cases found.symm.trans stands
        rfl
      · cases found.symm.trans breaks

/-- **RESP decode failures.** For every stream and every way to split it, `_run` returns a value whose encoding the
stream begins with or raises a `RespStoreError` exactly where a value in its standard encoding, or a refusal, stands at
the front. -/
theorem decodes_iff (full : ∀ piece ∈ pieces, piece ≠ []) :
    Decoded room pieces ending ↔ (front room ⟨[], pieces, ending⟩).Clean :=
  ⟨clean_of_decoded full, decoded_of_clean full⟩

end

/-- A bulk string in two pieces, the second of which begins inside the line end. -/
theorem decodes_pieces : Decoded 1 [[36, 49, 13, 10, 97, 13], [10]] .closed := by
  have full : ∀ piece ∈ [[36, 49, 13, 10, 97, 13], [10]], piece ≠ ([] : Bytes) := by decide
  exact (decodes_iff full).mpr (by decide +kernel)

/-- `:x` and `+` with a byte that is no UTF-8 raise another exception; a length of minus five and a body without its
line end are returned as values. -/
theorem malformed_replies :
    ¬Decoded 1 [[58, 120, 13, 10]] .closed ∧ ¬Decoded 1 [[43, 255, 13, 10]] .closed ∧
      ¬Decoded 1 [[36, 45, 53, 13, 10]] .closed ∧ ¬Decoded 1 [[36, 49, 13, 10, 97, 98, 99]] .closed := by
  refine ⟨fun decoded => ?_, fun decoded => ?_, fun decoded => ?_, fun decoded => ?_⟩
  all_goals
    have clean := clean_of_decoded (by decide) decoded
    revert clean
    decide +kernel

end ProviderSimulator.RespStore
