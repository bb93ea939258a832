/-
**The WebSocket codec.**

`encode_frame` writes one complete frame, and `parse_frame` reads one message from a `recv` callable. What
`recv` returns is any non-empty piece of the stream that is no longer than asked, so a stream is a list of
pieces (`Pieces`), and `recv` gives the first of them, or as much of it as was asked.

* `recvExact` — as many bytes as asked, over any number of pieces;
* `readFrame` — one frame as it stands on the wire, and `parseFrame` the loop over the frames of a message;
* `frameBytes` — the bytes of a frame with any `FIN` bit. `encodeFrame` always sets it.

The proofs read a stream by its bytes (`Holds`): `recvExact_holds` for the bytes in front of it, and
`readFrame_holds` for the frame in front of it, however the stream is cut.
-/

import Mathlib.Tactic.Common
import ProviderSimulator.Lib.Radix
import ProviderSimulator.Python.Host

namespace ProviderSimulator.Listeners.WsProtocol

open ProviderSimulator.Lib ProviderSimulator.Python

/-! ### Encoding -/

/-- A masking key. -/
structure MaskKey where
  bytes : Bytes
  four : bytes.length = 4

/-- The payload with each byte masked. -/
def applyMask (key payload : Bytes) : Bytes := payload.mapIdx fun place byte => byte ^^^ key.getD (place % 4) 0

/-- Why `encode_frame` raises. -/
inductive EncodeError
  | opcodeOutOfRange (opcode : ℤ)
  /-- `struct.pack` of a length that needs more than 64 bits. -/
  | lengthOutOfRange (length : ℕ)

/-- Big-endian bytes: `struct.pack(">H", …)` and `struct.pack(">Q", …)`. -/
def pack (size value : ℕ) : Bytes := (Radix.places 256 size value).map UInt8.ofNat

/-- `struct.unpack`. -/
def unpack (bytes : Bytes) : ℕ := Radix.number 256 (bytes.map UInt8.toNat)

/-- The mask bit of the second byte. -/
def maskBit (key : Option MaskKey) : ℕ := if key.isSome then 0x80 else 0

/-- The length field. -/
def lengthField (key : Option MaskKey) (length : ℕ) : Bytes :=
  if length < 126 then [UInt8.ofNat (maskBit key ||| length)]
  else if length < 2 ^ 16 then UInt8.ofNat (maskBit key ||| 126) :: pack 2 length
  else UInt8.ofNat (maskBit key ||| 127) :: pack 8 length

/-- The key and the payload as they stand on the wire. -/
def bodyBytes (key : Option MaskKey) (payload : Bytes) : Bytes :=
  match key with
  | some key => key.bytes ++ applyMask key.bytes payload
  | none => payload

/-- The bytes of one frame, with its `FIN` bit. -/
def frameBytes (fin : Bool) (opcode : ℕ) (payload : Bytes) (key : Option MaskKey) : Bytes :=
  UInt8.ofNat ((if fin then 0x80 else 0) ||| (opcode &&& 0x0F)) ::
    (lengthField key payload.length ++ bodyBytes key payload)

/-- `encode_frame`, where `key` is the random key of a masked frame. -/
def encodeFrame (opcode : ℤ) (payload : Bytes) (key : Option MaskKey) : Except EncodeError Bytes :=
  if opcode < 0 ∨ 0xF < opcode then .error (.opcodeOutOfRange opcode)
  else if 2 ^ 64 ≤ payload.length then .error (.lengthOutOfRange payload.length)
  else .ok (frameBytes true opcode.toNat payload key)

/-! ### Reading -/

/-- What `recv` will return, piece by piece, until the peer closes. -/
abbrev Pieces := List Bytes

/-- `FrameParseError`: how many bytes came of those that were needed. -/
structure FrameParseError where
  got : ℕ
  needed : ℕ
  deriving DecidableEq

/-- The text of the exception. -/
def FrameParseError.text (error : FrameParseError) : String :=
  "connection closed; got " ++ toString error.got ++ " of " ++ toString error.needed ++ " bytes"

/-- The pieces after `recv` gave a part of the first one. -/
def restOf (piece : Bytes) (rest : Pieces) : Pieces := if piece.isEmpty then rest else piece :: rest

/-- The loop of `_recv_exact`, which has `got` bytes of those needed and asks for `count` more. -/
def recvLoop (got : ℕ) : ℕ → Pieces → Except FrameParseError (Bytes × Pieces)
  | 0, pieces => .ok ([], pieces)
  | count + 1, [] => .error ⟨got, got + (count + 1)⟩
  | count + 1, piece :: rest =>
      if piece.isEmpty then .error ⟨got, got + (count + 1)⟩
      else if count + 1 ≤ piece.length then
        .ok (piece.take (count + 1), restOf (piece.drop (count + 1)) rest)
      else do
        let (more, left) ← recvLoop (got + piece.length) (count + 1 - piece.length) rest
        pure (piece ++ more, left)

/-- `_recv_exact`. -/
def recvExact (count : ℕ) (pieces : Pieces) : Except FrameParseError (Bytes × Pieces) := recvLoop 0 count pieces

/-- A message, or one frame of it. -/
structure Frame where
  fin : Bool
  opcode : ℕ
  payload : Bytes
  deriving DecidableEq

/-- The length of the payload, from the seven bits of the second byte. -/
def readLength (short : ℕ) (pieces : Pieces) : Except FrameParseError (ℕ × Pieces) :=
  if short = 126 then do
    let (bytes, rest) ← recvExact 2 pieces
    pure (unpack bytes, rest)
  else if short = 127 then do
    let (bytes, rest) ← recvExact 8 pieces
    pure (unpack bytes, rest)
  else .ok (short, pieces)

/-- The masking key, if the frame has one. -/
def readKey (masked : Bool) (pieces : Pieces) : Except FrameParseError (Option Bytes × Pieces) :=
  if masked then do
    let (key, rest) ← recvExact 4 pieces
    pure (some key, rest)
  else .ok (none, pieces)

/-- The payload, without its mask. -/
def unmask (key : Option Bytes) (payload : Bytes) : Bytes :=
  match key with
  | some key => applyMask key payload
  | none => payload

/-- One turn of the loop of `parse_frame`, up to the payload. -/
def readFrame (pieces : Pieces) : Except FrameParseError (Frame × Pieces) := do
  let (header, rest) ← recvExact 2 pieces
  let first := header.getD 0 0
  let second := header.getD 1 0
  let (length, rest) ← readLength (second &&& 0x7F).toNat rest
  let (key, rest) ← readKey (second &&& 0x80 ≠ 0) rest
  let (payload, rest) ← recvExact length rest
  pure (⟨first &&& 0x80 ≠ 0, (first &&& 0x0F).toNat, unmask key payload⟩, rest)

/-! ### Reading takes bytes away -/

theorem recvLoop_length {got count : ℕ} {pieces : Pieces} {bytes : Bytes} {rest : Pieces}
    (read : recvLoop got count pieces = .ok (bytes, rest)) :
    bytes.length = count ∧ pieces.flatten = bytes ++ rest.flatten := by
  induction pieces generalizing got count bytes with
  | nil =>
      cases count with
      | zero =>
          cases read
          exact ⟨rfl, rfl⟩
      | succ count => cases read
  | cons piece others ih =>
      cases count with
      | zero =>
          cases read
          exact ⟨rfl, rfl⟩
      | succ count =>
          unfold recvLoop at read
          split at read
          · cases read
          · split at read
            · next enough =>
                cases read
                refine ⟨List.length_take_of_le enough, ?_⟩
                have left : (restOf (piece.drop (count + 1)) others).flatten =
                    piece.drop (count + 1) ++ others.flatten := by
                  unfold restOf
                  split
                  · next empty => rw [List.isEmpty_iff.mp empty, List.nil_append]
                  · rw [List.flatten_cons]
                rw [left, List.flatten_cons, ← List.append_assoc, List.take_append_drop]
            · next short =>
                cases more : recvLoop (got + piece.length) (count + 1 - piece.length) others with
                | error error =>
                    rw [more] at read
                    cases read
                | ok result =>
                    obtain ⟨later, left⟩ := result
                    rw [more] at read
                    cases read
                    obtain ⟨length, bytes⟩ := ih more
                    refine ⟨?_, ?_⟩
                    · rw [List.length_append, length]
                      omega
                    · rw [List.flatten_cons, bytes, List.append_assoc]

theorem recvExact_shrinks {count : ℕ} {pieces : Pieces} {bytes : Bytes} {rest : Pieces}
    (read : recvExact count pieces = .ok (bytes, rest)) :
    rest.flatten.length + count = pieces.flatten.length := by
  obtain ⟨length, whole⟩ := recvLoop_length read
  rw [whole, List.length_append, length, Nat.add_comm]

theorem readLength_shrinks {short length : ℕ} {pieces rest : Pieces}
    (read : readLength short pieces = .ok (length, rest)) : rest.flatten.length ≤ pieces.flatten.length := by
  have field : ∀ {size : ℕ}, (do
      let (bytes, rest) ← recvExact size pieces
      pure (unpack bytes, rest)) = .ok (length, rest) → rest.flatten.length ≤ pieces.flatten.length := by
    intro size read
    obtain ⟨⟨bytes, left⟩, got, same⟩ := ok_of_bind read
    cases same
    exact Nat.le.intro (recvExact_shrinks got)
  unfold readLength at read
  split at read
  · exact field read
  · split at read
    · exact field read
    · cases read
      exact le_rfl

theorem readKey_shrinks {masked : Bool} {key : Option Bytes} {pieces rest : Pieces}
    (read : readKey masked pieces = .ok (key, rest)) : rest.flatten.length ≤ pieces.flatten.length := by
  unfold readKey at read
  split at read
  · obtain ⟨⟨bytes, left⟩, got, same⟩ := ok_of_bind read
    cases same
    exact Nat.le.intro (recvExact_shrinks got)
  · cases read
    exact le_rfl

/-- Every frame takes bytes off the stream. -/
theorem readFrame_shrinks {pieces rest : Pieces} {frame : Frame} (read : readFrame pieces = .ok (frame, rest)) :
    rest.flatten.length < pieces.flatten.length := by
  obtain ⟨⟨bytes, afterHeader⟩, header, read⟩ := ok_of_bind read
  obtain ⟨⟨count, afterLength⟩, length, read⟩ := ok_of_bind read
  obtain ⟨⟨masking, afterKey⟩, key, read⟩ := ok_of_bind read
  obtain ⟨⟨content, left⟩, payload, same⟩ := ok_of_bind read
  cases same
  have first := recvExact_shrinks header
  have second := readLength_shrinks length
  have third := readKey_shrinks key
  have fourth := recvExact_shrinks payload
  omega

/-! ### Messages -/

/-- The loop of `parse_frame`, with what earlier turns have assembled. -/
def parseLoop (assembled : Bytes) (firstOpcode : Option ℕ) (pieces : Pieces) :
    Except FrameParseError (Frame × Pieces) :=
  match _read : readFrame pieces with
  | .error error => .error error
  | .ok (frame, rest) =>
      -- A control frame is a message of its own, also between the frames of another one.
      if 0x8 ≤ frame.opcode then .ok (frame, rest)
      else
        let opcode := firstOpcode.getD frame.opcode
        let assembled := assembled ++ frame.payload
        if frame.fin then .ok (⟨true, opcode, assembled⟩, rest)
        else parseLoop assembled (some opcode) rest
termination_by pieces.flatten.length
decreasing_by exact readFrame_shrinks _read

/-- `parse_frame`. -/
def parseFrame (pieces : Pieces) : Except FrameParseError (Frame × Pieces) := parseLoop [] none pieces

/-- Successive calls. -/
def parseFrames : ℕ → Pieces → Except FrameParseError (List Frame × Pieces)
  | 0, pieces => .ok ([], pieces)
  | count + 1, pieces => do
      let (frame, rest) ← parseFrame pieces
      let (frames, left) ← parseFrames count rest
      pure (frame :: frames, left)

/-! ### A stream by its bytes -/

/-- The pieces make up the bytes, and none of them is empty. -/
structure Holds (pieces : Pieces) (bytes : Bytes) : Prop where
  whole : pieces.flatten = bytes
  filled : ∀ piece ∈ pieces, piece ≠ []

/-- Any bytes can come in one piece. -/
theorem exists_holds (bytes : Bytes) : ∃ pieces, Holds pieces bytes := by
  by_cases empty : bytes = []
  · exact ⟨[], empty.symm, nofun⟩
  · exact ⟨[bytes], List.flatten_singleton, fun piece here => List.mem_singleton.mp here ▸ empty⟩

theorem recvLoop_holds {pieces : Pieces} {front back : Bytes} (holds : Holds pieces (front ++ back)) (got : ℕ) :
    ∃ rest, recvLoop got front.length pieces = .ok (front, rest) ∧ Holds rest back := by
  induction pieces generalizing front got with
  | nil =>
      obtain ⟨rfl, rfl⟩ := List.append_eq_nil_iff.mp holds.whole.symm
      exact ⟨[], rfl, rfl, nofun⟩
  | cons piece others ih =>
      have rest : ∀ other ∈ others, other ≠ [] := fun other member => holds.filled other (List.mem_cons_of_mem _ member)
      have whole := holds.whole
      rw [List.flatten_cons] at whole
      cases front with
      | nil => exact ⟨piece :: others, rfl, holds.whole, holds.filled⟩
      | cons byte front =>
          have filled : piece ≠ [] := holds.filled piece List.mem_cons_self
          rw [List.length_cons]
          unfold recvLoop
          rw [if_neg fun empty => filled (List.isEmpty_iff.mp empty)]
          by_cases enough : front.length + 1 ≤ piece.length
          · -- The piece holds all that is asked.
            obtain ⟨left, rfl⟩ : ∃ left, piece = (byte :: front) ++ left := by
              rcases List.append_eq_append_iff.mp whole with ⟨missing, all, -⟩ | ⟨left, all, -⟩
              · have lengths := congrArg List.length all
                rw [List.length_append, List.length_cons] at lengths
                have none : missing = [] := List.length_eq_zero_iff.mp (by omega)
                exact ⟨[], by rw [all, none, List.append_nil, List.append_nil]⟩
              · exact ⟨left, all⟩
            rw [if_pos enough, ← List.length_cons, List.take_left, List.drop_left]
            refine ⟨_, rfl, ?_, ?_⟩
            · rw [List.append_assoc] at whole
              rw [← List.append_cancel_left whole]
              unfold restOf
              split
              · next empty => rw [List.isEmpty_iff.mp empty, List.nil_append]
              · rw [List.flatten_cons]
            · unfold restOf
              split
              · exact rest
              · next some => exact List.forall_mem_cons.mpr ⟨fun empty => some (List.isEmpty_iff.mpr empty), rest⟩
          · -- The piece is the start of what is asked.
            rw [if_neg enough]
            obtain ⟨more, front_eq, back_eq⟩ : ∃ more, byte :: front = piece ++ more ∧
                others.flatten = more ++ back := by
              rcases List.append_eq_append_iff.mp whole with ⟨more, all, later⟩ | ⟨left, all, -⟩
              · exact ⟨more, all, later⟩
              · have lengths := congrArg List.length all
                rw [List.length_append, List.length_cons] at lengths
                omega
            have count : front.length + 1 - piece.length = more.length := by
              have lengths := congrArg List.length front_eq
              rw [List.length_append, List.length_cons] at lengths
              omega
            obtain ⟨left, read, held⟩ := ih ⟨back_eq, rest⟩ (got + piece.length)
            rw [count, read]
            exact ⟨left, by rw [front_eq]; rfl, held⟩

/-- **`_recv_exact` gives the bytes in front**, however the stream is cut. -/
theorem recvExact_holds {pieces : Pieces} {front back : Bytes} (holds : Holds pieces (front ++ back)) {count : ℕ}
    (length : front.length = count) : ∃ rest, recvExact count pieces = .ok (front, rest) ∧ Holds rest back := by
  subst length
  exact recvLoop_holds holds 0

/-! ### One frame in front of the stream -/

theorem first_byte : ∀ (fin : Bool) (opcode : Fin 16),
    let byte := UInt8.ofNat ((if fin then 0x80 else 0) ||| (opcode.val &&& 0x0F))
    decide (byte &&& 0x80 ≠ 0) = fin ∧ (byte &&& 0x0F).toNat = opcode := by
  decide +kernel

theorem second_byte : ∀ (masked : Bool) (short : Fin 128),
    let byte := UInt8.ofNat ((if masked then 0x80 else 0) ||| short.val)
    decide (byte &&& 0x80 ≠ 0) = masked ∧ (byte &&& 0x7F).toNat = short := by
  decide +kernel

theorem pack_length (size value : ℕ) : (pack size value).length = size := by
  unfold pack
  rw [List.length_map, Radix.places_length]

theorem unpack_pack (size value : ℕ) (fits : value < 256 ^ size) : unpack (pack size value) = value := by
  have bytes : (pack size value).map UInt8.toNat = Radix.places 256 size value := by
    unfold pack
    rw [List.map_map]
    refine (List.map_congr_left fun digit member => ?_).trans (List.map_id _)
    have small : digit < 256 := Radix.places_digits (by decide) size value digit member
    exact UInt8.toNat_ofNat_of_lt' small
  unfold unpack
  rw [bytes, Radix.number_places, Nat.mod_eq_of_lt fits]

theorem applyMask_length (key payload : Bytes) : (applyMask key payload).length = payload.length :=
  List.length_mapIdx

/-- Masking twice changes nothing. -/
theorem applyMask_applyMask (key payload : Bytes) : applyMask key (applyMask key payload) = payload := by
  refine List.ext_getElem ?_ fun place inside inside' => ?_
  · rw [applyMask_length, applyMask_length]
  · simp only [applyMask, List.getElem_mapIdx]
    rw [UInt8.xor_assoc, UInt8.xor_self, UInt8.xor_zero]

/-- The bytes of a length field after its first one. -/
def lengthTail (length : ℕ) : Bytes :=
  if length < 126 then [] else if length < 2 ^ 16 then pack 2 length else pack 8 length

/-- The seven bits of a length field. -/
def lengthShort (length : ℕ) : ℕ := if length < 126 then length else if length < 2 ^ 16 then 126 else 127

theorem lengthShort_lt (length : ℕ) : lengthShort length < 128 := by
  unfold lengthShort
  split_ifs <;> omega

theorem lengthField_eq (key : Option MaskKey) (length : ℕ) :
    lengthField key length = UInt8.ofNat (maskBit key ||| lengthShort length) :: lengthTail length := by
  unfold lengthField lengthShort lengthTail
  split_ifs <;> rfl

theorem readLength_holds {pieces : Pieces} {length : ℕ} {back : Bytes} (fits : length < 2 ^ 64)
    (holds : Holds pieces (lengthTail length ++ back)) :
    ∃ rest, readLength (lengthShort length) pieces = .ok (length, rest) ∧ Holds rest back := by
  unfold lengthTail at holds
  unfold lengthShort readLength
  by_cases short : length < 126
  · rw [if_pos short] at holds
    rw [if_pos short, if_neg (by omega), if_neg (by omega)]
    exact ⟨pieces, rfl, holds⟩
  · rw [if_neg short] at holds ⊢
    by_cases middle : length < 2 ^ 16
    · rw [if_pos middle] at holds ⊢
      obtain ⟨rest, read, held⟩ := recvExact_holds holds (pack_length 2 length)
      rw [if_pos rfl, read, ok_bind]
      dsimp only
      rw [unpack_pack 2 length middle]
      exact ⟨rest, rfl, held⟩
    · rw [if_neg middle] at holds ⊢
      obtain ⟨rest, read, held⟩ := recvExact_holds holds (pack_length 8 length)
      rw [if_neg (by decide), if_pos rfl, read, ok_bind]
      dsimp only
      rw [unpack_pack 8 length fits]
      exact ⟨rest, rfl, held⟩

/-- The key and the payload are read one after the other, and the mask comes off. -/
theorem readBody_holds {pieces : Pieces} {payload after : Bytes} {key : Option MaskKey}
    (holds : Holds pieces (bodyBytes key payload ++ after)) :
    ∃ masking afterKey content rest, readKey key.isSome pieces = .ok (masking, afterKey) ∧
      recvExact payload.length afterKey = .ok (content, rest) ∧ unmask masking content = payload ∧
      Holds rest after := by
  cases key with
  | none =>
      obtain ⟨rest, body, held⟩ := recvExact_holds holds rfl
      exact ⟨none, pieces, payload, rest, rfl, body, rfl, held⟩
  | some key =>
      dsimp only [bodyBytes] at holds
      rw [List.append_assoc] at holds
      obtain ⟨afterKey, masking, holds⟩ := recvExact_holds holds key.four
      obtain ⟨rest, body, held⟩ := recvExact_holds holds (applyMask_length key.bytes payload)
      refine ⟨some key.bytes, afterKey, _, rest, ?_, body, applyMask_applyMask key.bytes payload, held⟩
      exact ok_of_bind_iff.mpr ⟨_, masking, rfl⟩

/-- **A frame in front of the stream is read as it was written**, and what follows it stays. -/
theorem readFrame_holds {pieces : Pieces} {fin : Bool} {opcode : ℕ} {payload after : Bytes}
    {key : Option MaskKey} (small : opcode < 16) (fits : payload.length < 2 ^ 64)
    (holds : Holds pieces (frameBytes fin opcode payload key ++ after)) :
    ∃ rest, readFrame pieces = .ok (⟨fin, opcode, payload⟩, rest) ∧ Holds rest after := by
  unfold frameBytes at holds
  rw [lengthField_eq] at holds
  obtain ⟨isFin, isOpcode⟩ := first_byte fin ⟨opcode, small⟩
  obtain ⟨isMasked, isShort⟩ := second_byte key.isSome ⟨_, lengthShort_lt payload.length⟩
  have split : ∀ first second : UInt8, (first :: ((second :: lengthTail payload.length) ++ bodyBytes key payload)) ++
      after = [first, second] ++ (lengthTail payload.length ++ (bodyBytes key payload ++ after)) := by
    intro first second
    simp only [List.cons_append, List.append_assoc, List.nil_append]
  rw [split] at holds
  obtain ⟨afterHeader, header, holds⟩ := recvExact_holds holds rfl
  obtain ⟨afterLength, length, holds⟩ := readLength_holds fits holds
  obtain ⟨masking, afterKey, content, rest, read, body, clear, held⟩ := readBody_holds holds
  refine ⟨rest, ?_, held⟩
  refine ok_of_bind_iff.mpr ⟨_, header, ok_of_bind_iff.mpr ⟨(payload.length, afterLength), ?_, ?_⟩⟩
  · rw [← length]
    exact congrArg (readLength · afterHeader) isShort
  · refine ok_of_bind_iff.mpr ⟨(masking, afterKey), ?_, ok_of_bind_iff.mpr ⟨_, body, ?_⟩⟩
    · rw [← read]
      exact congrArg (readKey · afterLength) isMasked
    · exact congrArg Except.ok (Prod.ext (Frame.mk.injEq .. ▸ ⟨isFin, isOpcode, clear⟩) rfl)

end ProviderSimulator.Listeners.WsProtocol
