/-
**The messages of a WebSocket stream.**

`parse_frame` returns one message a call: a control frame as it stands, or the frames of a data message put
together. `messages` says what the calls return for the frames on the wire, with no bytes in it.

* `parse_wires` — the calls return `messages`, in whatever pieces the stream comes, and leave what follows;
* `codec_round_trip` — the frames of `encode_frame` come back one by one;
* `fragments_assembled_iff` — what a call has assembled is lost when a control frame ends the call, so a
  message in fragments comes back whole exactly when no control frame stands between its fragments.
-/

import Mathlib.Tactic.Common
import ProviderSimulator.Listeners.WsProtocol

namespace ProviderSimulator.Listeners.WsProtocol

open ProviderSimulator.Lib ProviderSimulator.Python

/-! ### Frames on the wire -/

/-- A frame as it stands on the wire. -/
structure Wire where
  fin : Bool
  opcode : ℕ
  payload : Bytes
  key : Option MaskKey
  small : opcode < 16
  fits : payload.length < 2 ^ 64

namespace Wire

/-- The bytes of the frame. -/
def bytes (wire : Wire) : Bytes := frameBytes wire.fin wire.opcode wire.payload wire.key

/-- The frame without its mask. -/
def frame (wire : Wire) : Frame := ⟨wire.fin, wire.opcode, wire.payload⟩

/-- A control frame, which is a message of its own. -/
def IsControl (wire : Wire) : Prop := 0x8 ≤ wire.opcode

instance (wire : Wire) : Decidable wire.IsControl := inferInstanceAs (Decidable (_ ≤ _))

/-- A call of `parse_frame` returns after this frame. -/
def Closes (wire : Wire) : Prop := wire.IsControl ∨ wire.fin = true

end Wire

/-- The bytes of a list of frames. -/
def wireBytes (wires : List Wire) : Bytes := (wires.map Wire.bytes).flatten

/-- What the calls of `parse_frame` return for the frames, the first call with what it has assembled. -/
def messages (assembled : Bytes) (firstOpcode : Option ℕ) : List Wire → List Frame
  | [] => []
  | wire :: wires =>
      if wire.IsControl then wire.frame :: messages [] none wires
      else
        let opcode := firstOpcode.getD wire.opcode
        let assembled := assembled ++ wire.payload
        if wire.fin then ⟨true, opcode, assembled⟩ :: messages [] none wires
        else messages assembled (some opcode) wires

/-- The last frame ends a message. -/
def Complete (wires : List Wire) : Prop := ∀ wire ∈ wires.getLast?, wire.Closes

theorem Complete.tail {wire : Wire} {wires : List Wire} (complete : Complete (wire :: wires)) : Complete wires := by
  intro last here
  refine complete last ?_
  rw [List.getLast?_cons, Option.mem_def.mp here]
  rfl

theorem Complete.cons {wire : Wire} {wires : List Wire} (complete : Complete wires)
    (closes : wires = [] → wire.Closes) : Complete (wire :: wires) := by
  intro last here
  by_cases single : wires = []
  · subst single
    cases here
    exact closes rfl
  · rw [List.getLast?_cons_of_ne_nil single] at here
    exact complete last here

/-- The frames of an open message are followed by one that ends it. -/
theorem messages_ne_nil {wires : List Wire} (complete : Complete wires) (some : wires ≠ []) (assembled : Bytes)
    (firstOpcode : Option ℕ) : messages assembled firstOpcode wires ≠ [] := by
  induction wires generalizing assembled firstOpcode with
  | nil => exact absurd rfl some
  | cons wire wires ih =>
      unfold messages
      by_cases control : wire.IsControl
      · rw [if_pos control]
        exact List.cons_ne_nil _ _
      · rw [if_neg control]
        by_cases fin : wire.fin = true
        · rw [if_pos fin]
          exact List.cons_ne_nil _ _
        · rw [if_neg fin]
          refine ih complete.tail ?_ _ _
          rintro rfl
          exact (complete wire rfl).elim control fin

/-! ### One turn of the loop -/

section Turn

variable {pieces rest : Pieces} {frame : Frame} (read : readFrame pieces = .ok (frame, rest)) (assembled : Bytes)
  (firstOpcode : Option ℕ)

include read

theorem parseLoop_control (control : 0x8 ≤ frame.opcode) :
    parseLoop assembled firstOpcode pieces = .ok (frame, rest) := by
  unfold parseLoop
  split
  · next failed => cases read.symm.trans failed
  · next found =>
      cases read.symm.trans found
      rw [if_pos control]

theorem parseLoop_last (data : ¬ 0x8 ≤ frame.opcode) (fin : frame.fin = true) :
    parseLoop assembled firstOpcode pieces =
      .ok (⟨true, firstOpcode.getD frame.opcode, assembled ++ frame.payload⟩, rest) := by
  unfold parseLoop
  split
  · next failed => cases read.symm.trans failed
  · next found =>
      cases read.symm.trans found
      rw [if_neg data, if_pos fin]

theorem parseLoop_more (data : ¬ 0x8 ≤ frame.opcode) (open_ : frame.fin ≠ true) :
    parseLoop assembled firstOpcode pieces =
      parseLoop (assembled ++ frame.payload) (some (firstOpcode.getD frame.opcode)) rest := by
  rw [parseLoop]
  split
  · next failed => cases read.symm.trans failed
  · next found =>
      cases read.symm.trans found
      rw [if_neg data, if_neg open_]

end Turn

/-! ### The calls -/

/-- Successive calls, the first of them in the middle of a message. -/
def parseFrom (assembled : Bytes) (firstOpcode : Option ℕ) : ℕ → Pieces → Except FrameParseError (List Frame × Pieces)
  | 0, pieces => .ok ([], pieces)
  | count + 1, pieces => do
      let (frame, rest) ← parseLoop assembled firstOpcode pieces
      let (frames, left) ← parseFrames count rest
      pure (frame :: frames, left)

theorem parseFrom_start (count : ℕ) (pieces : Pieces) : parseFrom [] none count pieces = parseFrames count pieces := by
  cases count with
  | zero => rfl
  | succ count => rfl

theorem parseFrom_wires {wires : List Wire} (complete : Complete wires) {pieces : Pieces} {after : Bytes}
    (holds : Holds pieces (wireBytes wires ++ after)) (assembled : Bytes) (firstOpcode : Option ℕ) :
    ∃ rest, parseFrom assembled firstOpcode (messages assembled firstOpcode wires).length pieces =
      .ok (messages assembled firstOpcode wires, rest) ∧ Holds rest after := by
  -- The induction is on the frames; a call that returns leaves the next one with nothing assembled.
  induction wires generalizing pieces assembled firstOpcode with
  | nil => exact ⟨pieces, rfl, holds⟩
  | cons wire wires ih =>
      have split : wireBytes (wire :: wires) ++ after = wire.bytes ++ (wireBytes wires ++ after) := by
        unfold wireBytes
        rw [List.map_cons, List.flatten_cons, List.append_assoc]
      rw [split] at holds
      obtain ⟨next, read, holds⟩ := readFrame_holds wire.small wire.fits holds
      have returned : ∀ {frame : Frame}, parseLoop assembled firstOpcode pieces = .ok (frame, next) →
          ∃ rest, parseFrom assembled firstOpcode (frame :: messages [] none wires).length pieces =
            .ok (frame :: messages [] none wires, rest) ∧ Holds rest after := by
        intro frame call
        obtain ⟨rest, later, held⟩ := ih complete.tail holds [] none
        rw [parseFrom_start] at later
        exact ⟨rest, ok_of_bind_iff.mpr ⟨_, call, ok_of_bind_iff.mpr ⟨_, later, rfl⟩⟩, held⟩
      unfold messages
      by_cases control : wire.IsControl
      · rw [if_pos control]
        exact returned (parseLoop_control read assembled firstOpcode control)
      · rw [if_neg control]
        by_cases fin : wire.fin = true
        · rw [if_pos fin]
          exact returned (parseLoop_last read assembled firstOpcode control fin)
        · rw [if_neg fin]
          -- The same call goes on: its result is the next message of the rest.
          have some : wires ≠ [] := by
            rintro rfl
            exact (complete wire rfl).elim control fin
          obtain ⟨rest, later, held⟩ :=
            ih complete.tail holds (assembled ++ wire.payload) (.some (firstOpcode.getD wire.opcode))
          refine ⟨rest, ?_, held⟩
          obtain ⟨message, others, list⟩ := List.exists_cons_of_ne_nil
            (messages_ne_nil complete.tail some (assembled ++ wire.payload) (.some (firstOpcode.getD wire.opcode)))
          rw [list] at later ⊢
          refine Eq.trans ?_ later
          dsimp only [List.length_cons, parseFrom]
          rw [parseLoop_more read assembled firstOpcode control fin]

/-- **The calls return the messages of the frames**, and take nothing of what follows. -/
theorem parse_wires {wires : List Wire} (complete : Complete wires) {pieces : Pieces} {after : Bytes}
    (holds : Holds pieces (wireBytes wires ++ after)) :
    ∃ rest, parseFrames (messages [] none wires).length pieces = .ok (messages [] none wires, rest) ∧
      Holds rest after := by
  obtain ⟨rest, calls, held⟩ := parseFrom_wires complete holds [] none
  rw [parseFrom_start] at calls
  exact ⟨rest, calls, held⟩

/-! ### The round trip -/

/-- One call of `encode_frame`: its arguments, and the random key of a masked frame. -/
structure Sent where
  opcode : ℤ
  payload : Bytes
  key : Option MaskKey
  small : 0 ≤ opcode ∧ opcode ≤ 15
  fits : payload.length < 2 ^ 64

/-- The outputs of the calls, one after the other. -/
def encodeFrames : List Sent → Except EncodeError Bytes
  | [] => .ok []
  | sent :: others => do
      let bytes ← encodeFrame sent.opcode sent.payload sent.key
      let more ← encodeFrames others
      pure (bytes ++ more)

/-- What is on the wire after the call. -/
def Sent.wire (sent : Sent) : Wire where
  fin := true
  opcode := sent.opcode.toNat
  payload := sent.payload
  key := sent.key
  small := by
    obtain ⟨positive, small⟩ := sent.small
    omega
  fits := sent.fits

theorem encodeFrames_eq (frames : List Sent) : encodeFrames frames = .ok (wireBytes (frames.map Sent.wire)) := by
  induction frames with
  | nil => rfl
  | cons sent others ih =>
      have one : encodeFrame sent.opcode sent.payload sent.key = .ok sent.wire.bytes := by
        obtain ⟨positive, small⟩ := sent.small
        unfold encodeFrame
        rw [if_neg (by omega), if_neg (Nat.not_le.mpr sent.fits)]
        rfl
      unfold encodeFrames
      rw [one, ok_bind, ih, ok_bind]
      rfl

/-- Complete frames are a message each. -/
theorem messages_sent (frames : List Sent) :
    messages [] none (frames.map Sent.wire) = frames.map fun sent => ⟨true, sent.opcode.toNat, sent.payload⟩ := by
  induction frames with
  | nil => rfl
  | cons sent others ih =>
      rw [List.map_cons, List.map_cons]
      unfold messages
      rw [ih]
      split_ifs
      · rfl
      · rfl
      · next open_ => exact absurd rfl open_

/-- **The codec's round trip.** -/
theorem codec_round_trip (frames : List Sent) (after : Bytes) :
    ∃ bytes, encodeFrames frames = .ok bytes ∧
      ∀ pieces, Holds pieces (bytes ++ after) →
        ∃ rest, parseFrames frames.length pieces =
            .ok (frames.map fun sent => ⟨true, sent.opcode.toNat, sent.payload⟩, rest) ∧
          Holds rest after := by
  refine ⟨_, encodeFrames_eq frames, fun pieces holds => ?_⟩
  have complete : Complete (frames.map Sent.wire) := by
    intro wire last
    obtain ⟨sent, -, rfl⟩ := List.mem_map.mp (List.mem_of_getLast? last)
    exact .inr rfl
  have calls := parse_wires complete holds
  rwa [messages_sent, List.length_map] at calls

/-- A masked text and an empty ping, cut after each byte. -/
theorem codec_round_trip_cut :
    ∃ bytes, encodeFrames [⟨1, [0x68, 0x69], some ⟨[1, 2, 3, 4], rfl⟩, by decide, by decide⟩,
        ⟨9, [], none, by decide, by decide⟩] = .ok bytes ∧
      ∃ rest, parseFrames 2 ((bytes ++ [0x81]).map fun byte => [byte]) =
          .ok ([⟨true, 1, [0x68, 0x69]⟩, ⟨true, 9, []⟩], rest) ∧ Holds rest [0x81] := by
  obtain ⟨bytes, encoded, parsed⟩ := codec_round_trip [⟨1, [0x68, 0x69], some ⟨[1, 2, 3, 4], rfl⟩, by decide,
    by decide⟩, ⟨9, [], none, by decide, by decide⟩] [0x81]
  refine ⟨bytes, encoded, parsed _ ⟨?_, ?_⟩⟩
  · exact (List.flatMap_def ..).symm.trans (List.flatMap_singleton' _)
  · intro piece here
    obtain ⟨byte, -, rfl⟩ := List.mem_map.mp here
    exact List.cons_ne_nil _ _

/-! ### Fragments -/

/-- The payload of one frame of a data message. -/
structure Fragment where
  payload : Bytes
  key : Option MaskKey
  fits : payload.length < 2 ^ 64

/-- A control frame. -/
structure Control where
  opcode : ℕ
  payload : Bytes
  key : Option MaskKey
  control : 0x8 ≤ opcode
  small : opcode < 16
  fits : payload.length < 2 ^ 64

/-- A data message in fragments, with the control frames in front of each fragment but the first. -/
structure Message where
  binary : Bool
  first : Fragment
  rest : List (List Control × Fragment)

/-- The frame of a fragment. -/
def Fragment.wire (fragment : Fragment) (fin : Bool) (opcode : Fin 16) : Wire :=
  ⟨fin, opcode, fragment.payload, fragment.key, opcode.isLt, fragment.fits⟩

/-- The frame of a control frame, which has its `FIN` bit. -/
def Control.wire (control : Control) : Wire :=
  ⟨true, control.opcode, control.payload, control.key, control.small, control.fits⟩

/-- What a call returns for it. -/
def Control.frame (control : Control) : Frame := ⟨true, control.opcode, control.payload⟩

/-- The frames after the first fragment: continuation frames, with `FIN` on the last. -/
def restWires : List (List Control × Fragment) → List Wire
  | [] => []
  | (controls, fragment) :: others => controls.map Control.wire ++ fragment.wire others.isEmpty 0 :: restWires others

namespace Message

/-- The opcode of the first fragment. -/
def opcode (message : Message) : Fin 16 := if message.binary then 2 else 1

/-- The frames of the message. -/
def wires (message : Message) : List Wire :=
  message.first.wire message.rest.isEmpty message.opcode :: restWires message.rest

/-- The control frames between its fragments. -/
def controls (message : Message) : List Control := message.rest.flatMap Prod.fst

/-- The payloads of its fragments. -/
def payload (message : Message) : Bytes := message.first.payload ++ message.rest.flatMap fun gap => gap.2.payload

/-- The calls return the control frames, and then the message whole. -/
def ReturnedWhole (message : Message) (after : Bytes) (pieces : Pieces) : Prop :=
  ∃ rest, parseFrames (message.controls.length + 1) pieces =
      .ok (message.controls.map Control.frame ++ [⟨true, message.opcode, message.payload⟩], rest) ∧ Holds rest after

end Message

theorem Control.isControl (control : Control) : control.wire.IsControl := control.control

theorem messages_controls (controls : List Control) (wires : List Wire) :
    messages [] none (controls.map Control.wire ++ wires) = controls.map Control.frame ++ messages [] none wires := by
  induction controls with
  | nil => rfl
  | cons control controls ih =>
      rw [List.map_cons, List.cons_append, List.map_cons, List.cons_append, messages, if_pos control.isControl, ih]
      rfl

/-- A control frame ends the call, whatever it has assembled. -/
theorem messages_controls_cons (control : Control) (controls : List Control) (wires : List Wire) (assembled : Bytes)
    (firstOpcode : Option ℕ) : messages assembled firstOpcode ((control :: controls).map Control.wire ++ wires) =
      (control :: controls).map Control.frame ++ messages [] none wires := by
  rw [List.map_cons, List.cons_append, messages, if_pos control.isControl, messages_controls]
  rfl

theorem messages_fragment (fragment : Fragment) {opcode : Fin 16} (data : opcode.val < 8) (wires : List Wire)
    (assembled : Bytes) (firstOpcode : Option ℕ) (fin : Bool) :
    messages assembled firstOpcode (fragment.wire fin opcode :: wires) =
      if fin then ⟨true, firstOpcode.getD opcode, assembled ++ fragment.payload⟩ :: messages [] none wires
      else messages (assembled ++ fragment.payload) (some (firstOpcode.getD opcode)) wires := by
  have notControl : ¬ (fragment.wire fin opcode).IsControl := Nat.not_le.mpr data
  rw [messages, if_neg notControl]
  rfl

/-- **What the calls return for the rest of a message.** The last message has the opcode of the first fragment
only if the call that saw it is still the one that returns. -/
theorem messages_rest {rest : List (List Control × Fragment)} (some : rest ≠ []) (assembled : Bytes)
    (firstOpcode : Option ℕ) :
    ∃ data : Frame, messages assembled firstOpcode (restWires rest) =
        (rest.flatMap Prod.fst).map Control.frame ++ [data] ∧
      (rest.flatMap Prod.fst = [] →
        data = ⟨true, firstOpcode.getD 0, assembled ++ rest.flatMap fun gap => gap.2.payload⟩) ∧
      (rest.flatMap Prod.fst ≠ [] ∨ firstOpcode.getD 0 = 0 → data.opcode = 0) := by
  induction rest generalizing assembled firstOpcode with
  | nil => exact absurd rfl some
  | cons gap others ih =>
      obtain ⟨controls, fragment⟩ := gap
      have continued : ∀ (assembled : Bytes) (firstOpcode : Option ℕ), ∃ data : Frame,
          messages assembled firstOpcode (fragment.wire others.isEmpty 0 :: restWires others) =
            (others.flatMap Prod.fst).map Control.frame ++ [data] ∧
          (others.flatMap Prod.fst = [] → data = ⟨true, firstOpcode.getD 0,
            assembled ++ (fragment.payload ++ others.flatMap fun gap => gap.2.payload)⟩) ∧
          (others.flatMap Prod.fst ≠ [] ∨ firstOpcode.getD 0 = 0 → data.opcode = 0) := by
        intro assembled firstOpcode
        rw [messages_fragment fragment (by decide)]
        by_cases last : others = []
        · subst last
          refine ⟨⟨true, firstOpcode.getD 0, assembled ++ fragment.payload⟩, rfl, fun _ => ?_, ?_⟩
          · rw [List.flatMap_nil, List.append_nil]
          · rintro (controls | zero)
            · exact absurd rfl controls
            · exact zero
        · rw [if_neg fun empty => last (List.isEmpty_iff.mp empty), ← List.append_assoc]
          exact ih last (assembled ++ fragment.payload) (.some (firstOpcode.getD 0))
      dsimp only [restWires, List.flatMap_cons]
      cases controls with
      | nil => exact continued assembled firstOpcode
      | cons control controls =>
          rw [messages_controls_cons]
          obtain ⟨data, list, -, zero⟩ := continued [] none
          refine ⟨data, ?_, fun none => absurd none (List.cons_ne_nil _ _), fun _ => zero (.inr rfl)⟩
          rw [list, List.flatMap_cons, List.map_append, List.append_assoc]

/-- A message starts with a text or a binary frame. -/
theorem Message.opcode_data (message : Message) : 0 < message.opcode.val ∧ message.opcode.val < 8 := by
  unfold opcode
  split <;> decide

theorem Message.messages_wires (message : Message) :
    ∃ data : Frame, messages [] none message.wires = message.controls.map Control.frame ++ [data] ∧
      (message.controls = [] → data = ⟨true, message.opcode, message.payload⟩) ∧
      (message.controls ≠ [] → data.opcode = 0) := by
  dsimp only [wires, controls, payload]
  rw [messages_fragment message.first message.opcode_data.2]
  by_cases single : message.rest = []
  · rw [single]
    refine ⟨_, rfl, fun _ => ?_, fun some => absurd rfl some⟩
    rw [List.flatMap_nil, List.append_nil]
    rfl
  · rw [if_neg fun empty => single (List.isEmpty_iff.mp empty)]
    obtain ⟨data, list, whole, zero⟩ := messages_rest single message.first.payload (some message.opcode.val)
    exact ⟨data, list, whole, fun some => zero (.inl some)⟩

/-- The last fragment has the `FIN` bit. -/
theorem fragment_complete {rest : List (List Control × Fragment)} (complete : Complete (restWires rest))
    (fragment : Fragment) (opcode : Fin 16) : Complete (fragment.wire rest.isEmpty opcode :: restWires rest) := by
  refine complete.cons fun none => .inr ?_
  cases rest with
  | nil => rfl
  | cons gap others => exact absurd none (List.append_ne_nil_of_right_ne_nil _ (List.cons_ne_nil _ _))

theorem restWires_complete (rest : List (List Control × Fragment)) : Complete (restWires rest) := by
  induction rest with
  | nil => nofun
  | cons gap others ih =>
      unfold restWires
      induction gap.1 with
      | nil => exact fragment_complete ih gap.2 0
      | cons control controls later => exact later.cons fun _ => .inl control.isControl

theorem Message.complete (message : Message) : Complete message.wires :=
  fragment_complete (restWires_complete message.rest) message.first message.opcode

/-- **A message in fragments comes back whole exactly when no control frame stands between its fragments.** -/
theorem fragments_assembled_iff (message : Message) (after : Bytes) (pieces : Pieces)
    (holds : Holds pieces (wireBytes message.wires ++ after)) :
    message.ReturnedWhole after pieces ↔ message.controls = [] := by
  obtain ⟨rest, calls, held⟩ := parse_wires message.complete holds
  obtain ⟨data, list, whole, zero⟩ := message.messages_wires
  rw [list, List.length_append, List.length_map, List.length_singleton] at calls
  constructor
  · rintro ⟨rest', calls', -⟩
    by_contra controls
    have same := (Prod.mk.inj (Except.ok.inj (calls.symm.trans calls'))).1
    have opcodes := congrArg Frame.opcode (List.singleton_inj.mp (List.append_cancel_left same))
    rw [zero controls] at opcodes
    exact message.opcode_data.1.ne opcodes
  · intro none
    rw [whole none] at calls
    exact ⟨rest, calls, held⟩

/-- The text `he` and `llo`, in two fragments with the given control frames between them. -/
def inTwo (controls : List Control) : Message :=
  ⟨false, ⟨[0x68, 0x65], none, by decide⟩, [(controls, ⟨[0x6C, 0x6C, 0x6F], none, by decide⟩)]⟩

theorem fragments_assembled_two :
    ∃ pieces, Holds pieces (wireBytes (inTwo []).wires ++ []) ∧ (inTwo []).ReturnedWhole [] pieces := by
  obtain ⟨pieces, holds⟩ := exists_holds (wireBytes (inTwo []).wires ++ [])
  exact ⟨pieces, holds, (fragments_assembled_iff (inTwo []) [] pieces holds).mpr rfl⟩

/-- The same text with a ping between its fragments. -/
def pinged : Message := inTwo [⟨0x9, [], none, by decide, by decide, by decide⟩]

/-- The ping ends the call that has read `he`; the next call returns `llo` as a continuation frame. -/
theorem pinged_torn :
    ∃ pieces rest, Holds pieces (wireBytes pinged.wires ++ []) ∧
      parseFrames 2 pieces = .ok ([⟨true, 0x9, []⟩, ⟨true, 0x0, [0x6C, 0x6C, 0x6F]⟩], rest) ∧
      ¬ pinged.ReturnedWhole [] pieces := by
  obtain ⟨pieces, holds⟩ := exists_holds (wireBytes pinged.wires ++ [])
  obtain ⟨rest, calls, -⟩ := parse_wires pinged.complete holds
  refine ⟨pieces, rest, holds, calls, ?_⟩
  rintro ⟨rest', whole, -⟩
  have same := (Prod.mk.inj (Except.ok.inj (calls.symm.trans whole))).1
  revert same
  decide

end ProviderSimulator.Listeners.WsProtocol
