/-
**The two threads of a WebSocket connection.**

The reader of a connection parses a frame, asks the listener, and puts the answer on a queue of at most 1000 items; the
control API puts pushed events on the same queue, and the writer sends what it takes from there. The writes of the
writer take any number of steps. A drop in the middle of a frame is written by the reader itself, past the queue.

* `frameTask` — what the reader does with a frame, from `_reader_loop` and `_perform_frame`;
* `step` — one step of the reader, of the writer, or the push of an event;
* `Streamed` — the bytes on the wire are whole frames, in the order of the queue, and a part of the next one;
* `ws_stream_whole` — **every interleaving**.

`accepted`, `torn` and `signed` are not in the code: the frames that the queue took, whether the reader has written to
the socket itself, and whether the queue took the sentinel.
-/

import Mathlib.Tactic.Common
import ProviderSimulator.Lib.Machine
import ProviderSimulator.Listeners.WsMessages
import ProviderSimulator.Listeners.Wire
import ProviderSimulator.Python.Numerals

namespace ProviderSimulator.Listeners.WsSession

open ProviderSimulator.Lib ProviderSimulator.Python ProviderSimulator.Listeners.WsProtocol

/-! ### The reader -/

/-- `encode_frame` with no mask: nothing where the length does not fit. -/
def framed (opcode : ℤ) (small : 0 ≤ opcode ∧ opcode ≤ 15) (payload : Bytes) : Option WsProtocol.Sent :=
  if fits : payload.length < 2 ^ 64 then some ⟨opcode, payload, none, small, fits⟩ else none

/-- `OPCODE_TEXT`. -/
def textFrame (payload : Bytes) : Option WsProtocol.Sent := framed 1 (by decide) payload

/-- `OPCODE_PONG`. -/
def pongFrame (payload : Bytes) : Option WsProtocol.Sent := framed 10 (by decide) payload

/-- `_ws_text_frame`. -/
def wsTextFrame (host : Host) (body : Body) (mode field : Value) : Except PyError WsProtocol.Sent := do
  let (raw, emitBody) ← Wire.serialize host body mode field false
  match textFrame (if emitBody then raw else []) with
  | some sent => pure sent
  | none => .error .valueError

/-- What the reader does after a frame. -/
inductive Task
  | keepReading
  | stop
  | put (sent : WsProtocol.Sent)
  /-- A write past the queue, and the end of the loop. -/
  | tear (bytes : Bytes)

/-- The bytes of a drop: the head of a frame of 100 bytes, and the half of it. -/
def dropBytes (dropAt : Value) : Bytes :=
  if dropAt.eqText "after_headers" then [0x81, 100]
  else if dropAt.eqText "mid_body" then [0x81, 100] ++ List.replicate 50 88
  else []

/-- `_perform_frame`, up to its write or its put. An exception ends the loop. The wait for `latency_ms` is the time
until the next step of the reader. -/
def performFrame (host : Host) (result : ServeResult) : Task :=
  match result.action with
  | .noBody => .stop
  | .hang => .keepReading
  | .drop =>
      match result.latencyMs.exceeds 0 with
      | .ok _ => .tear (dropBytes result.dropAt)
      | .error _ => .stop
  | .respond =>
      match result.latencyMs.exceeds 0, wsTextFrame host result.body result.corruptionMode result.missingField with
      | .ok _, .ok sent => .put sent
      | _, _ => .stop

/-- Is the method of a JSON frame a list or an object? -/
def badMethod : Value → Bool
  | .dict entries =>
      match Dict.get entries (.text "method") with
      | some (.list _) => true
      | some (.dict _) => true
      | _ => false
  | _ => false

/-- A text frame: `served` is what the listener answers, or the exception that leaves it. -/
def textTask (host : Host) (payload : Bytes) (served : Except PyError ServeResult) : Task :=
  match host.decode payload with
  | .error _ => .keepReading
  | .ok text =>
      match host.loadsText text with
      | .error (.badJson _ _ _) => .keepReading
      | .error _ => .stop
      | .ok body =>
          if badMethod body then .stop
          else
            match served with
            | .ok result => performFrame host result
            | .error _ => .stop

/-- One turn of `_reader_loop`, after the frame. -/
def frameTask (host : Host) (frame : Frame) (portClosed : Bool) (served : Except PyError ServeResult) : Task :=
  if portClosed then .stop
  else if frame.opcode = 0x8 then .stop
  else if frame.opcode = 0x9 then
    match pongFrame frame.payload with
    | some sent => .put sent
    | none => .stop
  else if frame.opcode ≠ 0x1 then .keepReading
  else textTask host frame.payload served

/-! ### The connection -/

/-- An item of `out_queue`. -/
inductive Item
  | frame (sent : WsProtocol.Sent)
  | sentinel

/-- Where the reader is. -/
inductive ReaderPlace
  /-- `parse_frame`. -/
  | reading
  /-- Before the write or the put, with the wait for the latency. -/
  | performing (task : Task)
  /-- In the write of a drop. -/
  | tearing (left : Bytes)
  /-- The loop is over: before the sentinel. -/
  | leaving
  /-- Before `connection.close`. -/
  | closing
  | ended

/-- Where the writer is. -/
inductive WriterPlace
  | idle
  /-- In `sendall`. -/
  | sending (left : Bytes)
  | ended

/-- Who put a frame on the queue. -/
inductive Origin
  | reader
  | pushed
  deriving DecidableEq

/-- A connection after the handshake. -/
structure Session where
  queue : List Item
  wire : Bytes
  reader : ReaderPlace
  writer : WriterPlace
  accepted : List (Origin × WsProtocol.Sent)
  torn : Bool
  signed : Bool

/-- A new connection. -/
def Session.start : Session := ⟨[], [], .reading, .idle, [], false, false⟩

/-- `queue.Queue(maxsize=1000)`. -/
def queueSize : ℕ := 1000

/-- Has the queue room for one item more? -/
def Session.hasRoom (session : Session) : Bool := session.queue.length < queueSize

/-- `put_nowait` of a frame, where there is room. -/
def Session.put (session : Session) (origin : Origin) (sent : WsProtocol.Sent) : Session :=
  { session with queue := session.queue ++ [.frame sent], accepted := session.accepted ++ [(origin, sent)] }

/-- A step of one thread, with what the system call in it answers. -/
inductive Action
  | frame (frame : Frame) (portClosed : Bool) (served : Except PyError ServeResult)
  /-- `parse_frame` raises. -/
  | readFails
  | perform
  /-- The reader's `sendall` writes that many bytes more. -/
  | tear (count : ℕ)
  /-- It ends, or raises. -/
  | tearEnds
  /-- The sentinel, if the queue has room. -/
  | leave
  | close
  /-- `emit` puts the frame of an event. -/
  | push (sent : WsProtocol.Sent)
  | get
  /-- The writer's `sendall` writes that many bytes more. -/
  | write (count : ℕ)
  | writeFails

/-- One step of the reader. -/
def readerStep (host : Host) (session : Session) (action : Action) : Option Session :=
  match action, session.reader with
  | .frame frame portClosed served, .reading =>
      some { session with reader := .performing (frameTask host frame portClosed served) }
  | .readFails, .reading => some { session with reader := .leaving }
  | .perform, .performing .keepReading => some { session with reader := .reading }
  | .perform, .performing .stop => some { session with reader := .leaving }
  | .perform, .performing (.put sent) =>
      if session.hasRoom then some { session.put .reader sent with reader := .reading }
      else some { session with reader := .leaving }
  | .perform, .performing (.tear bytes) => some { session with reader := .tearing bytes }
  | .tear count, .tearing left =>
      if 0 < count ∧ count ≤ left.length then
        some { session with
          wire := session.wire ++ left.take count
          reader := .tearing (left.drop count)
          torn := true }
      else none
  | .tearEnds, .tearing _ => some { session with reader := .leaving }
  | .leave, .leaving =>
      if session.hasRoom then
        some { session with queue := session.queue ++ [.sentinel], reader := .closing, signed := true }
      else some { session with reader := .closing }
  | .close, .closing => some { session with reader := .ended }
  | _, _ => none

/-- Has the reader closed the socket? -/
def ReaderPlace.hasEnded : ReaderPlace → Bool
  | .ended => true
  | _ => false

/-- One step of the writer. The socket takes bytes until the reader has closed it. -/
def writerStep (session : Session) (action : Action) : Option Session :=
  match action, session.writer with
  | .get, .idle =>
      match session.queue with
      | .frame sent :: rest => some { session with queue := rest, writer := .sending sent.wire.bytes }
      | .sentinel :: rest => some { session with queue := rest, writer := .ended }
      | [] => none
  | .write count, .sending left =>
      if session.reader.hasEnded then none
      else if 0 < count ∧ count < left.length then
        some { session with wire := session.wire ++ left.take count, writer := .sending (left.drop count) }
      else if count = left.length then some { session with wire := session.wire ++ left, writer := .idle }
      else none
  | .writeFails, .sending _ => some { session with writer := .ended }
  | _, _ => none

/-- One step. A full queue refuses an event. -/
def step (host : Host) (session : Session) (action : Action) : Option Session :=
  match action with
  | .push sent => some (if session.hasRoom then session.put .pushed sent else session)
  | .get => writerStep session .get
  | .write count => writerStep session (.write count)
  | .writeFails => writerStep session .writeFails
  | action => readerStep host session action

/-- The frame that the reader is about to put. -/
def Task.offer : Task → List (Origin × WsProtocol.Sent)
  | .put sent => [(.reader, sent)]
  | _ => []

/-- The frames that an action offers to the queue. -/
def offered (host : Host) : Action → List (Origin × WsProtocol.Sent)
  | .frame frame portClosed served => (frameTask host frame portClosed served).offer
  | .push sent => [(.pushed, sent)]
  | _ => []

/-! ### The stream -/

/-- The frame of an item. -/
def Item.frame? : Item → Option WsProtocol.Sent
  | .frame sent => some sent
  | .sentinel => none

/-- The frames on a queue. -/
def framesOf (queue : List Item) : List WsProtocol.Sent := queue.filterMap Item.frame?

/-- The bytes of frames. -/
def bytesOf (frames : List WsProtocol.Sent) : Bytes := wireBytes (frames.map WsProtocol.Sent.wire)

/-- A part of the first frame that waits, and not all of it. -/
def Partial (part : Bytes) (waiting : List WsProtocol.Sent) : Prop :=
  part = [] ∨ ∃ next rest left, waiting = next :: rest ∧ part ++ left = next.wire.bytes ∧ left ≠ []

/-- The frames that the queue took are those on the wire and those that wait, and the wire ends with a part of the
first one that waits. -/
structure Streamed (session : Session) (written waiting : List WsProtocol.Sent) (part : Bytes) : Prop where
  order : session.accepted.map Prod.snd = written ++ waiting
  bytes : session.wire = bytesOf written ++ part

/-- What the place of the writer says of the frames that wait. -/
def WriterPlace.Waits (waiting : List WsProtocol.Sent) (part : Bytes) (queued : List WsProtocol.Sent) : WriterPlace → Prop
  | .idle => waiting = queued ∧ part = []
  | .sending left => ∃ next, waiting = next :: queued ∧ part ++ left = next.wire.bytes ∧ left ≠ []
  | .ended => Partial part waiting

/-- The bytes on the wire, while the reader has written none of them. -/
def Session.Clean (session : Session) : Prop :=
  ∃ written waiting part, Streamed session written waiting part ∧
    session.writer.Waits waiting part (framesOf session.queue)

theorem bytesOf_concat (frames : List WsProtocol.Sent) (last : WsProtocol.Sent) :
    bytesOf (frames ++ [last]) = bytesOf frames ++ last.wire.bytes := by
  unfold bytesOf wireBytes
  rw [List.map_append, List.map_append, List.flatten_append]
  simp

theorem bytes_ne_nil (sent : WsProtocol.Sent) : sent.wire.bytes ≠ [] := List.cons_ne_nil _ _

theorem framesOf_concat (queue : List Item) (sent : WsProtocol.Sent) :
    framesOf (queue ++ [.frame sent]) = framesOf queue ++ [sent] := by
  unfold framesOf
  rw [List.filterMap_append]
  rfl

theorem framesOf_sentinel (queue : List Item) : framesOf (queue ++ [.sentinel]) = framesOf queue := by
  unfold framesOf
  rw [List.filterMap_append]
  exact List.append_nil _

theorem Partial.concat {part : Bytes} {waiting : List WsProtocol.Sent} (some : Partial part waiting)
    (last : WsProtocol.Sent) : Partial part (waiting ++ [last]) := by
  rcases some with none | ⟨next, rest, left, split, bytes, more⟩
  · exact .inl none
  · exact .inr ⟨next, rest ++ [last], left, by rw [split, List.cons_append], bytes, more⟩

section

variable {host : Host} {session next : Session}

/-- What the stream does not read of a session. -/
theorem Session.Clean.congr (clean : session.Clean) (accepted : next.accepted = session.accepted)
    (wire : next.wire = session.wire) (writer : next.writer = session.writer)
    (queue : framesOf next.queue = framesOf session.queue) : next.Clean := by
  obtain ⟨written, waiting, part, ⟨order, bytes⟩, waits⟩ := clean
  refine ⟨written, waiting, part, ⟨accepted ▸ order, wire ▸ bytes⟩, ?_⟩
  rw [writer, queue]
  exact waits

/-- A put keeps the stream. -/
theorem Session.Clean.put (clean : session.Clean) (origin : Origin) (sent : WsProtocol.Sent) :
    (session.put origin sent).Clean := by
  obtain ⟨written, waiting, part, ⟨order, bytes⟩, waits⟩ := clean
  refine ⟨written, waiting ++ [sent], part, ⟨?_, bytes⟩, ?_⟩
  · show (session.accepted ++ [(origin, sent)]).map Prod.snd = _
    rw [List.map_append, order, List.append_assoc]
    rfl
  · show session.writer.Waits _ _ (framesOf (session.queue ++ [.frame sent]))
    rw [framesOf_concat]
    cases place : session.writer with
    | idle =>
        rw [place] at waits
        exact ⟨congrArg (· ++ [sent]) waits.1, waits.2⟩
    | sending left =>
        rw [place] at waits
        obtain ⟨next, split, rest⟩ := waits
        exact ⟨next, by rw [split, List.cons_append], rest⟩
    | ended =>
        rw [place] at waits
        exact waits.concat sent

/-- **A step of the writer keeps the stream.** -/
theorem writerStep_clean {action : Action} (done : writerStep session action = some next) (clean : session.Clean) :
    next.Clean := by
  obtain ⟨written, waiting, part, ⟨order, bytes⟩, waits⟩ := clean
  unfold writerStep at done
  split at done
  · next idle =>
      rw [idle] at waits
      obtain ⟨same, none⟩ := waits
      split at done
      · next sent rest queue =>
          cases done
          refine ⟨written, waiting, [], ⟨order, ?_⟩, sent, ?_, rfl, bytes_ne_nil sent⟩
          · rw [none] at bytes
            exact bytes
          · rw [same, queue]
            rfl
      · next rest queue =>
          cases done
          exact ⟨written, waiting, part, ⟨order, bytes⟩, .inl none⟩
      · cases done
  · next count left sending =>
      rw [sending] at waits
      obtain ⟨sent, split_, whole, more⟩ := waits
      split at done
      · cases done
      · split at done
        · next within =>
            cases done
            refine ⟨written, waiting, part ++ left.take count, ⟨order, ?_⟩, sent, split_, ?_, ?_⟩
            · show session.wire ++ left.take count = _
              rw [bytes, List.append_assoc]
            · rw [List.append_assoc, List.take_append_drop]
              exact whole
            · intro empty
              have length := congrArg List.length empty
              rw [List.length_drop, List.length_nil] at length
              omega
        · split at done
          · cases done
            refine ⟨written ++ [sent], framesOf session.queue, [], ⟨?_, ?_⟩, rfl, rfl⟩
            · show session.accepted.map Prod.snd = _
              rw [order, split_, List.append_assoc]
              rfl
            · show session.wire ++ left = _
              rw [bytes, bytesOf_concat, ← whole, List.append_nil, List.append_assoc]
          · cases done
  · next left sending =>
      rw [sending] at waits
      obtain ⟨sent, split_, whole, more⟩ := waits
      cases done
      exact ⟨written, waiting, part, ⟨order, bytes⟩, .inr ⟨sent, _, left, split_, whole, more⟩⟩
  · cases done

end

/-! ### Every step -/

/-- The frames of one origin. -/
def framesBy (origin : Origin) (frames : List (Origin × WsProtocol.Sent)) : List WsProtocol.Sent :=
  (frames.filter fun frame => frame.1 = origin).map Prod.snd

/-- What the reader has answered on the queue, against what it has had to answer. -/
def ReaderPlace.Answers (taken asked : List WsProtocol.Sent) : ReaderPlace → Prop
  | .reading => asked = taken
  | .performing (.put sent) => asked = taken ++ [sent]
  | .performing _ => asked = taken
  | _ => taken <+: asked ∧ asked.length ≤ taken.length + 1

/-- What a run keeps. -/
structure Inv (session : Session) (offers : List (Origin × WsProtocol.Sent)) : Prop where
  room : session.queue.length ≤ queueSize
  clean : session.torn = false → session.Clean
  answers : session.reader.Answers (framesBy .reader session.accepted) (framesBy .reader offers)
  pushes : (framesBy .pushed session.accepted).Sublist (framesBy .pushed offers)
  signed : session.signed = true → session.writer = .ended ∨ Item.sentinel ∈ session.queue

theorem start_inv : Inv Session.start [] where
  room := Nat.zero_le _
  clean _ := ⟨[], [], [], ⟨rfl, rfl⟩, rfl, rfl⟩
  answers := rfl
  pushes := List.Sublist.refl _
  signed := nofun

theorem framesBy_append (origin : Origin) (front back : List (Origin × WsProtocol.Sent)) :
    framesBy origin (front ++ back) = framesBy origin front ++ framesBy origin back := by
  unfold framesBy
  rw [List.filter_append, List.map_append]

theorem hasRoom_iff (session : Session) : session.hasRoom = true ↔ session.queue.length < queueSize := decide_eq_true_iff

section

variable {host : Host} {session next : Session} {offers : List (Origin × WsProtocol.Sent)}

/-- A put of the reader or of an event, where there is room. -/
theorem Inv.put (inv : Inv session offers) (room : session.hasRoom = true) (origin : Origin) (sent : WsProtocol.Sent) :
    (session.put origin sent).queue.length ≤ queueSize ∧
      ((session.put origin sent).torn = false → (session.put origin sent).Clean) ∧
      ((session.put origin sent).signed = true →
        (session.put origin sent).writer = .ended ∨ Item.sentinel ∈ (session.put origin sent).queue) := by
  refine ⟨?_, fun whole => (inv.clean whole).put origin sent, fun signed => ?_⟩
  · show (session.queue ++ [Item.frame sent]).length ≤ queueSize
    rw [List.length_append]
    exact (hasRoom_iff session).mp room
  · exact (inv.signed signed).imp_right (List.mem_append_left _)

/-- A frame that the reader is given. -/
theorem answers_performing {taken asked : List WsProtocol.Sent} (task : Task) (same : asked = taken) :
    (ReaderPlace.performing task).Answers taken (asked ++ framesBy .reader task.offer) := by
  cases task with
  | put sent => exact congrArg (· ++ [sent]) same
  | _ => exact (List.append_nil _).trans same

/-- The loop of the reader is over. -/
theorem answers_leaving {taken asked : List WsProtocol.Sent} {reader : ReaderPlace} (answers : reader.Answers taken asked) :
    ReaderPlace.leaving.Answers taken asked := by
  have same : asked = taken → ReaderPlace.leaving.Answers taken asked := by
    rintro rfl
    exact ⟨List.prefix_refl _, Nat.le_succ _⟩
  cases reader with
  | reading => exact same answers
  | performing task =>
      cases task with
      | put sent =>
          rw [show asked = taken ++ [sent] from answers]
          exact ⟨List.prefix_append _ _, by rw [List.length_append]; rfl⟩
      | _ => exact same answers
  | _ => exact answers

/-- **One step of the reader.** -/
theorem readerStep_inv {action : Action} (done : readerStep host session action = some next) (inv : Inv session offers) :
    Inv next (offers ++ offered host action) := by
  -- A step that offers nothing, puts nothing and only moves the reader.
  have moves : ∀ {place : ReaderPlace}, offered host action = [] →
      place.Answers (framesBy .reader session.accepted) (framesBy .reader offers) →
      Inv { session with reader := place } (offers ++ offered host action) := by
    intro place nothing answers
    rw [nothing, List.append_nil]
    exact ⟨inv.room, fun whole => (inv.clean whole).congr rfl rfl rfl rfl, answers, inv.pushes, inv.signed⟩
  have answers := inv.answers
  unfold readerStep at done
  split at done
  · next frame portClosed served reading =>
      cases done
      rw [reading] at answers
      refine ⟨inv.room, fun whole => (inv.clean whole).congr rfl rfl rfl rfl, ?_, ?_, inv.signed⟩
      · rw [framesBy_append]
        exact answers_performing (frameTask host frame portClosed served) answers
      · rw [framesBy_append]
        exact inv.pushes.trans (List.sublist_append_left _ _)
  · cases done
    exact moves rfl (answers_leaving answers)
  · next performing =>
      cases done
      rw [performing] at answers
      exact moves rfl answers
  · cases done
    exact moves rfl (answers_leaving answers)
  · next sent performing =>
      rw [performing] at answers
      split at done
      · next room =>
          cases done
          obtain ⟨bound, clean, signed⟩ := inv.put room .reader sent
          rw [show offered host .perform = [] from rfl, List.append_nil]
          refine ⟨bound, fun whole => (clean whole).congr rfl rfl rfl rfl, ?_, ?_, signed⟩
          · show framesBy .reader offers = framesBy .reader (session.accepted ++ [(.reader, sent)])
            rw [framesBy_append]
            exact answers
          · show (framesBy .pushed (session.accepted ++ [(.reader, sent)])).Sublist _
            rw [framesBy_append]
            exact (List.append_nil _).symm ▸ inv.pushes
      · cases done
        exact moves rfl (answers_leaving answers)
  · next bytes performing =>
      cases done
      rw [performing] at answers
      exact moves rfl (answers_leaving answers)
  · next count left tearing =>
      rw [tearing] at answers
      split at done
      · cases done
        rw [show offered host (.tear count) = [] from rfl, List.append_nil]
        exact ⟨inv.room, nofun, answers, inv.pushes, inv.signed⟩
      · cases done
  · next left tearing =>
      cases done
      rw [tearing] at answers
      exact moves rfl answers
  · next leaving =>
      rw [leaving] at answers
      split at done
      · next room =>
          cases done
          rw [show offered host .leave = [] from rfl, List.append_nil]
          refine ⟨?_, fun whole => ?_, answers, inv.pushes, fun _ => .inr ?_⟩
          · show (session.queue ++ [Item.sentinel]).length ≤ queueSize
            rw [List.length_append]
            exact (hasRoom_iff session).mp room
          · exact (inv.clean whole).congr rfl rfl rfl (framesOf_sentinel session.queue)
          · exact List.mem_append_right _ (List.mem_singleton_self _)
      · cases done
        exact moves rfl answers
  · next closing =>
      cases done
      rw [closing] at answers
      exact moves rfl answers
  · cases done

/-- What a step of the writer leaves as it is. -/
theorem writerStep_frame {action : Action} (done : writerStep session action = some next) :
    next.reader = session.reader ∧ next.accepted = session.accepted ∧ next.torn = session.torn ∧
      next.signed = session.signed ∧ next.queue.length ≤ session.queue.length ∧
      ((session.writer = .ended ∨ Item.sentinel ∈ session.queue) → next.writer = .ended ∨ Item.sentinel ∈ next.queue) := by
  unfold writerStep at done
  split at done
  · next idle =>
      split at done
      · next sent rest queue =>
          cases done
          refine ⟨rfl, rfl, rfl, rfl, by rw [queue]; exact Nat.le_succ _, fun either => .inr ?_⟩
          rcases either with ended | member
          · cases idle.symm.trans ended
          · rw [queue] at member
            exact (List.mem_cons.mp member).resolve_left nofun
      · next rest queue =>
          cases done
          exact ⟨rfl, rfl, rfl, rfl, by rw [queue]; exact Nat.le_succ _, fun _ => .inl rfl⟩
      · cases done
  · next count left sending =>
      have kept : session.writer = .ended ∨ Item.sentinel ∈ session.queue → Item.sentinel ∈ session.queue :=
        fun either => either.resolve_left fun ended => by cases sending.symm.trans ended
      split at done
      · cases done
      · split at done
        · cases done
          exact ⟨rfl, rfl, rfl, rfl, Nat.le_refl _, fun either => .inr (kept either)⟩
        · split at done
          · cases done
            exact ⟨rfl, rfl, rfl, rfl, Nat.le_refl _, fun either => .inr (kept either)⟩
          · cases done
  · cases done
    exact ⟨rfl, rfl, rfl, rfl, Nat.le_refl _, fun _ => .inl rfl⟩
  · cases done

/-- **One step of the writer.** -/
theorem writerStep_inv {action : Action} (done : writerStep session action = some next) (inv : Inv session offers) :
    Inv next offers := by
  obtain ⟨reader, accepted, torn, signed, length, sentinel⟩ := writerStep_frame done
  refine ⟨Nat.le_trans length inv.room, fun whole => ?_, ?_, ?_, fun was => ?_⟩
  · exact writerStep_clean done (inv.clean (torn ▸ whole))
  · rw [reader, accepted]
    exact inv.answers
  · rw [accepted]
    exact inv.pushes
  · exact sentinel (inv.signed (signed ▸ was))

/-- **One step of the connection.** -/
theorem step_inv {action : Action} (done : step host session action = some next) (inv : Inv session offers) :
    Inv next (offers ++ offered host action) := by
  cases action with
  | push sent =>
      rw [show offered host (.push sent) = [(.pushed, sent)] from rfl]
      simp only [step] at done
      cases done
      split
      · next room =>
          obtain ⟨bound, clean, signed⟩ := inv.put room .pushed sent
          refine ⟨bound, clean, ?_, ?_, signed⟩
          · show session.reader.Answers (framesBy .reader (session.accepted ++ [(.pushed, sent)])) _
            have none : framesBy .reader [(Origin.pushed, sent)] = [] := rfl
            rw [framesBy_append, framesBy_append, none, List.append_nil, List.append_nil]
            exact inv.answers
          · show (framesBy .pushed (session.accepted ++ [(.pushed, sent)])).Sublist _
            rw [framesBy_append, framesBy_append]
            exact inv.pushes.append_right _
      · refine ⟨inv.room, inv.clean, ?_, ?_, inv.signed⟩
        · rw [framesBy_append]
          exact (List.append_nil (framesBy .reader offers)).symm ▸ inv.answers
        · rw [framesBy_append]
          exact inv.pushes.trans (List.sublist_append_left _ _)
  | get =>
      rw [show offered host .get = [] from rfl, List.append_nil]
      exact writerStep_inv done inv
  | write count =>
      rw [show offered host (.write count) = [] from rfl, List.append_nil]
      exact writerStep_inv done inv
  | writeFails =>
      rw [show offered host .writeFails = [] from rfl, List.append_nil]
      exact writerStep_inv done inv
  | _ => exact readerStep_inv done inv

end

/-! ### Every run -/

theorem Waits.part {writer : WriterPlace} {waiting queued : List WsProtocol.Sent} {part : Bytes}
    (waits : writer.Waits waiting part queued) : Partial part waiting := by
  cases writer with
  | idle => exact .inl waits.2
  | sending left =>
      obtain ⟨next, split, whole, more⟩ := waits
      exact .inr ⟨next, queued, left, split, whole, more⟩
  | ended => exact waits

/-- **A writer that has the sentinel ends**: in two steps of its own, once the socket is closed. -/
theorem writer_ends (host : Host) {session : Session} (closed : session.reader = .ended)
    (signed : session.writer = .ended ∨ Item.sentinel ∈ session.queue) :
    ∃ last : List Action, (∀ action ∈ last, action = .get ∨ action = .writeFails) ∧ last.length ≤ 2 ∧
      ∃ final, run (step host) session last = some final ∧ final.writer = .ended ∧ final.wire = session.wire := by
  obtain ⟨queue, wire, reader, writer, accepted, torn, wasSigned⟩ := session
  cases writer with
  | ended => exact ⟨[], nofun, Nat.zero_le _, _, rfl, rfl, rfl⟩
  | sending left =>
      refine ⟨[.writeFails], fun action member => .inr (List.mem_singleton.mp member), Nat.le_succ _, _, rfl, rfl, rfl⟩
  | idle =>
      have inside : Item.sentinel ∈ queue := signed.resolve_left nofun
      cases queue with
      | nil => cases inside
      | cons item rest =>
          cases item with
          | sentinel =>
              exact ⟨[.get], fun action member => .inl (List.mem_singleton.mp member), Nat.le_succ _, _, rfl, rfl, rfl⟩
          | frame sent =>
              refine ⟨[.get, .writeFails], fun action member => ?_, Nat.le_refl _, _, rfl, rfl, rfl⟩
              rcases List.mem_cons.mp member with get | fails
              · exact .inl get
              · exact .inr (List.mem_singleton.mp fails)

/-- **What a client reads of a connection.** However the reader, the writer and the pushes of events interleave, the
queue never holds more than its size. Until a drop is written, the wire holds the frames that the queue took, whole and
in order, and a part of the next one; so a client reads exactly these frames, in whatever pieces they arrive. The
reader's answers are taken in the order of the frames that asked for them, and none is passed over; the pushed events
are taken in their order, but for those that a full queue refused. A writer that was left the sentinel ends. -/
theorem ws_stream_whole (host : Host) (actions : List Action) (session : Session) (offers : List (Origin × WsProtocol.Sent))
    (done : run (noted (step host) fun _ => offered host) (Session.start, []) actions = some (session, offers)) :
    session.queue.length ≤ queueSize ∧
      (session.torn = false → ∃ written waiting part,
        Streamed session written waiting part ∧ Partial part waiting ∧
          (session.writer = .idle → waiting = framesOf session.queue ∧ part = []) ∧
          ∀ pieces, Holds pieces session.wire → ∃ rest,
            parseFrames written.length pieces =
              .ok (written.map fun sent => ⟨true, sent.opcode.toNat, sent.payload⟩, rest) ∧
            Holds rest part) ∧
      (framesBy .reader session.accepted <+: framesBy .reader offers ∧
        (framesBy .reader offers).length ≤ (framesBy .reader session.accepted).length + 1) ∧
      (framesBy .pushed session.accepted).Sublist (framesBy .pushed offers) ∧
      (session.reader = .ended → session.signed = true →
        ∃ last : List Action, (∀ action ∈ last, action = .get ∨ action = .writeFails) ∧ last.length ≤ 2 ∧
          ∃ final, run (step host) session last = some final ∧ final.writer = .ended ∧ final.wire = session.wire) := by
  have inv : Inv session offers := by
    refine run_invariant (fun pair : Session × List (Origin × WsProtocol.Sent) => Inv pair.1 pair.2) ?_ done start_inv
    intro pair action next stepped before
    obtain ⟨moved, seen⟩ := noted_eq_some.mp stepped
    rw [seen]
    exact step_inv moved before
  refine ⟨inv.room, fun whole => ?_, answers_leaving inv.answers, inv.pushes, fun closed signed => ?_⟩
  · obtain ⟨written, waiting, part, streamed, waits⟩ := inv.clean whole
    refine ⟨written, waiting, part, streamed, Waits.part waits, fun idle => ?_, fun pieces holds => ?_⟩
    · rw [idle] at waits
      exact waits
    · obtain ⟨bytes, encoded, parsed⟩ := codec_round_trip written part
      cases encoded.symm.trans (encodeFrames_eq written)
      rw [streamed.bytes] at holds
      exact parsed pieces holds
  · exact writer_ends host closed (inv.signed signed)

/-- A ping, an event that is pushed while its pong is on its way, and the close of the client. -/
def pingedActions : List Action :=
  [.frame ⟨true, 9, [7]⟩ false (.error .typeError), .perform, .get, .write 1,
    .push ⟨1, [1, 2], none, by decide, by decide⟩, .frame ⟨true, 8, []⟩ false (.error .typeError), .write 2, .perform,
    .get, .write 3, .leave, .close]

/-- The connection after them. -/
def pingedEnd : Session × List (Origin × WsProtocol.Sent) :=
  (run (noted (step asciiHost) fun _ => offered asciiHost) (Session.start, []) pingedActions).getD (Session.start, [])

/-- The pong stands whole on the wire, and the client has a part of the event when the connection closes. -/
theorem ws_stream_whole_pinged :
    pingedEnd.1.wire = [0x8A, 1, 7, 0x81, 2, 1] ∧ pingedEnd.1.queue.length ≤ queueSize ∧ ∃ written waiting part,
      Streamed pingedEnd.1 written waiting part ∧ Partial part waiting := by
  have done : run (noted (step asciiHost) fun _ => offered asciiHost) (Session.start, []) pingedActions =
      some (pingedEnd.1, pingedEnd.2) := rfl
  obtain ⟨room, whole, -⟩ := ws_stream_whole asciiHost pingedActions pingedEnd.1 pingedEnd.2 done
  obtain ⟨written, waiting, part, streamed, partial_, -⟩ := whole rfl
  exact ⟨by decide +kernel, room, written, waiting, part, streamed, partial_⟩

end ProviderSimulator.Listeners.WsSession
