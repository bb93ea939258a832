/-
**What a connection carries.**

The proxy reads a chunk from one side, offers it to the gate, and writes it to the other side if the gate
is open. A closed gate drops the whole chunk, and the connection stays. So the bytes that were written to
a side are the bytes that were read from the other one without the chunks that met a closed gate, and
nothing is reordered, doubled or cut, but for the end of the last write.

* `offersOf` — the chunks of one direction of a connection that were offered to the gate along a run, each
  with what the gate was;
* `Streams` — what was read is what was offered and what waits for its offer, and what was written is what
  was let through, but for a write that is running or that failed;
* `connStep_streams` — one step of the thread of the connection;
* `stream_integrity` — every run.
-/

import Mathlib.Tactic.Common
import ProviderSimulator.Lib.Threads
import ProviderSimulator.RespProxy.CutOff

namespace ProviderSimulator.RespProxy

open ProviderSimulator.Lib

/-! ### Bytes of a direction -/

/-- The bytes that were read from a side. -/
def Conn.got (conn : Conn) : Side → List UInt8
  | .downstream => conn.downstream.received
  | .upstream => (conn.upstream.map Wire.received).getD []

/-- The bytes that were read from a side and written to the other one. -/
def Conn.gave (conn : Conn) : Side → List UInt8
  | .downstream => (conn.upstream.map Wire.sent).getD []
  | .upstream => conn.downstream.sent

/-- The chunk of a direction that was read and not yet offered to the gate. -/
def Place.unoffered (place : Place) (source : Side) : List UInt8 :=
  match place with
  | .delaying chunk => if source = .upstream then chunk else []
  | .sleeping _ chunk => if source = .upstream then chunk else []
  | .offering side chunk => if source = side then chunk else []
  | _ => []

/-- The chunk of a direction that the gate let through and whose write has not ended. -/
def Place.unwritten (place : Place) (source : Side) : List UInt8 :=
  match place with
  | .registered side chunk => if source = side then chunk else []
  | .sending side chunk => if source = side then chunk else []
  | _ => []

/-- Will the connection move no more bytes? -/
def Place.isOver : Place → Bool
  | .delivered _ succeeded => !succeeded
  | .leaving _ => true
  | .ending _ => true
  | .ended _ => true
  | _ => false

/-- Does the thread move bytes, so that the store was reached? -/
def Place.isPumping : Place → Bool
  | .pumping _ => true
  | .delaying _ => true
  | .sleeping _ _ => true
  | .offering _ _ => true
  | .registered _ _ => true
  | .sending _ _ => true
  | .delivered _ _ => true
  | .moved _ => true
  | _ => false

/-- Does the thread dial the store? -/
def Place.isDialing : Place → Bool
  | .dialing => true
  | .dialed => true
  | _ => false

/-- A chunk that was offered to the gate, and whether the gate was open. -/
abbrev Offer := List UInt8 × Bool

/-- The bytes of the offered chunks. -/
def offered (offers : List Offer) : List UInt8 := (offers.map Prod.fst).flatten

/-- The bytes of the chunks that the gate let through. -/
def letThrough (offers : List Offer) : List UInt8 := offered (offers.filter Prod.snd)

/-- What a step of the thread of a connection offers to the gate in one direction. -/
def Conn.offer (conn : Conn) (source : Side) (gate : Gate) : Event → List Offer
  | .go =>
      match conn.place with
      | .offering side chunk => if source = side then [(chunk, decide (gate = .forwarding))] else []
      | _ => []
  | _ => []

/-- What a step of the proxy offers in one direction of one connection. -/
def offersOf (id : ℕ) (source : Side) (proxy : Proxy) : Action → List Offer
  | .conn other event =>
      if other = id then (proxy.conns[id]?).elim [] fun conn => conn.offer source proxy.shared.state event
      else []
  | _ => []

@[simp] theorem offered_append (first second : List Offer) :
    offered (first ++ second) = offered first ++ offered second := by
  unfold offered
  rw [List.map_append, List.flatten_append]

@[simp] theorem letThrough_append (first second : List Offer) :
    letThrough (first ++ second) = letThrough first ++ letThrough second := by
  unfold letThrough
  rw [List.filter_append, offered_append]

/-! ### One step -/

/-- **What a connection carried in one direction**, given what it offered to the gate. -/
structure Streams (source : Side) (conn : Conn) (offers : List Offer) : Prop where
  read : conn.got source = offered offers ++ conn.place.unoffered source
  wrote : conn.gave source <+: letThrough offers
  whole : conn.place.isOver = false →
    conn.gave source ++ conn.place.unwritten source = letThrough offers
  reached : conn.place.isPumping = true → conn.upstream ≠ none
  undialed : conn.place.isDialing = true → conn.upstream = none
  silent : conn.upstream = none → conn.got source = [] ∧ conn.gave source = [] ∧ offers = []

section

variable {source : Side} {conn conn' : Conn} {offers : List Offer}

/-- A step that moves no byte. -/
theorem Streams.goOn (streams : Streams source conn offers) (sameGot : conn'.got source = conn.got source)
    (sameGave : conn'.gave source = conn.gave source) (sameUp : conn'.upstream = none ↔ conn.upstream = none)
    (unoffered : conn'.place.unoffered source = conn.place.unoffered source)
    (unwritten : conn'.place.isOver = false →
      conn.place.isOver = false ∧ conn'.place.unwritten source = conn.place.unwritten source)
    (reached : conn'.place.isPumping = true → conn.upstream ≠ none)
    (undialed : conn'.place.isDialing = true → conn.upstream = none) : Streams source conn' offers := by
  refine ⟨?_, ?_, fun going => ?_, fun pumping => ?_, fun dialing => ?_, fun none => ?_⟩
  · rw [sameGot, unoffered]
    exact streams.read
  · rw [sameGave]
    exact streams.wrote
  · obtain ⟨before, same⟩ := unwritten going
    rw [sameGave, same]
    exact streams.whole before
  · exact fun none => reached pumping (sameUp.mp none)
  · exact sameUp.mpr (undialed dialing)
  · rw [sameGot, sameGave]
    exact streams.silent (sameUp.mp none)

/-- A socket that is shut down keeps what it carried. -/
theorem Streams.shut (streams : Streams source conn offers) (side : Side) :
    Streams source (conn.shut side) offers := by
  have sameUp : (conn.shut side).upstream = none ↔ conn.upstream = none := by
    cases side with
    | downstream => exact Iff.rfl
    | upstream => exact Option.map_eq_none_iff
  have sameGot : (conn.shut side).got source = conn.got source := by
    cases side <;> cases source <;> first | rfl | (cases up : conn.upstream <;> simp [Conn.shut, Conn.got, up])
  have sameGave : (conn.shut side).gave source = conn.gave source := by
    cases side <;> cases source <;> first | rfl | (cases up : conn.upstream <;> simp [Conn.shut, Conn.gave, up])
  have samePlace : (conn.shut side).place = conn.place := by
    cases side <;> rfl
  refine streams.goOn sameGot sameGave sameUp ?_ ?_ ?_ ?_
  · rw [samePlace]
  · rw [samePlace]
    exact fun going => ⟨going, rfl⟩
  · rw [samePlace]
    exact streams.reached
  · rw [samePlace]
    exact streams.undialed

/-- The thread goes on to a place where it moves no byte and does not dial. -/
theorem Streams.rest (streams : Streams source conn offers) {place : Place} {time : ℚ}
    (unoffered : place.unoffered source = conn.place.unoffered source)
    (unwritten : place.unwritten source = conn.place.unwritten source)
    (going : conn.place.isOver = false) (resting : place.isPumping = false ∧ place.isDialing = false) :
    Streams source { conn with place := place, lastActive := time } offers := by
  refine streams.goOn rfl rfl Iff.rfl unoffered (fun _ => ⟨going, unwritten⟩) (fun pumping => ?_) fun dialing => ?_
  · exact absurd (resting.1.symm.trans pumping) Bool.false_ne_true
  · exact absurd (resting.2.symm.trans dialing) Bool.false_ne_true

/-- The connection is on its way out. -/
theorem Streams.leave (streams : Streams source conn offers) {place : Place}
    (unoffered : place.unoffered source = conn.place.unoffered source) (isOver : place.isOver = true)
    (resting : place.isPumping = false ∧ place.isDialing = false) :
    Streams source { conn with place } offers := by
  refine streams.goOn rfl rfl Iff.rfl unoffered (fun going => ?_) (fun pumping => ?_) fun dialing => ?_
  · exact absurd (going.symm.trans isOver) Bool.false_ne_true
  · exact absurd (resting.1.symm.trans pumping) Bool.false_ne_true
  · exact absurd (resting.2.symm.trans dialing) Bool.false_ne_true

theorem unoffered_afterPump (side : Side) : (afterPump side).unoffered source = [] := by
  cases side <;> rfl

theorem unwritten_afterPump (side : Side) : (afterPump side).unwritten source = [] := by
  cases side <;> rfl

/-- One direction of `_pump_once` is done. -/
theorem Streams.pumped (streams : Streams source conn offers) {side : Side} {time : ℚ}
    (going : conn.place.isOver = false) (unoffered : conn.place.unoffered source = [])
    (unwritten : conn.place.unwritten source = []) (pumping : conn.place.isPumping = true) :
    Streams source { conn with place := afterPump side, lastActive := time } offers := by
  refine streams.goOn rfl rfl Iff.rfl ?_ (fun _ => ⟨going, ?_⟩) (fun _ => streams.reached pumping) ?_
  · rw [unoffered]
    exact unoffered_afterPump side
  · rw [unwritten]
    exact unwritten_afterPump side
  · cases side <;> nofun

/-- A chunk is read. -/
theorem Streams.receive (streams : Streams source conn offers) {side : Side} {chunk : List UInt8}
    (here : conn.place = .pumping side) {next : Place}
    (placed : next = match side with
      | .downstream => .offering .downstream chunk
      | .upstream => .delaying chunk) :
    Streams source { conn.receive side chunk with place := next } offers := by
  obtain ⟨place, down, up, lastActive⟩ := conn
  cases here
  obtain ⟨wire, rfl⟩ := Option.ne_none_iff_exists'.mp (streams.reached rfl)
  have read := streams.read
  have wrote := streams.wrote
  have whole := streams.whole rfl
  subst placed
  cases side <;> cases source
  all_goals
    simp only [Conn.got, Conn.gave, Place.unoffered, Place.unwritten, List.append_nil, Option.map_some,
      Option.getD_some] at read wrote whole
    refine ⟨?_, ?_, fun _ => ?_, fun _ => by simp [Conn.receive], by simp [Place.isDialing], by simp [Conn.receive]⟩
    · simp [Conn.receive, Conn.got, Place.unoffered, read]
    · exact wrote
    · simp [Conn.receive, Conn.gave, Place.unwritten, whole]

/-- A chunk meets the gate. -/
theorem Streams.offer (streams : Streams source conn offers) {side : Side} {chunk : List UInt8}
    (here : conn.place = .offering side chunk) (gate : Gate) :
    Streams source
      { conn with place := if gate ≠ .forwarding then .moved side else .registered side chunk }
      (offers ++ conn.offer source gate .go) := by
  obtain ⟨place, down, up, lastActive⟩ := conn
  cases here
  have reached := streams.reached rfl
  have read := streams.read
  have wrote := streams.wrote
  have whole := streams.whole rfl
  by_cases same : source = side
  · subst same
    simp only [Place.unoffered, Place.unwritten, List.append_nil, if_true] at read whole
    by_cases opened : gate = .forwarding
    · simp only [opened, ne_eq, not_true_eq_false, if_false, Conn.offer, if_true, decide_true]
      refine ⟨?_, ?_, fun _ => ?_, fun _ => reached, nofun, fun none => absurd none reached⟩
      · rw [offered_append]
        exact read.trans (by simp [Place.unoffered, offered])
      · rw [letThrough_append]
        exact wrote.trans (List.prefix_append _ _)
      · rw [letThrough_append, ← whole]
        simp [Place.unwritten, letThrough, offered, Conn.gave]
    · simp only [opened, ne_eq, not_false_eq_true, if_true, Conn.offer, decide_false]
      refine ⟨?_, ?_, fun _ => ?_, fun _ => reached, nofun, fun none => absurd none reached⟩
      · rw [offered_append]
        exact read.trans (by simp [Place.unoffered, offered])
      · rw [letThrough_append]
        exact wrote.trans (List.prefix_append _ _)
      · rw [letThrough_append, ← whole]
        simp [Place.unwritten, letThrough, offered, Conn.gave]
  · simp only [Place.unoffered, Place.unwritten, same, if_false, List.append_nil] at read whole
    simp only [Conn.offer, same, if_false, List.append_nil]
    refine ⟨?_, wrote, fun _ => ?_, fun _ => reached, ?_, fun none => absurd none reached⟩
    · refine read.trans ?_
      split <;> simp [Place.unoffered]
    · rw [← whole]
      split <;> simp [Place.unwritten, same, Conn.gave]
    · split <;> nofun

/-- A write ends, or raises after a part of the chunk. -/
theorem Streams.send (streams : Streams source conn offers) {side : Side} {chunk bytes : List UInt8}
    {succeeded : Bool} (here : conn.place = .sending side chunk) (part : bytes <+: chunk)
    (all : succeeded = true → bytes = chunk) :
    Streams source { conn.send side bytes with place := .delivered side succeeded } offers := by
  obtain ⟨place, down, up, lastActive⟩ := conn
  cases here
  obtain ⟨wire, rfl⟩ := Option.ne_none_iff_exists'.mp (streams.reached rfl)
  have read := streams.read
  have whole := streams.whole rfl
  cases side <;> cases source
  all_goals
    simp only [Conn.got, Conn.gave, Place.unoffered, Place.unwritten, List.append_nil, Option.map_some,
      Option.getD_some, reduceCtorEq, if_true, if_false] at read whole
    refine ⟨?_, ?_, fun going => ?_, fun _ => by simp [Conn.send], by simp [Place.isDialing], by simp [Conn.send]⟩
    · simp [Conn.send, Conn.got, Place.unoffered, read]
    · rw [← whole]
      simp [Conn.send, Conn.gave, part]
    · have done : succeeded = true := by
        simpa [Place.isOver] using going
      rw [← whole]
      simp [Conn.send, Conn.gave, Place.unwritten, all done]

/-- The store answers. -/
theorem Streams.dial (streams : Streams source conn offers) (here : conn.place = .dialed) :
    Streams source { conn with upstream := some {}, place := .pumping .downstream } offers := by
  obtain ⟨place, down, up, lastActive⟩ := conn
  cases here
  have none : up = none := streams.undialed rfl
  subst none
  obtain ⟨noneRead, noneWritten, rfl⟩ := streams.silent rfl
  cases source
  · exact ⟨noneRead, List.nil_prefix, fun _ => rfl, fun _ => nofun, nofun, nofun⟩
  · have unsent : down.sent = [] := noneWritten
    refine ⟨rfl, ?_, fun _ => ?_, fun _ => nofun, nofun, nofun⟩
    · show down.sent <+: []
      exact List.prefix_nil.mpr unsent
    · show down.sent ++ [] = []
      exact congrArg (· ++ []) unsent

/-- A new connection. -/
theorem Streams.start (source : Side) (now : ℚ) : Streams source ⟨.arriving, {}, none, now⟩ [] := by
  cases source <;> exact ⟨rfl, List.nil_prefix, fun _ => rfl, nofun, nofun, fun _ => ⟨rfl, rfl, rfl⟩⟩

/-- **One step of the thread of a connection.** -/
theorem connStep_streams {idleSeconds now : ℚ} {id : ℕ} {shared shared' : Shared} {event : Event}
    (streams : Streams source conn offers)
    (done : connStep idleSeconds now id shared conn event = some (shared', conn')) :
    Streams source conn' (offers ++ conn.offer source shared.state event) := by
  obtain ⟨place, down, up, lastActive⟩ := conn
  -- Only a step at the gate offers a chunk.
  have quiet : (∀ side chunk, place ≠ .offering side chunk) →
      Streams source conn' offers →
        Streams source conn' (offers ++ Conn.offer ⟨place, down, up, lastActive⟩ source shared.state event) := by
    intro elsewhere kept
    have none : Conn.offer ⟨place, down, up, lastActive⟩ source shared.state event = [] := by
      unfold Conn.offer
      split
      · split
        · next side chunk here => exact absurd here (elsewhere side chunk)
        · rfl
      · rfl
    rw [none, List.append_nil]
    exact kept
  cases connStep_takes done with
  | drop side chunk closed =>
      have moved := streams.offer rfl shared.state
      rw [if_pos closed] at moved
      exact moved
  | register side chunk opened =>
      have moved := streams.offer rfl shared.state
      rw [if_neg (not_ne_iff.mpr opened)] at moved
      exact moved
  | sent side chunk => exact quiet nofun (streams.send rfl (List.prefix_refl _) fun _ => rfl)
  | raiseLate side chunk written => exact quiet nofun (streams.send rfl (List.take_prefix _ _) nofun)
  | readRequest first rest => exact quiet nofun (streams.receive rfl rfl)
  | readReply first rest => exact quiet nofun (streams.receive rfl rfl)
  | readNothing side => exact quiet nofun (streams.pumped rfl rfl rfl rfl)
  | stampMoved side => exact quiet nofun (streams.pumped rfl rfl rfl rfl)
  | forward => exact quiet nofun (streams.dial rfl)
  | startDial opened undialed =>
      exact quiet nofun (streams.goOn rfl rfl Iff.rfl rfl (fun _ => ⟨rfl, rfl⟩) nofun fun _ => undialed)
  | startPump opened dialed =>
      exact quiet nofun (streams.goOn rfl rfl Iff.rfl rfl (fun _ => ⟨rfl, rfl⟩) (fun _ => dialed) nofun)
  | reachable =>
      refine quiet nofun ?_
      exact streams.goOn rfl rfl Iff.rfl rfl (fun _ => ⟨rfl, rfl⟩) nofun fun _ => streams.undialed rfl
  | sleep chunk =>
      refine quiet nofun ?_
      exact streams.goOn rfl rfl Iff.rfl rfl (fun _ => ⟨rfl, rfl⟩) (fun _ => streams.reached rfl) nofun
  | wake chunk due =>
      refine quiet nofun ?_
      exact streams.goOn rfl rfl Iff.rfl rfl (fun _ => ⟨rfl, rfl⟩) (fun _ => streams.reached rfl) nofun
  | send side chunk =>
      refine quiet nofun ?_
      exact streams.goOn rfl rfl Iff.rfl rfl (fun _ => ⟨rfl, rfl⟩) (fun _ => streams.reached rfl) nofun
  | raiseEarly side chunk written =>
      refine quiet nofun ?_
      exact streams.goOn rfl rfl Iff.rfl rfl nofun (fun _ => streams.reached rfl) nofun
  | discount side =>
      refine quiet nofun ?_
      exact streams.goOn rfl rfl Iff.rfl rfl (fun _ => ⟨rfl, rfl⟩) (fun _ => streams.reached rfl) nofun
  | shut cause =>
      refine quiet nofun ?_
      exact ((streams.shut .downstream).shut .upstream).leave rfl rfl ⟨rfl, rfl⟩
  -- The thread gives the connection up, or it goes on and holds no chunk.
  | readError closed => exact quiet nofun (streams.leave rfl rfl ⟨rfl, rfl⟩)
  | peerGone => exact quiet nofun (streams.leave rfl rfl ⟨rfl, rfl⟩)
  | unreachable => exact quiet nofun (streams.leave rfl rfl ⟨rfl, rfl⟩)
  | readFailed side => exact quiet nofun (streams.leave rfl rfl ⟨rfl, rfl⟩)
  | readClosed side => exact quiet nofun (streams.leave rfl rfl ⟨rfl, rfl⟩)
  | discountRaised side => exact quiet nofun (streams.leave rfl rfl ⟨rfl, rfl⟩)
  | reclaim opened => exact quiet nofun (streams.leave rfl rfl ⟨rfl, rfl⟩)
  | leave cause => exact quiet nofun (streams.leave rfl rfl ⟨rfl, rfl⟩)
  | reject => exact quiet nofun (streams.leave rfl rfl ⟨rfl, rfl⟩)
  | _ => exact quiet nofun (streams.rest rfl rfl rfl ⟨rfl, rfl⟩)

end

/-! ### Every run -/

/-- What a run keeps of one direction of one connection. -/
structure Carried (id : ℕ) (source : Side) (state : Proxy × List Offer) : Prop where
  before : state.1.conns[id]? = none → state.2 = []
  streams : ∀ conn, state.1.conns[id]? = some conn → Streams source conn state.2

theorem Carried.of_same {id : ℕ} {source : Side} {proxy next : Proxy} {offers : List Offer}
    (carried : Carried id source (proxy, offers)) (same : next.conns[id]? = proxy.conns[id]?) :
    Carried id source (next, offers) :=
  ⟨fun none => carried.before (same ▸ none), fun conn here => carried.streams conn (same ▸ here)⟩

theorem Carried.shutSocket {id : ℕ} {source : Side} {proxy : Proxy} {offers : List Offer}
    (carried : Carried id source (proxy, offers)) (socket : ℕ × Side) :
    Carried id source (proxy.shutSocket socket, offers) := by
  unfold Proxy.shutSocket
  split
  · next conn here =>
      by_cases same : socket.1 = id
      · subst same
        refine ⟨fun none => ?_, fun moved found => ?_⟩
        · exact carried.before (by simpa using none)
        · have bound := (List.getElem?_eq_some_iff.mp here).1
          rw [List.getElem?_set_self bound] at found
          cases found
          exact (carried.streams conn here).shut socket.2
      · exact carried.of_same (List.getElem?_set_ne same)
  · exact carried

/-- **One step of the proxy.** -/
theorem step_carried {id : ℕ} {source : Side} {state next : Proxy × List Offer} {action : Action}
    (done : noted Proxy.step (offersOf id source) state action = some next)
    (carried : Carried id source state) : Carried id source next := by
  obtain ⟨proxy, offers⟩ := state
  obtain ⟨after, later⟩ := next
  obtain ⟨moved, seen⟩ := noted_eq_some.mp done
  dsimp only at moved seen
  subst seen
  cases action with
  | accept =>
      cases moved
      rw [show offersOf id source proxy .accept = [] from rfl, List.append_nil]
      refine ⟨fun none => carried.before ?_, fun conn found => ?_⟩
      · have outside := List.getElem?_eq_none_iff.mp none
        rw [List.length_append] at outside
        exact List.getElem?_eq_none_iff.mpr (Nat.le_trans (Nat.le_add_right _ _) outside)
      · by_cases old : id < proxy.conns.length
        · rw [List.getElem?_append_left old] at found
          exact carried.streams conn found
        · have unseen : offers = [] := carried.before (List.getElem?_eq_none (not_lt.mp old))
          rw [List.getElem?_append_right (not_lt.mp old), List.getElem?_singleton] at found
          split at found
          · cases found
            subst unseen
            exact Streams.start source proxy.now
          · cases found
  | conn other event =>
      obtain ⟨conn, here, moved⟩ := Option.bind_eq_some_iff.mp moved
      obtain ⟨⟨shared', conn'⟩, result, rfl⟩ := Option.map_eq_some_iff.mp moved
      by_cases same : other = id
      · subst same
        have offer : offersOf other source proxy (.conn other event) =
            conn.offer source proxy.shared.state event := by
          simp [offersOf, here]
        refine ⟨fun none => ?_, fun found there => ?_⟩
        · have outside := List.getElem?_eq_none_iff.mp none
          rw [List.length_set] at outside
          rw [List.getElem?_eq_none_iff.mpr outside] at here
          cases here
        · have bound := (List.getElem?_eq_some_iff.mp here).1
          rw [List.getElem?_set_self bound] at there
          cases there
          rw [offer]
          exact connStep_streams (carried.streams conn here) result
      · rw [show offersOf id source proxy (.conn other event) = [] from if_neg same, List.append_nil]
        exact carried.of_same (List.getElem?_set_ne same)
  | call asked =>
      simp only [Proxy.step] at moved
      rw [show offersOf id source proxy (.call asked) = [] from rfl, List.append_nil]
      split at moved
      · cases moved
        exact carried.of_same rfl
      · cases moved
        exact carried
  | control other =>
      obtain ⟨call, -, moved⟩ := Option.bind_eq_some_iff.mp moved
      rw [show offersOf id source proxy (.control other) = [] from rfl, List.append_nil]
      rcases callStep_conns moved with same | ⟨socket, same⟩
      · exact carried.of_same (by rw [same])
      · exact (carried.shutSocket socket).of_same (by rw [same])
  | tick seconds =>
      simp only [Proxy.step] at moved
      rw [show offersOf id source proxy (.tick seconds) = [] from rfl, List.append_nil]
      split at moved
      · cases moved
        exact carried.of_same rfl
      · cases moved

/-- **Stream integrity.** After every run, and for every connection and each of its directions: the bytes
that were read from one side are the chunks that were offered to the gate, and one that waits for its offer;
and the bytes that were written to the other side are a prefix of the chunks that met an open gate. So they
are a prefix of the bytes that were read, as long as every chunk met an open gate. -/
theorem stream_integrity (idleSeconds : ℚ) (actions : List Action) (proxy : Proxy)
    (done : run Proxy.step (Proxy.new idleSeconds) actions = some proxy) (id : ℕ) (conn : Conn)
    (here : proxy.conns[id]? = some conn) (source : Side) :
    ∃ offers, run (noted Proxy.step (offersOf id source)) (Proxy.new idleSeconds, []) actions =
        some (proxy, offers) ∧
      conn.got source = offered offers ++ conn.place.unoffered source ∧
      conn.gave source <+: letThrough offers ∧
      ((∀ offer ∈ offers, offer.2 = true) → conn.gave source <+: conn.got source) := by
  obtain ⟨offers, history⟩ : ∃ offers, run (noted Proxy.step (offersOf id source))
      (Proxy.new idleSeconds, []) actions = some (proxy, offers) := run_noted [] done
  have carried : Carried id source (proxy, offers) :=
    run_invariant (Carried id source) (fun _ _ _ first holds => step_carried first holds) history
      ⟨fun _ => rfl, nofun⟩
  have streams := carried.streams conn here
  refine ⟨offers, history, streams.read, streams.wrote, fun passed => ?_⟩
  have all : letThrough offers = offered offers := by
    unfold letThrough
    rw [List.filter_eq_self.mpr passed]
  rw [streams.read, ← all]
  exact streams.wrote.trans (List.prefix_append _ _)

/-- A connection that reads the chunk 1, and the chunk 2 after a `timeout` cut-off has come and gone. -/
def holedRun : List Action :=
  let conn (event : Event) : Action := .conn 0 event
  [.accept, conn .go, conn .go, conn .go, conn .go, conn (.dial true), conn .go,
    conn (.recv (.chunk 1 [])), .call (.cutOff "timeout"), .control 0, .control 0, .control 0, conn .go,
    .call .restore, .control 1, .control 1, conn .go, conn (.recv .timedOut), conn .go, conn .go,
    conn (.recv (.chunk 2 [])), conn .go, conn .go, conn .sendDone, conn .go, conn .go]

/-- The proxy at the end of that run. -/
def holedProxy : Proxy := (run Proxy.step (Proxy.new 120) holedRun).getD (Proxy.new 120)

theorem holedRun_done : run Proxy.step (Proxy.new 120) holedRun = some holedProxy := by
  decide +kernel

/-- The connection at the end of that run. -/
def holedConn : Conn := ⟨.pumping .upstream, { received := [1, 2] }, some { sent := [2] }, 0⟩

theorem holedConn_here : holedProxy.conns[0]? = some holedConn := by
  decide +kernel

/-- The chunk that met the closed gate is in no written byte. -/
theorem stream_integrity_holed :
    ∃ offers, run (noted Proxy.step (offersOf 0 .downstream)) (Proxy.new 120, []) holedRun =
        some (holedProxy, offers) ∧
      [1, 2] = offered offers ++ [] ∧ [2] <+: letThrough offers := by
  obtain ⟨offers, history, read, wrote, -⟩ :=
    stream_integrity 120 holedRun holedProxy holedRun_done 0 holedConn holedConn_here .downstream
  exact ⟨offers, history, read, wrote⟩

/-- **A hole in a stream.** The connection is open, the chunk 2 was delivered, and the chunk 1 never was. -/
theorem stream_with_a_hole :
    ∃ proxy conn, run Proxy.step (Proxy.new 120) holedRun = some proxy ∧ proxy.conns[0]? = some conn ∧
      conn.place.isOver = false ∧ conn.downstream.isShut = false ∧
      ¬ conn.gave .downstream <+: conn.got .downstream := by
  refine ⟨holedProxy, holedConn, holedRun_done, holedConn_here, rfl, rfl, ?_⟩
  decide

end ProviderSimulator.RespProxy
