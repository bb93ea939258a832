/-
**The RESP proxy, step by step.**

A proxy carries any number of connections, each on its own thread, and answers any number of control
calls, each on its own thread. The model is one step machine over all of them:

* `Shared` is what the lock `_lock` protects: the gate, the latency, the live set, the counters and
  the number of running deliveries;
* `Conn` is one connection: where its thread is in `serve`, `_carry`, `_pump_once` and
  `_send_if_forwarding` (`Place`), and its two sockets;
* `Call` is one control call: where its thread is in `cut_off`, `restore` or one of the other calls;
* `transitions` is the call that holds the lock `_transitions`, under which gate moves run.

Each block under `_lock` is one step, and so is each call into the operating system. What the
operating system answers (`Event`) is free: a read may time out, fail, end or give a chunk, a write
may succeed or raise after any part of the chunk, and a wait may last for any number of other steps.

`ConnStep` and `CallStep` say once what a step of each kind of thread can be (`connStep_takes`,
`callStep_takes`); the invariants go by their cases.

`restores` counts the restores that took effect. The code has no such counter; a call of `cut_off`
notes it when it writes the gate and when its locked section ends.
-/

import Mathlib.Tactic.Common
import Mathlib.Data.Rat.Defs
import Mathlib.Algebra.Order.Ring.Rat
import ProviderSimulator.Lib.Machine

namespace ProviderSimulator.RespProxy

open ProviderSimulator.Lib

/-! ### The gate and the counters -/

/-- What the proxy does with the traffic of the router. -/
inductive Gate
  | forwarding
  | timeout
  | error
  deriving DecidableEq

/-- `CUT_OFF_KINDS`. -/
inductive CutOffKind
  | timeout
  | error
  deriving DecidableEq

/-- The gate that a cut-off of a kind leaves. -/
def CutOffKind.gate : CutOffKind → Gate
  | .timeout => .timeout
  | .error => .error

/-- `ProxyCounters`. -/
structure ProxyCounters where
  accepted : ℕ := 0
  forwarded : ℕ := 0
  carried : ℕ := 0
  closedByCutOff : ℕ := 0
  closedWhenIdle : ℕ := 0
  deriving DecidableEq

/-- What `_lock` protects. -/
structure Shared where
  state : Gate
  latencyMs : ℕ
  live : List ℕ
  counters : ProxyCounters
  delivering : ℤ
  deriving DecidableEq

/-! ### Connections -/

/-- The two ends of a connection: the router, and the store. -/
inductive Side
  | downstream
  | upstream
  deriving DecidableEq

/-- A socket: what was read from it, what was written to it, and whether it was shut down. -/
structure Wire where
  received : List UInt8 := []
  sent : List UInt8 := []
  isShut : Bool := false
  deriving DecidableEq

/-- Why `_carry` returned, or why `serve` did not carry the connection. -/
inductive Cause
  | errorAtAccept
  | errorGate
  | peerGone
  | storeUnreachable
  | wire
  | idle
  deriving DecidableEq

/-- Where the thread of a connection is. -/
inductive Place
  /-- `serve`, before its first locked block. -/
  | arriving
  /-- The gate was in the error state: before the block that counts the close. -/
  | rejecting
  /-- The gate was not: before the entry is made. -/
  | admitted
  /-- The entry is made: before the block that adds it to the live set. -/
  | adding
  /-- The top of the loop of `_carry`. -/
  | looping
  /-- The gate read as `timeout`: before the clock is stamped. -/
  | holding
  /-- Before `_peer_gone`. -/
  | probing
  /-- Before `_dial`. -/
  | dialing
  /-- The store answered: before the block that writes `upstream`. -/
  | dialed
  /-- `_pump_once`, before the read of one side. -/
  | pumping (source : Side)
  /-- `_sleep_latency`, before its locked block. -/
  | delaying (chunk : List UInt8)
  /-- `_sleep_latency`, asleep. -/
  | sleeping (wakeAt : ℚ) (chunk : List UInt8)
  /-- `_send_if_forwarding`, before the block that checks the gate. -/
  | offering (source : Side) (chunk : List UInt8)
  /-- The gate was open and the delivery is counted: before the write. -/
  | registered (source : Side) (chunk : List UInt8)
  /-- `sendall` is running. -/
  | sending (source : Side) (chunk : List UInt8)
  /-- The write ended or raised: before the block that discounts the delivery. -/
  | delivered (source : Side) (succeeded : Bool)
  /-- `_send_if_forwarding` answered true: before the clock is stamped. -/
  | moved (source : Side)
  /-- Before `_idle_expired`. -/
  | idleTest
  /-- Idle for too long: before the block that reads the gate again. -/
  | reclaiming
  /-- `_carry` returned: before the block that takes the entry off the live set. -/
  | leaving (cause : Cause)
  /-- Before the sockets are shut down. -/
  | ending (cause : Cause)
  | ended (cause : Cause)
  deriving DecidableEq

/-- One connection. -/
structure Conn where
  place : Place
  downstream : Wire
  upstream : Option Wire
  lastActive : ℚ
  deriving DecidableEq

/-- What the operating system answers to a read. -/
inductive Received
  | timedOut
  | failed
  | closed
  | chunk (first : UInt8) (rest : List UInt8)

/-- What a step of a connection's thread is told. -/
inductive Event
  /-- Nothing: a locked block, or a step of the thread alone. -/
  | go
  | peerGone (gone : Bool)
  | dial (reachable : Bool)
  | recv (answer : Received)
  /-- `settimeout` or `sendall` raised; that many bytes of the chunk were written. -/
  | sendRaised (written : ℕ)
  | sendDone

/-- Note a chunk that was read from one side. -/
def Conn.receive (conn : Conn) (source : Side) (chunk : List UInt8) : Conn :=
  match source with
  | .downstream =>
      { conn with downstream := { conn.downstream with received := conn.downstream.received ++ chunk } }
  | .upstream =>
      { conn with
        upstream := conn.upstream.map fun wire => { wire with received := wire.received ++ chunk } }

/-- Note bytes that were written to the other side. -/
def Conn.send (conn : Conn) (source : Side) (bytes : List UInt8) : Conn :=
  match source with
  | .downstream =>
      { conn with upstream := conn.upstream.map fun wire => { wire with sent := wire.sent ++ bytes } }
  | .upstream => { conn with downstream := { conn.downstream with sent := conn.downstream.sent ++ bytes } }

/-- Shut one side down. -/
def Conn.shut (conn : Conn) : Side → Conn
  | .downstream => { conn with downstream := { conn.downstream with isShut := true } }
  | .upstream => { conn with upstream := conn.upstream.map fun wire => { wire with isShut := true } }

/-- The place after one direction of `_pump_once` is done. -/
def afterPump : Side → Place
  | .downstream => .pumping .upstream
  | .upstream => .idleTest

/-- `_idle_expired`. -/
def idleExpired (idleSeconds now : ℚ) (conn : Conn) : Bool :=
  if idleSeconds ≤ 0 then false else now - conn.lastActive > idleSeconds

/-- The place after the loop of `_carry` read the gate. -/
def afterGateRead (conn : Conn) : Gate → Place
  | .error => .leaving .errorGate
  | .timeout => .holding
  | .forwarding => if conn.upstream.isNone then .dialing else .pumping .downstream

/-- One step of the thread of a connection. -/
def connStep (idleSeconds now : ℚ) (id : ℕ) (shared : Shared) (conn : Conn) (event : Event) :
    Option (Shared × Conn) :=
  let counters := shared.counters
  match conn.place, event with
  | .arriving, .go =>
      some ({ shared with counters := { counters with accepted := counters.accepted + 1 } },
        { conn with place := if shared.state = .error then .rejecting else .admitted })
  | .rejecting, .go =>
      some ({ shared with counters := { counters with closedByCutOff := counters.closedByCutOff + 1 } },
        { conn with place := .ending .errorAtAccept })
  | .admitted, .go => some (shared, { conn with lastActive := now, place := .adding })
  | .adding, .go =>
      some ({ shared with
          live := shared.live ++ [id]
          counters := { counters with carried := counters.carried + 1 } },
        { conn with place := .looping })
  | .looping, .go => some (shared, { conn with place := afterGateRead conn shared.state })
  | .holding, .go => some (shared, { conn with lastActive := now, place := .probing })
  | .probing, .peerGone gone =>
      some (shared, { conn with place := if gone then .leaving .peerGone else .looping })
  | .dialing, .dial reachable =>
      some (shared, { conn with place := if reachable then .dialed else .leaving .storeUnreachable })
  | .dialed, .go =>
      some ({ shared with counters := { counters with forwarded := counters.forwarded + 1 } },
        { conn with upstream := some {}, place := .pumping .downstream })
  | .pumping source, .recv .timedOut => some (shared, { conn with place := afterPump source })
  | .pumping _, .recv .failed => some (shared, { conn with place := .leaving .wire })
  | .pumping _, .recv .closed => some (shared, { conn with place := .leaving .wire })
  | .pumping source, .recv (.chunk first rest) =>
      let next := match source with
        | .downstream => Place.offering .downstream (first :: rest)
        | .upstream => Place.delaying (first :: rest)
      some (shared, { conn.receive source (first :: rest) with place := next })
  | .delaying chunk, .go =>
      some (shared, { conn with place := .sleeping (now + shared.latencyMs / 1000) chunk })
  | .sleeping wakeAt chunk, .go =>
      if wakeAt ≤ now then some (shared, { conn with place := .offering .upstream chunk }) else none
  | .offering source chunk, .go =>
      -- A closed gate drops the chunk, and the connection stays.
      if shared.state ≠ .forwarding then some (shared, { conn with place := .moved source })
      else some ({ shared with delivering := shared.delivering + 1 },
        { conn with place := .registered source chunk })
  | .registered source chunk, .go => some (shared, { conn with place := .sending source chunk })
  | .registered source _, .sendRaised _ => some (shared, { conn with place := .delivered source false })
  | .sending source chunk, .sendDone =>
      some (shared, { conn.send source chunk with place := .delivered source true })
  | .sending source chunk, .sendRaised written =>
      some (shared, { conn.send source (chunk.take written) with place := .delivered source false })
  | .delivered source succeeded, .go =>
      some ({ shared with delivering := shared.delivering - 1 },
        { conn with place := if succeeded then .moved source else .leaving .wire })
  | .moved source, .go => some (shared, { conn with lastActive := now, place := afterPump source })
  | .idleTest, .go =>
      some (shared,
        { conn with place := if idleExpired idleSeconds now conn then .reclaiming else .looping })
  | .reclaiming, .go =>
      if shared.state = .forwarding then
        some ({ shared with counters := { counters with closedWhenIdle := counters.closedWhenIdle + 1 } },
          { conn with place := .leaving .idle })
      else some (shared, { conn with place := .looping })
  | .leaving cause, .go =>
      some ({ shared with live := shared.live.filter (· ≠ id) }, { conn with place := .ending cause })
  | .ending cause, .go =>
      some (shared, { (conn.shut .downstream).shut .upstream with place := .ended cause })
  | _, _ => none

section

variable (idleSeconds now : ℚ) (id : ℕ) (shared : Shared) (down : Wire) (up : Option Wire) (lastActive : ℚ)

/-- **What a step of the thread of a connection can be**: the place before it, the event, what is shared after it,
and the connection after it. There is one constructor for each outcome of each branch of `connStep`. -/
inductive ConnStep : Place → Event → Shared → Conn → Prop
  | turnBack (closed : shared.state = .error) :
      ConnStep .arriving .go { shared with counters.accepted := shared.counters.accepted + 1 }
        ⟨.rejecting, down, up, lastActive⟩
  | letIn (opened : shared.state ≠ .error) :
      ConnStep .arriving .go { shared with counters.accepted := shared.counters.accepted + 1 }
        ⟨.admitted, down, up, lastActive⟩
  | reject :
      ConnStep .rejecting .go { shared with counters.closedByCutOff := shared.counters.closedByCutOff + 1 }
        ⟨.ending .errorAtAccept, down, up, lastActive⟩
  | prepare : ConnStep .admitted .go shared ⟨.adding, down, up, now⟩
  | add :
      ConnStep .adding .go
        { shared with live := shared.live ++ [id], counters.carried := shared.counters.carried + 1 }
        ⟨.looping, down, up, lastActive⟩
  | readError (closed : shared.state = .error) :
      ConnStep .looping .go shared ⟨.leaving .errorGate, down, up, lastActive⟩
  | readTimeout (held : shared.state = .timeout) : ConnStep .looping .go shared ⟨.holding, down, up, lastActive⟩
  | startDial (opened : shared.state = .forwarding) (undialed : up = none) :
      ConnStep .looping .go shared ⟨.dialing, down, up, lastActive⟩
  | startPump (opened : shared.state = .forwarding) (dialed : up ≠ none) :
      ConnStep .looping .go shared ⟨.pumping .downstream, down, up, lastActive⟩
  | stamp : ConnStep .holding .go shared ⟨.probing, down, up, now⟩
  | peerGone : ConnStep .probing (.peerGone true) shared ⟨.leaving .peerGone, down, up, lastActive⟩
  | peerThere : ConnStep .probing (.peerGone false) shared ⟨.looping, down, up, lastActive⟩
  | reachable : ConnStep .dialing (.dial true) shared ⟨.dialed, down, up, lastActive⟩
  | unreachable : ConnStep .dialing (.dial false) shared ⟨.leaving .storeUnreachable, down, up, lastActive⟩
  | forward :
      ConnStep .dialed .go { shared with counters.forwarded := shared.counters.forwarded + 1 }
        ⟨.pumping .downstream, down, some {}, lastActive⟩
  | readNothing (source : Side) :
      ConnStep (.pumping source) (.recv .timedOut) shared ⟨afterPump source, down, up, lastActive⟩
  | readFailed (source : Side) :
      ConnStep (.pumping source) (.recv .failed) shared ⟨.leaving .wire, down, up, lastActive⟩
  | readClosed (source : Side) :
      ConnStep (.pumping source) (.recv .closed) shared ⟨.leaving .wire, down, up, lastActive⟩
  | readRequest (first : UInt8) (rest : List UInt8) :
      ConnStep (.pumping .downstream) (.recv (.chunk first rest)) shared
        { Conn.receive ⟨.pumping .downstream, down, up, lastActive⟩ .downstream (first :: rest) with
          place := .offering .downstream (first :: rest) }
  | readReply (first : UInt8) (rest : List UInt8) :
      ConnStep (.pumping .upstream) (.recv (.chunk first rest)) shared
        { Conn.receive ⟨.pumping .upstream, down, up, lastActive⟩ .upstream (first :: rest) with
          place := .delaying (first :: rest) }
  | sleep (chunk : List UInt8) :
      ConnStep (.delaying chunk) .go shared
        ⟨.sleeping (now + shared.latencyMs / 1000) chunk, down, up, lastActive⟩
  | wake {wakeAt : ℚ} (chunk : List UInt8) (due : wakeAt ≤ now) :
      ConnStep (.sleeping wakeAt chunk) .go shared ⟨.offering .upstream chunk, down, up, lastActive⟩
  | drop (source : Side) (chunk : List UInt8) (closed : shared.state ≠ .forwarding) :
      ConnStep (.offering source chunk) .go shared ⟨.moved source, down, up, lastActive⟩
  | register (source : Side) (chunk : List UInt8) (opened : shared.state = .forwarding) :
      ConnStep (.offering source chunk) .go { shared with delivering := shared.delivering + 1 }
        ⟨.registered source chunk, down, up, lastActive⟩
  | send (source : Side) (chunk : List UInt8) :
      ConnStep (.registered source chunk) .go shared ⟨.sending source chunk, down, up, lastActive⟩
  | raiseEarly (source : Side) (chunk : List UInt8) (written : ℕ) :
      ConnStep (.registered source chunk) (.sendRaised written) shared
        ⟨.delivered source false, down, up, lastActive⟩
  | sent (source : Side) (chunk : List UInt8) :
      ConnStep (.sending source chunk) .sendDone shared
        { Conn.send ⟨.sending source chunk, down, up, lastActive⟩ source chunk with place := .delivered source true }
  | raiseLate (source : Side) (chunk : List UInt8) (written : ℕ) :
      ConnStep (.sending source chunk) (.sendRaised written) shared
        { Conn.send ⟨.sending source chunk, down, up, lastActive⟩ source (chunk.take written) with
          place := .delivered source false }
  | discount (source : Side) :
      ConnStep (.delivered source true) .go { shared with delivering := shared.delivering - 1 }
        ⟨.moved source, down, up, lastActive⟩
  | discountRaised (source : Side) :
      ConnStep (.delivered source false) .go { shared with delivering := shared.delivering - 1 }
        ⟨.leaving .wire, down, up, lastActive⟩
  | stampMoved (source : Side) : ConnStep (.moved source) .go shared ⟨afterPump source, down, up, now⟩
  | idle (expired : idleExpired idleSeconds now ⟨.idleTest, down, up, lastActive⟩ = true) :
      ConnStep .idleTest .go shared ⟨.reclaiming, down, up, lastActive⟩
  | busy (fresh : idleExpired idleSeconds now ⟨.idleTest, down, up, lastActive⟩ = false) :
      ConnStep .idleTest .go shared ⟨.looping, down, up, lastActive⟩
  | reclaim (opened : shared.state = .forwarding) :
      ConnStep .reclaiming .go { shared with counters.closedWhenIdle := shared.counters.closedWhenIdle + 1 }
        ⟨.leaving .idle, down, up, lastActive⟩
  | spare (closed : shared.state ≠ .forwarding) :
      ConnStep .reclaiming .go shared ⟨.looping, down, up, lastActive⟩
  | leave (cause : Cause) :
      ConnStep (.leaving cause) .go { shared with live := shared.live.filter (· ≠ id) }
        ⟨.ending cause, down, up, lastActive⟩
  | shut (cause : Cause) :
      ConnStep (.ending cause) .go shared
        { (Conn.shut ⟨.ending cause, down, up, lastActive⟩ .downstream).shut .upstream with place := .ended cause }

end

/-- Each step of the thread is one of these. -/
theorem connStep_takes {idleSeconds now : ℚ} {id : ℕ} {shared shared' : Shared} {conn conn' : Conn} {event : Event}
    (done : connStep idleSeconds now id shared conn event = some (shared', conn')) :
    ConnStep idleSeconds now id shared conn.downstream conn.upstream conn.lastActive conn.place event shared'
      conn' := by
  obtain ⟨place, down, up, lastActive⟩ := conn
  unfold connStep at done
  dsimp only at done ⊢
  -- One goal for each branch, in the order of the definition.
  split at done
  · cases done
    split
    · next closed => exact .turnBack closed
    · next opened => exact .letIn opened
  · cases done
    exact .reject
  · cases done
    exact .prepare
  · cases done
    exact .add
  · cases done
    cases gate : shared.state with
    | error => exact .readError gate
    | timeout => exact .readTimeout gate
    | forwarding =>
        cases up with
        | none => exact .startDial gate rfl
        | some wire => exact .startPump gate nofun
  · cases done
    exact .stamp
  · next gone =>
      cases done
      cases gone with
      | true => exact .peerGone
      | false => exact .peerThere
  · next reachable =>
      cases done
      cases reachable with
      | true => exact .reachable
      | false => exact .unreachable
  · cases done
    exact .forward
  · cases done
    exact .readNothing _
  · cases done
    exact .readFailed _
  · cases done
    exact .readClosed _
  · next source first rest =>
      cases done
      cases source with
      | downstream => exact .readRequest first rest
      | upstream => exact .readReply first rest
  · cases done
    exact .sleep _
  · split at done
    · next due =>
        cases done
        exact .wake _ due
    · cases done
  · split at done
    · next closed =>
        cases done
        exact .drop _ _ closed
    · next opened =>
        cases done
        exact .register _ _ (not_ne_iff.mp opened)
  · cases done
    exact .send _ _
  · cases done
    exact .raiseEarly _ _ _
  · cases done
    exact .sent _ _
  · cases done
    exact .raiseLate _ _ _
  · next source succeeded =>
      cases done
      cases succeeded with
      | true => exact .discount source
      | false => exact .discountRaised source
  · cases done
    exact .stampMoved _
  · cases done
    split
    · next expired => exact .idle expired
    · next fresh => exact .busy (Bool.eq_false_iff.mpr fresh)
  · split at done
    · next opened =>
        cases done
        exact .reclaim opened
    · next closed =>
        cases done
        exact .spare closed
  · cases done
    exact .leave _
  · cases done
    exact .shut _
  · cases done

/-! ### Control calls -/

/-- What a control call asks for. -/
inductive Request
  | cutOff (kind : CutOffKind)
  | restore
  | setLatency (latencyMs : ℕ)
  | resetCounters
  /-- `state`, `latency_ms`, `counters`, `live_connections` or `as_dict`. -/
  | read
  deriving DecidableEq

/-- What a caller of the proxy hands over. -/
inductive Asked
  | cutOff (kind : String)
  | restore
  | setLatency (latencyMs : ℤ)
  | resetCounters
  | read

/-- The call that a caller makes, or the text of `UnknownCutOffKind` or of `NegativeLatency`, which
are raised before any lock is taken. -/
def Asked.request : Asked → Except String Request
  | .cutOff kind =>
      if kind = "timeout" then .ok (.cutOff .timeout)
      else if kind = "error" then .ok (.cutOff .error)
      else .error (s!"unknown cut-off kind '{kind}'; expected one of timeout, error " ++
        "(use restore() to let traffic through again)")
  | .restore => .ok .restore
  | .setLatency latencyMs =>
      if latencyMs < 0 then .error s!"latency must be zero or more, got {latencyMs}"
      else .ok (.setLatency latencyMs.toNat)
  | .resetCounters => .ok .resetCounters
  | .read => .ok .read

/-- Where the thread of a control call is. -/
inductive CallPlace
  /-- Before its first lock. -/
  | called
  /-- It holds `_transitions`: before its block under `_lock`. -/
  | holding
  /-- `cut_off`, in the wait for the deliveries, with the live set that it read. -/
  | waiting (live : List ℕ)
  /-- `cut_off`, after its locked section: the sockets that it still shuts down. -/
  | shutting (sockets : List (ℕ × Side))
  | returned
  deriving DecidableEq

/-- One control call. `wroteAt` and `endedAt` are the restores that had taken effect when `cut_off`
wrote the gate and when its locked section ended. -/
structure Call where
  request : Request
  place : CallPlace
  wroteAt : Option ℕ
  endedAt : Option ℕ
  deriving DecidableEq

/-- The whole proxy. -/
structure Proxy where
  idleSeconds : ℚ
  now : ℚ
  shared : Shared
  transitions : Option ℕ
  conns : List Conn
  calls : List Call
  restores : ℕ
  deriving DecidableEq

/-- A new proxy, which forwards. -/
def Proxy.new (idleSeconds : ℚ) : Proxy where
  idleSeconds := idleSeconds
  now := 0
  shared := ⟨.forwarding, 0, [], {}, 0⟩
  transitions := none
  conns := []
  calls := []
  restores := 0

/-- The sockets that an error cut-off shuts down, in their order. -/
def socketsOf (kind : CutOffKind) (live : List ℕ) : List (ℕ × Side) :=
  match kind with
  | .error => live.flatMap fun id => [(id, .downstream), (id, .upstream)]
  | .timeout => []

/-- The end of the locked section of `cut_off`: both locks are released. -/
def Proxy.endLockedSection (proxy : Proxy) (id : ℕ) (kind : CutOffKind) (live : List ℕ)
    (wroteAt : Option ℕ) : Proxy :=
  { proxy with
    transitions := none
    calls := proxy.calls.set id
      ⟨.cutOff kind, .shutting (socketsOf kind live), wroteAt, some proxy.restores⟩ }

/-- One turn of `while self._delivering: wait()`. -/
def Proxy.waitForDeliveries (proxy : Proxy) (id : ℕ) (kind : CutOffKind) (live : List ℕ)
    (wroteAt : Option ℕ) : Proxy :=
  if proxy.shared.delivering ≠ 0 then
    { proxy with calls := proxy.calls.set id ⟨.cutOff kind, .waiting live, wroteAt, none⟩ }
  else proxy.endLockedSection id kind live wroteAt

/-- The block of `cut_off` before its wait: the gate, the live set and the counter. -/
def Proxy.closeGate (proxy : Proxy) (kind : CutOffKind) : Proxy :=
  let counters := proxy.shared.counters
  let closed := match kind with
    | .error => { counters with closedByCutOff := counters.closedByCutOff + proxy.shared.live.length }
    | .timeout => counters
  { proxy with shared := { proxy.shared with state := kind.gate, counters := closed } }

/-- Shut down one socket of a connection. -/
def Proxy.shutSocket (proxy : Proxy) (socket : ℕ × Side) : Proxy :=
  match proxy.conns[socket.1]? with
  | some conn => { proxy with conns := proxy.conns.set socket.1 (conn.shut socket.2) }
  | none => proxy

/-- One step of the thread of a control call. -/
def Proxy.callStep (proxy : Proxy) (id : ℕ) (call : Call) : Option Proxy :=
  let returned : List Call := proxy.calls.set id { call with place := .returned }
  match call.place, call.request with
  | .called, .cutOff _ =>
      if proxy.transitions = none then
        some { proxy with
          transitions := some id
          calls := proxy.calls.set id { call with place := .holding } }
      else none
  | .called, .restore =>
      if proxy.transitions = none then
        some { proxy with
          transitions := some id
          calls := proxy.calls.set id { call with place := .holding } }
      else none
  | .called, .setLatency latencyMs =>
      some { proxy with shared := { proxy.shared with latencyMs := latencyMs }, calls := returned }
  | .called, .resetCounters =>
      some { proxy with shared := { proxy.shared with counters := {} }, calls := returned }
  | .called, .read => some { proxy with calls := returned }
  | .holding, .cutOff kind =>
      some ((proxy.closeGate kind).waitForDeliveries id kind proxy.shared.live (some proxy.restores))
  | .holding, .restore =>
      some { proxy with
        shared := { proxy.shared with state := .forwarding }
        transitions := none
        restores := proxy.restores + 1
        calls := returned }
  | .waiting live, .cutOff kind => some (proxy.waitForDeliveries id kind live call.wroteAt)
  | .shutting [], .cutOff _ => some { proxy with calls := returned }
  | .shutting (socket :: rest), .cutOff _ =>
      let next := proxy.shutSocket socket
      some { next with calls := proxy.calls.set id { call with place := .shutting rest } }
  | _, _ => none

section

variable (proxy : Proxy) (id : ℕ) (wroteAt endedAt : Option ℕ)

/-- **What a step of the thread of a control call can be**: the request, the place before it, and the proxy after
it. -/
inductive CallStep : Request → CallPlace → Proxy → Prop
  | lockCutOff (kind : CutOffKind) (unlocked : proxy.transitions = none) :
      CallStep (.cutOff kind) .called
        { proxy with
          transitions := some id
          calls := proxy.calls.set id ⟨.cutOff kind, .holding, wroteAt, endedAt⟩ }
  | lockRestore (unlocked : proxy.transitions = none) :
      CallStep .restore .called
        { proxy with transitions := some id, calls := proxy.calls.set id ⟨.restore, .holding, wroteAt, endedAt⟩ }
  | setLatency (latencyMs : ℕ) :
      CallStep (.setLatency latencyMs) .called
        { proxy with
          shared.latencyMs := latencyMs
          calls := proxy.calls.set id ⟨.setLatency latencyMs, .returned, wroteAt, endedAt⟩ }
  | resetCounters :
      CallStep .resetCounters .called
        { proxy with
          shared.counters := {}
          calls := proxy.calls.set id ⟨.resetCounters, .returned, wroteAt, endedAt⟩ }
  | read :
      CallStep .read .called { proxy with calls := proxy.calls.set id ⟨.read, .returned, wroteAt, endedAt⟩ }
  | closeGate (kind : CutOffKind) :
      CallStep (.cutOff kind) .holding
        ((proxy.closeGate kind).waitForDeliveries id kind proxy.shared.live (some proxy.restores))
  | restore :
      CallStep .restore .holding
        { proxy with
          shared.state := .forwarding
          transitions := none
          restores := proxy.restores + 1
          calls := proxy.calls.set id ⟨.restore, .returned, wroteAt, endedAt⟩ }
  | wait (kind : CutOffKind) (live : List ℕ) :
      CallStep (.cutOff kind) (.waiting live) (proxy.waitForDeliveries id kind live wroteAt)
  | finish (kind : CutOffKind) :
      CallStep (.cutOff kind) (.shutting [])
        { proxy with calls := proxy.calls.set id ⟨.cutOff kind, .returned, wroteAt, endedAt⟩ }
  | shut (kind : CutOffKind) (socket : ℕ × Side) (rest : List (ℕ × Side)) :
      CallStep (.cutOff kind) (.shutting (socket :: rest))
        { proxy.shutSocket socket with
          calls := proxy.calls.set id ⟨.cutOff kind, .shutting rest, wroteAt, endedAt⟩ }

end

/-- Each step of the thread is one of these. -/
theorem callStep_takes {proxy next : Proxy} {id : ℕ} {call : Call} (done : proxy.callStep id call = some next) :
    CallStep proxy id call.wroteAt call.endedAt call.request call.place next := by
  obtain ⟨request, place, wroteAt, endedAt⟩ := call
  unfold Proxy.callStep at done
  dsimp only at done ⊢
  -- One goal for each branch, in the order of the definition.
  split at done
  · split at done
    · next unlocked =>
        cases done
        exact .lockCutOff _ unlocked
    · cases done
  · split at done
    · next unlocked =>
        cases done
        exact .lockRestore unlocked
    · cases done
  · cases done
    exact .setLatency _
  · cases done
    exact .resetCounters
  · cases done
    exact .read
  · cases done
    exact .closeGate _
  · cases done
    exact .restore
  · cases done
    exact .wait _ _
  · cases done
    exact .finish _
  · cases done
    exact .shut _ _ _
  · cases done

/-! ### The machine -/

/-- One step of one thread, or the arrival of a connection or of a call. -/
inductive Action
  | accept
  | conn (id : ℕ) (event : Event)
  | call (asked : Asked)
  | control (id : ℕ)
  | tick (seconds : ℚ)

/-- One action. -/
def Proxy.step (proxy : Proxy) : Action → Option Proxy
  | .accept => some { proxy with conns := proxy.conns ++ [⟨.arriving, {}, none, proxy.now⟩] }
  | .conn id event =>
      (proxy.conns[id]?).bind fun conn =>
        (connStep proxy.idleSeconds proxy.now id proxy.shared conn event).map fun result =>
          { proxy with shared := result.1, conns := proxy.conns.set id result.2 }
  | .call asked =>
      match asked.request with
      | .ok request => some { proxy with calls := proxy.calls ++ [⟨request, .called, none, none⟩] }
      | .error _ => some proxy
  | .control id => (proxy.calls[id]?).bind fun call => proxy.callStep id call
  | .tick seconds => if 0 ≤ seconds then some { proxy with now := proxy.now + seconds } else none

end ProviderSimulator.RespProxy
