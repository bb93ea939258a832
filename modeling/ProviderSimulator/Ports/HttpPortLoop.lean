/-
**The loop of an `http` or `ws` port.**

`_HttpPortLoop` keeps one port in the state that its scenario asks for. The model runs its thread step
by step: `begin_pass`, the lock, the wish, then the close or the open of the port, the report and
`end_pass`. A pass can fail at each of these places, and it leaves the server as it is for the next
pass:

* `close_port` raises when it starts its shutdown thread: the flag is set and the socket is closed;
* `_new_server` raises: there is no server;
* `serve` raises when it starts its thread: the loop drops the server and closes its socket.

`stop` runs between passes: it takes the server out of the loop under the same lock, and then shuts it
down and closes it.

`PassStep` says once what a step of the loop thread can be (`pass_takes`).

`servers` holds every server that the loop ever had, the one that `SimulatorServer.start` bound first
included, and `reports` what each finished pass reported.
-/

import Mathlib.Tactic.Common
import ProviderSimulator.Ports.PortGate
import ProviderSimulator.Ports.HttpServer

namespace ProviderSimulator.Ports.HttpPortLoop

/-- Where the loop thread is. `reopen` says whether the close makes room for a new server. -/
inductive Place
  /-- Before `begin_pass`: the thread was started, or its wait for a wake-up is over. -/
  | ready
  /-- After `begin_pass`, before the lock. -/
  | begun (seen : ℕ)
  /-- Under the lock, before `wants_closed`. -/
  | deciding (seen : ℕ)
  /-- Before `close_port` of the server. -/
  | closing (seen id : ℕ) (reopen : Bool)
  /-- In `close_port`, after its locked block. -/
  | flagged (seen id : ℕ) (reopen : Bool)
  /-- In `close_port`, after the socket is closed: before the start of the shutdown thread. -/
  | stopping (seen id : ℕ) (reopen : Bool)
  /-- Before `_new_server`. -/
  | binding (seen : ℕ)
  /-- Before `serve`. -/
  | serving (seen id : ℕ)
  /-- `serve` raised and the loop dropped the server: before `server_close`. -/
  | discarding (seen id : ℕ)
  /-- At the end of the `try`: before `is_open` is read and the lock is released. -/
  | reporting (seen : ℕ)
  /-- Before `end_pass`. -/
  | ending (seen : ℕ) (isOpen : Bool)
  /-- The loop read `_stopped` and returned. -/
  | returned
  deriving DecidableEq

/-- Where `stop` is with the server that it took. -/
inductive Stop
  | notCalled
  /-- Before `server.shutdown()` and `server.server_close()`. -/
  | closing (id : ℕ)
  | done
  deriving DecidableEq

/-- The loop, its servers and its gate. -/
structure Loop where
  servers : List HttpServer
  /-- `_server`. -/
  current : Option ℕ
  stopped : Bool
  place : Place
  stop : Stop
  gate : PortGate
  reports : List Bool
  deriving DecidableEq

/-- The loop with the server that `SimulatorServer.start` bound. -/
def Loop.start : Loop where
  servers := [{}]
  current := some 0
  stopped := false
  place := .ready
  stop := .notCalled
  gate := {}
  reports := []

/-- What a step of the loop thread is told. -/
inductive Event
  | go
  /-- The answer of `wants_closed`. -/
  | wish (closed : Bool)
  /-- The call of this step raises. -/
  | raises

/-- Change one server. -/
def Loop.write (loop : Loop) (id : ℕ) (change : HttpServer → HttpServer) : Loop :=
  { loop with
    servers := match loop.servers[id]? with
      | some server => loop.servers.set id (change server)
      | none => loop.servers }

/-- A flag of the server of the loop, false when it has none. -/
def Loop.flag (loop : Loop) (field : HttpServer → Bool) : Bool :=
  match loop.current.bind fun id => loop.servers[id]? with
  | some server => field server
  | none => false

/-- `is_open` of a pass: the loop has a server, it serves, and no close began on it. -/
def Loop.isOpen (loop : Loop) : Bool := loop.flag fun server =>
  server.serveStarted && !server.closedByScenario

/-- The branch of a pass that wants the port open, after a server that was closed half-way is gone. -/
def Loop.openPort (loop : Loop) (seen : ℕ) : Place :=
  match loop.current with
  | none => .binding seen
  | some id =>
      if loop.flag (·.closedByScenario) then .closing seen id true
      else if loop.flag (·.serveStarted) then .reporting seen
      else .serving seen id

/-- The branch of a pass after `wants_closed`. -/
def Loop.decide (loop : Loop) (seen : ℕ) (closed : Bool) : Place :=
  if closed then
    match loop.current with
    | some id => .closing seen id false
    | none => .reporting seen
  else loop.openPort seen

/-- One step of the loop thread. -/
def Loop.pass (loop : Loop) (event : Event) : Option Loop :=
  match loop.place, event with
  | .ready, .go =>
      some { loop with gate := loop.gate.beginPass.1, place := .begun loop.gate.beginPass.2 }
  | .begun seen, .go =>
      some { loop with place := if loop.stopped then .returned else .deciding seen }
  | .deciding seen, .wish closed => some { loop with place := loop.decide seen closed }
  | .closing seen id reopen, .go =>
      some { loop.write id fun server => server.beginClose.1 with place := .flagged seen id reopen }
  | .flagged seen id reopen, .go =>
      some { loop.write id HttpServer.closeSocket with place := .stopping seen id reopen }
  | .stopping seen _ reopen, .go =>
      some { loop with
        current := none
        place := if reopen then .binding seen else .reporting seen }
  | .stopping seen _ _, .raises =>
      -- A server that never served has no shutdown thread to start.
      if loop.flag (·.serveStarted) then some { loop with place := .reporting seen } else none
  | .binding seen, .go =>
      some { loop with
        servers := loop.servers ++ [{}]
        current := some loop.servers.length
        place := .serving seen loop.servers.length }
  | .binding seen, .raises => some { loop with place := .reporting seen }
  | .serving seen id, .go =>
      some { loop.write id HttpServer.markServing with place := .reporting seen }
  | .serving seen id, .raises => some { loop with current := none, place := .discarding seen id }
  | .discarding seen id, .go =>
      some { loop.write id HttpServer.closeSocket with place := .reporting seen }
  | .reporting seen, .go => some { loop with place := .ending seen loop.isOpen }
  | .ending seen isOpen, .go =>
      some { loop with
        gate := loop.gate.endPass seen isOpen
        reports := loop.reports ++ [isOpen]
        place := .ready }
  | _, _ => none

/-- **What a step of the loop thread can be**: the place before it, the event, and the loop after it. -/
inductive PassStep (loop : Loop) : Event → Loop → Prop
  | begin (place : loop.place = .ready) :
      PassStep loop .go { loop with gate := loop.gate.beginPass.1, place := .begun loop.gate.beginPass.2 }
  | leave {seen : ℕ} (place : loop.place = .begun seen) (stopped : loop.stopped = true) :
      PassStep loop .go { loop with place := .returned }
  | lock {seen : ℕ} (place : loop.place = .begun seen) (running : loop.stopped = false) :
      PassStep loop .go { loop with place := .deciding seen }
  | decide {seen : ℕ} (place : loop.place = .deciding seen) (closed : Bool) :
      PassStep loop (.wish closed) { loop with place := loop.decide seen closed }
  | beginClose {seen id : ℕ} {reopen : Bool} (place : loop.place = .closing seen id reopen) :
      PassStep loop .go
        { loop.write id fun server => server.beginClose.1 with place := .flagged seen id reopen }
  | closeSocket {seen id : ℕ} {reopen : Bool} (place : loop.place = .flagged seen id reopen) :
      PassStep loop .go { loop.write id HttpServer.closeSocket with place := .stopping seen id reopen }
  | endClose {seen id : ℕ} (place : loop.place = .stopping seen id false) :
      PassStep loop .go { loop with current := none, place := .reporting seen }
  | makeRoom {seen id : ℕ} (place : loop.place = .stopping seen id true) :
      PassStep loop .go { loop with current := none, place := .binding seen }
  | closeRaises {seen id : ℕ} {reopen : Bool} (place : loop.place = .stopping seen id reopen)
      (serves : loop.flag (·.serveStarted) = true) : PassStep loop .raises { loop with place := .reporting seen }
  | bind {seen : ℕ} (place : loop.place = .binding seen) :
      PassStep loop .go
        { loop with
          servers := loop.servers ++ [{}]
          current := some loop.servers.length
          place := .serving seen loop.servers.length }
  | bindRaises {seen : ℕ} (place : loop.place = .binding seen) :
      PassStep loop .raises { loop with place := .reporting seen }
  | serve {seen id : ℕ} (place : loop.place = .serving seen id) :
      PassStep loop .go { loop.write id HttpServer.markServing with place := .reporting seen }
  | serveRaises {seen id : ℕ} (place : loop.place = .serving seen id) :
      PassStep loop .raises { loop with current := none, place := .discarding seen id }
  | discard {seen id : ℕ} (place : loop.place = .discarding seen id) :
      PassStep loop .go { loop.write id HttpServer.closeSocket with place := .reporting seen }
  | readOpen {seen : ℕ} (place : loop.place = .reporting seen) :
      PassStep loop .go { loop with place := .ending seen loop.isOpen }
  | report {seen : ℕ} {isOpen : Bool} (place : loop.place = .ending seen isOpen) :
      PassStep loop .go
        { loop with
          gate := loop.gate.endPass seen isOpen
          reports := loop.reports ++ [isOpen]
          place := .ready }

/-- Each step of the loop thread is one of these. -/
theorem pass_takes {loop next : Loop} {event : Event} (done : loop.pass event = some next) :
    PassStep loop event next := by
  unfold Loop.pass at done
  -- One goal for each branch, in the order of the definition.
  split at done
  · next place =>
      cases done
      exact .begin place
  · next seen place =>
      cases done
      split
      · next stopped => exact .leave place stopped
      · next running => exact .lock place (Bool.eq_false_iff.mpr running)
  · next seen closed place =>
      cases done
      exact .decide place closed
  · next place =>
      cases done
      exact .beginClose place
  · next place =>
      cases done
      exact .closeSocket place
  · next seen id reopen place =>
      cases done
      cases reopen with
      | false => exact .endClose place
      | true => exact .makeRoom place
  · next place =>
      split at done
      · next serves =>
          cases done
          exact .closeRaises place serves
      · cases done
  · next place =>
      cases done
      exact .bind place
  · next place =>
      cases done
      exact .bindRaises place
  · next place =>
      cases done
      exact .serve place
  · next place =>
      cases done
      exact .serveRaises place
  · next place =>
      cases done
      exact .discard place
  · next place =>
      cases done
      exact .readOpen place
  · next place =>
      cases done
      exact .report place
  · cases done

/-- Is the loop between two passes, or before the lock of its next one? -/
def Place.between : Place → Bool
  | .ready => true
  | .begun _ => true
  | .returned => true
  | _ => false

/-- The locked block of `stop`. -/
def Loop.takeServer (loop : Loop) : Loop :=
  { loop with
    stopped := true
    current := none
    stop := match loop.current with
      | some id => .closing id
      | none => loop.stop }

/-- One step of the loop thread, or of a call of `stop`, or the traffic of a server: its serve loop
and its workers change its set of clients at any time. -/
inductive Action
  | pass (event : Event)
  | stop
  | stopClose
  | clients (id : ℕ) (clients : List ℕ)

/-- One action. -/
def Loop.step (loop : Loop) : Action → Option Loop
  | .pass event => loop.pass event
  | .stop => if loop.place.between then some loop.takeServer else none
  | .stopClose =>
      match loop.stop with
      | .closing id => some { loop.write id HttpServer.closeSocket with stop := .done }
      | _ => none
  | .clients id clients => some (loop.write id fun server => { server with clients := clients })

end ProviderSimulator.Ports.HttpPortLoop
