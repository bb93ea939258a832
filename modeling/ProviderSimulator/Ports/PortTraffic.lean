/-
**What a closed port stores.**

One `http` or `ws` port: its loop with the servers that it made, the worker threads of their
connections, and the control call that holds `port_lock`. A worker looks at the flag of its server
(`_port_is_closed`) before it writes a row, at one place in each of the three adapters:

* `_run`: the check, then `arrive`;
* `do_GET` of a `ws` port: the check, then `decide_upgrade`, which writes a row when it refuses;
* `_reader_loop`: the check of each frame, then the arrival row of `serve`.

The check and the row are two steps, with no lock in common with `close_port`, and the control call
waits for no worker. Two more rows can come late. `finalize` appends the row of a request again when the
history was cleared since its arrival, and `emit` appends the row of a push while a connection of the port has a
subscription left, which it keeps for a moment after the close.

`closed_port_stores_no_row`: after the call that closed the port has returned its 200, no row can be
appended before a write opens the port exactly when no worker stands between its check and the end of its row at
that moment, none has a subscription left, and no `emit` is under way (`Worker.Quiet`).
`closed_port_stores_a_row` has runs where one is.
-/

import Mathlib.Tactic.Common
import ProviderSimulator.Lib.Machine
import ProviderSimulator.Lib.Threads
import ProviderSimulator.Ports.LoopRefines

set_option linter.unusedSectionVars false

namespace ProviderSimulator.Ports.PortTraffic

open ProviderSimulator.Lib HttpPortLoop

/-! ### The workers -/

/-- The adapter of the port. -/
inductive Adapter
  | http
  | ws
  deriving DecidableEq

/-- Where a worker thread is. A row that is not finalized has the stamp of its arrival. -/
inductive WorkerPlace
  /-- It reads a request: before the check of `_run`, or of `do_GET` on a `ws` port. -/
  | request
  /-- `_run`, after its check: before `arrive`. -/
  | arriving
  /-- `_run`, after `arrive`: the body and `serve`, before `finalize`. -/
  | answering (stamp : ℕ)
  /-- `_run`, after `finalize`: the reply. -/
  | performing
  /-- `do_GET`, after its check: before `decide_upgrade` has answered. -/
  | upgrading
  /-- `_reader_loop`, before the check of its next frame. -/
  | reading
  /-- `_reader_loop`, after the check of a frame: before the arrival row of `serve`. -/
  | framed
  /-- `_reader_loop`, after that row: before `finalize`. -/
  | replying (stamp : ℕ)
  /-- `_reader_loop`, at its end: `release`. -/
  | leaving
  | ended
  deriving DecidableEq

/-- A row of the history, by what it is the row of. -/
inductive Row
  | request
  | refusedUpgrade
  | frame
  | push
  deriving DecidableEq

/-- What a step of a worker is told. -/
inductive Turn
  | go
  /-- `decide_upgrade` refuses. -/
  | refuses
  /-- A frame that gets no row, and the connection stays: a ping, a binary frame, not JSON. -/
  | skips
  /-- The content of a subscribe frame is built: `register`. -/
  | subscribes
  | unsubscribes
  /-- The connection ends: its socket fails, the upgrade request is a bad one, a close frame, a method
  that is a list or an object. -/
  | ends

/-- A worker, the server whose connection it serves, and the number of its subscriptions in the registry. -/
structure Worker where
  server : ℕ
  place : WorkerPlace
  subscriptions : ℕ
  deriving DecidableEq

/-- The row that `finalize` appends again: the history was cleared since the row got its stamp. -/
def again (stamp generation : ℕ) (row : Row) : Option Row := if stamp = generation then none else some row

/-- One step of a worker, and the row that it appends. `closed` is `_port_is_closed` of its server, and
`generation` is the generation of the call log. -/
def workerStep (adapter : Adapter) (closed : Bool) (generation : ℕ) (worker : Worker) (turn : Turn) :
    Option (Worker × Option Row) :=
  let moved (place : WorkerPlace) := { worker with place := place }
  match worker.place, turn with
  | .request, .go =>
      if closed then some (moved .ended, none)
      else
        match adapter with
        | .http => some (moved .arriving, none)
        | .ws => some (moved .upgrading, none)
  | .arriving, .go => some (moved (.answering generation), some .request)
  | .answering stamp, .go => some (moved .performing, again stamp generation .request)
  | .upgrading, .go => some (moved .reading, none)
  | .upgrading, .refuses => some (moved .ended, some .refusedUpgrade)
  | .reading, .go => if closed then some (moved .leaving, none) else some (moved .framed, none)
  | .framed, .go => some (moved (.replying generation), some .frame)
  | .framed, .skips => some (moved .reading, none)
  | .replying _, .subscribes => some ({ worker with subscriptions := worker.subscriptions + 1 }, none)
  | .replying _, .unsubscribes => some ({ worker with subscriptions := worker.subscriptions - 1 }, none)
  | .replying stamp, .go => some (moved .reading, again stamp generation .frame)
  | .leaving, .go =>
      if worker.subscriptions = 0 then some (moved .ended, none)
      else some ({ worker with subscriptions := worker.subscriptions - 1 }, none)
  | .request, .ends => some (moved .ended, none)
  | .answering _, .ends => some (moved .ended, none)
  | .performing, .ends => some (moved .ended, none)
  | .upgrading, .ends => some (moved .ended, none)
  | .reading, .ends => some (moved .leaving, none)
  | .framed, .ends => some (moved .leaving, none)
  | .replying _, .ends => some (moved .leaving, none)
  | _, _ => none

/-- The worker has passed its check, and the row of what it read is not finalized. -/
def WorkerPlace.owes : WorkerPlace → Bool
  | .arriving => true
  | .answering _ => true
  | .upgrading => true
  | .framed => true
  | .replying _ => true
  | _ => false

/-- **The worker can leave no row any more, once its server is closed.** -/
def Worker.Quiet (worker : Worker) : Prop := worker.place.owes = false ∧ worker.subscriptions = 0

instance (worker : Worker) : Decidable worker.Quiet :=
  inferInstanceAs (Decidable (worker.place.owes = false ∧ worker.subscriptions = 0))

/-! ### The control call -/

/-- Where the control call that holds `port_lock` is, as far as this port goes. `wantOpen` is its wish:
what the block that it wrote wants. -/
inductive Call
  | idle
  /-- It wrote the block and read the wish: before `last_report`. -/
  | looking (wantOpen : Bool)
  /-- The report differs: before `ask`. -/
  | asking (wantOpen : Bool)
  /-- Before, or in, the wait for its ticket. -/
  | waiting (wantOpen : Bool) (ticket : ℕ)
  /-- The wait was satisfied: before the connection is tried. -/
  | probing (wantOpen : Bool)
  /-- This port is as wished. The call may wait for other ports. -/
  | settled (wantOpen : Bool)
  | answered (wantOpen : Bool) (status : ℕ)
  deriving DecidableEq

/-- What a step of the control call is told. -/
inductive CallEvent
  | go
  /-- The wait ran out of time, for this port or, once it is settled, for another one. -/
  | timeOut
  /-- Did the connection succeed? -/
  | probe (accepts : Bool)

/-- One step of the control call, with what it does to the gate. -/
def callStep (gate : PortGate) : Call → CallEvent → Option (PortGate × Call)
  | .looking wantOpen, .go =>
      if gate.lastReport ≠ some wantOpen then some (gate, .asking wantOpen)
      else some (gate, .settled wantOpen)
  | .asking wantOpen, .go => some (gate.ask.1, .waiting wantOpen gate.ask.2)
  | .waiting wantOpen ticket, .go =>
      if gate.reached ticket wantOpen then some (gate, .probing wantOpen) else none
  | .waiting wantOpen _, .timeOut => some (gate, .answered wantOpen 500)
  | .probing wantOpen, .probe accepts =>
      if accepts = wantOpen then some (gate, .settled wantOpen)
      else some (gate, .answered wantOpen 500)
  | .settled wantOpen, .go => some (gate, .answered wantOpen 200)
  | .settled wantOpen, .timeOut => some (gate, .answered wantOpen 500)
  | _, _ => none

/-- Does no call hold `port_lock`? -/
def Call.free : Call → Bool
  | .idle => true
  | .answered .. => true
  | _ => false

/-! ### The port -/

/-- The port. `closes` says whether the stored block closes it, `rows` is what was appended to the history
under its number, `generation` is the one of the call log, and `emits` is the number of calls of `emit` that have
found a subscription of a connection of the port and not yet put their event on its queue. -/
structure Port where
  loop : Loop
  closes : Bool
  call : Call
  workers : List Worker
  rows : List Row
  generation : ℕ
  emits : ℕ
  deriving DecidableEq

/-- A port with the server that `SimulatorServer.start` bound: before the first pass. -/
def Port.start (closes : Bool) : Port := ⟨Loop.start, closes, .idle, [], [], 0, 0⟩

/-- One step of one thread. -/
inductive Action
  /-- The loop thread; its call may raise. -/
  | loop (raises : Bool)
  /-- The serve loop of a server accepts a connection and starts its worker. -/
  | accept (server : ℕ)
  | worker (id : ℕ) (turn : Turn)
  /-- A control call gets `port_lock` and writes the block; so do a reset and the sweep. -/
  | write (closes : Bool)
  | call (event : CallEvent)
  /-- `CallLog.clear`, of `POST /history/clear` or `POST /reset/all`. -/
  | clear
  /-- `emit` finds a subscription of the connection of a worker. -/
  | find (id : ℕ)
  /-- `emit` puts the event on the queue, if it takes it, and appends its row then. -/
  | push (takes : Bool)

/-- What the loop thread is told: at its read of the wish, what is stored. -/
def Port.event (port : Port) (raises : Bool) : Event :=
  match port.loop.place with
  | .deciding _ => .wish port.closes
  | _ => if raises then .raises else .go

/-- One action. -/
def Port.step (adapter : Adapter) (port : Port) : Action → Option Port
  | .loop raises => (port.loop.pass (port.event raises)).map fun loop => { port with loop := loop }
  | .accept id =>
      match port.loop.servers[id]? with
      | some server =>
          -- `get_request` closes a connection that it accepts after the flag.
          if server.serveStarted && !server.closedByScenario then
            some { port with workers := port.workers ++ [⟨id, .request, 0⟩] }
          else none
      | none => none
  | .worker id turn =>
      match port.workers[id]? with
      | some worker =>
          match port.loop.servers[worker.server]? with
          | some server =>
              (workerStep adapter server.closedByScenario port.generation worker turn).map fun (moved, row) =>
                { port with workers := port.workers.set id moved, rows := port.rows ++ row.toList }
          | none => none
      | none => none
  | .write closes =>
      if port.call.free then some { port with closes := closes, call := .looking (!closes) } else none
  | .call event =>
      (callStep port.loop.gate port.call event).map fun (gate, call) =>
        { port with loop := { port.loop with gate := gate }, call := call }
  | .clear => some { port with generation := port.generation + 1 }
  | .find id =>
      match port.workers[id]? with
      | some worker => if worker.subscriptions = 0 then none else some { port with emits := port.emits + 1 }
      | none => none
  | .push takes =>
      if port.emits = 0 then none
      else
        some { port with
          emits := port.emits - 1
          rows := port.rows ++ (if takes then [.push] else []) }

/-! ### The servers that serve -/

/-- The server was made by the loop, and its serve thread was started. -/
def Served (loop : Loop) (id : ℕ) : Prop :=
  ∃ server, loop.servers[id]? = some server ∧ server.serveStarted = true

section

variable {loop nextLoop : Loop} {id : ℕ}

theorem served_write {other : ℕ} {change : HttpServer → HttpServer} (served : Served loop id)
    (keeps : ∀ server, server.serveStarted = true → (change server).serveStarted = true) :
    Served (loop.write other change) id := by
  obtain ⟨server, here, started⟩ := served
  unfold Loop.write
  split
  · next found there =>
      by_cases same : other = id
      · subst same
        rw [here] at there
        cases there
        have inside := (List.getElem?_eq_some_iff.mp here).1
        exact ⟨change server, List.getElem?_set_self inside, keeps server started⟩
      · refine ⟨server, ?_, started⟩
        exact (List.getElem?_set_ne same).trans here
  · exact ⟨server, here, started⟩

/-- A server that serves stays in the list of the loop, with its mark. -/
theorem pass_served {event : Event} (done : loop.pass event = some nextLoop) (served : Served loop id) :
    Served nextLoop id := by
  cases place : loop.place with
  | closing seen other reopen =>
      cases event <;> simp only [Loop.pass, place] at done <;> cases done
      exact served_write served fun _ started => started
  | flagged seen other reopen =>
      cases event <;> simp only [Loop.pass, place] at done <;> cases done
      exact served_write served fun _ started => started
  | stopping seen other reopen =>
      cases event with
      | raises =>
          simp only [Loop.pass, place] at done
          split at done
          · cases done
            exact served
          · cases done
      | go =>
          simp only [Loop.pass, place] at done
          cases done
          exact served
      | wish => simp only [Loop.pass, place] at done; cases done
  | binding seen =>
      cases event with
      | go =>
          simp only [Loop.pass, place] at done
          cases done
          obtain ⟨server, here, started⟩ := served
          have inside := (List.getElem?_eq_some_iff.mp here).1
          exact ⟨server, (List.getElem?_append_left inside).trans here, started⟩
      | raises =>
          simp only [Loop.pass, place] at done
          cases done
          exact served
      | wish => simp only [Loop.pass, place] at done; cases done
  | serving seen other =>
      cases event with
      | go =>
          simp only [Loop.pass, place] at done
          cases done
          exact served_write served fun _ _ => rfl
      | raises =>
          simp only [Loop.pass, place] at done
          cases done
          exact served
      | wish => simp only [Loop.pass, place] at done; cases done
  | discarding seen other =>
      cases event <;> simp only [Loop.pass, place] at done <;> cases done
      exact served_write served fun _ started => started
  | _ => cases event <;> simp only [Loop.pass, place] at done <;> cases done <;> exact served

end

/-! ### The invariant -/

/-- What the control call has reached, for a gate and its loop. -/
def Call.Holds (wish : Bool) (writes : ℕ) (station : Station) : Call → Prop
  | .idle => True
  | .looking wantOpen => wish = wantOpen
  | .asking wantOpen => wish = wantOpen
  | .waiting wantOpen ticket => Ticket wish writes station wantOpen ticket
  | .probing wantOpen => Stable wish station wantOpen
  | .settled wantOpen => Stable wish station wantOpen
  | .answered wantOpen status => status = 200 → Stable wish station wantOpen

/-- The loop keeps its own invariant, each worker belongs to a server that serves, and the loop stands
for a station whose gate has answered the call as far as the call has come. -/
structure Inv (port : Port) : Prop where
  loop : HttpPortLoop.Inv port.loop
  served : ∀ (id : ℕ) (worker : Worker), port.workers[id]? = some worker →
    Served port.loop worker.server
  gate : ∃ writes station, Refines port.loop station ∧ PassOk station ∧
    port.call.Holds (!port.closes) writes station

theorem start_inv (closes : Bool) : Inv (Port.start closes) where
  loop := HttpPortLoop.start_inv
  served := by simp [Port.start]
  gate := by
    refine ⟨0, _, start_refines, ⟨Nat.le_refl _, fun _ => rfl, nofun, fun _ => nofun⟩, trivial⟩

section

variable {port next : Port} {adapter : Adapter}

/-- What a step of the serve loop of the gate keeps of the call. -/
theorem Call.Holds.step {wish : Bool} {writes : ℕ} {station after : Station} {call : Call}
    {event : LoopEvent} (holds : call.Holds wish writes station) (ok : PassOk station)
    (done : station.step wish writes event = some after) : call.Holds wish writes after := by
  cases call with
  | idle => trivial
  | looking wantOpen => exact holds
  | asking wantOpen => exact holds
  | waiting wantOpen ticket => exact Ticket.step holds ok done
  | probing wantOpen => exact Stable.step holds done
  | settled wantOpen => exact Stable.step holds done
  | answered wantOpen status => exact fun success => Stable.step (holds success) done

/-- What the loop thread is told is what is stored. -/
theorem event_agrees (port : Port) (raises : Bool) : (port.event raises).Agrees (!port.closes) := by
  unfold Port.event
  split
  · rfl
  · cases raises <;> trivial

/-- **A step of the loop thread keeps the invariant.** -/
theorem loop_inv {raises : Bool} {loop : Loop} (inv : Inv port)
    (done : port.loop.pass (port.event raises) = some loop) : Inv { port with loop := loop } where
  loop := pass_inv inv.loop done
  served id worker here := pass_served done (inv.served id worker here)
  gate := by
    obtain ⟨writes, station, refines, ok, holds⟩ := inv.gate
    have followed : Follows (!port.closes) writes station loop :=
      pass_follows inv.loop refines (event_agrees port raises) done
    obtain ⟨events, after, ran, stands⟩ := followed
    have kept : PassOk after ∧ port.call.Holds (!port.closes) writes after :=
      run_invariant (fun station => PassOk station ∧ port.call.Holds (!port.closes) writes station)
        (fun _ _ _ stepped before => ⟨before.1.step stepped, before.2.step before.1 stepped⟩)
        ran ⟨ok, holds⟩
    exact ⟨writes, after, stands, kept⟩

/-- The counters of the gate are no concern of the invariant of the loop. -/
theorem loopInv_gate {loop : Loop} (inv : HttpPortLoop.Inv loop) (gate : PortGate) :
    HttpPortLoop.Inv { loop with gate := gate } :=
  ⟨inv.owned, inv.half, inv.live, inv.valid, inv.subject, inv.known, inv.ending, inv.locked,
    inv.unstopped, inv.taken⟩

/-- **What one step of the control call reaches.** It asks the gate, or it leaves the gate as it is. -/
theorem callStep_holds {gate : PortGate} {before call : Call} {event : CallEvent} {wish : Bool}
    {writes : ℕ} {station : Station} (ok : PassOk station) (holds : before.Holds wish writes station)
    (done : callStep station.gate before event = some (gate, call)) :
    (gate = station.gate ∧ call.Holds wish writes station) ∨
      (gate = station.gate.ask.1 ∧ call.Holds wish writes station.asked) := by
  cases before with
  | idle => cases event <;> cases done
  | looking wantOpen =>
      cases event <;> simp only [callStep] at done
      · split at done
        · cases done
          exact .inl ⟨rfl, holds⟩
        · next trusted =>
            cases done
            exact .inl ⟨rfl, stable_of_lastReport ok holds (not_not.mp trusted)⟩
      · cases done
      · cases done
  | asking wantOpen =>
      cases event <;> cases done
      exact .inr ⟨rfl, ticket_of_ask ok writes holds⟩
  | waiting wantOpen ticket =>
      cases event <;> simp only [callStep] at done
      · split at done
        · next reached =>
            cases done
            obtain ⟨answered, report⟩ := PortGate.reached_iff.mp reached
            exact .inl ⟨rfl, Ticket.stable holds answered report⟩
        · cases done
      · cases done
        exact .inl ⟨rfl, nofun⟩
      · cases done
  | probing wantOpen =>
      cases event <;> simp only [callStep] at done
      · cases done
      · cases done
      · split at done
        · cases done
          exact .inl ⟨rfl, holds⟩
        · cases done
          exact .inl ⟨rfl, nofun⟩
  | settled wantOpen =>
      cases event <;> cases done
      · exact .inl ⟨rfl, fun _ => holds⟩
      · exact .inl ⟨rfl, nofun⟩
  | answered => cases event <;> cases done

/-- The control call asks the gate, or it leaves the gate as it is. -/
theorem callStep_gate {gate after : PortGate} {before call : Call} {event : CallEvent}
    (done : callStep gate before event = some (after, call)) : after = gate ∨ after = gate.ask.1 := by
  unfold callStep at done
  grind

/-- **What one action does.** -/
theorem step_cases {action : Action} (done : port.step adapter action = some next) :
    (∃ raises loop, action = .loop raises ∧ port.loop.pass (port.event raises) = some loop ∧
      next = { port with loop := loop }) ∨
    (∃ id server, action = .accept id ∧ port.loop.servers[id]? = some server ∧ Live server ∧
      next = { port with workers := port.workers ++ [⟨id, .request, 0⟩] }) ∨
    (∃ id turn worker server moved row, action = .worker id turn ∧
      port.workers[id]? = some worker ∧ port.loop.servers[worker.server]? = some server ∧
      workerStep adapter server.closedByScenario port.generation worker turn = some (moved, row) ∧
      next = { port with workers := port.workers.set id moved, rows := port.rows ++ row.toList }) ∨
    (∃ closes, action = .write closes ∧
      next = { port with closes := closes, call := .looking (!closes) }) ∨
    (∃ event gate call, action = .call event ∧
      callStep port.loop.gate port.call event = some (gate, call) ∧
      next = { port with loop := { port.loop with gate := gate }, call := call }) ∨
    (action = .clear ∧ next = { port with generation := port.generation + 1 }) ∨
    (∃ id worker, action = .find id ∧ port.workers[id]? = some worker ∧ worker.subscriptions ≠ 0 ∧
      next = { port with emits := port.emits + 1 }) ∨
    (∃ takes : Bool, action = .push takes ∧ port.emits ≠ 0 ∧
      next = { port with
        emits := port.emits - 1, rows := port.rows ++ (if takes then [.push] else []) }) := by
  cases action with
  | loop raises =>
      obtain ⟨loop, passed, rfl⟩ := Option.map_eq_some_iff.mp done
      exact .inl ⟨raises, loop, rfl, passed, rfl⟩
  | accept id =>
      simp only [Port.step] at done
      split at done
      · next server here =>
          split at done
          · next live =>
              cases done
              rw [Bool.and_eq_true, Bool.not_eq_true'] at live
              exact .inr (.inl ⟨id, server, rfl, here, live, rfl⟩)
          · cases done
      · cases done
  | worker id turn =>
      simp only [Port.step] at done
      split at done
      · next worker here =>
          split at done
          · next server there =>
              obtain ⟨⟨moved, row⟩, stepped, rfl⟩ := Option.map_eq_some_iff.mp done
              exact .inr (.inr (.inl ⟨id, turn, worker, server, moved, row, rfl, here, there, stepped,
                rfl⟩))
          · cases done
      · cases done
  | write closes =>
      simp only [Port.step] at done
      split at done
      · cases done
        exact .inr (.inr (.inr (.inl ⟨closes, rfl, rfl⟩)))
      · cases done
  | call event =>
      obtain ⟨⟨gate, call⟩, moved, rfl⟩ := Option.map_eq_some_iff.mp done
      exact .inr (.inr (.inr (.inr (.inl ⟨event, gate, call, rfl, moved, rfl⟩))))
  | clear =>
      cases done
      exact .inr (.inr (.inr (.inr (.inr (.inl ⟨rfl, rfl⟩)))))
  | find id =>
      simp only [Port.step] at done
      split at done
      · next worker here =>
          split at done
          · cases done
          · next some =>
              cases done
              exact .inr (.inr (.inr (.inr (.inr (.inr (.inl ⟨id, worker, rfl, here, some, rfl⟩))))))
      · cases done
  | push takes =>
      simp only [Port.step] at done
      split at done
      · cases done
      · next some =>
          cases done
          exact .inr (.inr (.inr (.inr (.inr (.inr (.inr ⟨takes, rfl, some, rfl⟩))))))

/-- A worker stays with its server. -/
theorem workerStep_server {closed : Bool} {generation : ℕ} {worker moved : Worker} {turn : Turn} {row : Option Row}
    (stepped : workerStep adapter closed generation worker turn = some (moved, row)) :
    moved.server = worker.server := by
  unfold workerStep at stepped
  grind

/-- **One action keeps the invariant.** -/
theorem step_inv {action : Action} (inv : Inv port) (done : port.step adapter action = some next) :
    Inv next := by
  obtain ⟨writes, station, refines, ok, holds⟩ := inv.gate
  rcases step_cases done with ⟨raises, loop, -, passed, rfl⟩ | ⟨id, server, -, here, live, rfl⟩ |
    ⟨id, turn, worker, server, moved, row, -, here, there, stepped, rfl⟩ | ⟨closes, -, rfl⟩ |
    ⟨event, gate, call, -, moved, rfl⟩ | ⟨-, rfl⟩ | ⟨id, worker, -, -, -, rfl⟩ | ⟨takes, -, -, rfl⟩
  · exact loop_inv inv passed
  · exact ⟨inv.loop, forall_append inv.served ⟨server, here, live.1⟩, inv.gate⟩
  · refine ⟨inv.loop, forall_set (fun other found there _ => inv.served other found there) ?_,
      inv.gate⟩
    rw [workerStep_server stepped]
    exact inv.served id worker here
  · exact ⟨inv.loop, inv.served, writes, station, refines, ok, rfl⟩
  · rw [← refines.gate] at moved
    rcases callStep_holds ok holds moved with ⟨rfl, reaches⟩ | ⟨rfl, reaches⟩
    · rw [refines.gate]
      exact ⟨inv.loop, inv.served, writes, station, refines, ok, reaches⟩
    · rw [refines.gate]
      exact ⟨loopInv_gate inv.loop _, inv.served, writes, station.asked, refines.asked, ok.asked,
        reaches⟩
  · exact ⟨inv.loop, inv.served, inv.gate⟩
  · exact ⟨inv.loop, inv.served, inv.gate⟩
  · exact ⟨inv.loop, inv.served, inv.gate⟩

/-! ### After the return of the call -/

/-- The port is closed, it stays closed while the stored block closes it, and nobody can leave a row any more. -/
structure Shut (port : Port) : Prop where
  inv : Inv port
  closed : ∃ station, Refines port.loop station ∧ Stable (!port.closes) station false
  quiet : ∀ (id : ℕ) (worker : Worker), port.workers[id]? = some worker → worker.Quiet
  emits : port.emits = 0

/-- A quiet worker of a closed port stays quiet, and appends no row. -/
theorem workerStep_shut {generation : ℕ} {worker moved : Worker} {turn : Turn} {row : Option Row}
    (quiet : worker.Quiet) (done : workerStep adapter true generation worker turn = some (moved, row)) :
    moved.Quiet ∧ row = none := by
  obtain ⟨server, place, subscriptions⟩ := worker
  obtain ⟨settled, none⟩ := quiet
  cases none
  cases place <;> cases turn <;> cases done <;> first | exact ⟨⟨rfl, rfl⟩, rfl⟩ | cases settled

/-- **One action on a closed port**: it stays closed, and no row is appended, unless the action is a
write that opens it. -/
theorem step_shut {action : Action} (shut : Shut port) (unopened : action ≠ .write false)
    (done : port.step adapter action = some next) : Shut next ∧ next.rows = port.rows := by
  have inv := step_inv shut.inv done
  obtain ⟨station, refines, stable⟩ := shut.closed
  rcases step_cases done with ⟨raises, loop, -, passed, rfl⟩ | ⟨id, server, -, here, live, rfl⟩ |
    ⟨id, turn, worker, server, moved, row, -, here, there, stepped, rfl⟩ | ⟨closes, rfl, rfl⟩ |
    ⟨event, gate, call, -, moved, rfl⟩ | ⟨-, rfl⟩ | ⟨id, worker, -, here, some, rfl⟩ | ⟨takes, -, some, rfl⟩
  · have followed : Follows (!port.closes) 0 station loop :=
      pass_follows shut.inv.loop refines (event_agrees port raises) passed
    obtain ⟨events, after, ran, stands⟩ := followed
    have kept : Stable (!port.closes) after false :=
      run_invariant (fun station => Stable (!port.closes) station false)
        (fun _ _ _ stepped before => before.step stepped) ran stable
    exact ⟨⟨inv, ⟨after, stands, kept⟩, shut.quiet, shut.emits⟩, rfl⟩
  · exact absurd live (refines.dark stable.port here)
  · -- The server of the worker serves and is not live, so its flag is set.
    have flag : server.closedByScenario = true := by
      obtain ⟨found, same, started⟩ := shut.inv.served id worker here
      rw [there] at same
      cases same
      by_contra unflagged
      exact refines.dark stable.port there ⟨started, Bool.not_eq_true _ ▸ unflagged⟩
    rw [flag] at stepped
    obtain ⟨quiet, rfl⟩ := workerStep_shut (shut.quiet id worker here) stepped
    refine ⟨⟨inv, ⟨station, refines, stable⟩, ?_, shut.emits⟩, List.append_nil _⟩
    exact forall_set (fun other found there _ => shut.quiet other found there) quiet
  · cases closes with
    | true => exact ⟨⟨inv, ⟨station, refines, stable.port, rfl, stable.read⟩, shut.quiet, shut.emits⟩, rfl⟩
    | false => exact absurd rfl unopened
  · rcases callStep_gate moved with rfl | rfl
    · exact ⟨⟨inv, ⟨station, refines, stable⟩, shut.quiet, shut.emits⟩, rfl⟩
    · exact ⟨⟨inv, ⟨station.asked, refines.asked, stable.asked⟩, shut.quiet, shut.emits⟩, rfl⟩
  · exact ⟨⟨inv, ⟨station, refines, stable⟩, shut.quiet, shut.emits⟩, rfl⟩
  · exact absurd (shut.quiet id worker here).2 some
  · exact absurd shut.emits some

/-! ### A late row -/

/-- Some run from here appends a row, and no write opens the port in it. -/
def LateRow (adapter : Adapter) (port : Port) : Prop :=
  ∃ later final, (∀ action ∈ later, action ≠ .write false) ∧ run (Port.step adapter) port later = some final ∧
    final.rows ≠ port.rows

/-- A step that appends a row. -/
theorem lateRow_of_step (action : Action) {row : Row} (kind : action ≠ .write false)
    (done : port.step adapter action = some next) (rows : next.rows = port.rows ++ [row]) :
    LateRow adapter port := by
  refine ⟨[action], next, ?_, ?_, ?_⟩
  · intro other member
    rwa [List.mem_singleton.mp member]
  · rw [run_cons, done]
    rfl
  · rw [rows]
    exact fun same => List.cons_ne_nil row [] (List.append_right_eq_self.mp same)

/-- A late row after a step that appends none. -/
theorem LateRow.of_step (action : Action) (kind : action ≠ .write false)
    (done : port.step adapter action = some next) (rows : next.rows = port.rows) (late : LateRow adapter next) :
    LateRow adapter port := by
  obtain ⟨later, final, kinds, ran, more⟩ := late
  refine ⟨action :: later, final, ?_, ?_, rows ▸ more⟩
  · intro other member
    rcases List.mem_cons.mp member with rfl | tail
    · exact kind
    · exact kinds other tail
  · rw [run_cons, done]
    exact ran

theorem lateRow_of_worker {id : ℕ} {turn : Turn} {worker moved : Worker} {row : Row} {server : HttpServer}
    (here : port.workers[id]? = some worker) (there : port.loop.servers[worker.server]? = some server)
    (stepped : workerStep adapter server.closedByScenario port.generation worker turn = some (moved, some row)) :
    LateRow adapter port := by
  have done : port.step adapter (.worker id turn) =
      some { port with workers := port.workers.set id moved, rows := port.rows ++ [row] } := by
    unfold Port.step
    dsimp only
    rw [here]
    dsimp only
    rw [there]
    dsimp only
    rw [stepped]
    rfl
  exact lateRow_of_step _ Action.noConfusion done rfl

variable (adapter) in
/-- A worker that owes a row can append one, at once or after a `clear`. -/
theorem workerStep_owes (closed : Bool) (generation : ℕ) {worker : Worker} (owes : worker.place.owes = true) :
    ∃ turn moved row, workerStep adapter closed generation worker turn = some (moved, some row) ∨
      workerStep adapter closed (generation + 1) worker turn = some (moved, some row) := by
  obtain ⟨server, place, subscriptions⟩ := worker
  have late : ∀ stamp row, again stamp generation row = some row ∨ again stamp (generation + 1) row = some row := by
    intro stamp row
    unfold again
    by_cases own : stamp = generation
    · exact .inr (if_neg (by omega))
    · exact .inl (if_neg own)
  cases place with
  | arriving => exact ⟨.go, _, .request, .inl rfl⟩
  | answering stamp =>
      refine ⟨.go, ⟨server, .performing, subscriptions⟩, .request, ?_⟩
      rcases late stamp .request with now | cleared
      · exact .inl (congrArg (fun row => some (_, row)) now)
      · exact .inr (congrArg (fun row => some (_, row)) cleared)
  | upgrading => exact ⟨.refuses, _, .refusedUpgrade, .inl rfl⟩
  | framed => exact ⟨.go, _, .frame, .inl rfl⟩
  | replying stamp =>
      refine ⟨.go, ⟨server, .reading, subscriptions⟩, .frame, ?_⟩
      rcases late stamp .frame with now | cleared
      · exact .inl (congrArg (fun row => some (_, row)) now)
      · exact .inr (congrArg (fun row => some (_, row)) cleared)
  | _ => cases owes

/-- An `emit` that is under way appends a row. -/
theorem lateRow_of_emits (some : port.emits ≠ 0) : LateRow adapter port :=
  lateRow_of_step (.push true) Action.noConfusion (if_neg some) rfl

/-- **A worker that is not quiet leaves a late row in some run.** -/
theorem lateRow_of_busy (inv : Inv port) {worker : Worker} (member : worker ∈ port.workers)
    (busy : ¬ worker.Quiet) : LateRow adapter port := by
  obtain ⟨id, here⟩ := List.mem_iff_getElem?.mp member
  obtain ⟨server, there, -⟩ := inv.served id worker here
  by_cases owes : worker.place.owes = true
  · obtain ⟨turn, moved, row, now | cleared⟩ :=
      workerStep_owes adapter server.closedByScenario port.generation owes
    · exact lateRow_of_worker here there now
    · exact LateRow.of_step .clear Action.noConfusion rfl rfl (lateRow_of_worker here there cleared)
  · have subscribed : worker.subscriptions ≠ 0 := fun none => busy ⟨Bool.not_eq_true _ ▸ owes, none⟩
    have done : port.step adapter (.find id) = some { port with emits := port.emits + 1 } := by
      unfold Port.step
      dsimp only
      rw [here]
      exact if_neg subscribed
    exact LateRow.of_step _ Action.noConfusion done rfl (lateRow_of_emits (Nat.succ_ne_zero _))

end

/-! ### Ports that store a row -/

/-- The first pass opens the port, a connection comes in, and its worker takes some turns. Then a
control call closes the port and returns. -/
def closingRun (turns : List Turn) : List Action :=
  List.flatten
    [List.replicate 6 (.loop false), [.accept 0], turns.map (.worker 0),
      [.write true, .call .go, .call .go], List.replicate 8 (.loop false),
      [.call .go, .call (.probe false), .call .go]]

/-- The port when the call has returned. -/
def closedPort (adapter : Adapter) (turns : List Turn) : Port :=
  (run (Port.step adapter) (Port.start false) (closingRun turns)).getD (Port.start false)

/-- After these turns and the close, these steps append a row. -/
def StoresLate (adapter : Adapter) (turns : List Turn) (later : List Action) : Prop :=
  run (Port.step adapter) (Port.start false) (closingRun turns) = some (closedPort adapter turns) ∧
    (closedPort adapter turns).call = .answered false 200 ∧ (∀ action ∈ later, action ≠ .write false) ∧
    ∃ final, run (Port.step adapter) (closedPort adapter turns) later = some final ∧
      final.rows ≠ (closedPort adapter turns).rows

end ProviderSimulator.Ports.PortTraffic
