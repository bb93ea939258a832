/-
**The loop of an `http` or `ws` port is a serve loop of its gate.**

`pass_refines`: each step of `_HttpPortLoop` is none, one or two steps of the serve loop that the
control writers wait for (`Station`). The state of the port is the `is_open` of a pass: the loop has a
server, it serves, and no close began on it.

* A pass that wants the port closed has moved it once the flag of the close is set.
* A pass that wants it open has moved it once `serve` returned, or once it failed.

So what is said of a gate by `Stable` and `Ticket` is said of the loop. A closed port then has no live
server at all (`Inv.dark`): the only server that serves and has no flag is that of the loop.
-/

import Mathlib.Tactic.Common
import ProviderSimulator.Lib.Machine
import ProviderSimulator.Ports.SettleHolds
import ProviderSimulator.Ports.HttpPortLoopHonest

set_option linter.unusedSectionVars false

namespace ProviderSimulator.Ports.HttpPortLoop

open ProviderSimulator.Lib

/-! ### The relation -/

/-- A serve thread runs for the server, and its requests pass the check `_port_is_closed`. -/
def Live (server : HttpServer) : Prop :=
  server.serveStarted = true ∧ server.closedByScenario = false

/-- The pass has read its wish, the port is not open, and the pass is about to open it. -/
def Opening (portOpen : Bool) (seen : ℕ) (pass : Pass) : Prop :=
  portOpen = false ∧ ∃ readAt, pass = .read seen true readAt

/-- Where the serve loop of the gate is when the loop thread is at a place. -/
def Place.Stands (portOpen : Bool) : Place → Pass → Prop
  | .ready, pass => pass = .idle
  | .begun seen, pass => pass = .begun seen
  | .deciding seen, pass => pass = .begun seen
  | .closing seen _ false, pass => ∃ readAt, pass = .read seen false readAt
  | .flagged seen _ false, pass => ∃ readAt, pass = .acted seen readAt
  | .stopping seen _ false, pass => ∃ readAt, pass = .acted seen readAt
  | .closing seen _ true, pass => Opening portOpen seen pass
  | .flagged seen _ true, pass => Opening portOpen seen pass
  | .stopping seen _ true, pass => Opening portOpen seen pass
  | .binding seen, pass => Opening portOpen seen pass
  | .serving seen _, pass => Opening portOpen seen pass
  | .discarding seen _, pass => ∃ readAt, pass = .acted seen readAt
  | .reporting seen, pass => ∃ readAt, pass = .acted seen readAt
  | .ending seen isOpen, pass => isOpen = portOpen ∧ ∃ readAt, pass = .acted seen readAt
  | .returned, _ => False

/-- The loop stands for the station. Only the server of the loop is live, and the server that a pass
is about to serve is not. -/
structure Refines (loop : Loop) (station : Station) : Prop where
  gate : station.gate = loop.gate
  port : station.portOpen = loop.isOpen
  pass : loop.place.Stands station.portOpen station.pass
  running : loop.stopped = false
  live : ∀ (id : ℕ) (server : HttpServer), loop.servers[id]? = some server → Live server →
    loop.current = some id
  unserved : ∀ seen id, loop.place = .serving seen id → ∀ server, loop.servers[id]? = some server →
    server.serveStarted = false

theorem start_refines : Refines Loop.start ⟨{}, .idle, false, 0⟩ where
  gate := rfl
  port := rfl
  pass := rfl
  running := rfl
  live id server here live := by
    have only := List.mem_of_getElem? here
    rw [List.mem_singleton.mp only] at live
    cases live.1
  unserved := nofun

section

variable {loop next : Loop} {station : Station} {id seen readAt : ℕ} {server : HttpServer}

theorem isOpen_eq (isCurrent : loop.current = some id) (here : loop.servers[id]? = some server) :
    loop.isOpen = (server.serveStarted && !server.closedByScenario) :=
  flag_eq isCurrent here _

theorem isOpen_of_none (no_server : loop.current = none) : loop.isOpen = false := by
  unfold Loop.isOpen Loop.flag
  rw [no_server, Option.bind_none]

/-- **A closed port has no live server.** -/
theorem Refines.dark (refines : Refines loop station) (closed : station.portOpen = false)
    (here : loop.servers[id]? = some server) : ¬ Live server := by
  intro live
  have isCurrent := refines.live id server here live
  rw [refines.port, isOpen_eq isCurrent here, live.1, live.2] at closed
  cases closed

/-- The control call changes nothing of the loop but the counters of its gate. -/
theorem Refines.asked (refines : Refines loop station) :
    Refines { loop with gate := loop.gate.ask.1 } station.asked where
  gate := congrArg (fun gate : PortGate => gate.ask.1) refines.gate
  port := refines.port
  pass := refines.pass
  running := refines.running
  live := refines.live
  unserved := refines.unserved

/-! ### The steps of the serve loop -/

variable {wish : Bool} {writes : ℕ}

/-- A pass that has read its wish comes to its end. -/
theorem acts_eq {wantOpen moved : Bool} (pass : station.pass = .read seen wantOpen readAt)
    (unmoved : wantOpen = station.portOpen → moved = station.portOpen) :
    station.step wish writes (.acts moved) =
      some { station with pass := .acted seen readAt, portOpen := moved } := by
  unfold Station.step
  rw [pass]
  by_cases same : wantOpen = station.portOpen
  · simp only [if_pos same, unmoved same]
  · simp only [if_neg same]

/-- A pass reads its wish. -/
theorem reads_eq (pass : station.pass = .begun seen) :
    station.step wish writes .go = some { station with pass := .read seen wish writes } := by
  unfold Station.step
  rw [pass]

/-- The loop thread moves, and no server changes. -/
theorem Refines.move {place : Place} {after : Station} (refines : Refines loop station)
    (gate : after.gate = station.gate) (port : after.portOpen = station.portOpen)
    (pass : place.Stands after.portOpen after.pass)
    (elsewhere : ∀ seen id, place = .serving seen id → ∀ server, loop.servers[id]? = some server →
      server.serveStarted = false) :
    Refines { loop with place := place } after where
  gate := gate.trans refines.gate
  port := port.trans refines.port
  pass := pass
  running := refines.running
  live := refines.live
  unserved := elsewhere

/-- The server of the loop changes. -/
theorem Refines.writeCurrent {place : Place} {new : HttpServer} {after : Station}
    (refines : Refines loop station) (isCurrent : loop.current = some id)
    (here : loop.servers[id]? = some server) (gate : after.gate = station.gate)
    (port : after.portOpen = (new.serveStarted && !new.closedByScenario))
    (pass : place.Stands after.portOpen after.pass) (elsewhere : ∀ seen id, place ≠ .serving seen id) :
    Refines { loop with servers := loop.servers.set id new, place := place } after where
  gate := gate.trans refines.gate
  port := by
    have inside := (List.getElem?_eq_some_iff.mp here).1
    have there : (loop.servers.set id new)[id]? = some new := by
      rw [List.getElem?_set_self inside]
    refine port.trans (Eq.symm ?_)
    exact isOpen_eq isCurrent there
  pass := pass
  running := refines.running
  live := by
    have all : ∀ other found, (loop.servers.set id new)[other]? = some found → Live found →
        loop.current = some other :=
      forall_set (fun other found there _ => refines.live other found there) fun _ => isCurrent
    exact all
  unserved seen id same := absurd same (elsewhere seen id)

/-- The loop gives up a server that is not live. -/
theorem Refines.dropServer {place : Place} {after : Station} (refines : Refines loop station)
    (isCurrent : loop.current = some id) (here : loop.servers[id]? = some server)
    (dead : ¬ Live server) (gate : after.gate = station.gate) (port : after.portOpen = false)
    (pass : place.Stands after.portOpen after.pass) (elsewhere : ∀ seen id, place ≠ .serving seen id) :
    Refines { loop with current := none, place := place } after where
  gate := gate.trans refines.gate
  port := port
  pass := pass
  running := refines.running
  live other found there live := by
    cases Option.some.inj (isCurrent.symm.trans (refines.live other found there live))
    rw [here] at there
    cases there
    exact absurd live dead
  unserved seen id same := absurd same (elsewhere seen id)

/-- The serve loop of the gate can follow the loop thread to its next state. -/
def Follows (wish : Bool) (writes : ℕ) (station : Station) (next : Loop) : Prop :=
  ∃ events after, run (Station.step wish writes) station events = some after ∧ Refines next after

/-- The branch of a pass after it read its wish. -/
theorem decide_follows {closed : Bool} (inv : Inv loop) (refines : Refines loop station)
    (place : loop.place = .deciding seen) :
    Follows (!closed) writes station { loop with place := loop.decide seen closed } := by
  have begun := refines.pass
  rw [place] at begun
  have reads : station.step (!closed) writes .go = _ := reads_eq begun
  -- The pass has more to do.
  have works : ∀ target : Place, target.Stands station.portOpen (.read seen (!closed) writes) →
      (∀ seen id, target = .serving seen id → ∀ server, loop.servers[id]? = some server →
        server.serveStarted = false) → loop.decide seen closed = target →
      Follows (!closed) writes station { loop with place := loop.decide seen closed } := by
    intro target stands unserved decided
    rw [decided]
    refine ⟨[.go], _, run_cons_eq_some.mpr ⟨_, reads, rfl⟩, ?_⟩
    exact refines.move rfl rfl stands unserved
  -- The port is in the wished state already.
  have rests : (!closed) = station.portOpen → loop.decide seen closed = .reporting seen →
      Follows (!closed) writes station { loop with place := loop.decide seen closed } := by
    intro settled decided
    rw [decided]
    refine ⟨[.go, .acts station.portOpen], _, run_cons_eq_some.mpr ⟨_, reads,
      run_cons_eq_some.mpr ⟨_, acts_eq rfl fun _ => rfl, rfl⟩⟩, ?_⟩
    exact refines.move rfl rfl ⟨_, rfl⟩ nofun
  rcases Option.eq_none_or_eq_some loop.current with same | ⟨id, same⟩
  · have shut : station.portOpen = false := refines.port.trans (isOpen_of_none same)
    cases closed with
    | false =>
        refine works (.binding seen) ⟨shut, _, rfl⟩ nofun ?_
        unfold Loop.decide Loop.openPort
        rw [same]
        rfl
    | true =>
        refine rests shut.symm ?_
        unfold Loop.decide
        rw [same]
        rfl
  · obtain ⟨server, here⟩ := inv.valid id same
    cases closed with
    | true =>
        refine works (.closing seen id false) ⟨_, rfl⟩ nofun ?_
        unfold Loop.decide
        rw [same]
        rfl
    | false =>
        have decided : loop.decide seen false =
            if server.closedByScenario then .closing seen id true
            else if server.serveStarted then .reporting seen
            else .serving seen id := by
          unfold Loop.decide Loop.openPort
          simp only [flag_eq same here, same, Bool.false_eq_true, if_false]
        have port := refines.port.trans (isOpen_eq same here)
        by_cases flag : server.closedByScenario = true
        · rw [if_pos flag] at decided
          rw [flag, Bool.not_true, Bool.and_false] at port
          exact works (.closing seen id true) ⟨port, _, rfl⟩ nofun decided
        · rw [if_neg flag] at decided
          have unflagged : server.closedByScenario = false := Bool.not_eq_true _ ▸ flag
          by_cases started : server.serveStarted = true
          · rw [if_pos started] at decided
            refine rests ?_ decided
            rw [port, started, unflagged]
            rfl
          · rw [if_neg started] at decided
            have idle : server.serveStarted = false := Bool.not_eq_true _ ▸ started
            rw [idle, Bool.false_and] at port
            refine works (.serving seen id) ⟨port, _, rfl⟩ (fun other target serves found there => ?_)
              decided
            cases serves
            rw [here] at there
            cases there
            exact idle

/-- What the loop thread is told of the scenario is what is stored. -/
def Event.Agrees (wish : Bool) : Event → Prop
  | .wish closed => wish = !closed
  | _ => True

/-- The server of a pass that has closed its socket is not live, and the port is not open. -/
theorem Inv.stopped_server {reopen : Bool} (inv : Inv loop) (refines : Refines loop station)
    (place : loop.place = .stopping seen id reopen) :
    ∃ server, loop.current = some id ∧ loop.servers[id]? = some server ∧ ¬ Live server ∧
      station.portOpen = false := by
  obtain ⟨server, isCurrent, here, known⟩ := inv.serverAt (show _ = some id by rw [place]; rfl)
  rw [place] at known
  have flag : server.closedByScenario = true := known.1
  have port := refines.port.trans (isOpen_eq isCurrent here)
  rw [flag, Bool.not_true, Bool.and_false] at port
  refine ⟨server, isCurrent, here, ?_, port⟩
  rintro ⟨-, unflagged⟩
  rw [flag] at unflagged
  cases unflagged

/-- A new server is bound: it does not serve yet, and no other one is live. -/
theorem bind_follows (inv : Inv loop) (refines : Refines loop station) (place : loop.place = .binding seen) :
    Follows wish writes station
      { loop with
        servers := loop.servers ++ [{}]
        current := some loop.servers.length
        place := .serving seen loop.servers.length } := by
  have no_server : loop.current = none := inv.noServer_of_known (by rw [place]; exact nofun)
  have stands := refines.pass
  rw [place] at stands
  obtain ⟨shut, readAt, pass⟩ := stands
  refine ⟨[], station, rfl, ⟨refines.gate, ?_, ⟨shut, readAt, pass⟩, refines.running, ?_, ?_⟩⟩
  · rw [shut]
    unfold Loop.isOpen Loop.flag
    dsimp only
    rw [Option.bind_some, List.getElem?_concat_length]
    rfl
  · refine forall_append (fun other found there live => ?_) fun live => absurd live.1 nofun
    rw [refines.live other found there live] at no_server
    cases no_server
  · intro seen id serves server there
    cases serves
    rw [List.getElem?_concat_length] at there
    cases there
    rfl

/-- The socket of a server that could not serve is closed. -/
theorem discard_follows (inv : Inv loop) (refines : Refines loop station)
    (place : loop.place = .discarding seen id) :
    Follows wish writes station { loop.write id HttpServer.closeSocket with place := .reporting seen } := by
  have no_server : loop.current = none := inv.noServer_of_known (by rw [place]; exact nofun)
  have stands := refines.pass
  rw [place] at stands
  refine ⟨[], station, rfl, refines.gate, ?_, stands, refines.running, ?_, nofun⟩
  · refine (refines.port.trans (isOpen_of_none no_server)).trans (Eq.symm ?_)
    exact isOpen_of_none no_server
  · intro other found there live
    show loop.current = some other
    unfold Loop.write at there
    split at there
    · next server here =>
        have all : ∀ other found, (loop.servers.set id server.closeSocket)[other]? = some found →
            Live found → loop.current = some other :=
          forall_set (fun other found there _ => refines.live other found there)
            (refines.live id server here)
        exact all other found there live
    · exact refines.live other found there live

/-- **Each step of the loop thread is followed by the serve loop of the gate.** -/
theorem pass_follows {event : Event} (inv : Inv loop) (refines : Refines loop station)
    (agrees : event.Agrees wish) (done : loop.pass event = some next) :
    Follows wish writes station next := by
  have stands := refines.pass
  cases pass_takes done with
  | begin place =>
      rw [place] at stands
      have begins : station.step wish writes .go = some { station with
          gate := station.gate.beginPass.1, pass := .begun station.gate.beginPass.2 } := by
        unfold Station.step
        rw [show station.pass = .idle from stands]
      refine ⟨[.go], _, run_cons_eq_some.mpr ⟨_, begins, rfl⟩, ?_⟩
      refine ⟨by rw [refines.gate], refines.port, ?_, refines.running, refines.live, nofun⟩
      rw [refines.gate]
      rfl
  | leave place stopped =>
      rw [refines.running] at stopped
      cases stopped
  | lock place running =>
      rw [place] at stands
      exact ⟨[], station, rfl, refines.move rfl rfl stands nofun⟩
  | decide place closed =>
      cases agrees
      exact decide_follows inv refines place
  | @beginClose seen id reopen place =>
      obtain ⟨server, isCurrent, here, -⟩ := inv.serverAt (show _ = some id by rw [place]; rfl)
      rw [write_eq here]
      rw [place] at stands
      cases reopen with
      | false =>
          obtain ⟨readAt, pass⟩ := stands
          refine ⟨[.acts false], _, run_cons_eq_some.mpr ⟨_, acts_eq pass fun same => same, rfl⟩, ?_⟩
          refine refines.writeCurrent isCurrent here rfl ?_ ⟨_, rfl⟩ nofun
          exact (Bool.and_false _).symm
      | true =>
          refine ⟨[], station, rfl, refines.writeCurrent isCurrent here rfl ?_ stands nofun⟩
          exact stands.1.trans (Bool.and_false _).symm
  | @closeSocket seen id reopen place =>
      obtain ⟨server, isCurrent, here, -⟩ := inv.serverAt (show _ = some id by rw [place]; rfl)
      rw [write_eq here]
      rw [place] at stands
      have port := refines.port.trans (isOpen_eq isCurrent here)
      cases reopen with
      | false => exact ⟨[], station, rfl, refines.writeCurrent isCurrent here rfl port stands nofun⟩
      | true => exact ⟨[], station, rfl, refines.writeCurrent isCurrent here rfl port stands nofun⟩
  | endClose place =>
      obtain ⟨server, isCurrent, here, dead, port⟩ := inv.stopped_server refines place
      rw [place] at stands
      exact ⟨[], station, rfl, refines.dropServer isCurrent here dead rfl port stands nofun⟩
  | makeRoom place =>
      obtain ⟨server, isCurrent, here, dead, port⟩ := inv.stopped_server refines place
      rw [place] at stands
      exact ⟨[], station, rfl, refines.dropServer isCurrent here dead rfl port stands nofun⟩
  | @closeRaises seen id reopen place serves =>
      obtain ⟨-, -, -, -, port⟩ := inv.stopped_server refines place
      rw [place] at stands
      cases reopen with
      | false => exact ⟨[], station, rfl, refines.move rfl rfl stands nofun⟩
      | true =>
          obtain ⟨-, readAt, pass⟩ := stands
          refine ⟨[.acts false], _, run_cons_eq_some.mpr ⟨_, acts_eq pass fun _ => port.symm, rfl⟩, ?_⟩
          exact refines.move rfl port.symm ⟨_, rfl⟩ nofun
  | bind place => exact bind_follows inv refines place
  | bindRaises place =>
      rw [place] at stands
      obtain ⟨shut, readAt, pass⟩ := stands
      refine ⟨[.acts false], _, run_cons_eq_some.mpr ⟨_, acts_eq pass fun _ => shut.symm, rfl⟩, ?_⟩
      exact refines.move rfl shut.symm ⟨_, rfl⟩ nofun
  | @serve seen id place =>
      obtain ⟨server, isCurrent, here, known⟩ := inv.serverAt (show _ = some id by rw [place]; rfl)
      rw [place] at known stands
      have unflagged : server.closedByScenario = false := known
      obtain ⟨shut, readAt, pass⟩ := stands
      rw [write_eq here]
      refine ⟨[.acts true], _, run_cons_eq_some.mpr ⟨_, acts_eq pass fun same => same, rfl⟩, ?_⟩
      refine refines.writeCurrent isCurrent here rfl ?_ ⟨_, rfl⟩ nofun
      show true = (true && !server.closedByScenario)
      rw [unflagged]
      rfl
  | @serveRaises seen id place =>
      obtain ⟨server, isCurrent, here, -⟩ := inv.serverAt (show _ = some id by rw [place]; rfl)
      have idle := refines.unserved seen id place server here
      rw [place] at stands
      obtain ⟨shut, readAt, pass⟩ := stands
      refine ⟨[.acts false], _, run_cons_eq_some.mpr ⟨_, acts_eq pass fun _ => shut.symm, rfl⟩, ?_⟩
      refine refines.dropServer isCurrent here (fun live => ?_) rfl rfl ⟨_, rfl⟩ nofun
      have served := live.1
      rw [idle] at served
      cases served
  | discard place => exact discard_follows inv refines place
  | readOpen place =>
      rw [place] at stands
      exact ⟨[], station, rfl, refines.move rfl rfl ⟨refines.port.symm, stands⟩ nofun⟩
  | @report seen isOpen place =>
      rw [place] at stands
      obtain ⟨report, readAt, pass⟩ := stands
      have ends : station.step wish writes .go = some { station with
          gate := station.gate.endPass seen station.portOpen, pass := .idle, reportAt := readAt } := by
        unfold Station.step
        rw [pass]
      refine ⟨[.go], _, run_cons_eq_some.mpr ⟨_, ends, rfl⟩, ?_⟩
      refine ⟨by rw [refines.gate, report], refines.port, rfl, refines.running, refines.live, nofun⟩

end

end ProviderSimulator.Ports.HttpPortLoop
