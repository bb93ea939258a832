/-
**The settle protocol on the real loops.**

A system of any number of provider ports, each with its own serve loop: that of an `http` or `ws` port, or that of a
gRPC port. The control writers see a loop by its gate only, so a step of a writer is a step of the protocol on what the
gates show (`Ports.view`).

* `GrpcPortLoop.Refines` and `pass_follows` — each step of a gRPC loop is none, one or two steps of the serve loop of
  its gate;
* `Ported.Stands` and `step_followed` — **the system stands for one of the protocol**, each loop for its station;
* `settled_loops_stand` — **what an empty answer means on the real loops**: each port of the wish list serves if and
  only if its block wishes it, and that stays so until the block is written again.
-/

import Mathlib.Tactic.Common
import ProviderSimulator.Lib.Simulation
import ProviderSimulator.Ports.GrpcPortLoop
import ProviderSimulator.Ports.LoopRefines

set_option linter.unusedSectionVars false

namespace ProviderSimulator.Ports

open ProviderSimulator.Lib

/-! ### A gRPC loop and the serve loop of its gate -/

namespace GrpcPortLoop

/-- Where the serve loop of the gate is when the loop is at a place. -/
def Place.Stands : Place → Pass → Prop
  | .ready, pass => pass = .idle
  | .begun seen, pass => pass = .begun seen
  | .stopping seen _, pass => ∃ readAt, pass = .read seen false readAt
  | .binding seen, pass => ∃ readAt, pass = .read seen true readAt
  | .starting seen _, pass => ∃ readAt, pass = .read seen true readAt
  | .reporting seen, pass => ∃ readAt, pass = .acted seen readAt

/-- The loop stands for the station. -/
structure Refines (loop : Loop) (station : Station) : Prop where
  gate : station.gate = loop.gate
  port : station.portOpen = loop.isOpen
  pass : loop.place.Stands station.pass

/-- What the loop is told of the scenario is what is stored. -/
def Event.Agrees (wish : Bool) : Event → Prop
  | .wish closed => wish = !closed
  | _ => True

section

variable {loop next : Loop} {station : Station} {event : Event} {wish : Bool} {writes seen : ℕ}

/-- The branch of a pass after it read its wish. -/
theorem decide_follows {closed : Bool} (refines : Refines loop station) (place : loop.place = .begun seen) :
    ∃ events after, run (Station.step (!closed) writes) station events = some after ∧
      Refines { loop with place := loop.decide seen closed } after := by
  have begun := refines.pass
  rw [place] at begun
  have reads : station.step (!closed) writes .go = _ := HttpPortLoop.reads_eq begun
  -- The pass has more to do.
  have works : ∀ target : Place, target.Stands (.read seen (!closed) writes) → loop.decide seen closed = target →
      ∃ events after, run (Station.step (!closed) writes) station events = some after ∧
        Refines { loop with place := loop.decide seen closed } after := by
    intro target stands decided
    rw [decided]
    exact ⟨[.go], _, run_cons_eq_some.mpr ⟨_, reads, rfl⟩, refines.gate, refines.port, stands⟩
  -- The port is in the wished state already.
  have rests : loop.decide seen closed = .reporting seen →
      ∃ events after, run (Station.step (!closed) writes) station events = some after ∧
        Refines { loop with place := loop.decide seen closed } after := by
    intro decided
    rw [decided]
    refine ⟨[.go, .acts station.portOpen], _, run_cons_eq_some.mpr ⟨_, reads,
      run_cons_eq_some.mpr ⟨_, HttpPortLoop.acts_eq rfl fun _ => rfl, rfl⟩⟩, refines.gate, refines.port, ⟨_, rfl⟩⟩
  rcases Option.eq_none_or_eq_some loop.current with same | ⟨id, same⟩
  · cases closed with
    | true => exact rests (by unfold Loop.decide; rw [same])
    | false => exact works (.binding seen) ⟨_, rfl⟩ (by unfold Loop.decide; rw [same])
  · cases closed with
    | true => exact works (.stopping seen id) ⟨_, rfl⟩ (by unfold Loop.decide; rw [same])
    | false => exact rests (by unfold Loop.decide; rw [same])

/-- A pass fails before it moved the port. -/
theorem fails_follows (refines : Refines loop station)
    (place : loop.place = .begun seen ∨ (∃ id, loop.place = .stopping seen id) ∨ loop.place = .binding seen) :
    ∃ events after, run (Station.step wish writes) station events = some after ∧
      Refines { loop with place := .reporting seen } after := by
  have stands := refines.pass
  have read : ∀ {wantOpen readAt}, station.pass = .read seen wantOpen readAt →
      ∃ events after, run (Station.step wish writes) station events = some after ∧
        Refines { loop with place := .reporting seen } after := by
    intro wantOpen readAt pass
    exact ⟨[.acts station.portOpen], _, run_cons_eq_some.mpr ⟨_, HttpPortLoop.acts_eq pass fun _ => rfl, rfl⟩,
      refines.gate, refines.port, ⟨_, rfl⟩⟩
  rcases place with place | ⟨id, place⟩ | place
  · rw [place] at stands
    refine ⟨[.go, .acts station.portOpen], _, run_cons_eq_some.mpr ⟨_, HttpPortLoop.reads_eq stands,
      run_cons_eq_some.mpr ⟨_, HttpPortLoop.acts_eq rfl fun _ => rfl, rfl⟩⟩, refines.gate, refines.port, ⟨_, rfl⟩⟩
  · rw [place] at stands
    obtain ⟨readAt, pass⟩ := stands
    exact read pass
  · rw [place] at stands
    obtain ⟨readAt, pass⟩ := stands
    exact read pass

/-- **Each step of the loop is followed by the serve loop of the gate.** -/
theorem pass_follows (writes : ℕ) (inv : Inv loop) (refines : Refines loop station) (agrees : event.Agrees wish)
    (done : loop.pass event = some next) :
    ∃ events after, run (Station.step wish writes) station events = some after ∧ Refines next after := by
  have stands := refines.pass
  have ok := inv.place
  cases pass_takes done with
  | begin place =>
      rw [place] at stands
      have begins : station.step wish writes .go = some { station with
          gate := station.gate.beginPass.1, pass := .begun station.gate.beginPass.2 } := by
        unfold Station.step
        rw [show station.pass = .idle from stands]
      refine ⟨[.go], _, run_cons_eq_some.mpr ⟨_, begins, rfl⟩, by rw [refines.gate], refines.port, ?_⟩
      rw [refines.gate]
      rfl
  | decide place closed =>
      cases agrees
      exact decide_follows refines place
  | fails place => exact fails_follows refines place
  | stop place =>
      rw [place] at stands
      obtain ⟨readAt, pass⟩ := stands
      exact ⟨[.acts false], _, run_cons_eq_some.mpr ⟨_, HttpPortLoop.acts_eq pass fun same => same, rfl⟩,
        refines.gate, rfl, ⟨_, rfl⟩⟩
  | bind place =>
      rw [place] at stands
      exact ⟨[], station, rfl, refines.gate, refines.port, stands⟩
  | start place =>
      rw [place] at stands
      obtain ⟨readAt, pass⟩ := stands
      exact ⟨[.acts true], _, run_cons_eq_some.mpr ⟨_, HttpPortLoop.acts_eq pass fun same => same, rfl⟩,
        refines.gate, rfl, ⟨_, rfl⟩⟩
  | startRaises place =>
      rw [place] at stands
      obtain ⟨readAt, pass⟩ := stands
      exact ⟨[.acts station.portOpen], _,
        run_cons_eq_some.mpr ⟨_, HttpPortLoop.acts_eq pass fun _ => rfl, rfl⟩, refines.gate, refines.port, ⟨_, rfl⟩⟩
  | @report seen place =>
      rw [place] at stands
      obtain ⟨readAt, pass⟩ := stands
      have ends : station.step wish writes .go = some { station with
          gate := station.gate.endPass seen station.portOpen, pass := .idle, reportAt := readAt } := by
        unfold Station.step
        rw [pass]
      refine ⟨[.go], _, run_cons_eq_some.mpr ⟨_, ends, rfl⟩, ?_, refines.port, rfl⟩
      rw [refines.gate, refines.port]

end

end GrpcPortLoop

/-! ### The loop of a port -/

/-- The serve loop of a port, by its kind. -/
inductive PortLoop
  | http (loop : HttpPortLoop.Loop)
  | grpc (loop : GrpcPortLoop.Loop)

namespace PortLoop

/-- The gate that the loop shares with the control API. -/
def gate : PortLoop → PortGate
  | .http loop => loop.gate
  | .grpc loop => loop.gate

/-- The loop, with its gate as the control API left it. -/
def withGate (gate : PortGate) : PortLoop → PortLoop
  | .http loop => .http { loop with gate := gate }
  | .grpc loop => .grpc { loop with gate := gate }

/-- The `is_open` that a pass would report. -/
def isOpen : PortLoop → Bool
  | .http loop => loop.isOpen
  | .grpc loop => loop.isOpen

/-- **The port serves**: a server of the loop has started, and nothing has begun to close it. -/
def Serves : PortLoop → Prop
  | .http loop => ∃ server ∈ loop.servers, HttpPortLoop.Live server
  | .grpc loop => loop.Serves

/-- What an `http` loop is told: at its read of the wish, what is stored. -/
def httpEvent (loop : HttpPortLoop.Loop) (closes raises : Bool) : HttpPortLoop.Event :=
  match loop.place with
  | .deciding _ => .wish closes
  | _ => if raises then .raises else .go

/-- What a gRPC loop is told. -/
def grpcEvent (loop : GrpcPortLoop.Loop) (closes raises : Bool) : GrpcPortLoop.Event :=
  match loop.place, raises with
  | .begun _, false => .wish closes
  | _, false => .go
  | _, true => .raises

/-- One step of the loop. `closes` says whether the stored block closes the port. -/
def pass (closes raises : Bool) : PortLoop → Option PortLoop
  | .http loop => (loop.pass (httpEvent loop closes raises)).map .http
  | .grpc loop => (loop.pass (grpcEvent loop closes raises)).map .grpc

/-- The loop before its first pass: an `http` port is bound already, a gRPC port is not. -/
def start (grpc : Bool) : PortLoop := if grpc then .grpc GrpcPortLoop.Loop.start else .http HttpPortLoop.Loop.start

/-- The loop stands for the station, and keeps its own invariant. -/
def Stands : PortLoop → Station → Prop
  | .http loop, station => HttpPortLoop.Inv loop ∧ HttpPortLoop.Refines loop station
  | .grpc loop, station => GrpcPortLoop.Inv loop ∧ GrpcPortLoop.Refines loop station

theorem start_stands (grpc : Bool) : (start grpc).Stands ⟨{}, .idle, false, 0⟩ := by
  cases grpc with
  | false => exact ⟨HttpPortLoop.start_inv, HttpPortLoop.start_refines⟩
  | true => exact ⟨GrpcPortLoop.start_inv, rfl, rfl, rfl⟩

section

variable {loop next : PortLoop} {station : Station} {closes raises : Bool} {writes : ℕ}

theorem withGate_self (loop : PortLoop) : loop.withGate loop.gate = loop := by
  cases loop <;> rfl

theorem Stands.gate (stands : loop.Stands station) : station.gate = loop.gate := by
  cases loop with
  | http loop => exact stands.2.gate
  | grpc loop => exact stands.2.gate

/-- **The state of the port is whether it serves.** -/
theorem Stands.serves (stands : loop.Stands station) : loop.Serves ↔ station.portOpen = true := by
  cases loop with
  | grpc loop =>
      rw [stands.2.port]
      exact GrpcPortLoop.serves_iff stands.1
  | http loop =>
      obtain ⟨inv, refines⟩ := stands
      constructor
      · rintro ⟨server, member, live⟩
        obtain ⟨id, here⟩ := List.mem_iff_getElem?.mp member
        by_contra shut
        exact refines.dark (Bool.eq_false_iff.mpr shut) here live
      · intro opened
        rw [refines.port] at opened
        rcases Option.eq_none_or_eq_some loop.current with same | ⟨id, same⟩
        · rw [HttpPortLoop.isOpen_of_none same] at opened
          exact absurd opened Bool.false_ne_true
        · obtain ⟨server, here⟩ := inv.valid id same
          rw [HttpPortLoop.isOpen_eq same here, Bool.and_eq_true, Bool.not_eq_true'] at opened
          exact ⟨server, List.mem_of_getElem? here, opened.1, opened.2⟩

theorem httpEvent_agrees (loop : HttpPortLoop.Loop) : (httpEvent loop closes raises).Agrees (!closes) := by
  unfold httpEvent
  split
  · rfl
  · cases raises <;> trivial

theorem grpcEvent_agrees (loop : GrpcPortLoop.Loop) : (grpcEvent loop closes raises).Agrees (!closes) := by
  unfold grpcEvent
  split <;> trivial

/-- **A step of the loop is followed by its station.** -/
theorem Stands.pass_follows (writes : ℕ) (stands : loop.Stands station) (done : loop.pass closes raises = some next) :
    ∃ events after, run (Station.step (!closes) writes) station events = some after ∧ next.Stands after := by
  cases loop with
  | http loop =>
      obtain ⟨after, moved, rfl⟩ := Option.map_eq_some_iff.mp done
      have follows : HttpPortLoop.Follows (!closes) writes station after :=
        HttpPortLoop.pass_follows stands.1 stands.2 (httpEvent_agrees loop) moved
      obtain ⟨events, later, ran, refines⟩ := follows
      exact ⟨events, later, ran, HttpPortLoop.pass_inv stands.1 moved, refines⟩
  | grpc loop =>
      obtain ⟨after, moved, rfl⟩ := Option.map_eq_some_iff.mp done
      obtain ⟨events, later, ran, refines⟩ := GrpcPortLoop.pass_follows writes stands.1 stands.2
        (grpcEvent_agrees loop) moved
      exact ⟨events, later, ran, GrpcPortLoop.pass_inv stands.1 moved, refines⟩

/-- The gate of the loop is no concern of its invariant. -/
theorem Stands.withGate (stands : loop.Stands station) (gate : PortGate) :
    (loop.withGate gate).Stands { station with gate := gate } := by
  cases loop with
  | http loop =>
      obtain ⟨inv, refines⟩ := stands
      exact ⟨⟨inv.owned, inv.half, inv.live, inv.valid, inv.subject, inv.known, inv.ending, inv.locked,
        inv.unstopped, inv.taken⟩, rfl, refines.port, refines.pass, refines.running, refines.live, refines.unserved⟩
  | grpc loop =>
      obtain ⟨inv, refines⟩ := stands
      exact ⟨⟨inv.current, inv.candidate, inv.place⟩, rfl, refines.port, refines.pass⟩

end

end PortLoop

/-! ### The system -/

variable {G P S : Type} [DecidableEq G] [DecidableEq P]

/-- The loops of the ports, the stored blocks with the counts of their writes, and the writer. -/
structure Ported (G P S : Type) where
  loops : G → PortLoop
  scenarios : P → S
  writes : P → ℕ
  writer : Writer G P S

/-- The simulator before the first pass of each loop. -/
def Ported.start (grpc : G → Bool) (scenarios : P → S) : Ported G P S :=
  ⟨fun gate => PortLoop.start (grpc gate), scenarios, fun _ => 0, .idle⟩

/-- What the control API sees: of a loop, its gate. -/
def Ported.view (ported : Ported G P S) : System G P S where
  stations gate := ⟨(ported.loops gate).gate, .idle, (ported.loops gate).isOpen, 0⟩
  scenarios := ported.scenarios
  writes := ported.writes
  writer := ported.writer

/-- What the control API did. -/
def Ported.absorb (ported : Ported G P S) (seen : System G P S) : Ported G P S where
  loops gate := (ported.loops gate).withGate (seen.stations gate).gate
  scenarios := seen.scenarios
  writes := seen.writes
  writer := seen.writer

/-- A step of a loop, whose call may raise, a writer that gets `port_lock`, or a step of the writer. -/
inductive PortedAction (layout : Layout G P S)
  | loop (gate : G) (raises : Bool)
  | take (plan : Plan layout)
  | writer (event : WriterEvent)

/-- One action. -/
def Ported.step {layout : Layout G P S} (ported : Ported G P S) : PortedAction layout → Option (Ported G P S)
  | .loop gate raises =>
      ((ported.loops gate).pass (layout.wantsClosed gate (ported.scenarios (layout.owner gate))) raises).map fun loop =>
        { ported with loops := Function.update ported.loops gate loop }
  | .take plan => (ported.view.step (.take plan)).map ported.absorb
  | .writer event => (ported.view.writerStep layout event).map ported.absorb

/-! ### The system of the protocol that it stands for -/

section

variable {layout : Layout G P S} {ported next : Ported G P S} {system : System G P S}

/-- The system stands for one of the protocol: each loop for its station. -/
structure Ported.Stands (ported : Ported G P S) (system : System G P S) : Prop where
  loops : ∀ gate, (ported.loops gate).Stands (system.stations gate)
  scenarios : system.scenarios = ported.scenarios
  writes : system.writes = ported.writes
  writer : system.writer = ported.writer

theorem start_stands (grpc : G → Bool) (scenarios : P → S) :
    (Ported.start grpc scenarios).Stands (System.start scenarios fun _ => false) :=
  ⟨fun gate => PortLoop.start_stands (grpc gate), rfl, rfl, rfl⟩

/-- The steps of one station are steps of the system. -/
theorem run_station {gate : G} {events : List LoopEvent} {station : Station}
    (ran : run (Station.step (system.wish layout gate) (system.writes (layout.owner gate))) (system.stations gate)
      events = some station) :
    run System.step system (events.map (Action.loop gate : LoopEvent → Action layout)) =
      some { system with stations := Function.update system.stations gate station } := by
  induction events generalizing system with
  | nil =>
      cases ran
      rw [Function.update_eq_self]
      rfl
  | cons event rest ih =>
      obtain ⟨middle, stepped, later⟩ := run_cons_eq_some.mp ran
      rw [List.map_cons]
      refine run_cons_eq_some.mpr ⟨{ system with stations := Function.update system.stations gate middle }, ?_, ?_⟩
      · exact Option.map_eq_some_iff.mpr ⟨middle, stepped, rfl⟩
      · have same : Function.update (Function.update system.stations gate middle) gate station =
            Function.update system.stations gate station := Function.update_idem ..
        have moved : Function.update system.stations gate middle gate = middle := Function.update_self ..
        rw [← same]
        refine ih ?_
        dsimp only
        rw [moved]
        exact later

/-- A step of the writer reads the gates of the stations only, and leaves the rest of them as it was. -/
theorem writerStep_gates {event : WriterEvent} {stations : G → Station}
    (gates : ∀ gate, (stations gate).gate = (system.stations gate).gate) :
    System.writerStep layout { system with stations := stations } event =
      (system.writerStep layout event).map fun seen =>
        { seen with stations := fun gate => { stations gate with gate := (seen.stations gate).gate } } := by
  have kept : (fun gate => { stations gate with gate := (system.stations gate).gate }) = stations := by
    funext gate
    rw [← gates gate]
  have wished : ∀ gate, System.wish layout { system with stations := stations } gate = system.wish layout gate :=
    fun _ => rfl
  unfold System.writerStep
  dsimp only
  split
  · simp only [Option.map_some, kept]
  · simp only [Option.map_some, kept, wished]
  · simp only [Option.map_some, kept]
  · rw [gates]
    split <;> simp only [Option.map_some, kept]
  · simp only [Option.map_some, kept]
  · next wishes gate wantOpen rest tickets _ =>
      simp only [Option.map_some, gates]
      congr 2
      funext other
      by_cases same : other = gate
      · subst same
        simp only [Function.update_self]
      · simp only [Function.update_of_ne same, ← gates other]
  · rw [gates]
    split
    · simp only [Option.map_some, kept]
    · rfl
  · simp only [Option.map_some, kept]
  · simp only [Option.map_some, kept]
  · split <;> simp only [Option.map_some, kept]
  · rfl

/-- **Each step is a run of the protocol.** -/
theorem step_followed (layout : Layout G P S) :
    Followed (fun (ported : Ported G P S) (action : PortedAction layout) => ported.step action)
      (fun (system : System G P S) (action : Action layout) => system.step action) Ported.Stands := by
  intro ported action next system done stands
  obtain ⟨loops, scenarios, writes, writer⟩ := stands
  cases action with
  | loop gate raises =>
      obtain ⟨loop, moved, rfl⟩ := Option.map_eq_some_iff.mp done
      obtain ⟨events, after, ran, stood⟩ := (loops gate).pass_follows (system.writes (layout.owner gate)) moved
      have wished : system.wish layout gate =
          !layout.wantsClosed gate (ported.scenarios (layout.owner gate)) := by
        unfold System.wish
        rw [scenarios]
      rw [← wished] at ran
      refine ⟨_, _, run_station ran, fun other => ?_, scenarios, writes, writer⟩
      dsimp only
      by_cases same : other = gate
      · subst same
        rw [Function.update_self, Function.update_self]
        exact stood
      · rw [Function.update_of_ne same, Function.update_of_ne same]
        exact loops other
  | take plan =>
      obtain ⟨seen, taken, rfl⟩ := Option.map_eq_some_iff.mp done
      simp only [System.step, Ported.view] at taken
      have free : system.step (.take plan) = some { system with writer := .working plan.tasks [] } := by
        simp only [System.step, writer]
        split at taken <;> first | rfl | cases taken
      have left : seen = { ported.view with writer := .working plan.tasks [] } := by
        split at taken <;> cases taken <;> rfl
      refine ⟨[.take plan], _, run_cons_eq_some.mpr ⟨_, free, rfl⟩, fun gate => ?_, ?_, ?_, ?_⟩
      · rw [left]
        show ((ported.loops gate).withGate (ported.loops gate).gate).Stands (system.stations gate)
        rw [PortLoop.withGate_self]
        exact loops gate
      · rw [left]
        exact scenarios
      · rw [left]
        exact writes
      · rw [left]
        rfl
  | writer event =>
      obtain ⟨seen, taken, rfl⟩ := Option.map_eq_some_iff.mp done
      have here : system = { ported.view with stations := system.stations } := by
        obtain ⟨stations, blocks, counts, place⟩ := system
        cases scenarios
        cases writes
        cases writer
        rfl
      have gates : ∀ gate, (system.stations gate).gate = (ported.view.stations gate).gate :=
        fun gate => (loops gate).gate
      have stepped : system.writerStep layout event = some
          { seen with stations := fun gate => { system.stations gate with gate := (seen.stations gate).gate } } := by
        rw [here]
        refine (writerStep_gates gates).trans ?_
        rw [taken]
        rfl
      exact ⟨[.writer event], _, run_cons_eq_some.mpr ⟨_, stepped, rfl⟩, fun gate => (loops gate).withGate _, rfl, rfl,
        rfl⟩

/-! ### The answer -/

/-- An empty answer leaves each gate of the wish list stable. -/
theorem stable_of_answered {wishes stuck : List (G × Bool)} {gate : G} {wantOpen : Bool} (stands : ported.Stands system)
    (inv : Inv layout system) (answered : ported.writer = .answered wishes stuck)
    (empty : settleText layout.describe stuck = "") (member : (gate, wantOpen) ∈ wishes) :
    system.StableAt layout gate wantOpen := by
  have ok := inv.writer
  unfold WriterOk at ok
  rw [stands.writer, answered, settleText_eq_empty empty] at ok
  rcases ok.covered gate wantOpen member with none_left | ⟨_, none_left⟩ | stable | none_left
  · cases none_left
  · cases none_left
  · exact stable
  · cases none_left

/-- **The settle protocol on the real loops.** In every run of the loops of any number of `http`, `ws` and gRPC ports,
with each failure of their passes, and of the serialised writers: when `_settle_ports` has answered the empty text, each
port of its wish list serves if and only if its wish is open, and so it does after every later run that does not write
its provider's block. -/
theorem settled_loops_stand (layout : Layout G P S) (grpc : G → Bool) (scenarios : P → S)
    (actions : List (PortedAction layout)) (ported : Ported G P S)
    (done : run Ported.step (Ported.start grpc scenarios) actions = some ported) (wishes stuck : List (G × Bool))
    (answered : ported.writer = .answered wishes stuck) (empty : settleText layout.describe stuck = "") (gate : G)
    (wantOpen : Bool) (member : (gate, wantOpen) ∈ wishes) :
    ((ported.loops gate).Serves ↔ wantOpen = true) ∧
      ∀ (later : List (PortedAction layout)) final, run Ported.step ported later = some final →
        final.writes (layout.owner gate) = ported.writes (layout.owner gate) →
        ((final.loops gate).Serves ↔ wantOpen = true) := by
  obtain ⟨followers, system, ran, stands⟩ := (step_followed layout).run done (start_stands grpc scenarios)
  have inv : Inv layout system :=
    run_invariant (Inv layout) (fun _ _ _ first holds => step_inv holds first) ran (start_inv scenarios _)
  have stable := stable_of_answered stands inv answered empty member
  refine ⟨?_, fun later final went unwritten => ?_⟩
  · rw [(stands.loops gate).serves, stable.port]
  · obtain ⟨more, after, went, stood⟩ := (step_followed layout).run went stands
    have kept := run_stable stable went (by rw [stood.writes, stands.writes, unwritten])
    rw [(stood.loops gate).serves, kept.port]

/-- A gRPC port is opened by its first pass, and then closed by a write. -/
theorem settled_loops_stand_closes :
    let layout : Layout Unit Unit Bool := ⟨fun _ => (), fun _ closes => closes, fun _ => "port"⟩
    let plan : Plan layout := ⟨[.write () true, .wish ()], by simp [Orderly]⟩
    let pass (steps : ℕ) : List (PortedAction layout) := List.replicate steps (.loop () false)
    let actions : List (PortedAction layout) :=
      pass 5 ++ [.take plan] ++ List.replicate 6 (.writer .go) ++ pass 4 ++
        [.writer .go, .writer (.probe false), .writer .go]
    ∃ ported, run Ported.step (Ported.start (fun _ => true) fun _ => false) actions = some ported ∧
      ported.writer = .answered [((), false)] [] ∧ ¬ (ported.loops ()).Serves := by
  intro layout plan pass actions
  refine ⟨_, rfl, rfl, fun serves => ?_⟩
  have settled := settled_loops_stand layout (fun _ => true) (fun _ => false) actions _ rfl _ _ rfl rfl () false
    (List.mem_singleton.mpr rfl)
  exact absurd (settled.1.mp serves) Bool.false_ne_true

end

end ProviderSimulator.Ports
