/-
**The loop of a gRPC port.**

`_serve` in `_run_grpc_in_thread` keeps one gRPC port in the state that its scenario asks for. It has the form of the
loop of an `http` port, without its lock and without a half-closed server: a server that is stopped is given up, and a
server is taken over only once it has started. A pass can fail at four places, and reports all the same:

* `wants_closed` raises: the pass moves nothing;
* `server.stop` raises: the loop keeps the server;
* `_new_server` raises: there is no candidate;
* `candidate.start` raises: the loop drops the candidate.

`PassStep` says once what a step of the loop can be (`pass_takes`). The invariant is that the server of the loop is the
one server that has started and is not stopped (`Inv`), so a report is true (`grpc_port_loop_honest`).
-/

import Mathlib.Tactic.Common
import ProviderSimulator.Lib.Machine
import ProviderSimulator.Ports.PortGate

namespace ProviderSimulator.Ports.GrpcPortLoop

open ProviderSimulator.Lib

/-! ### The loop -/

/-- A server of the port, from `add_insecure_port` on. -/
inductive Server
  | bound
  | started
  | stopped
  /-- Its `start` raised, and nothing holds it. -/
  | dropped
  deriving DecidableEq

/-- Where the loop is. -/
inductive Place
  /-- Before `begin_pass`. -/
  | ready
  /-- After `begin_pass`, before `wants_closed`. -/
  | begun (seen : ℕ)
  /-- Before the end of `server.stop`. -/
  | stopping (seen id : ℕ)
  /-- Before `_new_server`. -/
  | binding (seen : ℕ)
  /-- Before the end of `candidate.start`. -/
  | starting (seen id : ℕ)
  /-- After the `try`: before `end_pass`. -/
  | reporting (seen : ℕ)
  deriving DecidableEq

/-- The loop, every server that it ever bound, its gate, and what each pass reported. -/
structure Loop where
  servers : List Server
  /-- `server`. -/
  current : Option ℕ
  place : Place
  gate : PortGate
  reports : List Bool
  deriving DecidableEq

/-- The loop before its first pass. No server is bound yet. -/
def Loop.start : Loop := ⟨[], none, .ready, {}, []⟩

/-- What a step is told. -/
inductive Event
  | go
  /-- The answer of `wants_closed`. -/
  | wish (closed : Bool)
  /-- The call of this step raises. -/
  | raises

/-- `is_open` of a pass. -/
def Loop.isOpen (loop : Loop) : Bool := loop.current.isSome

/-- The branch of a pass after `wants_closed`. -/
def Loop.decide (loop : Loop) (seen : ℕ) (closed : Bool) : Place :=
  match closed, loop.current with
  | true, some id => .stopping seen id
  | true, none => .reporting seen
  | false, none => .binding seen
  | false, some _ => .reporting seen

/-- One step of the loop. -/
def Loop.pass (loop : Loop) (event : Event) : Option Loop :=
  match loop.place, event with
  | .ready, .go =>
      some { loop with gate := loop.gate.beginPass.1, place := .begun loop.gate.beginPass.2 }
  | .begun seen, .wish closed => some { loop with place := loop.decide seen closed }
  | .begun seen, .raises => some { loop with place := .reporting seen }
  | .stopping seen id, .go =>
      some { loop with servers := loop.servers.set id .stopped, current := none, place := .reporting seen }
  | .stopping seen _, .raises => some { loop with place := .reporting seen }
  | .binding seen, .go =>
      some { loop with servers := loop.servers ++ [.bound], place := .starting seen loop.servers.length }
  | .binding seen, .raises => some { loop with place := .reporting seen }
  | .starting seen id, .go =>
      some { loop with servers := loop.servers.set id .started, current := some id, place := .reporting seen }
  | .starting seen id, .raises =>
      some { loop with servers := loop.servers.set id .dropped, place := .reporting seen }
  | .reporting seen, .go =>
      some { loop with
        gate := loop.gate.endPass seen loop.isOpen
        reports := loop.reports ++ [loop.isOpen]
        place := .ready }
  | _, _ => none

/-- **What a step of the loop can be.** -/
inductive PassStep (loop : Loop) : Event → Loop → Prop
  | begin (place : loop.place = .ready) :
      PassStep loop .go { loop with gate := loop.gate.beginPass.1, place := .begun loop.gate.beginPass.2 }
  | decide {seen : ℕ} (place : loop.place = .begun seen) (closed : Bool) :
      PassStep loop (.wish closed) { loop with place := loop.decide seen closed }
  /-- `wants_closed`, `server.stop` or `_new_server` raises. -/
  | fails {seen : ℕ} (place : loop.place = .begun seen ∨ (∃ id, loop.place = .stopping seen id) ∨
      loop.place = .binding seen) : PassStep loop .raises { loop with place := .reporting seen }
  | stop {seen id : ℕ} (place : loop.place = .stopping seen id) :
      PassStep loop .go
        { loop with servers := loop.servers.set id .stopped, current := none, place := .reporting seen }
  | bind {seen : ℕ} (place : loop.place = .binding seen) :
      PassStep loop .go
        { loop with servers := loop.servers ++ [.bound], place := .starting seen loop.servers.length }
  | start {seen id : ℕ} (place : loop.place = .starting seen id) :
      PassStep loop .go
        { loop with servers := loop.servers.set id .started, current := some id, place := .reporting seen }
  | startRaises {seen id : ℕ} (place : loop.place = .starting seen id) :
      PassStep loop .raises { loop with servers := loop.servers.set id .dropped, place := .reporting seen }
  | report {seen : ℕ} (place : loop.place = .reporting seen) :
      PassStep loop .go
        { loop with
          gate := loop.gate.endPass seen loop.isOpen
          reports := loop.reports ++ [loop.isOpen]
          place := .ready }

/-- Each step of the loop is one of these. -/
theorem pass_takes {loop next : Loop} {event : Event} (done : loop.pass event = some next) :
    PassStep loop event next := by
  unfold Loop.pass at done
  -- One goal for each branch, in the order of the definition.
  split at done
  · next place =>
      cases done
      exact .begin place
  · next place =>
      cases done
      exact .decide place _
  · next place =>
      cases done
      exact .fails (.inl place)
  · next place =>
      cases done
      exact .stop place
  · next id place =>
      cases done
      exact .fails (.inr (.inl ⟨id, place⟩))
  · next place =>
      cases done
      exact .bind place
  · next place =>
      cases done
      exact .fails (.inr (.inr place))
  · next place =>
      cases done
      exact .start place
  · next place =>
      cases done
      exact .startRaises place
  · next place =>
      cases done
      exact .report place
  · cases done

/-! ### The server of the loop -/

/-- The server that a pass is about to stop, or to start. -/
def Loop.PlaceOk (loop : Loop) : Prop :=
  match loop.place with
  | .stopping _ id => loop.current = some id
  | .binding _ => loop.current = none
  | .starting _ id => loop.current = none ∧ loop.servers[id]? = some .bound
  | _ => True

/-- **The server of the loop is the one that has started and is not stopped**, and a server that is bound and has not
started is the candidate of the running pass. -/
structure Inv (loop : Loop) : Prop where
  current : ∀ id, loop.servers[id]? = some .started ↔ loop.current = some id
  candidate : ∀ id, loop.servers[id]? = some .bound → ∃ seen, loop.place = .starting seen id
  place : loop.PlaceOk

theorem start_inv : Inv Loop.start where
  current _ := by simp [Loop.start]
  candidate _ here := by simp [Loop.start] at here
  place := trivial

section

variable {loop next : Loop} {event : Event} {id seen : ℕ}

/-- A pass goes on, and no server changes. -/
theorem Inv.move {place : Place} {gate : PortGate} {reports : List Bool} (inv : Inv loop)
    (elsewhere : ∀ seen id, loop.place ≠ .starting seen id)
    (ok : Loop.PlaceOk { loop with place := place, gate := gate, reports := reports }) :
    Inv { loop with place := place, gate := gate, reports := reports } where
  current := inv.current
  candidate id here := by
    obtain ⟨seen, place⟩ := inv.candidate id here
    exact absurd place (elsewhere seen id)
  place := ok

/-- The branch of a pass has the server that it needs. -/
theorem decide_placeOk (closed : Bool) : Loop.PlaceOk { loop with place := loop.decide seen closed } := by
  unfold Loop.PlaceOk Loop.decide
  dsimp only
  cases closed with
  | true =>
      cases same : loop.current with
      | none => trivial
      | some id => rfl
  | false =>
      cases same : loop.current with
      | none => rfl
      | some id => trivial

/-- One server changes, and the pass is over with it. -/
theorem Inv.write {server : Server} {current : Option ℕ} (inv : Inv loop) (inside : id < loop.servers.length)
    (now : ∀ other, other ≠ id → (loop.current = some other ↔ current = some other))
    (own : server = .started ↔ current = some id) (known : server ≠ .bound)
    (only : ∀ other seen, loop.place = .starting seen other → other = id) :
    Inv { loop with servers := loop.servers.set id server, current := current, place := .reporting seen } where
  current other := by
    by_cases same : other = id
    · subst same
      simpa [inside] using own
    · rw [List.getElem?_set_ne (Ne.symm same), inv.current other]
      exact now other same
  candidate other here := by
    by_cases same : other = id
    · subst same
      rw [List.getElem?_set_self inside] at here
      exact absurd (Option.some.inj here) known
    · rw [List.getElem?_set_ne (Ne.symm same)] at here
      obtain ⟨seen, place⟩ := inv.candidate other here
      exact absurd (only other seen place) same
  place := trivial

/-- **Each step keeps the invariant.** -/
theorem pass_inv (inv : Inv loop) (done : loop.pass event = some next) : Inv next := by
  have ok := inv.place
  cases pass_takes done with
  | begin place => exact inv.move (by simp [place]) trivial
  | decide place closed => exact inv.move (by simp [place]) (decide_placeOk closed)
  | fails place =>
      refine inv.move (fun seen id same => ?_) trivial
      rcases place with place | ⟨_, place⟩ | place <;> simp [place] at same
  | @stop seen id place =>
      unfold Loop.PlaceOk at ok
      rw [place] at ok
      have here := (inv.current id).mpr ok
      refine inv.write (List.getElem?_eq_some_iff.mp here).1 (fun other apart => ?_) (by simp) (by simp)
        (by simp [place])
      rw [ok]
      simpa using Ne.symm apart
  | @bind seen place =>
      unfold Loop.PlaceOk at ok
      rw [place] at ok
      refine ⟨fun other => ?_, fun other here => ?_, ok, List.getElem?_concat_length⟩
      · rw [← inv.current other, List.getElem?_append]
        split
        · exact Iff.rfl
        · next outside =>
            rw [List.getElem?_eq_none (Nat.le_of_not_lt outside)]
            have single : ∀ place : ℕ, ([Server.bound])[place]? ≠ some .started := by
              intro place
              cases place <;> simp
            exact iff_of_false (single _) (by simp)
      · rw [List.getElem?_append] at here
        split at here
        · obtain ⟨other, begun⟩ := inv.candidate other here
          rw [place] at begun
          cases begun
        · next outside =>
            have last : other - loop.servers.length = 0 := by
              have inside := (List.getElem?_eq_some_iff.mp here).1
              simpa using inside
            have same : other = loop.servers.length := by omega
            exact ⟨seen, by rw [same]⟩
  | @start seen id place =>
      unfold Loop.PlaceOk at ok
      rw [place] at ok
      refine inv.write (List.getElem?_eq_some_iff.mp ok.2).1 (fun other apart => ?_) (by simp) (by simp) ?_
      · rw [ok.1]
        simpa using Ne.symm apart
      · intro other seen starting
        rw [place] at starting
        cases starting
        rfl
  | @startRaises seen id place =>
      unfold Loop.PlaceOk at ok
      rw [place] at ok
      refine inv.write (List.getElem?_eq_some_iff.mp ok.2).1 (fun _ _ => Iff.rfl) ?_ (by simp) ?_
      · rw [ok.1]
        simp
      · intro other seen starting
        rw [place] at starting
        cases starting
        rfl
  | report place => exact inv.move (by simp [place]) trivial

/-- A server of the loop serves: it has started, and it is not stopped. -/
def Loop.Serves (loop : Loop) : Prop := Server.started ∈ loop.servers

theorem serves_iff (inv : Inv loop) : loop.Serves ↔ loop.isOpen = true := by
  unfold Loop.Serves Loop.isOpen
  rw [List.mem_iff_getElem?, Option.isSome_iff_exists]
  exact exists_congr inv.current

end

/-- **The loop of a gRPC port is honest.** In every run of its passes, with any wishes and each of the four failures:

1. when a pass ends, the `is_open` that it reports is true exactly when a server of the loop has started and is not
   stopped, and when it is false each server of the loop is stopped, or its own `start` had raised;
2. at most one server serves, and it is the one that the loop holds;
3. a server that is bound and does not serve is the candidate of the pass that runs. -/
theorem grpc_port_loop_honest (events : List Event) (loop : Loop) (done : run Loop.pass Loop.start events = some loop) :
    (∀ next isOpen, loop.pass .go = some next → next.reports = loop.reports ++ [isOpen] →
      (isOpen = true ↔ next.Serves) ∧
        (isOpen = false → ∀ server ∈ next.servers, server = .stopped ∨ server = .dropped)) ∧
    (∀ first second, loop.servers[first]? = some .started → loop.servers[second]? = some .started →
      first = second ∧ loop.current = some first) ∧
    ∀ id, loop.servers[id]? = some .bound → ∃ seen, loop.place = .starting seen id := by
  have inv : Inv loop := run_invariant Inv (fun _ _ _ first holds => pass_inv holds first) done start_inv
  refine ⟨fun next isOpen step reports => ?_, fun first second one two => ?_, inv.candidate⟩
  · have after := pass_inv inv step
    cases pass_takes step with
    | report place =>
        cases List.append_cancel_left reports
        refine ⟨(serves_iff after).symm, fun closed server member => ?_⟩
        obtain ⟨id, here⟩ := List.mem_iff_getElem?.mp member
        cases server with
        | bound =>
            obtain ⟨seen, starting⟩ := after.candidate id here
            cases starting
        | started =>
            have held := (inv.current id).mp here
            unfold Loop.isOpen at closed
            rw [held] at closed
            cases closed
        | stopped => exact .inl rfl
        | dropped => exact .inr rfl
    | _ => exact absurd (show loop.reports = loop.reports ++ [isOpen] from reports) (by simp)
  · have held := (inv.current first).mp one
    exact ⟨Option.some.inj (held.symm.trans ((inv.current second).mp two)), held⟩

/-- The first pass binds a server that does not start, the second one starts another, and the third one stops it. -/
theorem grpc_port_loop_honest_reopens :
    let pass (closed : Bool) (middle : List Event) : List Event := [.go, .wish closed] ++ middle
    let events := pass false [.go, .raises, .go] ++ pass false [.go, .go, .go] ++ pass true [.raises, .go] ++
      pass true [.go]
    ∃ loop next, run Loop.pass Loop.start events = some loop ∧ loop.pass .go = some next ∧
      next.reports = [false, true, true, false] ∧ ¬ next.Serves := by
  intro pass events
  refine ⟨_, _, rfl, rfl, rfl, fun serves => ?_⟩
  exact absurd (((grpc_port_loop_honest events _ rfl).1 _ false rfl rfl).1.mpr serves) Bool.false_ne_true

end ProviderSimulator.Ports.GrpcPortLoop
