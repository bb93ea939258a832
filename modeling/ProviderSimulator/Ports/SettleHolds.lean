/-
**What an empty answer of `_settle_ports` means.**

`settle_ports_reached`: when `_settle_ports` answers the empty text, each port of its wish list is in
the wished state, and it stays there in every later run without another write of its provider's
block; and the report that satisfies a wait is that of a pass that read its wish after the last write.

The argument has three predicates on one gate with its loop and its port:

* `PassOk` — the counters are ordered, and a report of a loop that is idle is true of the port;
* `Stable` — the port is as wished, and nothing that was read can move it;
* `Ticket` — what a ticket stands for: each pass that saw it read the present wish, so once a pass
  that saw it has finished and the report is the wished state, the gate is `Stable`.

The shortcut needs no ticket: a trusted report means that no pass runs, so the gate is `Stable` as it
stands (`stable_of_lastReport`).
-/

import Mathlib.Tactic.Common
import ProviderSimulator.Lib.Threads
import ProviderSimulator.Ports.Settle

set_option linter.unusedSectionVars false

namespace ProviderSimulator.Ports

open ProviderSimulator.Lib

/-! ### One gate -/

/-- The ask counter that the running pass saw. -/
def Pass.seen : Pass → Option ℕ
  | .idle => none
  | .begun seen => some seen
  | .read seen _ _ => some seen
  | .acted seen _ => some seen

/-- The counters of a gate are ordered, and the report of an idle loop is true. -/
structure PassOk (station : Station) : Prop where
  done_le : station.gate.done ≤ station.gate.asked
  idle_of : station.gate.inPass = false → station.pass = .idle
  seen_between : ∀ seen, station.pass.seen = some seen →
    station.gate.done ≤ seen ∧ seen ≤ station.gate.asked
  truthful : station.pass = .idle → station.gate.reported = true →
    station.gate.isOpen = station.portOpen

/-- The port is in the wished state, and no wish that is stored or was read moves it. -/
structure Stable (wish : Bool) (station : Station) (wantOpen : Bool) : Prop where
  port : station.portOpen = wantOpen
  wished : wish = wantOpen
  read : ∀ seen readOpen readAt, station.pass = .read seen readOpen readAt → readOpen = wantOpen

/-- A ticket of an ask that came after the last write of the block. -/
structure Ticket (wish : Bool) (writes : ℕ) (station : Station) (wantOpen : Bool) (ticket : ℕ) :
    Prop where
  wished : wish = wantOpen
  asked : ticket ≤ station.gate.asked
  read : ∀ seen readOpen readAt, station.pass = .read seen readOpen readAt → ticket ≤ seen →
    readOpen = wantOpen ∧ readAt = writes
  acted : ∀ seen readAt, station.pass = .acted seen readAt → ticket ≤ seen → readAt = writes
  report : ticket ≤ station.gate.done → station.reportAt = writes
  stable : ticket ≤ station.gate.done → station.gate.isOpen = wantOpen →
    Stable wish station wantOpen

section

variable {wish wantOpen : Bool} {writes ticket : ℕ} {station next : Station} {event : LoopEvent}

/-- **What one step of a serve loop does.** -/
theorem station_cases (done : station.step wish writes event = some next) :
    (station.pass = .idle ∧ next = { station with
        gate := { station.gate with inPass := true }, pass := .begun station.gate.asked }) ∨
    (∃ seen, station.pass = .begun seen ∧ next = { station with pass := .read seen wish writes }) ∨
    (∃ seen readOpen readAt portOpen, station.pass = .read seen readOpen readAt ∧
      (readOpen = station.portOpen → portOpen = station.portOpen) ∧
      next = { station with pass := .acted seen readAt, portOpen := portOpen }) ∨
    (∃ seen readAt, station.pass = .acted seen readAt ∧ next = { station with
        gate := station.gate.endPass seen station.portOpen, pass := .idle, reportAt := readAt }) := by
  obtain ⟨gate, pass, portOpen, reportAt⟩ := station
  cases event with
  | go =>
      cases pass with
      | idle =>
          cases done
          exact .inl ⟨rfl, rfl⟩
      | begun seen =>
          cases done
          exact .inr (.inl ⟨seen, rfl, rfl⟩)
      | read => cases done
      | acted seen readAt =>
          cases done
          exact .inr (.inr (.inr ⟨seen, readAt, rfl, rfl⟩))
  | acts moved =>
      cases pass with
      | read seen readOpen readAt =>
          cases done
          refine .inr (.inr (.inl ⟨seen, readOpen, readAt, _, rfl, fun same => ?_, rfl⟩))
          exact if_pos same
      | _ => cases done

theorem PassOk.step (ok : PassOk station) (done : station.step wish writes event = some next) :
    PassOk next := by
  rcases station_cases done with ⟨-, rfl⟩ | ⟨seen, pass, rfl⟩ |
    ⟨seen, readOpen, readAt, portOpen, pass, -, rfl⟩ | ⟨seen, readAt, pass, rfl⟩
  · refine ⟨ok.done_le, nofun, fun seen same => ?_, nofun⟩
    cases same
    exact ⟨ok.done_le, Nat.le_refl _⟩
  · have between := ok.seen_between seen (by rw [pass]; rfl)
    refine ⟨ok.done_le, fun out => ?_, fun other same => ?_, nofun⟩
    · have idle := ok.idle_of out
      rw [pass] at idle
      cases idle
    · cases same
      exact between
  · have between := ok.seen_between seen (by rw [pass]; rfl)
    refine ⟨ok.done_le, fun out => ?_, fun other same => ?_, nofun⟩
    · have idle := ok.idle_of out
      rw [pass] at idle
      cases idle
    · cases same
      exact between
  · have between := ok.seen_between seen (by rw [pass]; rfl)
    exact ⟨Nat.max_le.mpr ⟨ok.done_le, between.2⟩, fun _ => rfl, nofun, fun _ _ => rfl⟩

/-- The answered asks only grow. -/
theorem done_mono (done : station.step wish writes event = some next) :
    station.gate.done ≤ next.gate.done := by
  rcases station_cases done with ⟨-, rfl⟩ | ⟨seen, pass, rfl⟩ |
    ⟨seen, readOpen, readAt, portOpen, pass, -, rfl⟩ | ⟨seen, readAt, pass, rfl⟩
  · exact Nat.le_refl _
  · exact Nat.le_refl _
  · exact Nat.le_refl _
  · exact Nat.le_max_left _ _

/-- **A stable port stays.** -/
theorem Stable.step (stable : Stable wish station wantOpen)
    (done : station.step wish writes event = some next) : Stable wish next wantOpen := by
  rcases station_cases done with ⟨-, rfl⟩ | ⟨seen, pass, rfl⟩ |
    ⟨seen, readOpen, readAt, portOpen, pass, unmoved, rfl⟩ | ⟨seen, readAt, pass, rfl⟩
  · exact ⟨stable.port, stable.wished, nofun⟩
  · refine ⟨stable.port, stable.wished, fun _ _ _ same => ?_⟩
    cases same
    exact stable.wished
  · have wanted : readOpen = station.portOpen := (stable.read _ _ _ pass).trans stable.port.symm
    exact ⟨(unmoved wanted).trans stable.port, stable.wished, nofun⟩
  · exact ⟨stable.port, stable.wished, nofun⟩

/-- **A ticket keeps its meaning.** -/
theorem Ticket.step (holds : Ticket wish writes station wantOpen ticket) (ok : PassOk station)
    (done : station.step wish writes event = some next) : Ticket wish writes next wantOpen ticket := by
  have stays := fun (answered : ticket ≤ station.gate.done)
      (report : station.gate.isOpen = wantOpen) => (holds.stable answered report).step done
  rcases station_cases done with ⟨-, rfl⟩ | ⟨seen, pass, rfl⟩ |
    ⟨seen, readOpen, readAt, portOpen, pass, -, rfl⟩ | ⟨seen, readAt, pass, rfl⟩
  · exact ⟨holds.wished, holds.asked, nofun, nofun, holds.report, stays⟩
  · refine ⟨holds.wished, holds.asked, fun _ _ _ same _ => ?_, nofun, holds.report, stays⟩
    cases same
    exact ⟨holds.wished, rfl⟩
  · refine ⟨holds.wished, holds.asked, nofun, fun _ _ same saw => ?_, holds.report, stays⟩
    cases same
    exact (holds.read _ _ _ pass saw).2
  · refine ⟨holds.wished, holds.asked, nofun, nofun, fun answered => ?_, fun _ report => ?_⟩
    · -- An answered ask is not newer than the one that this pass saw.
      have between := ok.seen_between seen (by rw [pass]; rfl)
      have saw : ticket ≤ seen :=
        Nat.le_trans answered (Nat.max_le.mpr ⟨between.1, Nat.le_refl _⟩)
      exact holds.acted _ _ pass saw
    · exact ⟨report, holds.wished, nofun⟩

/-! ### Asking -/

/-- A gate that was asked once more. -/
def Station.asked (station : Station) : Station := { station with gate := station.gate.ask.1 }

theorem PassOk.asked (ok : PassOk station) : PassOk station.asked where
  done_le := Nat.le_succ_of_le ok.done_le
  idle_of := ok.idle_of
  seen_between seen same := by
    obtain ⟨lower, upper⟩ := ok.seen_between seen same
    exact ⟨lower, Nat.le_succ_of_le upper⟩
  truthful := ok.truthful

theorem Stable.asked (stable : Stable wish station wantOpen) : Stable wish station.asked wantOpen :=
  ⟨stable.port, stable.wished, stable.read⟩

theorem Ticket.asked_again (holds : Ticket wish writes station wantOpen ticket) :
    Ticket wish writes station.asked wantOpen ticket where
  wished := holds.wished
  asked := Nat.le_succ_of_le holds.asked
  read := holds.read
  acted := holds.acted
  report := holds.report
  stable answered report := (holds.stable answered report).asked

/-- **The ticket of an ask**: no pass that has begun saw it. -/
theorem ticket_of_ask (ok : PassOk station) (writes : ℕ) (wished : wish = wantOpen) :
    Ticket wish writes station.asked wantOpen station.gate.ask.2 := by
  have unseen : ∀ seen, station.pass.seen = some seen → ¬ station.gate.asked + 1 ≤ seen := by
    intro seen same saw
    have upper := (ok.seen_between seen same).2
    omega
  have unanswered : ¬ station.gate.asked + 1 ≤ station.gate.done := by
    have lower := ok.done_le
    omega
  refine ⟨wished, Nat.le_refl _, fun seen _ _ pass saw => ?_, fun seen _ pass saw => ?_,
    fun answered => absurd answered unanswered, fun answered => absurd answered unanswered⟩
  · exact absurd saw (unseen seen (congrArg Pass.seen pass))
  · exact absurd saw (unseen seen (congrArg Pass.seen pass))

/-- **The shortcut**: a trusted report of the wished state is of a port that stays. -/
theorem stable_of_lastReport (ok : PassOk station) (wished : wish = wantOpen)
    (report : station.gate.lastReport = some wantOpen) : Stable wish station wantOpen := by
  obtain ⟨reported, out, isOpen⟩ := PortGate.lastReport_eq_some report
  have idle := ok.idle_of out
  refine ⟨(ok.truthful idle reported).symm.trans isOpen, wished, fun _ _ _ pass => ?_⟩
  rw [idle] at pass
  cases pass

end

/-! ### The whole system -/

variable {G P S : Type} [DecidableEq G] [DecidableEq P] {layout : Layout G P S}

/-- `Stable`, at a gate of the system. -/
def System.StableAt (layout : Layout G P S) (system : System G P S) (gate : G) (wantOpen : Bool) :
    Prop :=
  Stable (system.wish layout gate) (system.stations gate) wantOpen

/-- `Ticket`, at a gate of the system. -/
def System.TicketAt (layout : Layout G P S) (system : System G P S) (item : G × Bool × ℕ) : Prop :=
  Ticket (system.wish layout item.1) (system.writes (layout.owner item.1)) (system.stations item.1)
    item.2.1 item.2.2

/-- How far `_settle_ports` has come with its wish list: each wish is still to be looked at, has a
ticket, is stable or is stuck. -/
structure Progress (layout : Layout G P S) (system : System G P S) (wishes rest : List (G × Bool))
    (tickets : List (G × Bool × ℕ)) (stuck : List (G × Bool)) : Prop where
  rest_wished : ∀ item ∈ rest, system.wish layout item.1 = item.2
  tickets_hold : ∀ item ∈ tickets, system.TicketAt layout item
  covered : ∀ gate wantOpen, (gate, wantOpen) ∈ wishes → (gate, wantOpen) ∈ rest ∨
    (∃ ticket, (gate, wantOpen, ticket) ∈ tickets) ∨ system.StableAt layout gate wantOpen ∨
    (gate, wantOpen) ∈ stuck

/-- What is true of the writer at each of its places. -/
def WriterOk (layout : Layout G P S) (system : System G P S) : Prop :=
  match system.writer with
  | .idle => True
  | .working tasks wishes => Orderly layout.owner tasks ∧ ∀ item ∈ wishes,
      system.wish layout item.1 = item.2 ∧ ∀ block, Task.write (layout.owner item.1) block ∉ tasks
  | .looking wishes rest tickets => Progress layout system wishes rest tickets []
  | .asking wishes gate wantOpen rest tickets =>
      Progress layout system wishes ((gate, wantOpen) :: rest) tickets []
  | .waiting wishes tickets stuck => Progress layout system wishes [] tickets stuck
  | .probing wishes gate wantOpen tickets stuck =>
      Progress layout system wishes [] tickets stuck ∧ ∃ ticket,
        system.TicketAt layout (gate, wantOpen, ticket) ∧
        ticket ≤ (system.stations gate).gate.done
  | .answered wishes stuck => Progress layout system wishes [] [] stuck

/-- The invariant of the system. -/
structure Inv (layout : Layout G P S) (system : System G P S) : Prop where
  passes : ∀ gate, PassOk (system.stations gate)
  writer : WriterOk layout system

/-- A change of the stations that keeps what is known of each gate keeps the writer's progress. -/
theorem WriterOk.of_stations {system : System G P S} {stations : G → Station}
    (ok : WriterOk layout system)
    (stable : ∀ gate wantOpen, system.StableAt layout gate wantOpen →
      System.StableAt layout { system with stations := stations } gate wantOpen)
    (ticket : ∀ item, system.TicketAt layout item →
      System.TicketAt layout { system with stations := stations } item)
    (done : ∀ gate, (system.stations gate).gate.done ≤ (stations gate).gate.done) :
    WriterOk layout { system with stations := stations } := by
  have progress : ∀ {wishes rest tickets stuck},
      Progress layout system wishes rest tickets stuck →
      Progress layout { system with stations := stations } wishes rest tickets stuck := by
    intro wishes rest tickets stuck before
    refine ⟨before.rest_wished, fun item member => ticket item (before.tickets_hold item member),
      fun gate wantOpen member => ?_⟩
    rcases before.covered gate wantOpen member with later | asked | steady | gone
    · exact .inl later
    · exact .inr (.inl asked)
    · exact .inr (.inr (.inl (stable _ _ steady)))
    · exact .inr (.inr (.inr gone))
  obtain ⟨before, scenarios, writes, writer⟩ := system
  cases writer with
  | idle => exact ok
  | working tasks wishes => exact ok
  | looking wishes rest tickets => exact progress ok
  | asking wishes gate wantOpen rest tickets => exact progress ok
  | waiting wishes tickets stuck => exact progress ok
  | probing wishes gate wantOpen tickets stuck =>
      obtain ⟨settled, number, holds, answered⟩ := ok
      exact ⟨progress settled, number, ticket _ holds, Nat.le_trans answered (done gate)⟩
  | answered wishes stuck => exact progress ok

section

variable {system next : System G P S}

/-- **A move of one station** that keeps what is known of it keeps the invariant. -/
theorem Inv.moveStation {gate : G} {station : Station} (inv : Inv layout system)
    (ok : PassOk station)
    (stable : ∀ wantOpen, system.StableAt layout gate wantOpen →
      Stable (system.wish layout gate) station wantOpen)
    (ticket : ∀ wantOpen ticket, system.TicketAt layout (gate, wantOpen, ticket) →
      Ticket (system.wish layout gate) (system.writes (layout.owner gate)) station wantOpen ticket)
    (done : (system.stations gate).gate.done ≤ station.gate.done) :
    Inv layout { system with stations := Function.update system.stations gate station } := by
  refine ⟨forall_update (fun _ => PassOk) (fun other _ => inv.passes other) ok,
    inv.writer.of_stations (fun other wantOpen => ?_) (fun item => ?_) ?_⟩
  · exact forall_update (fun other moved => system.StableAt layout other wantOpen →
      Stable (system.wish layout other) moved wantOpen) (fun _ _ holds => holds) (stable wantOpen) other
  · obtain ⟨other, wantOpen, number⟩ := item
    exact forall_update (fun other moved => system.TicketAt layout (other, wantOpen, number) →
      Ticket (system.wish layout other) (system.writes (layout.owner other)) moved wantOpen number)
      (fun _ _ holds => holds) (ticket wantOpen number) other
  · exact forall_update
      (fun other (moved : Station) => (system.stations other).gate.done ≤ moved.gate.done)
      (fun _ _ => Nat.le_refl _) done

/-- **A step of a serve loop keeps the invariant.** -/
theorem loopStep_inv {gate : G} {event : LoopEvent} {station : Station} (inv : Inv layout system)
    (done : (system.stations gate).step (system.wish layout gate)
      (system.writes (layout.owner gate)) event = some station) :
    Inv layout { system with stations := Function.update system.stations gate station } :=
  inv.moveStation ((inv.passes gate).step done) (fun _ stable => stable.step done)
    (fun _ _ holds => holds.step (inv.passes gate) done) (done_mono done)

/-- A wish reads one block only. -/
theorem wish_congr {gate : G}
    (same : next.scenarios (layout.owner gate) = system.scenarios (layout.owner gate)) :
    next.wish layout gate = system.wish layout gate := by
  unfold System.wish
  rw [same]

/-- The place of the writer is no part of its progress. -/
theorem Progress.withWriter {wishes rest stuck : List (G × Bool)} {tickets : List (G × Bool × ℕ)}
    (progress : Progress layout system wishes rest tickets stuck) (writer : Writer G P S) :
    Progress layout { system with writer := writer } wishes rest tickets stuck :=
  ⟨progress.rest_wished, progress.tickets_hold, progress.covered⟩

/-- The next gate is done with: it is stable, or its ticket takes its place. -/
theorem Progress.look {wishes rest : List (G × Bool)} {tickets tickets' : List (G × Bool × ℕ)}
    {gate : G} {wantOpen : Bool}
    (progress : Progress layout system wishes ((gate, wantOpen) :: rest) tickets [])
    (holds : ∀ item ∈ tickets', system.TicketAt layout item)
    (kept : ∀ item ∈ tickets, item ∈ tickets')
    (fate : system.StableAt layout gate wantOpen ∨ ∃ ticket, (gate, wantOpen, ticket) ∈ tickets') :
    Progress layout system wishes rest tickets' [] := by
  refine ⟨fun item member => progress.rest_wished item (List.mem_cons_of_mem _ member), holds,
    fun other wanted member => ?_⟩
  rcases progress.covered other wanted member with later | ⟨ticket, earlier⟩ | covered
  · rcases List.mem_cons.mp later with here | after
    · cases here
      rcases fate with stable | asked
      · exact .inr (.inr (.inl stable))
      · exact .inr (.inl asked)
    · exact .inl after
  · exact .inr (.inl ⟨ticket, kept _ earlier⟩)
  · exact .inr (.inr covered)

/-- A ticket is done with: its gate is stable or stuck. -/
theorem Progress.settle {wishes stuck stuck' : List (G × Bool)} {tickets : List (G × Bool × ℕ)}
    {gate : G} {wantOpen : Bool} {ticket : ℕ}
    (progress : Progress layout system wishes [] ((gate, wantOpen, ticket) :: tickets) stuck)
    (kept : ∀ item ∈ stuck, item ∈ stuck')
    (fate : system.StableAt layout gate wantOpen ∨ (gate, wantOpen) ∈ stuck') :
    Progress layout system wishes [] tickets stuck' := by
  refine ⟨nofun, fun item member => progress.tickets_hold item (List.mem_cons_of_mem _ member),
    fun other wanted member => ?_⟩
  rcases progress.covered other wanted member with none_left | ⟨number, there⟩ | steady | gone
  · cases none_left
  · rcases List.mem_cons.mp there with here | after
    · cases here
      exact .inr (.inr fate)
    · exact .inr (.inl ⟨number, after⟩)
  · exact .inr (.inr (.inl steady))
  · exact .inr (.inr (.inr (kept _ gone)))

/-- One more gate is stuck. -/
theorem Progress.moreStuck {wishes stuck : List (G × Bool)} {tickets : List (G × Bool × ℕ)}
    (progress : Progress layout system wishes [] tickets stuck) (item : G × Bool) :
    Progress layout system wishes [] tickets (stuck ++ [item]) := by
  refine ⟨nofun, progress.tickets_hold, fun other wanted member => ?_⟩
  rcases progress.covered other wanted member with none_left | asked | steady | gone
  · cases none_left
  · exact .inr (.inl asked)
  · exact .inr (.inr (.inl steady))
  · exact .inr (.inr (.inr (List.mem_append_left _ gone)))

/-- **A step of the writer keeps the invariant.** -/
theorem writerStep_inv {event : WriterEvent} (inv : Inv layout system)
    (done : system.writerStep layout event = some next) : Inv layout next := by
  have ok := inv.writer
  obtain ⟨stations, scenarios, writes, writer⟩ := system
  cases writer with
  | idle => cases done
  | answered => cases done
  | working tasks wishes =>
      obtain ⟨orderly, wished⟩ := ok
      cases event with
      | go =>
          cases tasks with
          | nil =>
              cases done
              exact ⟨inv.passes, fun item member => (wished item member).1, nofun,
                fun _ _ member => .inl member⟩
          | cons task rest =>
              cases task with
              | write provider block =>
                  cases done
                  refine ⟨inv.passes, orderly, fun item member => ?_⟩
                  obtain ⟨same, unwritten⟩ := wished item member
                  have other : layout.owner item.1 ≠ provider := by
                    rintro rfl
                    exact unwritten block List.mem_cons_self
                  refine ⟨?_, fun later there => unwritten later (List.mem_cons_of_mem _ there)⟩
                  rw [← same]
                  exact wish_congr (Function.update_of_ne other _ _)
              | wish gate =>
                  cases done
                  refine ⟨inv.passes, orderly.2, fun item member => ?_⟩
                  rcases List.mem_append.mp member with earlier | single
                  · obtain ⟨same, unwritten⟩ := wished item earlier
                    exact ⟨same, fun later there => unwritten later (List.mem_cons_of_mem _ there)⟩
                  · rw [List.mem_singleton.mp single]
                    exact ⟨rfl, orderly.1⟩
      | timeOut => rcases tasks with _ | ⟨_ | _, _⟩ <;> cases done
      | probe => rcases tasks with _ | ⟨_ | _, _⟩ <;> cases done
  | looking wishes rest tickets =>
      have progress : Progress layout _ wishes rest tickets [] := ok
      cases event with
      | go =>
          cases rest with
          | nil =>
              cases done
              exact ⟨inv.passes, progress.withWriter _⟩
          | cons item rest =>
              obtain ⟨gate, wantOpen⟩ := item
              simp only [System.writerStep] at done
              split at done
              · cases done
                exact ⟨inv.passes, progress.withWriter _⟩
              · next report =>
                  cases done
                  have stable := stable_of_lastReport (inv.passes gate)
                    (progress.rest_wished _ List.mem_cons_self) (not_ne_iff.mp report)
                  exact ⟨inv.passes, (progress.look progress.tickets_hold (fun _ member => member)
                    (.inl stable)).withWriter _⟩
      | timeOut => rcases rest with _ | _ <;> cases done
      | probe => rcases rest with _ | _ <;> cases done
  | asking wishes gate wantOpen rest tickets =>
      cases event with
      | go =>
          cases done
          have progress : Progress layout _ wishes ((gate, wantOpen) :: rest) tickets [] := ok
          have fresh := ticket_of_ask (inv.passes gate) (writes (layout.owner gate))
            (progress.rest_wished _ List.mem_cons_self)
          obtain ⟨passes, asked⟩ := inv.moveStation (inv.passes gate).asked
            (fun _ stable => stable.asked) (fun _ _ holds => holds.asked_again) (Nat.le_refl _)
          have askedProgress : Progress layout _ wishes ((gate, wantOpen) :: rest) tickets [] := asked
          refine ⟨passes, (askedProgress.look (fun item member => ?_)
            (fun _ member => List.mem_append_left _ member)
            (.inr ⟨_, List.mem_append_right _ (List.mem_singleton.mpr rfl)⟩)).withWriter _⟩
          rcases List.mem_append.mp member with earlier | single
          · exact askedProgress.tickets_hold item earlier
          · rw [List.mem_singleton.mp single]
            unfold System.TicketAt
            simp only [Function.update_self]
            exact fresh
      | _ => cases done
  | waiting wishes tickets stuck =>
      have progress : Progress layout _ wishes [] tickets stuck := ok
      cases tickets with
      | nil =>
          cases event <;> cases done
          exact ⟨inv.passes, progress.withWriter _⟩
      | cons item rest =>
          obtain ⟨gate, wantOpen, ticket⟩ := item
          have holds := progress.tickets_hold _ List.mem_cons_self
          cases event with
          | go =>
              simp only [System.writerStep] at done
              split at done
              · next reached =>
                  cases done
                  obtain ⟨answered, report⟩ := PortGate.reached_iff.mp reached
                  have stable := holds.stable answered report
                  exact ⟨inv.passes, (progress.settle (fun _ member => member)
                    (.inl stable)).withWriter _, ticket, holds, answered⟩
              · cases done
          | timeOut =>
              cases done
              exact ⟨inv.passes, (progress.settle (fun _ member => List.mem_append_left _ member)
                (.inr (List.mem_append_right _ (List.mem_singleton.mpr rfl)))).withWriter _⟩
          | probe => cases done
  | probing wishes gate wantOpen tickets stuck =>
      obtain ⟨progress, -⟩ := ok
      cases event with
      | probe accepts =>
          simp only [System.writerStep] at done
          split at done
          · cases done
            exact ⟨inv.passes, progress.withWriter _⟩
          · cases done
            exact ⟨inv.passes, (progress.moreStuck _).withWriter _⟩
      | _ => cases done

/-- **One step of the system keeps the invariant.** -/
theorem step_inv {action : Action layout} (inv : Inv layout system)
    (done : system.step action = some next) : Inv layout next := by
  cases action with
  | loop gate event =>
      obtain ⟨station, moved, rfl⟩ := Option.map_eq_some_iff.mp done
      exact loopStep_inv inv moved
  | take plan =>
      have start : Inv layout { system with writer := .working plan.tasks [] } :=
        ⟨inv.passes, plan.orderly, nofun⟩
      simp only [System.step] at done
      split at done
      · cases done
        exact start
      · cases done
        exact start
      · cases done
  | writer event => exact writerStep_inv inv done

theorem start_inv (scenarios : P → S) (portOpen : G → Bool) :
    Inv layout (System.start scenarios portOpen : System G P S) where
  passes _ := ⟨Nat.le_refl _, fun _ => rfl, nofun, nofun⟩
  writer := trivial

/-! ### Later runs -/

/-- The two states differ at most by an ask, by blocks that were written and by the writer's place. -/
structure Frame (system next : System G P S) : Prop where
  stations : ∀ gate, next.stations gate = system.stations gate ∨
    next.stations gate = (system.stations gate).asked
  blocks : ∀ provider, (next.scenarios provider = system.scenarios provider ∧
      next.writes provider = system.writes provider) ∨
    next.writes provider = system.writes provider + 1

/-- A step of the writer at most asks a gate and writes a block, and it counts each write. -/
theorem writerStep_frame {event : WriterEvent} (done : system.writerStep layout event = some next) :
    Frame system next := by
  have untouched : ∀ writer, Frame system { system with writer := writer } :=
    fun _ => ⟨fun _ => .inl rfl, fun _ => .inl ⟨rfl, rfl⟩⟩
  simp only [System.writerStep] at done
  split at done
  · next _ _ provider block rest wishes _ =>
      cases done
      refine ⟨fun _ => .inl rfl, fun other => ?_⟩
      by_cases same : other = provider
      · subst same
        exact .inr (Function.update_self _ _ _)
      · exact .inl ⟨Function.update_of_ne same _ _, Function.update_of_ne same _ _⟩
  · cases done
    exact untouched _
  · cases done
    exact untouched _
  · split at done <;>
    · cases done
      exact untouched _
  · cases done
    exact untouched _
  · cases done
    exact ⟨forall_update (fun other moved => moved = system.stations other ∨
      moved = (system.stations other).asked) (fun _ _ => .inl rfl) (.inr rfl),
      (untouched .idle).blocks⟩
  · split at done
    · cases done
      exact untouched _
    · cases done
  · cases done
    exact untouched _
  · cases done
    exact untouched _
  · split at done <;>
    · cases done
      exact untouched _
  · cases done

/-- The writes of a block are only counted up. -/
theorem writes_mono {action : Action layout} (done : system.step action = some next) (provider : P) :
    system.writes provider ≤ next.writes provider := by
  cases action with
  | loop gate event =>
      obtain ⟨station, -, rfl⟩ := Option.map_eq_some_iff.mp done
      exact Nat.le_refl _
  | take plan =>
      simp only [System.step] at done
      split at done <;> cases done <;> exact Nat.le_refl _
  | writer event =>
      rcases (writerStep_frame done).blocks provider with ⟨-, same⟩ | more
      · exact same.ge
      · rw [more]
        exact Nat.le_succ _

/-- **A stable gate stays stable** in every step that does not write its provider's block. -/
theorem step_stable {action : Action layout} {gate : G} {wantOpen : Bool}
    (stable : system.StableAt layout gate wantOpen) (done : system.step action = some next)
    (unwritten : next.writes (layout.owner gate) = system.writes (layout.owner gate)) :
    next.StableAt layout gate wantOpen := by
  cases action with
  | loop other event =>
      obtain ⟨station, moved, rfl⟩ := Option.map_eq_some_iff.mp done
      exact forall_update (fun there station => system.StableAt layout there wantOpen →
        Stable (system.wish layout there) station wantOpen) (fun _ _ holds => holds)
        (fun holds => holds.step moved) gate stable
  | take plan =>
      simp only [System.step] at done
      split at done <;> cases done <;> exact stable
  | writer event =>
      obtain ⟨stations, blocks⟩ := writerStep_frame done
      have sameBlock : next.scenarios (layout.owner gate) = system.scenarios (layout.owner gate) := by
        rcases blocks (layout.owner gate) with ⟨same, -⟩ | more
        · exact same
        · omega
      unfold System.StableAt at stable ⊢
      rw [wish_congr sameBlock]
      rcases stations gate with same | asked
      · rw [same]
        exact stable
      · rw [asked]
        exact stable.asked

/-- **Every run without a write of the block** keeps a stable gate stable. -/
theorem run_stable {gate : G} {wantOpen : Bool} :
    ∀ {actions : List (Action layout)} {system final : System G P S},
      system.StableAt layout gate wantOpen → run System.step system actions = some final →
      final.writes (layout.owner gate) = system.writes (layout.owner gate) →
      final.StableAt layout gate wantOpen := by
  have mono : ∀ {actions : List (Action layout)} {system final : System G P S},
      run System.step system actions = some final →
      system.writes (layout.owner gate) ≤ final.writes (layout.owner gate) := by
    intro actions system final done
    exact run_invariant
      (fun later => system.writes (layout.owner gate) ≤ later.writes (layout.owner gate))
      (fun _ _ _ first before => Nat.le_trans before (writes_mono first _)) done (Nat.le_refl _)
  intro actions
  induction actions with
  | nil =>
      intro system final stable done _
      cases done
      exact stable
  | cons action rest ih =>
      intro system final stable done unwritten
      obtain ⟨next, first, later⟩ := run_cons_eq_some.mp done
      have before := writes_mono first (layout.owner gate)
      have after := mono later
      exact ih (step_stable stable first (by omega)) later (by omega)

end

/-! ### The answer -/

/-- The answer is the empty text only when no port is stuck. -/
theorem settleText_eq_empty {describe : G → String} {stuck : List (G × Bool)}
    (empty : settleText describe stuck = "") : stuck = [] := by
  cases stuck with
  | nil => rfl
  | cons item rest =>
      have length := congrArg String.length empty
      simp [settleText] at length

/-- **Settled ports.** In every run of the serve loops and the serialised writers:

1. when `_settle_ports` has answered the empty text, each port of its wish list is in the wished state,
   and it is in that state after every later run that does not write its provider's block;
2. when a wait is satisfied, the report is that of a pass that read its wish after the last write of
   the provider's block. -/
theorem settle_ports_reached (layout : Layout G P S) (scenarios : P → S) (portOpen : G → Bool)
    (actions : List (Action layout)) (system : System G P S)
    (done : run System.step (System.start scenarios portOpen) actions = some system) :
    (∀ wishes stuck, system.writer = .answered wishes stuck →
      settleText layout.describe stuck = "" → ∀ gate wantOpen, (gate, wantOpen) ∈ wishes →
        (system.stations gate).portOpen = wantOpen ∧
        ∀ (later : List (Action layout)) final, run System.step system later = some final →
          final.writes (layout.owner gate) = system.writes (layout.owner gate) →
          (final.stations gate).portOpen = wantOpen) ∧
    (∀ wishes gate wantOpen tickets stuck,
      system.writer = .probing wishes gate wantOpen tickets stuck →
      (system.stations gate).reportAt = system.writes (layout.owner gate)) := by
  have inv : Inv layout system :=
    run_invariant (Inv layout) (fun _ _ _ first holds => step_inv holds first) done
      (start_inv scenarios portOpen)
  have ok := inv.writer
  unfold WriterOk at ok
  refine ⟨fun wishes stuck answered empty gate wantOpen member => ?_,
    fun wishes gate wantOpen tickets stuck probing => ?_⟩
  · rw [answered, settleText_eq_empty empty] at ok
    have stable : system.StableAt layout gate wantOpen := by
      rcases ok.covered gate wantOpen member with none_left | ⟨_, none_left⟩ | stable | none_left
      · cases none_left
      · cases none_left
      · exact stable
      · cases none_left
    exact ⟨stable.port, fun later final run unwritten => (run_stable stable run unwritten).port⟩
  · rw [probing] at ok
    obtain ⟨-, ticket, holds, answered⟩ := ok
    exact holds.report answered

/-- A write that closes one open port: the wait is satisfied by the pass that the ask woke. -/
theorem settle_ports_reached_closes :
    let layout : Layout Unit Unit Bool := ⟨fun _ => (), fun _ closes => closes, fun _ => "port"⟩
    let plan : Plan layout := ⟨[.write () true, .wish ()], by simp [Orderly]⟩
    let pass (portOpen : Bool) : List (Action layout) :=
      [.loop () .go, .loop () .go, .loop () (.acts portOpen), .loop () .go]
    let actions : List (Action layout) :=
      pass true ++ [.take plan] ++ List.replicate 6 (.writer .go) ++ pass false ++
        [.writer .go, .writer (.probe false), .writer .go]
    ∃ system, run System.step (System.start (fun _ => false) fun _ => true) actions = some system ∧
      system.writer = .answered [((), false)] [] ∧ (system.stations ()).portOpen = false := by
  intro layout plan pass actions
  refine ⟨_, rfl, rfl, ?_⟩
  exact ((settle_ports_reached layout (fun _ => false) (fun _ => true) actions _ rfl).1 _ _ rfl rfl
    () false (List.mem_singleton.mpr rfl)).1

end ProviderSimulator.Ports
