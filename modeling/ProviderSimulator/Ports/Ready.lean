/-
**The readiness check.**

`/ready` tries a connection to every port, one after another, and leaves out the ones that a scenario closes. It first
takes `port_lock`, for as long as it is willing to wait, so that no writer is between its write and the end of its
settle. The check runs beside the loops of the ports (`Probed.step`), each of its reads and each connection a step.

* `Check.step` — `_read_ready`, from `ports_closed_by_scenario` to the last connection;
* `Settled` and `settled_of_empty` — what an empty answer of the last writer means, at each later moment;
* `ready_after_settle` — **a check that holds the lock after an empty answer** names exactly the ports that are closed on
  purpose, and misses none of the others.
-/

import Mathlib.Tactic.Common
import Mathlib.Data.List.Dedup
import Mathlib.Data.List.Sort
import ProviderSimulator.Ports.SettledLoops
import ProviderSimulator.Python.Value

set_option linter.unusedSectionVars false

namespace ProviderSimulator.Ports

open ProviderSimulator.Lib ProviderSimulator.Python

/-! ### The ports in order -/

/-- `sorted(set(ports))`. -/
def sortedPorts (ports : List ℕ) : List ℕ := ports.dedup.insertionSort (· ≤ ·)

theorem mem_sortedPorts {port : ℕ} {ports : List ℕ} : port ∈ sortedPorts ports ↔ port ∈ ports := by
  unfold sortedPorts
  rw [List.mem_insertionSort, List.mem_dedup]

/-- One set of ports has one order. -/
theorem sortedPorts_congr {first second : List ℕ} (same : ∀ port, port ∈ first ↔ port ∈ second) :
    sortedPorts first = sortedPorts second := by
  refine List.Perm.eq_of_pairwise' (List.pairwise_insertionSort _ _) (List.pairwise_insertionSort _ _) ?_
  refine (List.perm_insertionSort _ _).trans (.trans ?_ (List.perm_insertionSort _ _).symm)
  rw [List.perm_ext_iff_of_nodup (List.nodup_dedup _) (List.nodup_dedup _)]
  simpa using same

/-! ### The check -/

/-- What the check knows: the gates of `port_gates`, each under its port, the ports of the registry, and the ports of
`extra_ready_ports`, of which `up` says whether they accept. -/
structure Watch (G : Type) where
  gates : List G
  all : ∀ gate, gate ∈ gates
  port : G → ℕ
  keys : ∀ first second, port first = port second → first = second
  registryPorts : List ℕ
  extraReadyPorts : List ℕ
  up : ℕ → Bool

/-- Where the check is. `held` says whether it got `port_lock`. -/
inductive Check (G : Type)
  | idle
  /-- In `ports_closed_by_scenario`, before `wants_closed` of the next gate. -/
  | closing (held : Bool) (rest : List G) (closed : List ℕ)
  /-- Before the connection to the next port. -/
  | probing (held : Bool) (rest ports missing closed : List ℕ)
  | answered (held : Bool) (ports missing closed : List ℕ)

/-- The check holds `port_lock`. -/
def Check.held {G : Type} : Check G → Bool
  | .idle => false
  | .closing held .. | .probing held .. | .answered held .. => held

/-- What a step of the check is told. -/
inductive CheckEvent
  | go
  /-- Did the connection succeed? -/
  | probe (accepts : Bool)

section

variable {G : Type}

/-- The ports that the check connects to. -/
def Watch.expected (watch : Watch G) (closed : List ℕ) : List ℕ :=
  sortedPorts ((watch.registryPorts ++ watch.extraReadyPorts).filter (· ∉ closed))

/-- The gate of a port is found under it. -/
theorem Watch.find_gate (watch : Watch G) (gate : G) :
    watch.gates.find? (watch.port · = watch.port gate) = some gate := by
  cases found : watch.gates.find? (watch.port · = watch.port gate) with
  | some other =>
      have same := List.find?_some found
      rw [watch.keys other gate (of_decide_eq_true same)]
  | none =>
      rw [List.find?_eq_none] at found
      exact absurd (decide_eq_true rfl) (found gate (watch.all gate))

theorem Watch.find_ungated (watch : Watch G) {port : ℕ} (ungated : ∀ gate, watch.port gate ≠ port) :
    watch.gates.find? (watch.port · = port) = none := by
  rw [List.find?_eq_none]
  intro gate _ same
  exact ungated gate (of_decide_eq_true same)

/-- Can a connection to the port end so? A port that serves accepts it, and one with no gate if it is up. A port
whose server is on its way up or down does either. -/
def Watch.answers (watch : Watch G) (serves : G → Bool) (port : ℕ) (accepts : Bool) : Bool :=
  match watch.gates.find? (watch.port · = port) with
  | some gate => serves gate → accepts
  | none => watch.up port = accepts

/-- One step of `_read_ready`, and of the release of the lock after it. -/
def Check.step (watch : Watch G) (wantsClosed serves : G → Bool) : Check G → CheckEvent → Option (Check G)
  | .closing held (gate :: rest) closed, .go =>
      some (.closing held rest (if wantsClosed gate then closed ++ [watch.port gate] else closed))
  | .closing held [] closed, .go =>
      some (.probing held (watch.expected closed) (watch.expected closed) [] closed)
  | .probing held (port :: rest) ports missing closed, .probe accepts =>
      if watch.answers serves port accepts then
        some (.probing held rest ports (if accepts then missing else missing ++ [port]) closed)
      else none
  | .probing held [] ports missing closed, .go => some (.answered held ports missing closed)
  | .answered .., .go => some .idle
  | _, _ => none

end

/-- The reply of the check. -/
def readyReply (ports missing closed : List ℕ) : ℕ × Value :=
  let numbers := fun (list : List ℕ) => Value.list (list.map fun port => .int port)
  if missing ≠ [] then
    (503, .object [
      ("status", .str "not_ready"), ("listening", .int (ports.length - missing.length)),
      ("expected", .int ports.length), ("missing_ports", numbers missing),
      ("closed_by_scenario", numbers (sortedPorts closed))])
  else
    (200, .object [
      ("status", .str "ready"), ("listening", .int ports.length), ("expected", .int ports.length),
      ("closed_by_scenario", numbers (sortedPorts closed))])

/-! ### Beside the loops and the writers -/

/-- A server of the loop has started, and nothing has begun to close it: `PortLoop.Serves`, as it is evaluated. -/
def PortLoop.serves : PortLoop → Bool
  | .http loop => loop.servers.any fun server => server.serveStarted && !server.closedByScenario
  | .grpc loop => loop.servers.any (· = .started)

theorem PortLoop.serves_iff (loop : PortLoop) : loop.serves = true ↔ loop.Serves := by
  cases loop with
  | http loop =>
      change _ ↔ ∃ server ∈ loop.servers, HttpPortLoop.Live server
      simp [serves, HttpPortLoop.Live]
  | grpc loop =>
      change _ ↔ GrpcPortLoop.Server.started ∈ loop.servers
      simp [serves]

variable {G P S : Type} [DecidableEq G] [DecidableEq P]

/-- The loops and the writers, with one readiness check. -/
structure Probed (G P S : Type) where
  ported : Ported G P S
  check : Check G

/-- What a scenario wishes of the port of a gate at the time: true is closed. -/
def Ported.wantsClosed (layout : Layout G P S) (ported : Ported G P S) (gate : G) : Bool :=
  layout.wantsClosed gate (ported.scenarios (layout.owner gate))

/-- `port_lock` is free of the writers. -/
def Writer.rests : Writer G P S → Bool
  | .idle | .answered .. => true
  | _ => false

/-- A step of the loops and of the writers, a check that comes, with the lock or after its wait for it, or a step of
the check. -/
inductive ProbedAction (layout : Layout G P S)
  | ports (action : PortedAction layout)
  | comes (held : Bool)
  | check (event : CheckEvent)

/-- The writer would take the lock. -/
def PortedAction.takes {layout : Layout G P S} : PortedAction layout → Bool
  | .take _ => true
  | _ => false

/-- One action. -/
def Probed.step {layout : Layout G P S} (watch : Watch G) (probed : Probed G P S) :
    ProbedAction layout → Option (Probed G P S)
  | .ports action =>
      if action.takes && probed.check.held then none
      else (probed.ported.step action).map fun ported => { probed with ported := ported }
  | .comes held =>
      match probed.check with
      | .idle => if held && !probed.ported.writer.rests then none
          else some { probed with check := .closing held watch.gates [] }
      | _ => none
  | .check event =>
      (probed.check.step watch (probed.ported.wantsClosed layout) (fun gate => (probed.ported.loops gate).serves)
        event).map fun check => { probed with check := check }

/-! ### What an empty answer means later -/

section

variable {layout : Layout G P S} {ported next : Ported G P S} {wishes stuck : List (G × Bool)}

/-- The loops and the writers came out of a run of the settle protocol. -/
def Ported.Sound (layout : Layout G P S) (ported : Ported G P S) : Prop :=
  ∃ system, ported.Stands system ∧ Inv layout system

theorem start_sound (layout : Layout G P S) (grpc : G → Bool) (scenarios : P → S) :
    (Ported.start grpc scenarios).Sound layout := ⟨_, Ports.start_stands grpc scenarios, start_inv scenarios _⟩

theorem Ported.Sound.step (sound : ported.Sound layout) {action : PortedAction layout}
    (done : ported.step action = some next) : next.Sound layout := by
  obtain ⟨system, stands, inv⟩ := sound
  obtain ⟨actions, after, ran, stood⟩ := step_followed layout ported action next system done stands
  exact ⟨after, stood, run_invariant (Inv layout) (fun _ _ _ first holds => step_inv holds first) ran inv⟩

/-- **Each port of the wish list is in the state that it was wished in**, and its block still wishes it. -/
def Ported.Settled (layout : Layout G P S) (ported : Ported G P S) (wishes : List (G × Bool)) : Prop :=
  ∀ gate wantOpen, (gate, wantOpen) ∈ wishes →
    (ported.loops gate).serves = wantOpen ∧ ported.wantsClosed layout gate = !wantOpen

theorem settled_of_empty (sound : ported.Sound layout) (answered : ported.writer = .answered wishes stuck)
    (empty : settleText layout.describe stuck = "") : ported.Settled layout wishes := by
  obtain ⟨system, stands, inv⟩ := sound
  intro gate wantOpen member
  have stable := stable_of_answered stands inv answered empty member
  constructor
  · rw [Bool.eq_iff_iff, PortLoop.serves_iff, (stands.loops gate).serves, stable.port]
  · have wished := stable.wished
    unfold System.wish at wished
    rw [stands.scenarios] at wished
    rw [← wished, Bool.not_not]
    rfl

/-- Only a writer that gets the lock ends the rest of one. -/
theorem writer_rests {action : PortedAction layout} (waits : action.takes = false)
    (done : ported.step action = some next) (rests : ported.writer.rests = true) : next.writer = ported.writer := by
  cases action with
  | loop gate raises =>
      obtain ⟨loop, -, rfl⟩ := Option.map_eq_some_iff.mp done
      rfl
  | take plan => cases waits
  | writer event =>
      obtain ⟨seen, moved, -⟩ := Option.map_eq_some_iff.mp done
      have idle : ported.view.writerStep layout event = none := by
        unfold Writer.rests at rests
        unfold System.writerStep
        rw [show ported.view.writer = ported.writer from rfl]
        split at rests
        · next same => rw [same]
        · next same => rw [same]
        · cases rests
      rw [idle] at moved
      cases moved

end

/-! ### The check after an empty answer -/

section

variable {watch : Watch G} {wishes : List (G × Bool)} {rest : List G} {closed ports missing : List ℕ}

/-- The ports that were found closed so far are those that the wish list closes. -/
structure Names (watch : Watch G) (wishes : List (G × Bool)) (rest : List G) (closed : List ℕ) : Prop where
  gated : ∀ port ∈ closed, ∃ gate, watch.port gate = port
  shut : ∀ gate wantOpen, (gate, wantOpen) ∈ wishes → watch.port gate ∈ closed → wantOpen = false
  all : ∀ gate, (gate, false) ∈ wishes → gate ∈ rest ∨ watch.port gate ∈ closed

/-- A port that is missing has no gate in the wish list, and one with no gate at all is not up. -/
def Misses (watch : Watch G) (wishes : List (G × Bool)) (ports missing : List ℕ) : Prop :=
  ∀ port ∈ missing, port ∈ ports ∧ (∀ item ∈ wishes, watch.port item.1 ≠ port) ∧
    ((∀ gate, watch.port gate ≠ port) → watch.up port = false)

/-- What is true of the check at each of its places, where the wishes are met. -/
def Check.Honest (watch : Watch G) (wishes : List (G × Bool)) : Check G → Prop
  | .idle => True
  | .closing _ rest closed => Names watch wishes rest closed
  | .probing _ rest ports missing closed =>
      (Names watch wishes [] closed ∧ ports = watch.expected closed ∧ Misses watch wishes ports missing) ∧ rest ⊆ ports
  | .answered _ ports missing closed =>
      Names watch wishes [] closed ∧ ports = watch.expected closed ∧ Misses watch wishes ports missing

theorem mem_expected {port : ℕ} : port ∈ watch.expected closed ↔
    port ∈ watch.registryPorts ++ watch.extraReadyPorts ∧ port ∉ closed := by
  unfold Watch.expected
  rw [mem_sortedPorts, List.mem_filter, decide_eq_true_eq]

/-- A port of a gate of the wish list accepts the connection, where the wish is met and it is not named closed. -/
theorem accepts_of_wished {serves : G → Bool} {gate : G} {wantOpen accepts : Bool} (names : Names watch wishes [] closed)
    (member : (gate, wantOpen) ∈ wishes) (settled : serves gate = wantOpen) (unnamed : watch.port gate ∉ closed)
    (answers : watch.answers serves (watch.port gate) accepts = true) : accepts = true := by
  have opened : wantOpen = true := by
    by_contra shut
    rw [Bool.not_eq_true] at shut
    subst shut
    exact unnamed ((names.all gate member).resolve_left List.not_mem_nil)
  unfold Watch.answers at answers
  rw [watch.find_gate gate] at answers
  simpa [settled, opened] using answers

/-- **One step of the check**, where the wishes are met. -/
theorem Check.Honest.step {check next : Check G} {event : CheckEvent} {wantsClosed serves : G → Bool}
    (honest : check.Honest watch wishes)
    (settled : ∀ gate wantOpen, (gate, wantOpen) ∈ wishes → serves gate = wantOpen ∧ wantsClosed gate = !wantOpen)
    (done : check.step watch wantsClosed serves event = some next) : next.Honest watch wishes := by
  unfold Check.step at done
  -- One goal for each branch, in the order of the definition.
  split at done
  · next held gate rest closed =>
    cases done
    obtain ⟨gated, shut, all⟩ := honest
    by_cases closes : wantsClosed gate = true
    · rw [if_pos closes]
      refine ⟨fun port member => ?_, fun other wantOpen wished member => ?_, fun other wished => ?_⟩
      · rcases List.mem_append.mp member with old | new
        · exact gated port old
        · exact ⟨gate, (List.mem_singleton.mp new).symm⟩
      · rcases List.mem_append.mp member with old | new
        · exact shut other wantOpen wished old
        · obtain rfl := watch.keys other gate (List.mem_singleton.mp new)
          have wish := (settled other wantOpen wished).2
          rw [closes] at wish
          simpa using wish
      · rcases all other wished with later | old
        · rcases List.mem_cons.mp later with rfl | later
          · exact .inr (List.mem_append_right _ (List.mem_singleton.mpr rfl))
          · exact .inl later
        · exact .inr (List.mem_append_left _ old)
    · rw [if_neg closes]
      refine ⟨gated, shut, fun other wished => ?_⟩
      rcases all other wished with later | old
      · rcases List.mem_cons.mp later with rfl | later
        · exact absurd (settled other false wished).2 closes
        · exact .inl later
      · exact .inr old
  · cases done
    exact ⟨⟨honest, rfl, nofun⟩, fun _ member => member⟩
  · next held port rest ports missing closed accepts =>
    obtain ⟨⟨names, expected, misses⟩, within⟩ := honest
    split at done
    · next answers =>
      cases done
      have within' : rest ⊆ ports := fun other member => within (List.mem_cons_of_mem port member)
      by_cases accepted : accepts = true
      · rw [if_pos accepted]
        exact ⟨⟨names, expected, misses⟩, within'⟩
      · rw [if_neg accepted]
        refine ⟨⟨names, expected, fun other member => ?_⟩, within'⟩
        rcases List.mem_append.mp member with old | new
        · exact misses other old
        · obtain rfl := List.mem_singleton.mp new
          have here : other ∈ ports := within List.mem_cons_self
          refine ⟨here, ?_, fun ungated => ?_⟩
          · rintro ⟨gate, wantOpen⟩ wished rfl
            rw [expected] at here
            have unnamed := (mem_expected.mp here).2
            exact accepted (accepts_of_wished names wished (settled gate wantOpen wished).1 unnamed answers)
          · unfold Watch.answers at answers
            rw [watch.find_ungated ungated] at answers
            simp only [decide_eq_true_eq] at answers
            rw [answers]
            simpa using accepted
    · cases done
  · cases done
    exact honest.1
  · cases done
    trivial
  · cases done

/-! ### Every run -/

variable {layout : Layout G P S} {probed after : Probed G P S}

/-- The invariant: where the check has the lock no writer is in a call, and a check after an empty answer is honest. -/
structure ProbedInv (layout : Layout G P S) (watch : Watch G) (probed : Probed G P S) : Prop where
  sound : probed.ported.Sound layout
  locked : probed.check.held = true → probed.ported.writer.rests = true
  honest : probed.check.held = true → ∀ wishes stuck, probed.ported.writer = .answered wishes stuck →
    settleText layout.describe stuck = "" → probed.check.Honest watch wishes

/-- The lock is taken as a check comes, and at no later step of it. -/
theorem held_of_step {check next : Check G} {event : CheckEvent} {wantsClosed serves : G → Bool}
    (done : check.step watch wantsClosed serves event = some next) (held : next.held = true) : check.held = true := by
  unfold Check.step at done
  split at done
  · cases done
    exact held
  · cases done
    exact held
  · split at done
    · cases done
      exact held
    · cases done
  · cases done
    exact held
  · cases done
    cases held
  · cases done

theorem ProbedInv.step {action : ProbedAction layout} (inv : ProbedInv layout watch probed)
    (done : probed.step watch action = some after) : ProbedInv layout watch after := by
  obtain ⟨sound, locked, honest⟩ := inv
  cases action with
  | ports action =>
      unfold Probed.step at done
      dsimp only at done
      by_cases refused : (action.takes && probed.check.held) = true
      · rw [if_pos refused] at done
        cases done
      · rw [if_neg refused] at done
        obtain ⟨ported, moved, rfl⟩ := Option.map_eq_some_iff.mp done
        have kept : probed.check.held = true → ported.writer = probed.ported.writer := by
          intro held
          rw [held, Bool.and_true, Bool.not_eq_true] at refused
          exact writer_rests refused moved (locked held)
        refine ⟨sound.step moved, fun held => ?_, fun held => ?_⟩
        · dsimp only
          rw [kept held]
          exact locked held
        · dsimp only
          rw [kept held]
          exact honest held
  | comes held =>
      unfold Probed.step at done
      dsimp only at done
      split at done
      · split at done
        · cases done
        · next free =>
          cases done
          refine ⟨sound, fun has => ?_, fun _ wishes _ _ _ => ?_⟩
          · rw [show held = true from has, Bool.true_and, Bool.not_eq_true, Bool.not_eq_false'] at free
            exact free
          · exact ⟨nofun, fun _ _ _ => nofun, fun gate _ => .inl (watch.all gate)⟩
      · cases done
  | check event =>
      obtain ⟨check, moved, rfl⟩ := Option.map_eq_some_iff.mp done
      refine ⟨sound, fun held => locked (held_of_step moved held), fun held wishes stuck answered empty => ?_⟩
      exact (honest (held_of_step moved held) wishes stuck answered empty).step (settled_of_empty sound answered empty)
        moved

theorem probed_start (layout : Layout G P S) (watch : Watch G) (grpc : G → Bool) (scenarios : P → S) :
    ProbedInv layout watch ⟨Ported.start grpc scenarios, .idle⟩ :=
  ⟨start_sound layout grpc scenarios, nofun, nofun⟩

/-- The ports that a wish list closes. -/
def shutPorts (watch : Watch G) (wishes : List (G × Bool)) : List ℕ :=
  (wishes.filter fun item => !item.2).map fun item => watch.port item.1

/-- **The readiness check after an empty answer.** In every run of the loops, of the writers and of the checks: where a
check got `port_lock`, and the last writer before it had answered the empty text, the check names the ports of that wish
list that are closed on purpose and no other one of them, and misses none. Where the wish list has every gate and each
port with no gate is up, the reply is that of a ready simulator. -/
theorem ready_after_settle (layout : Layout G P S) (watch : Watch G) (grpc : G → Bool) (scenarios : P → S)
    (actions : List (ProbedAction layout)) (probed : Probed G P S)
    (done : run (Probed.step watch) ⟨Ported.start grpc scenarios, .idle⟩ actions = some probed)
    (wishes stuck : List (G × Bool)) (answered : probed.ported.writer = .answered wishes stuck)
    (empty : settleText layout.describe stuck = "") (ports missing closed : List ℕ)
    (said : probed.check = .answered true ports missing closed) :
    (∀ gate wantOpen, (gate, wantOpen) ∈ wishes →
      (watch.port gate ∈ closed ↔ wantOpen = false) ∧ watch.port gate ∉ missing) ∧
    ((∀ gate, ∃ wantOpen, (gate, wantOpen) ∈ wishes) →
      (∀ port ∈ watch.registryPorts ++ watch.extraReadyPorts, (∃ gate, watch.port gate = port) ∨ watch.up port = true) →
      readyReply ports missing closed =
        readyReply (watch.expected (shutPorts watch wishes)) [] (shutPorts watch wishes)) := by
  have inv : ProbedInv layout watch probed :=
    run_invariant (ProbedInv layout watch) (fun _ _ _ first holds => holds.step first) done
      (probed_start layout watch grpc scenarios)
  have honest := inv.honest (by rw [said]; rfl) wishes stuck answered empty
  rw [said] at honest
  obtain ⟨names, expected, misses⟩ := honest
  have closes : ∀ gate wantOpen, (gate, wantOpen) ∈ wishes → (watch.port gate ∈ closed ↔ wantOpen = false) := by
    intro gate wantOpen member
    refine ⟨names.shut gate wantOpen member, ?_⟩
    rintro rfl
    exact (names.all gate member).resolve_left List.not_mem_nil
  refine ⟨fun gate wantOpen member => ⟨closes gate wantOpen member, fun absent => ?_⟩, fun whole rest => ?_⟩
  · exact (misses _ absent).2.1 (gate, wantOpen) member rfl
  have none_missing : missing = [] := by
    refine List.eq_nil_iff_forall_not_mem.mpr fun port absent => ?_
    obtain ⟨here, ungated, down⟩ := misses port absent
    rw [expected] at here
    by_cases gated : ∃ gate, watch.port gate = port
    · obtain ⟨gate, rfl⟩ := gated
      obtain ⟨wantOpen, member⟩ := whole gate
      exact ungated (gate, wantOpen) member rfl
    · have up := (rest port (mem_expected.mp here).1).resolve_left gated
      rw [down (not_exists.mp gated)] at up
      cases up
  have same : ∀ port, port ∈ closed ↔ port ∈ shutPorts watch wishes := by
    intro port
    unfold shutPorts
    rw [List.mem_map]
    constructor
    · intro member
      obtain ⟨gate, rfl⟩ := names.gated port member
      obtain ⟨wantOpen, wished⟩ := whole gate
      have shut := names.shut gate wantOpen wished member
      exact ⟨(gate, wantOpen), List.mem_filter.mpr ⟨wished, by simp [shut]⟩, rfl⟩
    · rintro ⟨⟨gate, wantOpen⟩, member, rfl⟩
      obtain ⟨wished, shut⟩ := List.mem_filter.mp member
      exact (closes gate wantOpen wished).mpr (by simpa using shut)
  have checked : watch.expected closed = watch.expected (shutPorts watch wishes) := by
    refine sortedPorts_congr fun port => ?_
    rw [List.mem_filter, List.mem_filter]
    simp [same]
  unfold readyReply
  rw [expected, none_missing, checked, sortedPorts_congr same]

/-- One gate on port 8545, beside a port of a RESP store. -/
def watchOne : Watch Unit where
  gates := [()]
  all _ := List.mem_singleton.mpr rfl
  port _ := 8545
  keys _ _ _ := rfl
  registryPorts := [8545]
  extraReadyPorts := [6379]
  up port := port = 6379

/-- A gRPC port is opened and then closed by a write, and a check comes after the answer. -/
theorem ready_after_settle_closes :
    let layout : Layout Unit Unit Bool := ⟨fun _ => (), fun _ closes => closes, fun _ => "port"⟩
    let plan : Plan layout := ⟨[.write () true, .wish ()], by simp [Orderly]⟩
    let pass (steps : ℕ) : List (ProbedAction layout) := List.replicate steps (.ports (.loop () false))
    let actions : List (ProbedAction layout) :=
      pass 5 ++ [.ports (.take plan)] ++ List.replicate 6 (.ports (.writer .go)) ++ pass 4 ++
        [.ports (.writer .go), .ports (.writer (.probe false)), .ports (.writer .go), .comes true, .check .go, .check .go,
          .check (.probe true), .check .go]
    ∃ probed, run (Probed.step watchOne) ⟨Ported.start (fun _ => true) fun _ => false, .idle⟩ actions = some probed ∧
      probed.check = .answered true [6379] [] [8545] ∧
      readyReply [6379] [] [8545] = readyReply (watchOne.expected (shutPorts watchOne [((), false)])) []
        (shutPorts watchOne [((), false)]) := by
  intro layout plan pass actions
  refine ⟨_, rfl, rfl, ?_⟩
  have ready := ready_after_settle layout watchOne (fun _ => true) (fun _ => false) actions _ rfl [((), false)] [] rfl rfl
    [6379] [] [8545] rfl
  refine ready.2 (fun _ => ⟨false, List.mem_singleton.mpr rfl⟩) fun port member => ?_
  rcases List.mem_cons.mp member with rfl | other
  · exact .inl ⟨(), rfl⟩
  · obtain rfl := List.mem_singleton.mp other
    exact .inr rfl

end

end ProviderSimulator.Ports
