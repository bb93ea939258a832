/-
**What `closed_by_cut_off` counts.**

The proxy counts a connection that it turns away, and an error cut-off counts the live set that it finds
when it writes the gate. The live set holds the connections from their entry to their leave: one that has
read the gate and is not yet in the set is missed, and one that an earlier error cut-off counted, or that is
on its way out for another reason, is counted once more. If no error cut-off finds such a connection
(`StrikesOnce`), the counter is the number of struck connections. What ended them in the end is another
question (`ClosedCause`).

* `struckBy` — the connections that a step turns away, or that are carried when it writes the error gate;
* `ClosedInv` — the counter is the number of struck connections, and none is struck twice;
* `step_closed` — one step of the proxy.
-/

import Mathlib.Tactic.Common
import Mathlib.Data.List.Nodup
import Mathlib.Data.List.Perm.Subperm
import ProviderSimulator.RespProxy.Phase

namespace ProviderSimulator.RespProxy

open ProviderSimulator.Lib

/-! ### Struck connections -/

/-- Does the call write the error gate in its next step? -/
def Call.strikes (call : Call) : Bool :=
  decide (call.request = .cutOff .error) && decide (call.place = .holding)

/-- The carried connections. -/
def carriedIds (conns : List Conn) : List ℕ := positions (fun conn => decide (conn.place.phase = .carried)) conns

/-- The connections that a step turns away, or that are carried when it writes the error gate. -/
def struckBy (proxy : Proxy) : Action → List ℕ
  | .conn id event =>
      match proxy.conns[id]?, event with
      | some conn, .go => if conn.place = .rejecting then [id] else []
      | _, _ => []
  | .control id =>
      match proxy.calls[id]? with
      | some call => if call.strikes then carriedIds proxy.conns else []
      | none => []
  | _ => []

/-- An error cut-off finds no connection that has read the gate and is not yet in the live set, none on its
way out, and none that was struck before. -/
def StrikesOnce (state : Proxy × List ℕ) : Action → Prop
  | .control id => ∀ call, state.1.calls[id]? = some call → call.strikes = true →
      ∀ (other : ℕ) (conn : Conn), state.1.conns[other]? = some conn →
        conn.place.phase ≠ .entering ∧ (∀ cause, conn.place.phase ≠ .leaving cause) ∧
          (conn.place.phase = .carried → other ∉ state.2)
  | _ => True

/-! ### The invariant -/

/-- Is the connection in the live set? -/
def Phase.isLive : Phase → Bool
  | .carried => true
  | .leaving _ => true
  | _ => false

/-- Was the connection accepted? -/
def Phase.isAccepted (phase : Phase) : Bool := decide (phase ≠ .arriving)

/-- What a run keeps of the connections, given the gate. -/
structure ConnOk (gate : Gate) (struck live : List ℕ) (id : ℕ) (phase : Phase) : Prop where
  live : id ∈ live ↔ phase.isLive = true
  past : id ∈ struck → phase ≠ .arriving ∧ phase ≠ .rejecting ∧ phase ≠ .entering
  /-- Under the error gate every carried connection is struck, and none enters. -/
  closed : gate = .error → phase ≠ .entering ∧ (phase = .carried → id ∈ struck)
  leaving : ∀ cause, phase = .leaving cause →
    cause ≠ .errorAtAccept ∧ (cause = .errorGate → id ∈ struck)
  ending : ∀ cause, phase = .ending cause ∨ phase = .ended cause →
    cause = .errorGate ∨ cause = .errorAtAccept → id ∈ struck

/-- The invariant. -/
structure ClosedInv (state : Proxy × List ℕ) : Prop where
  conns : ∀ (id : ℕ) (conn : Conn), state.1.conns[id]? = some conn →
    ConnOk state.1.shared.state state.2 state.1.shared.live id conn.place.phase
  known : ∀ id, id ∈ state.2 ∨ id ∈ state.1.shared.live → id < state.1.conns.length
  once : state.2.Nodup
  liveOnce : state.1.shared.live.Nodup
  counted : state.1.shared.counters.closedByCutOff = state.2.length
  accepted : state.1.shared.counters.accepted =
    state.1.conns.countP fun conn => conn.place.phase.isAccepted
  noReset : ∀ call ∈ state.1.calls, call.request ≠ .resetCounters

/-! ### Steps of a connection -/

section

variable {gate : Gate} {struck live : List ℕ} {id : ℕ} {phase : Phase}

/-- A step of another thread. -/
theorem ConnOk.frame {struck' live' : List ℕ} (ok : ConnOk gate struck live id phase)
    (sameStruck : id ∈ struck' ↔ id ∈ struck) (sameLive : id ∈ live' ↔ id ∈ live) :
    ConnOk gate struck' live' id phase where
  live := sameLive.trans ok.live
  past member := ok.past (sameStruck.mp member)
  closed error := ⟨(ok.closed error).1, fun carried => sameStruck.mpr ((ok.closed error).2 carried)⟩
  leaving cause here :=
    ⟨(ok.leaving cause here).1, fun gate => sameStruck.mpr ((ok.leaving cause here).2 gate)⟩
  ending cause here why := sameStruck.mpr (ok.ending cause here why)

/-- The connections that a step of this thread strikes. -/
def Phase.struckNow (phase : Phase) (id : ℕ) : List ℕ := if phase = .rejecting then [id] else []

/-- **A step of the thread of the connection.** -/
theorem ConnOk.move {phase' : Phase} {tally tally' : Tally} (ok : ConnOk gate struck tally.live id phase)
    (step : PhaseStep id gate phase tally phase' tally') :
    ConnOk gate (struck ++ phase.struckNow id) tally'.live id phase' := by
  obtain ⟨live, past, closed, leaving, ending⟩ := ok
  cases step with
  | reject error =>
      refine ⟨live, fun member => ?_, fun _ => ⟨nofun, nofun⟩, nofun, nofun⟩
      rw [Phase.struckNow, if_neg nofun, List.append_nil] at member
      exact absurd rfl (past member).1
  | letIn opened =>
      refine ⟨live, fun member => ?_, fun error => absurd error opened, nofun, nofun⟩
      rw [Phase.struckNow, if_neg nofun, List.append_nil] at member
      exact absurd rfl (past member).1
  | turnAway =>
      refine ⟨live, fun _ => ⟨nofun, nofun, nofun⟩, fun _ => ⟨nofun, nofun⟩, nofun, fun _ _ _ => ?_⟩
      exact List.mem_append_right _ (List.mem_singleton_self _)
  | prepare =>
      rw [Phase.struckNow, if_neg nofun, List.append_nil]
      exact ⟨live, past, closed, leaving, ending⟩
  | add =>
      rw [Phase.struckNow, if_neg nofun, List.append_nil]
      refine ⟨⟨fun _ => rfl, fun _ => List.mem_append_right _ (List.mem_singleton_self _)⟩, fun member => ?_,
        fun error => absurd rfl (closed error).1, nofun, nofun⟩
      exact absurd rfl (past member).2.2
  | carry =>
      rw [Phase.struckNow, if_neg nofun, List.append_nil]
      exact ⟨live, past, closed, leaving, ending⟩
  | giveUp carried error idle =>
      rw [Phase.struckNow, if_neg nofun, List.append_nil]
      refine ⟨live.trans ⟨fun _ => rfl, fun _ => rfl⟩, fun _ => ⟨nofun, nofun, nofun⟩, fun _ => ⟨nofun, nofun⟩,
        fun _ here => ?_, nofun⟩
      cases here
      exact ⟨carried, fun same => (closed (error same)).2 rfl⟩
  | leave =>
      rw [Phase.struckNow, if_neg nofun, List.append_nil]
      refine ⟨⟨fun member => ?_, nofun⟩, fun _ => ⟨nofun, nofun, nofun⟩, fun _ => ⟨nofun, nofun⟩, nofun,
        fun cause here why => ?_⟩
      · simp at member
      · rcases here with here | here
        · cases here
          obtain ⟨carried, atGate⟩ := leaving _ rfl
          rcases why with gate | turned
          · exact atGate gate
          · exact absurd turned carried
        · cases here
  | close =>
      rw [Phase.struckNow, if_neg nofun, List.append_nil]
      refine ⟨live, fun _ => ⟨nofun, nofun, nofun⟩, fun _ => ⟨nofun, nofun⟩, nofun, fun cause here why => ?_⟩
      rcases here with here | here
      · cases here
      · cases here
        exact ending _ (.inl rfl) why

/-- Every other connection stays in the live set, or out of it. -/
theorem PhaseStep.live_of_ne {phase' : Phase} {tally tally' : Tally} (step : PhaseStep id gate phase tally phase' tally')
    {other : ℕ} (elsewhere : other ≠ id) : other ∈ tally'.live ↔ other ∈ tally.live := by
  cases step with
  | add => simp [elsewhere]
  | leave => simp [elsewhere]
  | _ => exact Iff.rfl

theorem PhaseStep.liveOnce {phase' : Phase} {tally tally' : Tally}
    (step : PhaseStep id gate phase tally phase' tally') (once : tally.live.Nodup)
    (ok : ConnOk gate struck tally.live id phase) : tally'.live.Nodup := by
  cases step with
  | add =>
      have unseen : id ∉ tally.live := fun member => by cases ok.live.mp member
      rw [← List.concat_eq_append]
      exact once.concat unseen
  | leave => exact once.filter _
  | _ => exact once

theorem PhaseStep.accepted {phase' : Phase} {tally tally' : Tally}
    (step : PhaseStep id gate phase tally phase' tally') :
    (tally'.accepted : ℤ) = tally.accepted - indicator phase.isAccepted + indicator phase'.isAccepted := by
  cases step <;> simp [indicator, Phase.isAccepted]

theorem PhaseStep.closed {phase' : Phase} {tally tally' : Tally}
    (step : PhaseStep id gate phase tally phase' tally') :
    tally'.closedByCutOff = tally.closedByCutOff + (phase.struckNow id).length := by
  cases step <;> simp [Phase.struckNow]

end

theorem struckBy_conn {proxy : Proxy} {id : ℕ} {event : Event} {conn : Conn}
    (here : proxy.conns[id]? = some conn) {result : Shared × Conn}
    (done : connStep proxy.idleSeconds proxy.now id proxy.shared conn event = some result) :
    struckBy proxy (.conn id event) = conn.place.phase.struckNow id := by
  obtain ⟨place, downstream, upstream, lastActive⟩ := conn
  simp only [struckBy, Phase.struckNow, here]
  cases place <;> cases event <;> first | rfl | cases done

/-! ### Steps of a control call -/

/-- **What a control call does to the gate, to the live set and to the counters.** -/
theorem callStep_shared {proxy next : Proxy} {id : ℕ} {call : Call}
    (done : proxy.callStep id call = some next) (keeps : call.request ≠ .resetCounters) :
    next.shared.live = proxy.shared.live ∧
      next.shared.counters.accepted = proxy.shared.counters.accepted ∧
      next.shared.counters.closedByCutOff = proxy.shared.counters.closedByCutOff +
        (if call.strikes then proxy.shared.live.length else 0) ∧
      (if call.strikes then next.shared.state = .error
        else next.shared.state = proxy.shared.state ∨ next.shared.state ≠ .error) := by
  obtain ⟨request, place, wroteAt, endedAt⟩ := call
  cases callStep_takes done with
  | lockCutOff kind unlocked => cases kind <;> exact ⟨rfl, rfl, rfl, .inl rfl⟩
  | resetCounters => exact absurd rfl keeps
  | closeGate kind =>
      rw [(waitForDeliveries_frame _ _ _ _ _).2]
      cases kind with
      | timeout => exact ⟨rfl, rfl, rfl, .inr nofun⟩
      | error => exact ⟨rfl, rfl, rfl, rfl⟩
  | restore => exact ⟨rfl, rfl, rfl, .inr nofun⟩
  | wait kind live =>
      rw [(waitForDeliveries_frame _ _ _ _ _).2]
      cases kind <;> exact ⟨rfl, rfl, rfl, .inl rfl⟩
  | finish kind => cases kind <;> exact ⟨rfl, rfl, rfl, .inl rfl⟩
  | shut kind socket rest =>
      rw [show Proxy.shared { proxy.shutSocket socket with calls := _ } = proxy.shared from
        (shutSocket_frame proxy socket).1]
      cases kind <;> exact ⟨rfl, rfl, rfl, .inl rfl⟩
  | _ => exact ⟨rfl, rfl, rfl, .inl rfl⟩

/-! ### Steps of the proxy -/

section

variable {proxy next : Proxy} {struck : List ℕ} {id : ℕ}

theorem ClosedInv.accept (inv : ClosedInv (proxy, struck)) {now : ℚ} :
    ClosedInv ({ proxy with conns := proxy.conns ++ [⟨.arriving, {}, none, now⟩] }, struck) := by
  refine ⟨forall_append inv.conns ?_, fun id member => ?_, inv.once, inv.liveOnce, inv.counted, ?_, inv.noReset⟩
  · have unseen : ∀ {ids : List ℕ}, (∀ id, id ∈ ids → id < proxy.conns.length) → proxy.conns.length ∉ ids :=
      fun bound member => Nat.lt_irrefl _ (bound _ member)
    have notStruck := unseen fun id member => inv.known id (.inl member)
    have notLive := unseen fun id member => inv.known id (.inr member)
    exact ⟨⟨fun member => absurd member notLive, nofun⟩, fun member => absurd member notStruck,
      fun _ => ⟨nofun, nofun⟩, nofun, nofun⟩
  · rw [List.length_append]
    exact Nat.lt_add_right _ (inv.known id member)
  · show proxy.shared.counters.accepted = _
    rw [inv.accepted, List.countP_append]
    rfl

theorem ClosedInv.conn (inv : ClosedInv (proxy, struck)) {event : Event} {conn conn' : Conn} {shared' : Shared}
    (here : proxy.conns[id]? = some conn)
    (done : connStep proxy.idleSeconds proxy.now id proxy.shared conn event = some (shared', conn')) :
    ClosedInv ({ proxy with shared := shared', conns := proxy.conns.set id conn' },
      struck ++ conn.place.phase.struckNow id) := by
  have step := connStep_phase done
  have ok := inv.conns id conn here
  have sameGate := (connStep_cases done).1
  have bound := (List.getElem?_eq_some_iff.mp here).1
  have struckNow : ∀ other, other ∈ conn.place.phase.struckNow id → other = id ∧ conn.place.phase = .rejecting := by
    intro other member
    unfold Phase.struckNow at member
    split at member
    · next rejecting => exact ⟨List.mem_singleton.mp member, rejecting⟩
    · cases member
  refine ⟨?_, fun other member => ?_, ?_, step.liveOnce inv.liveOnce ok, ?_, ?_, inv.noReset⟩
  · rw [show shared'.state = proxy.shared.state from sameGate]
    refine forall_set (fun other thread there elsewhere => ?_) (ok.move step)
    refine (inv.conns other thread there).frame ?_ (step.live_of_ne elsewhere)
    rw [List.mem_append]
    exact ⟨fun either => either.elim (fun old => old) fun now => absurd (struckNow other now).1 elsewhere, .inl⟩
  · rw [List.length_set]
    by_cases same : other = id
    · rw [same]
      exact bound
    · refine inv.known other (member.imp (fun inStruck => ?_) (step.live_of_ne same).mp)
      rcases List.mem_append.mp inStruck with old | now
      · exact old
      · exact absurd (struckNow other now).1 same
  · refine inv.once.append ?_ fun other old now => ?_
    · unfold Phase.struckNow
      split
      · exact List.nodup_singleton id
      · exact List.nodup_nil
    · obtain ⟨rfl, rejecting⟩ := struckNow other now
      exact (ok.past old).2.1 rejecting
  · show shared'.counters.closedByCutOff = _
    rw [show shared'.counters.closedByCutOff = _ from step.closed, List.length_append]
    exact congrArg (· + _) inv.counted
  · have moved := countP_set_int (fun other : Conn => other.place.phase.isAccepted) conn' here
    have before : (proxy.shared.counters.accepted : ℤ) = _ := congrArg Nat.cast inv.accepted
    have after : (shared'.counters.accepted : ℤ) = proxy.shared.counters.accepted -
      indicator conn.place.phase.isAccepted + indicator conn'.place.phase.isAccepted := step.accepted
    rw [before, ← moved] at after
    exact_mod_cast after

/-- A call that writes the error gate finds the carried connections in the live set, and no other. -/
theorem ClosedInv.mem_live (inv : ClosedInv (proxy, struck))
    (none : ∀ (other : ℕ) (conn : Conn), proxy.conns[other]? = some conn →
      ∀ cause, conn.place.phase ≠ .leaving cause) (other : ℕ) :
    other ∈ proxy.shared.live ↔ other ∈ carriedIds proxy.conns := by
  refine Iff.trans ?_ mem_positions.symm
  constructor
  · intro member
    obtain ⟨conn, here⟩ : ∃ conn, proxy.conns[other]? = some conn :=
      ⟨_, List.getElem?_eq_getElem (inv.known other (.inr member))⟩
    refine ⟨conn, here, decide_eq_true ?_⟩
    have live := (inv.conns other conn here).live.mp member
    have stays := none other conn here
    cases phase : conn.place.phase with
    | carried => rfl
    | leaving cause => exact absurd phase (stays cause)
    | _ =>
        rw [phase] at live
        cases live
  · rintro ⟨conn, here, carried⟩
    refine (inv.conns other conn here).live.mpr ?_
    rw [of_decide_eq_true carried]
    rfl

theorem ClosedInv.live_length (inv : ClosedInv (proxy, struck))
    (none : ∀ (other : ℕ) (conn : Conn), proxy.conns[other]? = some conn →
      ∀ cause, conn.place.phase ≠ .leaving cause) :
    proxy.shared.live.length = (carriedIds proxy.conns).length :=
  ((List.perm_ext_iff_of_nodup inv.liveOnce (positions_nodup _ _)).mpr (inv.mem_live none)).length_eq

/-- A call that writes the error gate. -/
theorem ClosedInv.strike (inv : ClosedInv (proxy, struck))
    (clear : ∀ (other : ℕ) (conn : Conn), proxy.conns[other]? = some conn →
      conn.place.phase ≠ .entering ∧ (∀ cause, conn.place.phase ≠ .leaving cause) ∧
        (conn.place.phase = .carried → other ∉ struck))
    (other : ℕ) (conn : Conn) (here : proxy.conns[other]? = some conn) :
    ConnOk .error (struck ++ carriedIds proxy.conns) proxy.shared.live other conn.place.phase := by
  have ok := inv.conns other conn here
  obtain ⟨notEntering, notLeaving, -⟩ := clear other conn here
  refine ⟨ok.live, fun member => ?_, fun _ => ⟨notEntering, fun carried => ?_⟩,
    fun cause leaving => absurd leaving (notLeaving cause), fun cause ended why => ?_⟩
  · rcases List.mem_append.mp member with old | now
    · exact ok.past old
    · obtain ⟨found, there, carried⟩ := mem_positions.mp now
      rw [here] at there
      cases there
      rw [of_decide_eq_true carried]
      exact ⟨nofun, nofun, nofun⟩
  · exact List.mem_append_right _ (mem_positions.mpr ⟨conn, here, decide_eq_true carried⟩)
  · exact List.mem_append_left _ (ok.ending cause ended why)

/-- A call that does not write the error gate. -/
theorem ConnOk.ofGate {gate gate' : Gate} {live : List ℕ} {phase : Phase} (ok : ConnOk gate struck live id phase)
    (moved : gate' = gate ∨ gate' ≠ .error) : ConnOk gate' struck live id phase := by
  refine ⟨ok.live, ok.past, fun error => ?_, ok.leaving, ok.ending⟩
  rcases moved with same | opened
  · exact ok.closed (same ▸ error)
  · exact absurd error opened

/-- **A step of a control call.** -/
theorem ClosedInv.control (inv : ClosedInv (proxy, struck)) {call : Call} (here : proxy.calls[id]? = some call)
    (clear : call.strikes = true → ∀ (other : ℕ) (conn : Conn), proxy.conns[other]? = some conn →
      conn.place.phase ≠ .entering ∧ (∀ cause, conn.place.phase ≠ .leaving cause) ∧
        (conn.place.phase = .carried → other ∉ struck))
    (done : proxy.callStep id call = some next) :
    ClosedInv (next, struck ++ if call.strikes then carriedIds proxy.conns else []) := by
  have keeps := inv.noReset call (List.mem_of_getElem? here)
  obtain ⟨sameLive, sameAccepted, closed, gate⟩ := callStep_shared done keeps
  have samePlaces := callStep_map_place done
  have sameLength : next.conns.length = proxy.conns.length := by
    have lengths := congrArg List.length samePlaces
    rwa [List.length_map, List.length_map] at lengths
  have accepted : next.shared.counters.accepted =
      next.conns.countP fun conn => conn.place.phase.isAccepted := by
    have counts := congrArg (List.countP fun place : Place => place.phase.isAccepted) samePlaces
    rw [List.countP_map, List.countP_map] at counts
    rw [sameAccepted, inv.accepted]
    exact counts.symm
  have noReset : ∀ other ∈ next.calls, other.request ≠ .resetCounters := by
    obtain ⟨moved, calls, asked, -⟩ := callStep_calls done
    intro other member
    rw [calls] at member
    rcases List.mem_or_eq_of_mem_set member with old | rfl
    · exact inv.noReset other old
    · exact asked ▸ keeps
  -- A connection has its place from before the call.
  have before : ∀ (other : ℕ) (conn : Conn), next.conns[other]? = some conn →
      ∃ old, proxy.conns[other]? = some old ∧ old.place = conn.place := by
    intro other conn there
    have same := callStep_places done other
    rw [there] at same
    exact Option.map_eq_some_iff.mp same.symm
  cases strikes : call.strikes with
  | false =>
      simp only [strikes, Bool.false_eq_true, if_false, Nat.add_zero, List.append_nil] at closed gate ⊢
      refine ⟨fun other conn there => ?_, fun other member => ?_, inv.once, ?_, ?_, accepted, noReset⟩
      · obtain ⟨old, oldHere, samePlace⟩ := before other conn there
        rw [← samePlace]
        show ConnOk next.shared.state struck next.shared.live other _
        rw [sameLive]
        exact (inv.conns other old oldHere).ofGate gate
      · show other < next.conns.length
        rw [sameLength]
        exact inv.known other (member.imp_right fun live => sameLive ▸ live)
      · exact sameLive ▸ inv.liveOnce
      · exact closed.trans inv.counted
  | true =>
      simp only [strikes, if_true] at closed gate ⊢
      have clear := clear strikes
      refine ⟨fun other conn there => ?_, fun other member => ?_, ?_, ?_, ?_, accepted, noReset⟩
      · obtain ⟨old, oldHere, samePlace⟩ := before other conn there
        rw [← samePlace]
        show ConnOk next.shared.state _ next.shared.live other _
        rw [sameLive, gate]
        exact inv.strike clear other old oldHere
      · show other < next.conns.length
        rw [sameLength]
        rcases member with inStruck | live
        · rcases List.mem_append.mp inStruck with old | now
          · exact inv.known other (.inl old)
          · obtain ⟨conn, there, -⟩ := mem_positions.mp now
            exact (List.getElem?_eq_some_iff.mp there).1
        · exact inv.known other (.inr (sameLive ▸ live))
      · refine inv.once.append (positions_nodup _ _) fun other old now => ?_
        obtain ⟨conn, there, carried⟩ := mem_positions.mp now
        exact (clear other conn there).2.2 (of_decide_eq_true carried) old
      · exact sameLive ▸ inv.liveOnce
      · show next.shared.counters.closedByCutOff = (struck ++ carriedIds proxy.conns).length
        rw [closed, List.length_append, inv.live_length fun other conn there => (clear other conn there).2.1]
        exact congrArg (· + _) inv.counted

end

theorem request_reset {asked : Asked} (asks : asked.request = .ok .resetCounters) : asked = .resetCounters := by
  cases asked with
  | resetCounters => rfl
  | cutOff kind =>
      simp only [Asked.request] at asks
      split at asks
      · cases asks
      · split at asks <;> cases asks
  | setLatency latencyMs =>
      simp only [Asked.request] at asks
      split at asks <;> cases asks
  | _ => cases asks

/-- **One step of the proxy.** -/
theorem step_closed {state next : Proxy × List ℕ} {action : Action}
    (meets : StrikesOnce state action ∧ action ≠ .call .resetCounters)
    (done : noted Proxy.step struckBy state action = some next) (inv : ClosedInv state) : ClosedInv next := by
  obtain ⟨proxy, struck⟩ := state
  obtain ⟨after, later⟩ := next
  obtain ⟨moved, seen⟩ := noted_eq_some.mp done
  dsimp only at moved seen
  subst seen
  cases action with
  | accept =>
      cases moved
      rw [show struckBy proxy .accept = [] from rfl, List.append_nil]
      exact inv.accept
  | conn id event =>
      obtain ⟨conn, here, moved⟩ := Option.bind_eq_some_iff.mp moved
      obtain ⟨⟨shared', conn'⟩, result, rfl⟩ := Option.map_eq_some_iff.mp moved
      rw [struckBy_conn here result]
      exact inv.conn here result
  | call asked =>
      rw [show struckBy proxy (.call asked) = [] from rfl, List.append_nil]
      simp only [Proxy.step] at moved
      split at moved
      · next request asks =>
          cases moved
          refine ⟨inv.conns, inv.known, inv.once, inv.liveOnce, inv.counted, inv.accepted, fun call member => ?_⟩
          rcases List.mem_append.mp member with old | new
          · exact inv.noReset call old
          · rw [List.mem_singleton.mp new]
            intro reset
            rw [show request = .resetCounters from reset] at asks
            exact meets.2 (congrArg Action.call (request_reset asks))
      · cases moved
        exact inv
  | control id =>
      obtain ⟨call, here, moved⟩ := Option.bind_eq_some_iff.mp moved
      have noted : struckBy proxy (.control id) = if call.strikes then carriedIds proxy.conns else [] := by
        simp only [struckBy, here]
      rw [noted]
      exact inv.control here (fun strikes => meets.1 call here strikes) moved
  | tick seconds =>
      rw [show struckBy proxy (.tick seconds) = [] from rfl, List.append_nil]
      simp only [Proxy.step] at moved
      split at moved
      · cases moved
        exact ⟨inv.conns, inv.known, inv.once, inv.liveOnce, inv.counted, inv.accepted, inv.noReset⟩
      · cases moved

/-! ### The start, and the bound -/

theorem new_closed (idleSeconds : ℚ) : ClosedInv (Proxy.new idleSeconds, []) where
  conns := nofun
  known id member := by rcases member with none | none <;> cases none
  once := List.nodup_nil
  liveOnce := List.nodup_nil
  counted := rfl
  accepted := rfl
  noReset := nofun

/-- A struck connection was accepted. -/
theorem ClosedInv.le_accepted {proxy : Proxy} {struck : List ℕ} (inv : ClosedInv (proxy, struck)) :
    proxy.shared.counters.closedByCutOff ≤ proxy.shared.counters.accepted := by
  have counted : proxy.shared.counters.closedByCutOff = struck.length := inv.counted
  have accepted : proxy.shared.counters.accepted = _ := inv.accepted
  rw [counted, accepted, ← length_positions]
  refine (inv.once.subperm fun id member => ?_).length_le
  obtain ⟨conn, here⟩ : ∃ conn, proxy.conns[id]? = some conn :=
    ⟨_, List.getElem?_eq_getElem (inv.known id (.inl member))⟩
  exact mem_positions.mpr ⟨conn, here, decide_eq_true ((inv.conns id conn here).past member).1⟩

end ProviderSimulator.RespProxy
