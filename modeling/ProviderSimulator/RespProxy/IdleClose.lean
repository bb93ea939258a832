/-
**Idle closes under a `timeout` cut-off.**

A connection that moved no byte for too long is given up. The thread reads the gate again under the lock,
and decides to reclaim the connection only if the gate is open; the sockets are shut down later, in the
closing block of `serve`. A cut-off does not wait for the connections that were given up and are not yet
shut down, so it may return between the two. If none is on its way when a `timeout` cut-off returns
(`ReturnsClear`), none is closed for idleness until the gate opens again, since the decision needs an open
gate.

* `connStep_idle` — one step of the thread of a connection;
* `step_heldOpen` — one step of the proxy;
* `no_idle_close` — every run;
* `idle_close_after_cut_off` — a connection that is closed for idleness after the cut-off returned.
-/

import Mathlib.Tactic.Common
import ProviderSimulator.RespProxy.Phase

namespace ProviderSimulator.RespProxy

open ProviderSimulator.Lib

/-- Is the connection given up as idle, and not yet shut down? -/
def Place.idleClosing (place : Place) : Prop := place.phase = .leaving .idle ∨ place.phase = .ending .idle

/-- A `timeout` cut-off that returns while its gate is closed finds no connection that is given up as idle
and not yet shut down. -/
def ReturnsClear (proxy : Proxy) : Action → Prop
  | .control id => ∀ call, proxy.calls[id]? = some call → call.request = .cutOff .timeout →
      call.place = .shutting [] → call.endedAt = some proxy.restores →
        ∀ conn ∈ proxy.conns, ¬ conn.place.idleClosing
  | _ => True

/-- A `timeout` cut-off has returned, and the gate has not been opened since it was closed. -/
structure Held (proxy : Proxy) (call : Call) : Prop where
  member : call ∈ proxy.calls
  request : call.request = .cutOff .timeout
  returned : call.place = .returned
  closed : call.endedAt = some proxy.restores

/-! ### Steps -/

/-- **A connection is given up only through an open gate.** -/
theorem connStep_idle {idleSeconds now : ℚ} {id : ℕ} {shared shared' : Shared} {conn conn' : Conn}
    {event : Event} (done : connStep idleSeconds now id shared conn event = some (shared', conn'))
    (closing : conn'.place.idleClosing) : conn.place.idleClosing ∨ shared.state = .forwarding := by
  have step := connStep_phase done
  unfold Place.idleClosing at closing ⊢
  generalize conn.place.phase = before, shared.tally = tally, shared'.tally = tally' at step ⊢
  generalize conn'.place.phase = after at step closing
  cases step with
  | giveUp carried error idle =>
      rcases closing with given | given
      · cases given
        exact .inr (idle rfl)
      · cases given
  | leave =>
      rcases closing with given | given
      · cases given
      · cases given
        exact .inl (.inl rfl)
  | turnAway => rcases closing with given | given <;> cases given
  | _ => rcases closing with given | given <;> cases given

/-- Only a connection that was given up is closed for idleness. -/
theorem connStep_ended {idleSeconds now : ℚ} {id : ℕ} {shared shared' : Shared} {conn conn' : Conn}
    {event : Event} (done : connStep idleSeconds now id shared conn event = some (shared', conn'))
    (closed : conn'.place.phase = .ended .idle) : conn.place.idleClosing := by
  have step := connStep_phase done
  unfold Place.idleClosing
  generalize conn.place.phase = before, shared.tally = tally, shared'.tally = tally' at step ⊢
  rw [closed] at step
  cases step
  exact .inr rfl

/-- What a run keeps: the invariant of the proxy, and that a `timeout` cut-off that has returned holds each
connection open. -/
structure HeldOpen (proxy : Proxy) : Prop where
  inv : Inv proxy
  clear : ∀ call, Held proxy call → ∀ conn ∈ proxy.conns, ¬ conn.place.idleClosing

/-- **One step of the proxy.** -/
theorem step_heldOpen {proxy next : Proxy} {action : Action} (clear : ReturnsClear proxy action)
    (done : proxy.step action = some next) (held_open : HeldOpen proxy) : HeldOpen next := by
  refine ⟨step_inv held_open.inv done, fun call held conn member closing => ?_⟩
  cases action with
  | accept =>
      cases done
      rcases List.mem_append.mp member with old | new
      · exact held_open.clear call ⟨held.member, held.request, held.returned, held.closed⟩ conn old closing
      · rw [List.mem_singleton.mp new] at closing
        rcases closing with given | given <;> cases given
  | conn id event =>
      obtain ⟨before, here, moved⟩ := Option.bind_eq_some_iff.mp done
      obtain ⟨⟨shared', conn'⟩, result, rfl⟩ := Option.map_eq_some_iff.mp moved
      have clear := held_open.clear call ⟨held.member, held.request, held.returned, held.closed⟩
      rcases List.mem_or_eq_of_mem_set member with old | rfl
      · exact clear conn old closing
      · rcases connStep_idle result closing with given | opened
        · exact clear before (List.mem_of_getElem? here) given
        · obtain ⟨place, there⟩ := List.mem_iff_getElem?.mp held.member
          exact (held_open.inv.quiet place call there held.closed).closed opened
  | call asked =>
      simp only [Proxy.step] at done
      split at done
      · cases done
        rcases List.mem_append.mp held.member with old | new
        · exact held_open.clear call ⟨old, held.request, held.returned, held.closed⟩ conn member closing
        · have returned := held.returned
          rw [List.mem_singleton.mp new] at returned
          cases returned
      · cases done
        exact held_open.clear call held conn member closing
  | control id =>
      obtain ⟨before, here, moved⟩ := Option.bind_eq_some_iff.mp done
      -- The connection had its place before the call moved.
      obtain ⟨position, there⟩ := List.mem_iff_getElem?.mp member
      have same := callStep_places moved position
      rw [there] at same
      obtain ⟨old, oldHere, samePlace⟩ := Option.map_eq_some_iff.mp same.symm
      have oldClosing : old.place.idleClosing := samePlace ▸ closing
      have oldMember := List.mem_of_getElem? oldHere
      obtain ⟨after, calls, asked, restored | ⟨restores, returns⟩⟩ := callStep_calls moved
      · -- A restore ends what every earlier cut-off holds.
        obtain ⟨restore, restores⟩ := restored
        have heldMember := held.member
        rw [calls] at heldMember
        have closed := held.closed
        rw [restores] at closed
        rcases List.mem_or_eq_of_mem_set heldMember with earlier | rfl
        · obtain ⟨place, earlierHere⟩ := List.mem_iff_getElem?.mp earlier
          have early := ((held_open.inv.calls_ok place call earlierHere).ended _ closed).1
          exact absurd early (Nat.not_succ_le_self _)
        · have request := asked.symm.trans held.request
          rw [restore] at request
          cases request
      · have heldMember := held.member
        rw [calls] at heldMember
        have closed := held.closed
        rw [restores] at closed
        rcases List.mem_or_eq_of_mem_set heldMember with earlier | rfl
        · exact held_open.clear call ⟨earlier, held.request, held.returned, closed⟩ old oldMember oldClosing
        · have request := asked.symm.trans held.request
          obtain ⟨place, sameEnd⟩ := returns .timeout request held.returned
          exact clear before here request place (sameEnd ▸ closed) old oldMember oldClosing
  | tick seconds =>
      simp only [Proxy.step] at done
      split at done
      · cases done
        exact held_open.clear call ⟨held.member, held.request, held.returned, held.closed⟩ conn member closing
      · cases done

/-! ### Every run -/

/-- No step shuts a connection down for idleness. -/
def NoIdleClose (proxy : Proxy) : Prop :=
  ∀ action next, proxy.step action = some next → ∀ (id : ℕ) (conn : Conn), next.conns[id]? = some conn →
    conn.place = .ended .idle → ∃ before, proxy.conns[id]? = some before ∧ before.place = .ended .idle

/-- A connection that a step closes for idleness was given up before it. -/
theorem noIdleClose_of_clear {proxy : Proxy} (clear : ∀ conn ∈ proxy.conns, ¬ conn.place.idleClosing) :
    NoIdleClose proxy := by
  intro action next done id conn here ended
  have unmoved : next.conns[id]?.map Conn.place = proxy.conns[id]?.map Conn.place →
      ∃ before, proxy.conns[id]? = some before ∧ before.place = .ended .idle := by
    intro same
    rw [here] at same
    obtain ⟨before, beforeHere, samePlace⟩ := Option.map_eq_some_iff.mp same.symm
    exact ⟨before, beforeHere, samePlace.trans ended⟩
  cases action with
  | accept =>
      cases done
      by_cases old : id < proxy.conns.length
      · exact unmoved (by rw [List.getElem?_append_left old])
      · rw [List.getElem?_append_right (not_lt.mp old), List.getElem?_singleton] at here
        split at here
        · cases here
          cases ended
        · cases here
  | conn other event =>
      obtain ⟨before, beforeHere, moved⟩ := Option.bind_eq_some_iff.mp done
      obtain ⟨⟨shared', conn'⟩, result, rfl⟩ := Option.map_eq_some_iff.mp moved
      by_cases same : other = id
      · subst same
        have bound := (List.getElem?_eq_some_iff.mp beforeHere).1
        rw [List.getElem?_set_self bound] at here
        cases here
        have closed : conn'.place.phase = .ended .idle := congrArg Place.phase ended
        exact absurd (connStep_ended result closed) (clear before (List.mem_of_getElem? beforeHere))
      · exact unmoved (by rw [List.getElem?_set_ne same])
  | call asked =>
      simp only [Proxy.step] at done
      split at done <;> cases done <;> exact unmoved rfl
  | control other =>
      obtain ⟨call, -, moved⟩ := Option.bind_eq_some_iff.mp done
      exact unmoved (callStep_places moved id)
  | tick seconds =>
      simp only [Proxy.step] at done
      split at done
      · cases done
        exact unmoved rfl
      · cases done

/-- **No idle close under a `timeout` cut-off.** In every run whose `timeout` cut-offs return clear, and in
every state that it reaches: if a `timeout` cut-off has returned and no restore took effect since it closed
the gate, no step shuts a connection down for idleness. -/
theorem no_idle_close (idleSeconds : ℚ) (actions : List Action) (proxy : Proxy)
    (clear : MeetsAlong Proxy.step ReturnsClear (Proxy.new idleSeconds) actions)
    (done : run Proxy.step (Proxy.new idleSeconds) actions = some proxy) (call : Call)
    (held : Held proxy call) : NoIdleClose proxy := by
  have held_open : HeldOpen proxy :=
    run_invariant_of_meets HeldOpen ReturnsClear (fun _ _ _ => step_heldOpen) clear done
      ⟨new_inv idleSeconds, fun _ _ _ member => by cases member⟩
  exact noIdleClose_of_clear (held_open.clear call held)

instance (place : Place) : Decidable place.idleClosing := inferInstanceAs (Decidable (_ ∨ _))

/-- No connection is given up as idle while a control call takes a step. -/
def noneClosing (proxy : Proxy) : Action → Bool
  | .control _ => proxy.conns.all fun conn => decide (¬ conn.place.idleClosing)
  | _ => true

theorem returnsClear_of_noneClosing (proxy : Proxy) (action : Action) (none : noneClosing proxy action = true) :
    ReturnsClear proxy action := by
  cases action with
  | control id => exact fun _ _ _ _ _ conn member => of_decide_eq_true (List.all_eq_true.mp none conn member)
  | _ => trivial

/-- A connection that is carried moves no byte for 121 seconds. -/
def silentRun : List Action :=
  let conn (event : Event) : Action := .conn 0 event
  [.accept, conn .go, conn .go, conn .go, conn .go, conn (.dial true), conn .go, conn (.recv .timedOut),
    conn (.recv .timedOut), .tick 121]

/-- It is found idle, a `timeout` cut-off returns before it reads the gate again, and it goes back to its loop. -/
def clearRun : List Action :=
  silentRun ++ [.conn 0 .go, .call (.cutOff "timeout"), .control 0, .control 0, .control 0, .conn 0 .go]

/-- The proxy at the end of that run. -/
def clearProxy : Proxy := (run Proxy.step (Proxy.new 120) clearRun).getD (Proxy.new 120)

/-- The cut-off that has returned. -/
def timeoutReturned : Call := ⟨.cutOff .timeout, .returned, some 0, some 0⟩

/-- **A silent connection under a cut-off stays open.** -/
theorem no_idle_close_silent :
    Held clearProxy timeoutReturned ∧ clearProxy.conns.map Conn.place = [.looping] ∧ NoIdleClose clearProxy := by
  have done : run Proxy.step (Proxy.new 120) clearRun = some clearProxy := by decide +kernel
  have clear : MeetsAlong Proxy.step ReturnsClear (Proxy.new 120) clearRun :=
    meetsAlong_of_check returnsClear_of_noneClosing (by decide +kernel)
  have held : Held clearProxy timeoutReturned := by
    refine ⟨?_, rfl, rfl, ?_⟩
    · decide +kernel
    · decide +kernel
  exact ⟨held, by decide +kernel, no_idle_close 120 clearRun clearProxy clear done timeoutReturned held⟩

/-- A connection that is given up as idle just before a `timeout` cut-off runs. -/
def givenUpRun : List Action :=
  silentRun ++
    [.conn 0 .go, .conn 0 .go, .call (.cutOff "timeout"), .control 0, .control 0, .control 0, .conn 0 .go]

/-- The proxy at the end of that run. -/
def givenUpProxy : Proxy := (run Proxy.step (Proxy.new 120) givenUpRun).getD (Proxy.new 120)

/-- **An idle close after the cut-off returned.** -/
theorem idle_close_after_cut_off :
    ∃ proxy call, run Proxy.step (Proxy.new 120) givenUpRun = some proxy ∧ Held proxy call ∧
      ¬ NoIdleClose proxy := by
  have done : run Proxy.step (Proxy.new 120) givenUpRun = some givenUpProxy := by decide +kernel
  refine ⟨givenUpProxy, timeoutReturned, done, ⟨?_, rfl, rfl, ?_⟩, fun never => ?_⟩
  · decide +kernel
  · decide +kernel
  · have here : givenUpProxy.conns[0]?.map Conn.place = some (.ending .idle) := by decide +kernel
    have closes : ((givenUpProxy.step (.conn 0 .go)).bind fun next => next.conns[0]?).map Conn.place =
        some (.ended .idle) := by decide +kernel
    obtain ⟨conn, found, ended⟩ := Option.map_eq_some_iff.mp closes
    obtain ⟨next, stepped, there⟩ := Option.bind_eq_some_iff.mp found
    obtain ⟨before, beforeHere, was⟩ := never (.conn 0 .go) next stepped 0 conn there ended
    rw [beforeHere] at here
    cases was.symm.trans (Option.some.inj here)

end ProviderSimulator.RespProxy
