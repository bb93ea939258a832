/-
**The life of a connection.**

A connection arrives, is turned away or enters, is carried, and leaves; its sockets are shut down at the
end. `Phase` forgets what a carried connection does meanwhile, and `PhaseStep` is everything that a step of
its thread can do to its phase, to the live set and to the counters of accepted connections and of
connections that a cut-off closed (`connStep_phase`). A control call moves no connection
(`callStep_places`).
-/

import Mathlib.Tactic.Common
import ProviderSimulator.RespProxy.CutOff

namespace ProviderSimulator.RespProxy

open ProviderSimulator.Lib

/-- Where a connection is in its life. -/
inductive Phase
  | arriving
  /-- The gate was in the error state at its arrival. -/
  | rejecting
  /-- The gate was not, and the connection is not yet in the live set. -/
  | entering
  | carried
  | leaving (cause : Cause)
  | ending (cause : Cause)
  | ended (cause : Cause)
  deriving DecidableEq

/-- The phase of a place. -/
def Place.phase : Place → Phase
  | .arriving => .arriving
  | .rejecting => .rejecting
  | .admitted => .entering
  | .adding => .entering
  | .leaving cause => .leaving cause
  | .ending cause => .ending cause
  | .ended cause => .ended cause
  | _ => .carried

/-- What the phases move: two of the counters, and the live set. -/
structure Tally where
  accepted : ℕ
  closedByCutOff : ℕ
  live : List ℕ

/-- The tally of the proxy. -/
def Shared.tally (shared : Shared) : Tally :=
  ⟨shared.counters.accepted, shared.counters.closedByCutOff, shared.live⟩

/-- **What a step of the thread of a connection can do.** -/
inductive PhaseStep (id : ℕ) (gate : Gate) : Phase → Tally → Phase → Tally → Prop
  | reject {tally : Tally} (closed : gate = .error) :
      PhaseStep id gate .arriving tally .rejecting { tally with accepted := tally.accepted + 1 }
  | letIn {tally : Tally} (opened : gate ≠ .error) :
      PhaseStep id gate .arriving tally .entering { tally with accepted := tally.accepted + 1 }
  | turnAway {tally : Tally} :
      PhaseStep id gate .rejecting tally (.ending .errorAtAccept)
        { tally with closedByCutOff := tally.closedByCutOff + 1 }
  | prepare {tally : Tally} : PhaseStep id gate .entering tally .entering tally
  | add {tally : Tally} :
      PhaseStep id gate .entering tally .carried { tally with live := tally.live ++ [id] }
  | carry {tally : Tally} : PhaseStep id gate .carried tally .carried tally
  | giveUp {tally : Tally} {cause : Cause} (carried : cause ≠ .errorAtAccept)
      (error : cause = .errorGate → gate = .error) (idle : cause = .idle → gate = .forwarding) :
      PhaseStep id gate .carried tally (.leaving cause) tally
  | leave {tally : Tally} {cause : Cause} :
      PhaseStep id gate (.leaving cause) tally (.ending cause)
        { tally with live := tally.live.filter (· ≠ id) }
  | close {tally : Tally} {cause : Cause} :
      PhaseStep id gate (.ending cause) tally (.ended cause) tally

theorem phase_afterPump (source : Side) : (afterPump source).phase = .carried := by
  cases source <;> rfl

section

variable {idleSeconds now : ℚ} {id : ℕ} {shared shared' : Shared} {conn conn' : Conn} {event : Event}

/-- **A step of the thread of a connection.** -/
theorem connStep_phase (done : connStep idleSeconds now id shared conn event = some (shared', conn')) :
    PhaseStep id shared.state conn.place.phase shared.tally conn'.place.phase shared'.tally := by
  obtain ⟨place, down, up, lastActive⟩ := conn
  have carry : ∀ next : Place, next.phase = .carried →
      PhaseStep id shared.state .carried shared.tally next.phase shared.tally := by
    intro next carried
    rw [carried]
    exact .carry
  have giveUp : ∀ cause : Cause, cause ≠ .errorAtAccept → cause ≠ .errorGate → cause ≠ .idle →
      PhaseStep id shared.state .carried shared.tally (.leaving cause) shared.tally := fun cause first second third =>
    .giveUp first (fun same => absurd same second) fun same => absurd same third
  cases connStep_takes done with
  | turnBack closed => exact .reject closed
  | letIn opened => exact .letIn opened
  | reject => exact .turnAway
  | prepare => exact .prepare
  | add => exact .add
  | readError closed => exact .giveUp nofun (fun _ => closed) nofun
  | peerGone => exact giveUp .peerGone nofun nofun nofun
  | unreachable => exact giveUp .storeUnreachable nofun nofun nofun
  | readNothing source => exact carry _ (phase_afterPump source)
  | readFailed source => exact giveUp .wire nofun nofun nofun
  | readClosed source => exact giveUp .wire nofun nofun nofun
  | discountRaised source => exact giveUp .wire nofun nofun nofun
  | stampMoved source => exact carry _ (phase_afterPump source)
  | reclaim opened => exact .giveUp nofun nofun fun _ => opened
  | leave cause => exact .leave
  | shut cause => exact .close
  | _ => exact .carry

end

/-! ### Control calls -/

/-- A connection keeps its place while one of its sockets is shut down. -/
theorem shutSocket_place (proxy : Proxy) (socket : ℕ × Side) (id : ℕ) :
    (proxy.shutSocket socket).conns[id]?.map Conn.place = proxy.conns[id]?.map Conn.place := by
  unfold Proxy.shutSocket
  split
  · next conn here =>
      by_cases same : socket.1 = id
      · subst same
        have bound := (List.getElem?_eq_some_iff.mp here).1
        rw [List.getElem?_set_self bound, here]
        cases socket.2 <;> rfl
      · rw [List.getElem?_set_ne same]
  · rfl

/-- **A control call moves no connection.** -/
theorem callStep_places {proxy next : Proxy} {id : ℕ} {call : Call}
    (done : proxy.callStep id call = some next) (other : ℕ) :
    next.conns[other]?.map Conn.place = proxy.conns[other]?.map Conn.place := by
  rcases callStep_conns done with same | ⟨socket, same⟩
  · rw [same]
  · rw [same]
    exact shutSocket_place proxy socket other

theorem callStep_map_place {proxy next : Proxy} {id : ℕ} {call : Call}
    (done : proxy.callStep id call = some next) : next.conns.map Conn.place = proxy.conns.map Conn.place := by
  ext1 other
  rw [List.getElem?_map, List.getElem?_map]
  exact callStep_places done other

/-- What a step of a control call does to the calls: its own is moved, and a cut-off that returns has shut
down every socket that it had to. -/
theorem callStep_calls {proxy next : Proxy} {id : ℕ} {call : Call} (done : proxy.callStep id call = some next) :
    ∃ moved, next.calls = proxy.calls.set id moved ∧ moved.request = call.request ∧
      ((call.request = .restore ∧ next.restores = proxy.restores + 1) ∨
        (next.restores = proxy.restores ∧ ∀ kind, call.request = .cutOff kind → moved.place = .returned →
          call.place = .shutting [] ∧ moved.endedAt = call.endedAt)) := by
  obtain ⟨request, place, wroteAt, endedAt⟩ := call
  have wait : ∀ (other : Proxy) kind live mark, other.calls = proxy.calls → other.restores = proxy.restores →
      ∃ moved, (other.waitForDeliveries id kind live mark).calls = proxy.calls.set id moved ∧
        moved.request = .cutOff kind ∧ moved.place ≠ .returned ∧
        (other.waitForDeliveries id kind live mark).restores = proxy.restores := by
    intro other kind live mark sameCalls sameRestores
    unfold Proxy.waitForDeliveries Proxy.endLockedSection
    split <;> refine ⟨_, by rw [← sameCalls], rfl, ?_, sameRestores⟩ <;> exact nofun
  cases callStep_takes done with
  | lockCutOff kind unlocked => exact ⟨_, rfl, rfl, .inr ⟨rfl, fun _ _ => nofun⟩⟩
  | closeGate kind =>
      obtain ⟨moved, calls, asked, going, restores⟩ :=
        wait (proxy.closeGate kind) kind proxy.shared.live (some proxy.restores) rfl rfl
      exact ⟨moved, calls, asked, .inr ⟨restores, fun _ _ returned => absurd returned going⟩⟩
  | restore => exact ⟨_, rfl, rfl, .inl ⟨rfl, rfl⟩⟩
  | wait kind live =>
      obtain ⟨moved, calls, asked, going, restores⟩ := wait proxy kind live wroteAt rfl rfl
      exact ⟨moved, calls, asked, .inr ⟨restores, fun _ _ returned => absurd returned going⟩⟩
  | finish kind => exact ⟨_, rfl, rfl, .inr ⟨rfl, fun _ _ _ => ⟨rfl, rfl⟩⟩⟩
  | shut kind socket rest =>
      exact ⟨_, rfl, rfl, .inr ⟨(shutSocket_frame proxy socket).2.2, fun _ _ => nofun⟩⟩
  | _ => exact ⟨_, rfl, rfl, .inr ⟨rfl, nofun⟩⟩

end ProviderSimulator.RespProxy
