/-
**What `cut_off` promises.**

For any number of connections and of control calls and any interleaving of their steps:

* the number of running deliveries that the proxy counts is the number of connections between their
  gate check and their closing block (`Inv.delivering_eq`);
* once the locked section of a cut-off has ended, no connection is between its gate check and the end
  of its write, until a restore takes effect (`Inv.quiet`);
* no restore takes effect between the write of the gate by a cut-off and the end of its locked
  section (`CallOk.ended`).

The proof rests on two facts about one step. A step of a connection registers a delivery only through
an open gate (`connStep_cases`). A call that moves the gate holds `_transitions`, and so does a
cut-off that waits, so the gate of a waiting cut-off is the one that it wrote (`CallOk.waits`).
-/

import Mathlib.Tactic.Common
import ProviderSimulator.Lib.Threads
import ProviderSimulator.RespProxy.Model

set_option linter.unusedSectionVars false

namespace ProviderSimulator.RespProxy

open ProviderSimulator.Lib

/-! ### Deliveries -/

/-- Did the delivery pass the gate check, and has it not run its closing block? -/
def Place.counted : Place → Bool
  | .registered .. => true
  | .sending .. => true
  | .delivered .. => true
  | _ => false

/-- Did the delivery pass the gate check, and has its write not ended? -/
def Place.writing : Place → Bool
  | .registered .. => true
  | .sending .. => true
  | _ => false

theorem Place.counted_of_writing {place : Place} (writing : place.writing = true) :
    place.counted = true := by
  cases place with
  | registered => rfl
  | sending => rfl
  | _ => cases writing

/-- The number of deliveries that passed the gate check and have not run their closing block. -/
def deliveries (conns : List Conn) : ℕ := conns.countP fun conn => conn.place.counted

theorem counted_afterPump (source : Side) : (afterPump source).counted = false := by
  cases source <;> rfl

/-- **What a step of a connection does to the deliveries**: nothing; or it registers one, and then
the gate is open; or it closes one. It never moves the gate. -/
theorem connStep_cases {idleSeconds now : ℚ} {id : ℕ} {shared shared' : Shared} {conn conn' : Conn}
    {event : Event} (done : connStep idleSeconds now id shared conn event = some (shared', conn')) :
    shared'.state = shared.state ∧
    ((shared'.delivering = shared.delivering ∧ conn'.place.counted = conn.place.counted) ∨
      (shared.state = .forwarding ∧ shared'.delivering = shared.delivering + 1 ∧
        conn.place.counted = false ∧ conn'.place.counted = true) ∨
      (shared'.delivering = shared.delivering - 1 ∧
        conn.place.counted = true ∧ conn'.place.counted = false)) := by
  obtain ⟨place, down, up, lastActive⟩ := conn
  cases connStep_takes done with
  | register source chunk opened => exact ⟨rfl, .inr (.inl ⟨opened, rfl, rfl, rfl⟩)⟩
  | discount source => exact ⟨rfl, .inr (.inr ⟨rfl, rfl, rfl⟩)⟩
  | discountRaised source => exact ⟨rfl, .inr (.inr ⟨rfl, rfl, rfl⟩)⟩
  | readNothing source => exact ⟨rfl, .inl ⟨rfl, counted_afterPump source⟩⟩
  | stampMoved source => exact ⟨rfl, .inl ⟨rfl, counted_afterPump source⟩⟩
  | _ => exact ⟨rfl, .inl ⟨rfl, rfl⟩⟩

/-- Shutting a socket down moves no thread. -/
theorem deliveries_shutSocket (proxy : Proxy) (socket : ℕ × Side) :
    deliveries (proxy.shutSocket socket).conns = deliveries proxy.conns := by
  unfold Proxy.shutSocket
  split
  · next conn here =>
      have same : (conn.shut socket.2).place = conn.place := by cases socket.2 <;> rfl
      have moved := countP_set_int (fun other : Conn => other.place.counted)
        (conn.shut socket.2) here
      simp only [same, sub_add_cancel, Nat.cast_inj] at moved
      exact moved
  · rfl

/-- Shutting a socket down touches nothing that a lock protects. -/
theorem shutSocket_frame (proxy : Proxy) (socket : ℕ × Side) :
    (proxy.shutSocket socket).shared = proxy.shared ∧
      (proxy.shutSocket socket).transitions = proxy.transitions ∧
      (proxy.shutSocket socket).restores = proxy.restores := by
  unfold Proxy.shutSocket
  split <;> exact ⟨rfl, rfl, rfl⟩

/-- A wait of a cut-off, and its end, touch no connection and nothing that the lock protects. -/
theorem waitForDeliveries_frame (proxy : Proxy) (id : ℕ) (kind : CutOffKind) (live : List ℕ) (wroteAt : Option ℕ) :
    (proxy.waitForDeliveries id kind live wroteAt).conns = proxy.conns ∧
      (proxy.waitForDeliveries id kind live wroteAt).shared = proxy.shared := by
  unfold Proxy.waitForDeliveries Proxy.endLockedSection
  split <;> exact ⟨rfl, rfl⟩

/-- A control call leaves the connections as they are, or shuts a socket of one of them down. -/
theorem callStep_conns {proxy next : Proxy} {id : ℕ} {call : Call}
    (done : proxy.callStep id call = some next) :
    next.conns = proxy.conns ∨ ∃ socket, next.conns = (proxy.shutSocket socket).conns := by
  obtain ⟨request, place, wroteAt, endedAt⟩ := call
  cases callStep_takes done with
  | closeGate kind => exact .inl (waitForDeliveries_frame _ _ _ _ _).1
  | wait kind live => exact .inl (waitForDeliveries_frame _ _ _ _ _).1
  | shut kind socket rest => exact .inr ⟨socket, rfl⟩
  | _ => exact .inl rfl

/-! ### The invariant -/

/-- The gate is closed and no delivery is running. -/
structure Quiet (shared : Shared) : Prop where
  closed : shared.state ≠ .forwarding
  idle : shared.delivering = 0

/-- What is true of one control call, given the holder of `_transitions`, the gate and the number of
restores that took effect. -/
structure CallOk (transitions : Option ℕ) (gate : Gate) (restores id : ℕ) (call : Call) : Prop where
  holds : (call.place = .holding ∨ ∃ live, call.place = .waiting live) → transitions = some id
  waits : ∀ live, call.place = .waiting live →
    call.wroteAt = some restores ∧ ∃ kind, call.request = .cutOff kind ∧ gate = kind.gate
  ended : ∀ mark, call.endedAt = some mark → mark ≤ restores ∧ call.wroteAt = some mark
  finished : ∀ kind, call.request = .cutOff kind →
    (call.place = .returned ∨ ∃ sockets, call.place = .shutting sockets) → call.endedAt ≠ none

/-- The invariant of the proxy. -/
structure Inv (proxy : Proxy) : Prop where
  delivering_eq : proxy.shared.delivering = deliveries proxy.conns
  calls_ok : ∀ (id : ℕ) (call : Call), proxy.calls[id]? = some call →
    CallOk proxy.transitions proxy.shared.state proxy.restores id call
  quiet : ∀ (id : ℕ) (call : Call), proxy.calls[id]? = some call → call.endedAt = some proxy.restores →
    Quiet proxy.shared

theorem new_inv (idleSeconds : ℚ) : Inv (Proxy.new idleSeconds) where
  delivering_eq := rfl
  calls_ok := by simp [Proxy.new]
  quiet := by simp [Proxy.new]

section

variable {proxy next : Proxy} {id : ℕ}

/-- A call that does not hold `_transitions` is untouched by a move of the gate. -/
theorem CallOk.frame {transitions transitions' : Option ℕ} {gate gate' : Gate}
    {restores restores' : ℕ} {call : Call} (ok : CallOk transitions gate restores id call)
    (later : restores ≤ restores')
    (free : transitions = some id →
      transitions' = some id ∧ gate' = gate ∧ restores' = restores) :
    CallOk transitions' gate' restores' id call where
  holds place := (free (ok.holds place)).1
  waits live place := by
    obtain ⟨-, sameGate, sameRestores⟩ := free (ok.holds (.inr ⟨live, place⟩))
    rw [sameGate, sameRestores]
    exact ok.waits live place
  ended mark ended := by
    obtain ⟨before, wrote⟩ := ok.ended mark ended
    exact ⟨before.trans later, wrote⟩
  finished := ok.finished

/-- **A step of a control call** keeps the invariant when the call itself is fine after it, the
deliveries are the same, and only the holder of `_transitions` moved the gate. -/
theorem Inv.moveCall {call : Call} (inv : Inv proxy)
    (calls_eq : next.calls = proxy.calls.set id call)
    (same_deliveries : deliveries next.conns = deliveries proxy.conns)
    (same_count : next.shared.delivering = proxy.shared.delivering)
    (later : proxy.restores ≤ next.restores)
    (free : ∀ other, other ≠ id → proxy.transitions = some other →
      next.transitions = some other ∧ next.shared.state = proxy.shared.state ∧
        next.restores = proxy.restores)
    (ok : CallOk next.transitions next.shared.state next.restores id call)
    (stays_quiet : next.restores = proxy.restores → Quiet proxy.shared → Quiet next.shared)
    (own_quiet : call.endedAt = some next.restores → Quiet next.shared) : Inv next where
  delivering_eq := by rw [same_count, same_deliveries, inv.delivering_eq]
  calls_ok := by
    rw [calls_eq]
    refine forall_set (fun other found here elsewhere => ?_) ok
    exact (inv.calls_ok other found here).frame later (free other elsewhere)
  quiet := by
    rw [calls_eq]
    refine forall_set (fun other found here _ mark => ?_) own_quiet
    have before := ((inv.calls_ok other found here).ended _ mark).1
    have same : next.restores = proxy.restores := le_antisymm before later
    exact stays_quiet same (inv.quiet other found here (same ▸ mark))

/-- A step of a control call that moves neither the gate nor the mark of its own end. -/
theorem Inv.moveCall_of_same_gate {before call : Call} (inv : Inv proxy)
    (here : proxy.calls[id]? = some before) (calls_eq : next.calls = proxy.calls.set id call)
    (same_end : call.endedAt = before.endedAt)
    (same_deliveries : deliveries next.conns = deliveries proxy.conns)
    (same_count : next.shared.delivering = proxy.shared.delivering)
    (same_gate : next.shared.state = proxy.shared.state)
    (same_restores : next.restores = proxy.restores)
    (free : ∀ other, other ≠ id → proxy.transitions = some other → next.transitions = some other)
    (ok : CallOk next.transitions proxy.shared.state proxy.restores id call) : Inv next := by
  have stays_quiet : Quiet proxy.shared → Quiet next.shared := fun quiet =>
    ⟨same_gate ▸ quiet.closed, same_count ▸ quiet.idle⟩
  refine inv.moveCall calls_eq same_deliveries same_count same_restores.ge
    (fun other elsewhere holds => ⟨free other elsewhere holds, same_gate, same_restores⟩) ?_
    (fun _ => stays_quiet) fun ended => ?_
  · rw [same_gate, same_restores]
    exact ok
  · rw [same_end, same_restores] at ended
    exact stays_quiet (inv.quiet id before here ended)

/-- One turn of the wait of `cut_off`, by the holder of `_transitions`, on a gate that it wrote. -/
theorem Inv.waitForDeliveries {kind : CutOffKind} {live : List ℕ} (inv : Inv proxy)
    (holder : proxy.transitions = some id) (wrote : proxy.shared.state = kind.gate) :
    Inv (proxy.waitForDeliveries id kind live (some proxy.restores)) := by
  have free : ∀ other, other ≠ id → proxy.transitions = some other → False := by
    intro other elsewhere holds
    rw [holder] at holds
    exact elsewhere (Option.some.inj holds).symm
  have closed : proxy.shared.state ≠ .forwarding := by
    rw [wrote]
    cases kind <;> exact nofun
  unfold Proxy.waitForDeliveries
  by_cases running : proxy.shared.delivering ≠ 0
  · rw [if_pos running]
    refine inv.moveCall rfl rfl rfl le_rfl (fun other elsewhere holds => ?_) ?_
      (fun _ quiet => quiet) nofun
    · exact (free other elsewhere holds).elim
    · exact ⟨fun _ => holder, fun _ _ => ⟨rfl, kind, rfl, wrote⟩, nofun, by simp⟩
  · rw [if_neg running]
    refine inv.moveCall rfl rfl rfl le_rfl (fun other elsewhere holds => ?_) ?_
      (fun _ quiet => quiet) (fun _ => ⟨closed, not_ne_iff.mp running⟩)
    · exact (free other elsewhere holds).elim
    · refine ⟨by simp, nofun, fun mark ended => ?_, by simp⟩
      cases ended
      exact ⟨le_rfl, rfl⟩

/-- The gate write of `cut_off`, by the holder of `_transitions`. -/
theorem Inv.closeGate (inv : Inv proxy) (kind : CutOffKind) (holder : proxy.transitions = some id)
    {call : Call} (here : proxy.calls[id]? = some call) (place : call.place = .holding) :
    Inv (proxy.closeGate kind) where
  delivering_eq := inv.delivering_eq
  calls_ok other found there := by
    have unmoved : proxy.calls[other]? = some found := there
    have ok := inv.calls_ok other found unmoved
    by_cases same : other = id
    · subst same
      rw [here] at unmoved
      cases unmoved
      refine ⟨ok.holds, fun live waiting => ?_, ok.ended, ok.finished⟩
      rw [place] at waiting
      cases waiting
    · refine ok.frame le_rfl fun holds => ?_
      rw [holder] at holds
      exact absurd (Option.some.inj holds).symm same
  quiet other found there mark := by
    have quiet := inv.quiet other found there mark
    refine ⟨?_, quiet.idle⟩
    show kind.gate ≠ .forwarding
    cases kind <;> exact nofun

/-- **A step of a control call keeps the invariant.** -/
theorem callStep_inv {call : Call} (inv : Inv proxy) (here : proxy.calls[id]? = some call)
    (done : proxy.callStep id call = some next) : Inv next := by
  have ok := inv.calls_ok id call here
  obtain ⟨request, place, wroteAt, endedAt⟩ := call
  cases callStep_takes done with
  | lockCutOff kind unlocked =>
      refine inv.moveCall_of_same_gate here rfl rfl rfl rfl rfl rfl ?_ ⟨fun _ => rfl, nofun, ok.ended, by simp⟩
      simp [unlocked]
  | lockRestore unlocked =>
      refine inv.moveCall_of_same_gate here rfl rfl rfl rfl rfl rfl ?_ ⟨fun _ => rfl, nofun, ok.ended, by simp⟩
      simp [unlocked]
  | closeGate kind =>
      have holder := ok.holds (.inl rfl)
      exact (inv.closeGate kind holder here rfl).waitForDeliveries holder rfl
  | restore =>
      have holder := ok.holds (.inl rfl)
      refine inv.moveCall rfl rfl rfl (Nat.le_succ _) (fun other elsewhere holds => ?_) ?_ ?_ ?_
      · rw [holder] at holds
        exact absurd (Option.some.inj holds).symm elsewhere
      · refine ⟨by simp, nofun, fun mark ended => ?_, nofun⟩
        obtain ⟨before, wrote⟩ := ok.ended mark ended
        exact ⟨Nat.le_succ_of_le before, wrote⟩
      · intro same
        exact absurd same (Nat.succ_ne_self _)
      · intro ended
        exact absurd (ok.ended _ ended).1 (Nat.not_succ_le_self _)
  | wait kind live =>
      obtain ⟨wrote, _, asked, gate⟩ := ok.waits live rfl
      have holder := ok.holds (.inr ⟨live, rfl⟩)
      cases asked
      cases wrote
      exact inv.waitForDeliveries holder gate
  | finish kind =>
      have marked := ok.finished kind rfl (.inr ⟨[], rfl⟩)
      exact inv.moveCall_of_same_gate here rfl rfl rfl rfl rfl rfl (fun _ _ holds => holds)
        ⟨by simp, nofun, ok.ended, fun _ _ _ => marked⟩
  | shut kind socket rest =>
      have marked := ok.finished kind rfl (.inr ⟨socket :: rest, rfl⟩)
      obtain ⟨sameShared, sameTransitions, sameRestores⟩ := shutSocket_frame proxy socket
      refine inv.moveCall_of_same_gate here rfl rfl (deliveries_shutSocket proxy socket)
        (congrArg Shared.delivering sameShared) (congrArg Shared.state sameShared)
        sameRestores (fun _ _ holds => sameTransitions.trans holds)
        ⟨by simp, nofun, ok.ended, fun _ _ _ => marked⟩
  | _ =>
      exact inv.moveCall_of_same_gate here rfl rfl rfl rfl rfl rfl (fun _ _ holds => holds)
        ⟨by simp, nofun, ok.ended, nofun⟩

/-- **A step of a connection keeps the invariant.** -/
theorem connStep_inv {conn conn' : Conn} {shared' : Shared} {event : Event} (inv : Inv proxy)
    (here : proxy.conns[id]? = some conn)
    (done : connStep proxy.idleSeconds proxy.now id proxy.shared conn event =
      some (shared', conn')) :
    Inv { proxy with shared := shared', conns := proxy.conns.set id conn' } := by
  obtain ⟨sameGate, moves⟩ := connStep_cases done
  have counts := countP_set_int (fun other : Conn => other.place.counted) conn' here
  have before : proxy.shared.delivering = _ := inv.delivering_eq
  have delivering_eq : shared'.delivering = deliveries (proxy.conns.set id conn') := by
    unfold deliveries at before ⊢
    rw [counts, ← before]
    rcases moves with ⟨same, place⟩ | ⟨-, more, was, is⟩ | ⟨less, was, is⟩
    · rw [same, place, sub_add_cancel]
    · rw [more, was, is]
      simp [indicator]
    · rw [less, was, is]
      simp [indicator]
  refine ⟨delivering_eq, fun other call there => ?_, fun other call there mark => ?_⟩
  · rw [show shared'.state = proxy.shared.state from sameGate]
    exact inv.calls_ok other call there
  · obtain ⟨closed, idle⟩ := inv.quiet other call there mark
    refine ⟨sameGate ▸ closed, ?_⟩
    show shared'.delivering = 0
    rcases moves with ⟨same, -⟩ | ⟨opened, -⟩ | ⟨-, was, -⟩
    · rw [same, idle]
    · exact absurd opened closed
    · have running : 0 < deliveries proxy.conns :=
        List.countP_pos_iff.mpr ⟨conn, List.mem_of_getElem? here, was⟩
      omega

/-- **One step of the proxy keeps the invariant.** -/
theorem step_inv {action : Action} (inv : Inv proxy) (done : proxy.step action = some next) :
    Inv next := by
  cases action with
  | accept =>
      cases done
      refine ⟨?_, inv.calls_ok, inv.quiet⟩
      show proxy.shared.delivering = deliveries (proxy.conns ++ [_])
      rw [inv.delivering_eq]
      simp [deliveries, Place.counted]
  | conn id event =>
      obtain ⟨conn, here, moved⟩ := Option.bind_eq_some_iff.mp done
      obtain ⟨⟨shared', conn'⟩, result, rfl⟩ := Option.map_eq_some_iff.mp moved
      exact connStep_inv inv here result
  | call asked =>
      simp only [Proxy.step] at done
      split at done
      · cases done
        refine ⟨inv.delivering_eq, ?_, ?_⟩
        · exact forall_append inv.calls_ok ⟨by simp, nofun, nofun, by simp⟩
        · exact forall_append inv.quiet nofun
      · cases done
        exact inv
  | control id =>
      obtain ⟨call, here, moved⟩ := Option.bind_eq_some_iff.mp done
      exact callStep_inv inv here moved
  | tick seconds =>
      simp only [Proxy.step] at done
      split at done
      · cases done
        exact ⟨inv.delivering_eq, inv.calls_ok, inv.quiet⟩
      · cases done

end

/-! ### The promise -/

/-- **The cut-off promise.** After any run of any number of connections and control calls:

1. the count of running deliveries is the number of deliveries that passed the gate check and have not
   run their closing block, and it is not negative;
2. if the locked section of a `cut_off` ended and no restore has taken effect since, no delivery is
   between its gate check and the end of its write, so no write is running and none can start;
3. a `cut_off` that is past its locked section saw no restore take effect between its own write of the
   gate and the end of that section. -/
theorem cut_off_promise (idleSeconds : ℚ) (actions : List Action) (proxy : Proxy)
    (done : run Proxy.step (Proxy.new idleSeconds) actions = some proxy) :
    (proxy.shared.delivering = deliveries proxy.conns ∧ 0 ≤ proxy.shared.delivering) ∧
    (∀ call ∈ proxy.calls, call.endedAt = some proxy.restores →
      ∀ conn ∈ proxy.conns, conn.place.writing = false) ∧
    (∀ call ∈ proxy.calls, ∀ kind, call.request = .cutOff kind →
      (call.place = .returned ∨ ∃ sockets, call.place = .shutting sockets) →
      ∃ mark, call.wroteAt = some mark ∧ call.endedAt = some mark) := by
  have inv : Inv proxy :=
    run_invariant Inv (fun _ _ _ first holds => step_inv holds first) done (new_inv idleSeconds)
  refine ⟨⟨inv.delivering_eq, ?_⟩, fun call member mark conn carried => ?_,
    fun call member kind asked past => ?_⟩
  · rw [inv.delivering_eq]
    exact Int.natCast_nonneg _
  · obtain ⟨id, here⟩ := List.mem_iff_getElem?.mp member
    have idle := (inv.quiet id call here mark).idle
    rw [inv.delivering_eq, Int.natCast_eq_zero] at idle
    have uncounted := List.countP_eq_zero.mp idle conn carried
    by_contra writing
    exact uncounted (Place.counted_of_writing (Bool.not_eq_false _ ▸ writing))
  · obtain ⟨id, here⟩ := List.mem_iff_getElem?.mp member
    have ok := inv.calls_ok id call here
    obtain ⟨mark, ended⟩ := Option.ne_none_iff_exists'.mp (ok.finished kind asked past)
    exact ⟨mark, (ok.ended mark ended).2, ended⟩

/-- A cut-off that waits for one delivery, and answers after the write and its closing block. -/
theorem cut_off_promise_waits :
    let conn (event : Event) : Action := .conn 0 event
    let actions : List Action :=
      [.accept, conn .go, conn .go, conn .go, conn .go, conn (.dial true), conn .go,
        conn (.recv (.chunk 42 [])), conn .go, conn .go, .call (.cutOff "timeout"), .control 0,
        .control 0, .control 0, conn .sendDone, conn .go, .control 0, .control 0]
    ∃ proxy, run Proxy.step (Proxy.new 120) actions = some proxy ∧
      proxy.calls = [⟨.cutOff .timeout, .returned, some 0, some 0⟩] ∧
      proxy.shared.delivering = 0 ∧ ∀ conn ∈ proxy.conns, conn.place.writing = false := by
  intro conn actions
  refine ⟨_, rfl, rfl, rfl, ?_⟩
  exact (cut_off_promise 120 actions _ rfl).2.1 _ (List.mem_singleton.mpr rfl) rfl

end ProviderSimulator.RespProxy
