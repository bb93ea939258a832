/-
**What the other counters count.**

`accepted`, `carried`, `forwarded` and `closed_when_idle` each count a connection once, at one moment of its life, and
what a connection is later shows whether that moment has come (`Counter.marks`). So between two moments of a run with
no reset of the counters a counter grows by as many connections as came to be marked, whatever the interleaving.

* `Counter.marks` — the connections that a counter counts, read off their places and their dialed sockets;
* `connStep_counter` — **a step moves each counter as it marks its connection**;
* `CountsInv` and `step_counts` — the invariant of a run;
* `proxy_counters_exact` — every run.
-/

import Mathlib.Tactic.Common
import Mathlib.Data.List.Nodup
import Mathlib.Data.List.Perm.Subperm
import ProviderSimulator.RespProxy.ClosedCount

namespace ProviderSimulator.RespProxy

open ProviderSimulator.Lib

/-! ### What is counted -/

/-- The counters that a step of a connection's thread moves, but for `closed_by_cut_off`. -/
inductive Counter
  | accepted
  | carried
  | forwarded
  | closedWhenIdle
  deriving DecidableEq

/-- The value of a counter. -/
def Counter.read (counters : ProxyCounters) : Counter → ℕ
  | .accepted => counters.accepted
  | .carried => counters.carried
  | .forwarded => counters.forwarded
  | .closedWhenIdle => counters.closedWhenIdle

/-- Why the connection left, if it has. -/
def Place.cause : Place → Option Cause
  | .leaving cause => some cause
  | .ending cause => some cause
  | .ended cause => some cause
  | _ => none

/-- The connections that a counter counts: by their place, and whether the store was dialed for them. -/
def Counter.marks (place : Place) (dialed : Bool) : Counter → Bool
  | .accepted => place.phase.isAccepted
  | .carried =>
      match place.phase with
      | .arriving | .rejecting | .entering => false
      | .leaving cause | .ending cause | .ended cause => cause ≠ .errorAtAccept
      | _ => true
  | .forwarded => dialed
  | .closedWhenIdle => place.cause = some .idle

/-- Does the counter count the connection? -/
def Counter.counts (counter : Counter) (conn : Conn) : Bool := counter.marks conn.place conn.upstream.isSome

/-- The connections that a counter counts. -/
def Proxy.tally (proxy : Proxy) (counter : Counter) : ℕ := proxy.conns.countP counter.counts

/-! ### The dialed socket -/

/-- Whether a connection at this place has dialed the store, where the place says so. -/
def Place.wired : Place → Option Bool
  | .arriving | .rejecting | .admitted | .adding | .dialing | .dialed => some false
  | .looping | .holding | .probing => none
  | .leaving cause | .ending cause | .ended cause =>
      if cause = .idle then some true else if cause = .errorAtAccept then some false else none
  | _ => some true

/-- The connection has dialed the store if its place says so. -/
def Conn.Ok (conn : Conn) : Prop := ∀ flag, conn.place.wired = some flag → conn.upstream.isSome = flag

section

variable {idleSeconds now : ℚ} {id : ℕ} {shared shared' : Shared} {conn conn' : Conn} {event : Event}

theorem isSome_receive (conn : Conn) (source : Side) (chunk : List UInt8) :
    (conn.receive source chunk).upstream.isSome = conn.upstream.isSome := by
  cases source <;> simp [Conn.receive]

theorem isSome_send (conn : Conn) (source : Side) (bytes : List UInt8) :
    (conn.send source bytes).upstream.isSome = conn.upstream.isSome := by
  cases source <;> simp [Conn.send]

theorem isSome_shut (conn : Conn) (side : Side) : (conn.shut side).upstream.isSome = conn.upstream.isSome := by
  cases side <;> simp [Conn.shut]

/-- **A step keeps the socket as the place says.** -/
theorem connStep_ok (ok : conn.Ok) (done : connStep idleSeconds now id shared conn event = some (shared', conn')) :
    conn'.Ok := by
  obtain ⟨place, down, up, lastActive⟩ := conn
  have stays : ∀ {next : Place} {stamp : ℚ} {flag : Bool}, place.wired = some flag → next.wired = some flag →
      Conn.Ok ⟨next, down, up, stamp⟩ := by
    intro next stamp flag before after other same
    cases after.symm.trans same
    exact ok flag before
  have free : ∀ {next : Place} {stamp : ℚ}, next.wired = none → Conn.Ok ⟨next, down, up, stamp⟩ := by
    intro next stamp silent flag same
    cases silent.symm.trans same
  have pumps : ∀ source, (afterPump source).wired = some true := by
    intro source
    cases source <;> rfl
  cases connStep_takes done with
  | turnBack closed => exact stays rfl rfl
  | letIn opened => exact stays rfl rfl
  | reject => exact stays rfl rfl
  | prepare => exact stays rfl rfl
  | startDial opened undialed =>
      rintro flag same
      cases same
      exact (congrArg Option.isSome undialed).trans rfl
  | startPump opened dialed =>
      rintro flag same
      cases same
      exact Option.isSome_iff_ne_none.mpr dialed
  | reachable => exact stays rfl rfl
  | forward =>
      rintro flag same
      cases same
      rfl
  | readNothing source => exact stays rfl (pumps source)
  | readRequest first rest =>
      rintro flag same
      cases same
      exact ok true rfl
  | readReply first rest =>
      rintro flag same
      cases same
      exact (isSome_receive _ .upstream _).trans (ok true rfl)
  | sleep chunk => exact stays rfl rfl
  | wake chunk due => exact stays rfl rfl
  | drop source chunk closed => exact stays rfl rfl
  | register source chunk opened => exact stays rfl rfl
  | send source chunk => exact stays rfl rfl
  | raiseEarly source chunk written => exact stays rfl rfl
  | sent source chunk =>
      rintro flag same
      cases same
      exact (isSome_send _ source _).trans (ok true rfl)
  | raiseLate source chunk written =>
      rintro flag same
      cases same
      exact (isSome_send _ source _).trans (ok true rfl)
  | discount source => exact stays rfl rfl
  | stampMoved source => exact stays rfl (pumps source)
  | idle expired => exact stays rfl rfl
  | reclaim opened => exact stays rfl rfl
  | leave cause =>
      intro flag same
      exact ok flag same
  | shut cause =>
      intro flag same
      exact ((isSome_shut _ .upstream).trans (isSome_shut _ .downstream)).trans (ok flag same)
  | _ => exact free rfl

/-- **A step moves each counter as it marks its connection.** -/
theorem connStep_counter (ok : conn.Ok) (done : connStep idleSeconds now id shared conn event = some (shared', conn'))
    (counter : Counter) :
    counter.read shared'.counters + (counter.counts conn).toNat =
      counter.read shared.counters + (counter.counts conn').toNat := by
  obtain ⟨place, down, up, lastActive⟩ := conn
  have same : ∀ {next : Place} {wire : Wire} {other : Option Wire} {stamp : ℚ}, other.isSome = up.isSome →
      next.phase = place.phase → next.cause = place.cause →
      counter.read shared.counters + (counter.counts ⟨place, down, up, lastActive⟩).toNat =
        counter.read shared.counters + (counter.counts ⟨next, wire, other, stamp⟩).toNat := by
    intro next wire other stamp dialed phase cause
    unfold Counter.counts Counter.marks
    dsimp only
    rw [dialed, phase, cause]
  have pumps : ∀ source, (afterPump source).phase = .carried ∧ (afterPump source).cause = none := by
    intro source
    cases source <;> exact ⟨rfl, rfl⟩
  cases connStep_takes done with
  | forward =>
      have undialed : up.isSome = false := ok false rfl
      cases counter with
      | forwarded =>
          show shared.counters.forwarded + 1 + up.isSome.toNat = _
          rw [undialed]
          rfl
      | _ => rfl
  | readNothing source => exact same rfl (pumps source).1 (pumps source).2
  | stampMoved source => exact same rfl (pumps source).1 (pumps source).2
  | readReply first rest => exact same (isSome_receive ⟨_, down, up, lastActive⟩ .upstream _) rfl rfl
  | sent source chunk => cases source <;> exact same (by simp [Conn.send]) rfl rfl
  | raiseLate source chunk written => cases source <;> exact same (by simp [Conn.send]) rfl rfl
  | shut cause =>
      cases counter with
      | forwarded =>
          have unmoved := (isSome_shut _ .upstream).trans (isSome_shut ⟨.ending cause, down, up, lastActive⟩ .downstream)
          exact congrArg (fun dialed => shared.counters.forwarded + Bool.toNat dialed) unmoved.symm
      | _ => rfl
  | leave cause => cases counter <;> cases cause <;> rfl
  | _ => cases counter <;> rfl

/-- **A step of a connection's thread moves no counter down.** -/
theorem connStep_counter_le (done : connStep idleSeconds now id shared conn event = some (shared', conn'))
    (counter : Counter) : counter.read shared.counters ≤ counter.read shared'.counters := by
  obtain ⟨place, down, up, lastActive⟩ := conn
  cases connStep_takes done with
  | turnBack closed => cases counter <;> simp [Counter.read]
  | letIn opened => cases counter <;> simp [Counter.read]
  | reject => cases counter <;> simp [Counter.read]
  | add => cases counter <;> simp [Counter.read]
  | forward => cases counter <;> simp [Counter.read]
  | reclaim opened => cases counter <;> simp [Counter.read]
  | _ => exact Nat.le_refl _

/-- A connection that the store was dialed for was carried, and so on: each counter's connections are the next one's. -/
theorem Conn.Ok.forwarded (ok : conn.Ok) (idle : Counter.counts .closedWhenIdle conn = true) :
    Counter.counts .forwarded conn = true := by
  obtain ⟨place, down, up, lastActive⟩ := conn
  have caused : place.cause = some .idle := of_decide_eq_true idle
  refine ok true ?_
  cases place <;> cases caused <;> rfl

theorem Conn.Ok.carried (ok : conn.Ok) (dialed : Counter.counts .forwarded conn = true) :
    Counter.counts .carried conn = true := by
  obtain ⟨place, down, up, lastActive⟩ := conn
  have undialed : place.wired ≠ some false := by
    intro flag
    have unset : up.isSome = false := ok false flag
    cases unset.symm.trans dialed
  cases place with
  | leaving cause => cases cause <;> first | rfl | exact absurd rfl undialed
  | ending cause => cases cause <;> first | rfl | exact absurd rfl undialed
  | ended cause => cases cause <;> first | rfl | exact absurd rfl undialed
  | _ => first | rfl | exact absurd rfl undialed

theorem counts_accepted (carried : Counter.counts .carried conn = true) : Counter.counts .accepted conn = true := by
  obtain ⟨place, down, up, lastActive⟩ := conn
  cases place <;> first | rfl | cases carried

end

/-! ### The live set -/

section

variable {gate : Gate} {id : ℕ} {phase phase' : Phase} {tally tally' : Tally}

/-- **A step of a connection's thread keeps the live set exact**: its own entry, and each entry once. -/
theorem PhaseStep.live_exact (step : PhaseStep id gate phase tally phase' tally')
    (exactly : id ∈ tally.live ↔ phase.isLive = true) : id ∈ tally'.live ↔ phase'.isLive = true := by
  cases step with
  | add => exact ⟨fun _ => rfl, fun _ => List.mem_append_right _ (List.mem_singleton_self _)⟩
  | leave => simp [Phase.isLive]
  | _ => exact exactly

theorem PhaseStep.live_once (step : PhaseStep id gate phase tally phase' tally') (once : tally.live.Nodup)
    (exactly : id ∈ tally.live ↔ phase.isLive = true) : tally'.live.Nodup := by
  cases step with
  | add =>
      have unseen : id ∉ tally.live := fun member => by cases exactly.mp member
      rw [← List.concat_eq_append]
      exact once.concat unseen
  | leave => exact once.filter _
  | _ => exact once

end

/-! ### Control calls -/

section

variable {proxy next : Proxy} {id : ℕ} {call : Call}

/-- What the counters need of a connection. -/
def Conn.traits (conn : Conn) : Place × Bool := (conn.place, conn.upstream.isSome)

theorem tally_traits (proxy : Proxy) (counter : Counter) :
    proxy.tally counter = (proxy.conns.map Conn.traits).countP fun traits => counter.marks traits.1 traits.2 := by
  rw [List.countP_map]
  rfl

/-- **A control call keeps what the counters count.** -/
theorem callStep_traits (done : proxy.callStep id call = some next) :
    next.conns.map Conn.traits = proxy.conns.map Conn.traits := by
  rcases callStep_conns done with same | ⟨socket, same⟩
  · rw [same]
  · rw [same]
    unfold Proxy.shutSocket
    split
    · next conn here =>
        obtain ⟨bound, value⟩ := List.getElem?_eq_some_iff.mp here
        have kept : (conn.shut socket.2).traits = conn.traits := by
          unfold Conn.traits
          rw [isSome_shut]
          cases socket.2 <;> rfl
        have inside : socket.1 < (proxy.conns.map Conn.traits).length := by simpa using bound
        have before : (proxy.conns.map Conn.traits)[socket.1] = conn.traits := by rw [List.getElem_map, value]
        rw [List.map_set, kept, ← before, List.set_getElem_self]
    · rfl

/-- **A control call moves no counter but by a reset, and never the live set.** -/
theorem callStep_counter (done : proxy.callStep id call = some next) :
    next.shared.live = proxy.shared.live ∧ (call.request ≠ .resetCounters →
      ∀ counter : Counter, counter.read next.shared.counters = counter.read proxy.shared.counters) := by
  obtain ⟨request, place, wroteAt, endedAt⟩ := call
  cases callStep_takes done with
  | resetCounters => exact ⟨rfl, fun keeps => absurd rfl keeps⟩
  | closeGate kind =>
      rw [(waitForDeliveries_frame _ _ _ _ _).2]
      refine ⟨rfl, fun _ counter => ?_⟩
      cases kind <;> cases counter <;> rfl
  | wait kind live =>
      rw [(waitForDeliveries_frame _ _ _ _ _).2]
      exact ⟨rfl, fun _ _ => rfl⟩
  | shut kind socket rest =>
      rw [show Proxy.shared { proxy.shutSocket socket with calls := _ } = proxy.shared from
        (shutSocket_frame proxy socket).1]
      exact ⟨rfl, fun _ _ => rfl⟩
  | _ => exact ⟨rfl, fun _ _ => rfl⟩

end

/-! ### Every run -/

/-- What every run keeps: each connection's socket is as its place says, and the live set holds the connections from
their entry to their leave, each once. -/
structure Sound (proxy : Proxy) : Prop where
  conns : ∀ id conn, proxy.conns[id]? = some conn →
    conn.Ok ∧ (id ∈ proxy.shared.live ↔ conn.place.phase.isLive = true)
  known : ∀ id ∈ proxy.shared.live, id < proxy.conns.length
  once : proxy.shared.live.Nodup

/-- No call resets the counters in this step. -/
def KeepsCounters (proxy : Proxy) : Action → Prop
  | .control id => ∀ call, proxy.calls[id]? = some call → call.request ≠ .resetCounters
  | _ => True

section

variable {proxy next : Proxy} {action : Action}

theorem new_sound (idleSeconds : ℚ) : Sound (Proxy.new idleSeconds) := ⟨nofun, nofun, List.nodup_nil⟩

/-- **One step of the proxy.** -/
theorem step_sound (done : proxy.step action = some next) (sound : Sound proxy) : Sound next := by
  cases action with
  | accept =>
      cases done
      refine ⟨forall_append sound.conns ?_, fun id member => ?_, sound.once⟩
      · have unseen : proxy.conns.length ∉ proxy.shared.live := fun member =>
          Nat.lt_irrefl _ (sound.known _ member)
        exact ⟨fun _ same => by cases same; rfl, fun member => absurd member unseen, nofun⟩
      · rw [List.length_append]
        exact Nat.lt_add_right _ (sound.known id member)
  | conn id event =>
      obtain ⟨conn, here, moved⟩ := Option.bind_eq_some_iff.mp done
      obtain ⟨⟨shared', conn'⟩, result, rfl⟩ := Option.map_eq_some_iff.mp moved
      have phase := connStep_phase result
      obtain ⟨ok, exactly⟩ := sound.conns id conn here
      refine ⟨?_, fun other member => ?_, phase.live_once sound.once exactly⟩
      · refine forall_set (fun other thread there elsewhere => ?_) ⟨connStep_ok ok result, phase.live_exact exactly⟩
        exact ⟨(sound.conns other thread there).1,
          (phase.live_of_ne elsewhere).trans (sound.conns other thread there).2⟩
      · rw [List.length_set]
        by_cases same : other = id
        · rw [same]
          exact (List.getElem?_eq_some_iff.mp here).1
        · exact sound.known other ((phase.live_of_ne same).mp member)
  | call asked =>
      simp only [Proxy.step] at done
      split at done <;> cases done <;> exact ⟨sound.conns, sound.known, sound.once⟩
  | control id =>
      obtain ⟨call, here, moved⟩ := Option.bind_eq_some_iff.mp done
      have traits := callStep_traits moved
      have live := (callStep_counter moved).1
      refine ⟨fun other conn there => ?_, fun other member => ?_, live ▸ sound.once⟩
      · have paired : (proxy.conns.map Conn.traits)[other]? = some conn.traits := by
          rw [← traits, List.getElem?_map, there]
          rfl
        rw [List.getElem?_map] at paired
        obtain ⟨old, oldHere, same⟩ := Option.map_eq_some_iff.mp paired
        obtain ⟨samePlace, sameSocket⟩ := Prod.mk.inj same
        obtain ⟨ok, exactly⟩ := sound.conns other old oldHere
        unfold Conn.Ok
        rw [live, ← samePlace, ← sameSocket]
        exact ⟨ok, exactly⟩
      · have sameLength := congrArg List.length traits
        rw [List.length_map, List.length_map] at sameLength
        rw [sameLength]
        exact sound.known other (live ▸ member)
  | tick seconds =>
      simp only [Proxy.step] at done
      split at done
      · cases done
        exact ⟨sound.conns, sound.known, sound.once⟩
      · cases done

/-- **One step moves each counter as it moves the number of the connections that it counts**, and never down. -/
theorem step_counter (keeps : KeepsCounters proxy action) (done : proxy.step action = some next) (sound : Sound proxy)
    (counter : Counter) :
    counter.read next.shared.counters + proxy.tally counter =
        counter.read proxy.shared.counters + next.tally counter ∧
      counter.read proxy.shared.counters ≤ counter.read next.shared.counters := by
  cases action with
  | accept =>
      cases done
      refine ⟨congrArg _ ?_, Nat.le_refl _⟩
      unfold Proxy.tally
      rw [List.countP_append]
      cases counter <;> rfl
  | conn id event =>
      obtain ⟨conn, here, moved⟩ := Option.bind_eq_some_iff.mp done
      obtain ⟨⟨shared', conn'⟩, result, rfl⟩ := Option.map_eq_some_iff.mp moved
      refine ⟨?_, connStep_counter_le result counter⟩
      have own := connStep_counter (sound.conns id conn here).1 result counter
      have counted := countP_set_add counter.counts conn' here
      unfold Proxy.tally
      dsimp only at own counted ⊢
      omega
  | call asked =>
      simp only [Proxy.step] at done
      split at done <;> cases done <;> exact ⟨rfl, Nat.le_refl _⟩
  | control id =>
      obtain ⟨call, here, moved⟩ := Option.bind_eq_some_iff.mp done
      have same := (callStep_counter moved).2 (keeps call here) counter
      have traits := callStep_traits moved
      rw [tally_traits, tally_traits, traits, same]
      exact ⟨rfl, Nat.le_refl _⟩
  | tick seconds =>
      simp only [Proxy.step] at done
      split at done
      · cases done
        exact ⟨rfl, Nat.le_refl _⟩
      · cases done

end

/-- The connections that were closed when idle were all forwarded, those all carried, and those all accepted. -/
theorem Sound.ordered {proxy : Proxy} (sound : Sound proxy) :
    proxy.tally .closedWhenIdle ≤ proxy.tally .forwarded ∧ proxy.tally .forwarded ≤ proxy.tally .carried ∧
      proxy.tally .carried ≤ proxy.tally .accepted := by
  have ok : ∀ conn ∈ proxy.conns, conn.Ok := by
    intro conn member
    obtain ⟨id, bound, rfl⟩ := List.getElem_of_mem member
    exact (sound.conns id _ (List.getElem?_eq_getElem bound)).1
  refine ⟨List.countP_mono_left fun conn member => ?_, List.countP_mono_left fun conn member => ?_,
    List.countP_mono_left fun conn _ => ?_⟩
  · exact (ok conn member).forwarded
  · exact (ok conn member).carried
  · exact counts_accepted

/-- **What the counters count.** Between two moments of any run of the proxy with no reset of the counters taking
effect between them, each counter grows by as many connections as came to be of its kind, and none goes down. The
kinds are nested, and at every moment the live set holds the carried and the leaving connections, each once. -/
theorem proxy_counters_exact (idleSeconds : ℚ) (before later : List Action) (begun final : Proxy)
    (ran : run Proxy.step (Proxy.new idleSeconds) before = some begun)
    (unreset : MeetsAlong Proxy.step KeepsCounters begun later)
    (done : run Proxy.step begun later = some final) :
    (∀ counter : Counter,
        counter.read final.shared.counters + begun.tally counter =
            counter.read begun.shared.counters + final.tally counter ∧
          counter.read begun.shared.counters ≤ counter.read final.shared.counters) ∧
      (final.tally .closedWhenIdle ≤ final.tally .forwarded ∧ final.tally .forwarded ≤ final.tally .carried ∧
        final.tally .carried ≤ final.tally .accepted) ∧
      final.shared.live.Nodup ∧
      ∀ id, id ∈ final.shared.live ↔
        ∃ conn, final.conns[id]? = some conn ∧ conn.place.phase.isLive = true := by
  have started : Sound begun := run_invariant Sound (fun _ _ _ => step_sound) ran (new_sound idleSeconds)
  -- The counters and the connections they count move together from the first moment on.
  have kept : Sound final ∧ ∀ counter : Counter,
      counter.read final.shared.counters + begun.tally counter =
          counter.read begun.shared.counters + final.tally counter ∧
        counter.read begun.shared.counters ≤ counter.read final.shared.counters := by
    refine run_invariant_of_meets (fun proxy => Sound proxy ∧ ∀ counter : Counter,
      counter.read proxy.shared.counters + begun.tally counter =
          counter.read begun.shared.counters + proxy.tally counter ∧
        counter.read begun.shared.counters ≤ counter.read proxy.shared.counters) KeepsCounters
      ?_ unreset done ⟨started, fun _ => ⟨rfl, Nat.le_refl _⟩⟩
    rintro proxy action next meets stepped ⟨sound, counted⟩
    refine ⟨step_sound stepped sound, fun counter => ?_⟩
    obtain ⟨exactly, grows⟩ := step_counter meets stepped sound counter
    obtain ⟨soFar, grown⟩ := counted counter
    constructor
    · omega
    · exact Nat.le_trans grown grows
  refine ⟨kept.2, kept.1.ordered, kept.1.once, fun id => ⟨fun member => ?_, ?_⟩⟩
  · have there := List.getElem?_eq_getElem (kept.1.known id member)
    exact ⟨_, there, ((kept.1.conns id _ there).2).mp member⟩
  · rintro ⟨conn, there, live⟩
    exact (kept.1.conns id conn there).2.mpr live

/-- A connection that is carried, forwarded and ended by its store, around a reset of the counters. -/
def resetRun : List Action :=
  [.accept, .conn 0 .go, .conn 0 .go, .call .resetCounters, .control 0]

/-- The rest of its life, after the reset. -/
def countedRun : List Action :=
  [.conn 0 .go, .conn 0 .go, .conn 0 (.dial true), .conn 0 .go, .accept, .conn 1 .go, .conn 0 (.recv .closed),
    .conn 0 .go]

/-- The proxy at the end of each part. -/
def countedAt (actions : List Action) : Proxy := (run Proxy.step (Proxy.new 120) actions).getD (Proxy.new 120)

theorem proxy_counters_exact_reset :
    (Counter.carried.read (countedAt (resetRun ++ countedRun)).shared.counters + (countedAt resetRun).tally .carried =
        Counter.carried.read (countedAt resetRun).shared.counters + (countedAt (resetRun ++ countedRun)).tally .carried) ∧
      (countedAt (resetRun ++ countedRun)).shared.counters = { accepted := 1, forwarded := 1, carried := 1 } := by
  have ran : run Proxy.step (Proxy.new 120) resetRun = some (countedAt resetRun) := by decide +kernel
  have done : run Proxy.step (countedAt resetRun) countedRun = some (countedAt (resetRun ++ countedRun)) := by
    decide +kernel
  have unreset : MeetsAlong Proxy.step KeepsCounters (countedAt resetRun) countedRun :=
    ⟨trivial, fun _ _ => ⟨trivial, fun _ _ => ⟨trivial, fun _ _ => ⟨trivial, fun _ _ => ⟨trivial, fun _ _ =>
      ⟨trivial, fun _ _ => ⟨trivial, fun _ _ => ⟨trivial, fun _ _ => trivial⟩⟩⟩⟩⟩⟩⟩⟩
  refine ⟨((proxy_counters_exact 120 resetRun countedRun _ _ ran unreset done).1 .carried).1, ?_⟩
  decide +kernel

end ProviderSimulator.RespProxy
