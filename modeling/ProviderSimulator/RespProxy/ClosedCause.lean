/-
**Which connections the error gate ended.**

A connection can be ended by the gate: it is turned away, its thread reads the error gate, or an error cut-off shuts
down one of its sockets. It can be ended by anything else: its router hangs up, its store is unreachable or fails, a
write raises, the idle limit. What comes first is its fate, and its thread may see it only later. The hang-up is a
step of its own here (`Watched.hangUp`), which the proxy does not see.

`closed_by_cut_off` counts a connection when the gate is written. It is the number of connections that the gate ended
along every run in which each connection that an error cut-off counts is counted once and is then ended by the gate
(`CountsOnce`).

* `endFate` and `fatesOf` — what a step ends, and how;
* `fate` — what ended a connection first, in a history of marks;
* `FateInv` and `step_fate` — a counted connection is ended by the gate, or is still carried;
* `closed_by_cut_off_exact` — every run;
* `closed_by_cut_off_twice` — a connection that is counted twice, and one whose router had hung up.
-/

import Mathlib.Tactic.Common
import ProviderSimulator.RespProxy.ClosedCount

namespace ProviderSimulator.RespProxy

open ProviderSimulator.Lib

/-! ### Fates -/

/-- What ends a connection. -/
inductive Fate
  | gate
  | other
  deriving DecidableEq

/-- What the history keeps of a step. -/
inductive Mark
  /-- The counter counts the connection. -/
  | struck (id : ℕ)
  /-- Something ends the connection. -/
  | ends (id : ℕ) (fate : Fate)
  deriving DecidableEq

/-- A step of the proxy, or of the other ends of its connections. -/
inductive Watched
  | proxy (action : Action)
  /-- The router of a connection hangs up, or its store does. -/
  | hangUp (id : ℕ)

/-- One step, where the proxy does not see a hang-up. -/
def watchedStep (proxy : Proxy) : Watched → Option Proxy
  | .proxy action => proxy.step action
  | .hangUp id => if id < proxy.conns.length then some proxy else none

/-- What ends a connection in a step of its own thread. -/
def endFate (gate : Gate) : Place → Event → Option Fate
  | .rejecting, .go => some .gate
  | .looping, .go => if gate = .error then some .gate else none
  | .probing, .peerGone true => some .other
  | .dialing, .dial false => some .other
  | .pumping _, .recv .failed => some .other
  | .pumping _, .recv .closed => some .other
  | .registered _ _, .sendRaised _ => some .other
  | .sending _ _, .sendRaised _ => some .other
  | .reclaiming, .go => if gate = .forwarding then some .other else none
  | _, _ => none

/-- What ends connections in a step. An error cut-off ends the connection whose socket it shuts down. -/
def fatesOf (proxy : Proxy) : Watched → List Mark
  | .proxy (.conn id event) =>
      match proxy.conns[id]? with
      | some conn => ((endFate proxy.shared.state conn.place event).map (Mark.ends id)).toList
      | none => []
  | .proxy (.control id) =>
      match proxy.calls[id]? with
      | some ⟨_, .shutting ((other, _) :: _), _, _⟩ => [.ends other .gate]
      | _ => []
  | .hangUp id => [.ends id .other]
  | _ => []

/-- The connections that a step counts. -/
def strikesOf (proxy : Proxy) : Watched → List ℕ
  | .proxy action => struckBy proxy action
  | .hangUp _ => []

/-- The marks of a step. -/
def marksOf (proxy : Proxy) (watched : Watched) : List Mark :=
  (strikesOf proxy watched).map Mark.struck ++ fatesOf proxy watched

/-- The connections that a history counts. -/
def struckIds (marks : List Mark) : List ℕ :=
  marks.filterMap fun
    | .struck id => some id
    | .ends _ _ => none

/-- What a mark says of the end of a connection. -/
def Mark.fateOf (id : ℕ) : Mark → Option Fate
  | .ends other fate => if other = id then some fate else none
  | .struck _ => none

/-- **What ended a connection first.** -/
def fate (marks : List Mark) (id : ℕ) : Option Fate := marks.findSome? (Mark.fateOf id)

/-! ### What the counter should count -/

/-- Did the connection end because the gate was in the error state: turned away, or ended by it after its entry? -/
def endedByError (proxy : Proxy) (marks : List Mark) (id : ℕ) : Bool :=
  match (proxy.conns[id]?).map fun conn => conn.place.phase with
  | some (Phase.ended cause) => decide (cause = .errorAtAccept) || decide (fate marks id = some .gate)
  | _ => false

/-- The connections that ended so. -/
def closedConns (proxy : Proxy) (marks : List Mark) : List ℕ :=
  (List.range proxy.conns.length).filter (endedByError proxy marks)

/-- No connection is part way through its accept or its end. -/
def Settled (proxy : Proxy) (marks : List Mark) : Prop :=
  ∀ id conn, proxy.conns[id]? = some conn →
    (∃ cause, conn.place.phase = .ended cause) ∨ (conn.place.phase = .carried ∧ id ∉ struckIds marks)

/-- The condition on a step. A connection that was counted is ended by nothing else before the gate ends it; and an
error cut-off that writes the gate finds no connection that has read the gate and is not yet in the live set, none on
its way out, none that was counted before, and none that something has ended already. -/
def CountsOnce (state : Proxy × List Mark) (watched : Watched) : Prop :=
  (∀ id, Mark.ends id .other ∈ fatesOf state.1 watched → id ∈ struckIds state.2 → fate state.2 id ≠ none) ∧
    match watched with
    | .proxy (.control id) => ∀ call, state.1.calls[id]? = some call → call.strikes = true →
        ∀ (other : ℕ) (conn : Conn), state.1.conns[other]? = some conn →
          conn.place.phase ≠ .entering ∧ (∀ cause, conn.place.phase ≠ .leaving cause) ∧
            (conn.place.phase = .carried → other ∉ struckIds state.2 ∧ fate state.2 other = none)
    | _ => True

/-! ### Marks -/

section

variable (proxy : Proxy) (watched : Watched) (before later : List Mark) (id : ℕ)

@[simp] theorem struckIds_append : struckIds (before ++ later) = struckIds before ++ struckIds later :=
  List.filterMap_append

@[simp] theorem fate_append : fate (before ++ later) id = (fate before id).or (fate later id) :=
  List.findSome?_append

theorem struckIds_fatesOf : struckIds (fatesOf proxy watched) = [] := by
  refine List.filterMap_eq_nil_iff.mpr fun mark member => ?_
  unfold fatesOf at member
  split at member
  · split at member
    · obtain ⟨found, -, rfl⟩ := Option.map_eq_some_iff.mp (Option.mem_toList.mp member)
      rfl
    · cases member
  · split at member
    · rw [List.mem_singleton.mp member]
    · cases member
  · rw [List.mem_singleton.mp member]
  · cases member

theorem struckIds_marksOf : struckIds (marksOf proxy watched) = strikesOf proxy watched := by
  unfold marksOf
  rw [struckIds_append, struckIds_fatesOf, List.append_nil]
  unfold struckIds
  rw [List.filterMap_map]
  exact List.filterMap_some

/-- A connection is ended by no strike. -/
theorem fate_marksOf : fate (marksOf proxy watched) id = fate (fatesOf proxy watched) id := by
  have strikes : fate ((strikesOf proxy watched).map Mark.struck) id = none := by
    refine List.findSome?_eq_none_iff.mpr fun mark member => ?_
    obtain ⟨struck, -, rfl⟩ := List.mem_map.mp member
    rfl
  unfold marksOf
  rw [fate_append, strikes]
  rfl

end

/-- A step that ends one connection, if it does. -/
theorem fate_ends (id other : ℕ) (found : Option Fate) :
    fate (found.map (Mark.ends id)).toList other = if id = other then found else none := by
  cases found with
  | none => exact (ite_self none).symm
  | some value =>
      by_cases same : id = other <;> simp [fate, Mark.fateOf, same]

/-! ### The invariant -/

/-- Has the thread seen that its connection is ended? -/
def Place.seesEnd : Place → Bool
  | .delivered _ succeeded => !succeeded
  | .leaving _ => true
  | .ending _ => true
  | .ended _ => true
  | _ => false

/-- The connection was turned away. -/
def Phase.TurnedAway (phase : Phase) : Prop := phase = .ending .errorAtAccept ∨ phase = .ended .errorAtAccept

/-- What a run keeps of a connection, given what ended it. -/
structure FateOk (struck : List ℕ) (found : Option Fate) (id : ℕ) (place : Place) : Prop where
  counted : id ∈ struck → found = some .gate ∨ place.phase.TurnedAway ∨ (found = none ∧ place.phase = .carried)
  gate : found = some .gate → id ∈ struck
  seen : place.seesEnd = true → found ≠ none

/-- The connections whose sockets a cut-off still shuts down. -/
def Call.reaches (call : Call) : List ℕ :=
  match call.request, call.place with
  | .cutOff .error, .waiting live => live
  | _, .shutting sockets => sockets.map Prod.fst
  | _, _ => []

/-- A call that has not begun reaches no connection. -/
theorem reaches_called (request : Request) (wroteAt endedAt : Option ℕ) :
    (Call.mk request .called wroteAt endedAt).reaches = [] := by
  cases request with
  | cutOff kind => cases kind <;> rfl
  | _ => rfl

/-- The invariant. -/
structure FateInv (state : Proxy × List Mark) : Prop where
  closed : ClosedInv (state.1, struckIds state.2)
  conns : ∀ (id : ℕ) (conn : Conn), state.1.conns[id]? = some conn →
    FateOk (struckIds state.2) (fate state.2 id) id conn.place
  known : ∀ id, fate state.2 id ≠ none → id < state.1.conns.length
  calls : ∀ call ∈ state.1.calls, ∀ id ∈ call.reaches, id ∈ struckIds state.2

/-! ### Steps of a connection -/

section

variable {struck : List ℕ} {found : Option Fate} {id : ℕ} {place : Place}

/-- Something more ends the connection. -/
theorem FateOk.later (ok : FateOk struck found id place) {more : Option Fate}
    (counted : more = some .other → id ∈ struck → found ≠ none) (own : more = some .gate → id ∈ struck) :
    FateOk struck (found.or more) id place := by
  cases found with
  | some fate => exact ok
  | none =>
      rw [Option.none_or]
      cases more with
      | none => exact ok
      | some fate =>
          refine ⟨fun member => ?_, own, fun seen => absurd rfl (ok.seen seen)⟩
          cases fate with
          | gate => exact .inl rfl
          | other => exact absurd rfl (counted rfl member)

/-- More connections are counted, and this one is not. -/
theorem FateOk.frame {struck' : List ℕ} (ok : FateOk struck found id place) (same : id ∈ struck' ↔ id ∈ struck) :
    FateOk struck' found id place :=
  ⟨fun member => ok.counted (same.mp member), fun gate => same.mpr (ok.gate gate), ok.seen⟩

end

/-- **What a step of the thread of a connection says of its end.** -/
structure EndStep (gate : Gate) (place : Place) (event : Event) (place' : Place) : Prop where
  seen : place'.seesEnd = true → place.seesEnd = true ∨ endFate gate place event ≠ none
  byGate : endFate gate place event = some .gate → place = .rejecting ∨ (gate = .error ∧ place.phase = .carried)
  stays : place.phase = .carried → place.seesEnd = false → endFate gate place event = none → place'.phase = .carried
  turned : place = .rejecting ∨ place.phase.TurnedAway → place'.phase.TurnedAway
  rejected : place = .rejecting → endFate gate place event = some .gate

theorem connStep_end {idleSeconds now : ℚ} {id : ℕ} {shared shared' : Shared} {conn conn' : Conn} {event : Event}
    (done : connStep idleSeconds now id shared conn event = some (shared', conn')) :
    EndStep shared.state conn.place event conn'.place := by
  obtain ⟨place, down, up, lastActive⟩ := conn
  cases connStep_takes done with
  | readNothing source =>
      cases source <;> constructor <;> simp [endFate, Place.seesEnd, Place.phase, Phase.TurnedAway, afterPump]
  | stampMoved source =>
      cases source <;> constructor <;> simp [endFate, Place.seesEnd, Place.phase, Phase.TurnedAway, afterPump]
  | _ => constructor <;> simp [endFate, Place.seesEnd, Place.phase, Phase.TurnedAway, *]

/-- **A step of the thread of the connection.** -/
theorem FateOk.move {struck : List ℕ} {found : Option Fate} {id : ℕ} {gate : Gate} {place place' : Place}
    {event : Event} (ok : FateOk struck found id place) (step : EndStep gate place event place')
    (counted : endFate gate place event = some .other → id ∈ struck → found ≠ none)
    (closed : gate = .error → place.phase = .carried → id ∈ struck) :
    FateOk (struck ++ place.phase.struckNow id) (found.or (endFate gate place event)) id place' := by
  have turning : id ∈ place.phase.struckNow id → place = .rejecting := by
    intro member
    unfold Phase.struckNow at member
    split at member
    · next rejecting =>
        cases place <;> first | rfl | cases rejecting
    · cases member
  refine ⟨fun member => ?_, fun gate => ?_, fun seen => ?_⟩
  · rcases List.mem_append.mp member with before | now
    · rcases ok.counted before with gate | turned | ⟨none, carried⟩
      · rw [gate]
        exact .inl rfl
      · exact .inr (.inl (step.turned (.inr turned)))
      · -- The connection was counted, and nothing had ended it yet.
        subst none
        rw [Option.none_or]
        have unseen : place.seesEnd = false := Bool.eq_false_iff.mpr fun seen => ok.seen seen rfl
        cases ends : endFate gate place event with
        | none => exact .inr (.inr ⟨rfl, step.stays carried unseen ends⟩)
        | some fate =>
            cases fate with
            | gate => exact .inl rfl
            | other => exact absurd rfl (counted ends before)
    · exact .inr (.inl (step.turned (.inl (turning now))))
  · cases found with
    | some fate => exact List.mem_append_left _ (ok.gate gate)
    | none =>
        rcases step.byGate gate with rfl | ⟨error, carried⟩
        · exact List.mem_append_right _ (List.mem_singleton_self id)
        · exact List.mem_append_left _ (closed error carried)
  · intro none
    obtain ⟨before, now⟩ := Option.or_eq_none_iff.mp none
    rcases step.seen seen with already | ends
    · exact ok.seen already before
    · exact ends now

/-! ### Steps of the proxy -/

section

variable {proxy next : Proxy} {marks : List Mark} {id : ℕ}

/-- The router of a connection hangs up. -/
theorem FateInv.hangUp (inv : FateInv (proxy, marks)) (bound : id < proxy.conns.length)
    (counted : id ∈ struckIds marks → fate marks id ≠ none) :
    FateInv (proxy, marks ++ [.ends id .other]) := by
  have ends : ∀ other, fate [.ends id .other] other = if id = other then some .other else none :=
    fun other => fate_ends id other (some .other)
  have struck : struckIds (marks ++ [.ends id .other]) = struckIds marks := by
    rw [struckIds_append]
    exact List.append_nil _
  refine ⟨?_, fun other conn here => ?_, fun other found => ?_, fun call member => ?_⟩
  · rw [struck]
    exact inv.closed
  · dsimp only
    rw [struck, fate_append, ends]
    refine (inv.conns other conn here).later (fun lost => ?_) fun cut => ?_
    · split at lost
      · next same => exact same ▸ counted
      · cases lost
    · split at cut <;> cases cut
  · dsimp only at found ⊢
    rw [fate_append, ends] at found
    by_cases same : id = other
    · exact same ▸ bound
    · rw [if_neg same, Option.or_none] at found
      exact inv.known other found
  · dsimp only
    rw [struck]
    exact inv.calls call member

/-- A connection arrives. -/
theorem FateInv.accept (inv : FateInv (proxy, marks)) {now : ℚ} :
    FateInv ({ proxy with conns := proxy.conns ++ [⟨.arriving, {}, none, now⟩] }, marks) := by
  refine ⟨inv.closed.accept, forall_append inv.conns ?_, fun other found => ?_, inv.calls⟩
  · refine ⟨fun member => absurd (inv.closed.known _ (.inl member)) (Nat.lt_irrefl _), fun gate => ?_, nofun⟩
    refine absurd (inv.known proxy.conns.length ?_) (Nat.lt_irrefl _)
    rw [show fate marks proxy.conns.length = some .gate from gate]
    exact Option.some_ne_none _
  · show other < (proxy.conns ++ [_]).length
    rw [List.length_append]
    exact Nat.lt_add_right _ (inv.known other found)

theorem fatesOf_conn {event : Event} {conn : Conn} (here : proxy.conns[id]? = some conn) :
    fatesOf proxy (.proxy (.conn id event)) =
      ((endFate proxy.shared.state conn.place event).map (Mark.ends id)).toList := by
  simp only [fatesOf, here]

/-- A thread of a connection takes a step. -/
theorem FateInv.conn (inv : FateInv (proxy, marks)) {event : Event} {conn conn' : Conn} {shared' : Shared}
    (here : proxy.conns[id]? = some conn)
    (done : connStep proxy.idleSeconds proxy.now id proxy.shared conn event = some (shared', conn'))
    (counted : endFate proxy.shared.state conn.place event = some .other → id ∈ struckIds marks →
      fate marks id ≠ none) :
    FateInv ({ proxy with shared := shared', conns := proxy.conns.set id conn' },
      marks ++ marksOf proxy (.proxy (.conn id event))) := by
  have struck : struckIds (marks ++ marksOf proxy (.proxy (.conn id event))) =
      struckIds marks ++ conn.place.phase.struckNow id := by
    rw [struckIds_append, struckIds_marksOf, ← struckBy_conn here done]
    rfl
  have ends : ∀ other, fate (marks ++ marksOf proxy (.proxy (.conn id event))) other =
      (fate marks other).or (if id = other then endFate proxy.shared.state conn.place event else none) := by
    intro other
    rw [fate_append, fate_marksOf, fatesOf_conn here, fate_ends]
  have bound := (List.getElem?_eq_some_iff.mp here).1
  refine ⟨?_, ?_, fun other found => ?_, fun call member other reached => ?_⟩
  · dsimp only
    rw [struck]
    exact inv.closed.conn here done
  · dsimp only
    rw [struck]
    refine forall_set (fun other thread there elsewhere => ?_) ?_
    · rw [ends, if_neg (Ne.symm elsewhere), Option.or_none]
      refine (inv.conns other thread there).frame ?_
      rw [List.mem_append]
      refine ⟨fun either => either.elim (fun old => old) fun now => ?_, .inl⟩
      unfold Phase.struckNow at now
      split at now
      · exact absurd (List.mem_singleton.mp now) elsewhere
      · cases now
    · rw [ends, if_pos rfl]
      refine (inv.conns id conn here).move (connStep_end done) counted fun error carried => ?_
      exact ((inv.closed.conns id conn here).closed error).2 carried
  · show other < (proxy.conns.set id conn').length
    rw [List.length_set]
    rw [ends] at found
    by_cases same : id = other
    · exact same ▸ bound
    · rw [if_neg same, Option.or_none] at found
      exact inv.known other found
  · rw [struck]
    exact List.mem_append_left _ (inv.calls call member other reached)

/-- What a step of a control call ends: the connection whose socket it shuts down. -/
theorem fatesOf_control {call : Call} (here : proxy.calls[id]? = some call) {other : ℕ} {found : Fate}
    (ends : fate (fatesOf proxy (.proxy (.control id))) other = some found) :
    found = .gate ∧ call.strikes = false ∧ other ∈ call.reaches := by
  obtain ⟨request, place, wroteAt, endedAt⟩ := call
  simp only [fatesOf, here] at ends
  split at ends
  · next socket side rest _ _ shuts =>
      cases shuts
      have same : (if socket = other then some Fate.gate else none) = some found := by
        rw [← ends]
        exact (fate_ends socket other (some .gate)).symm
      split at same
      · next same' =>
          cases same
          refine ⟨rfl, Bool.and_eq_false_imp.mpr fun _ => rfl, ?_⟩
          rw [← same']
          cases request with
          | cutOff kind => cases kind <;> exact List.mem_cons_self
          | _ => exact List.mem_cons_self
      · cases same
  · cases ends

theorem mem_socketsOf {kind : CutOffKind} {live : List ℕ} {other : ℕ}
    (member : other ∈ (socketsOf kind live).map Prod.fst) : kind = .error ∧ other ∈ live := by
  obtain ⟨socket, inside, rfl⟩ := List.mem_map.mp member
  cases kind with
  | timeout => cases inside
  | error =>
      obtain ⟨found, there, one⟩ := List.mem_flatMap.mp inside
      refine ⟨rfl, ?_⟩
      rcases List.mem_pair.mp one with rfl | rfl <;> exact there

/-- A cut-off at its wait, and after it. -/
theorem waitForDeliveries_reaches (proxy : Proxy) (id : ℕ) (kind : CutOffKind) (live : List ℕ)
    (wroteAt : Option ℕ) :
    ∃ moved, (proxy.waitForDeliveries id kind live wroteAt).calls = proxy.calls.set id moved ∧
      ∀ other ∈ moved.reaches, kind = .error ∧ other ∈ live := by
  unfold Proxy.waitForDeliveries Proxy.endLockedSection
  split
  · refine ⟨_, rfl, fun other member => ?_⟩
    cases kind with
    | error => exact ⟨rfl, member⟩
    | timeout => cases member
  · refine ⟨_, rfl, fun other member => ?_⟩
    cases kind <;> exact mem_socketsOf member

/-- **The connections that a control call reaches** were reached before, or are in the live set when it writes the
error gate. -/
theorem callStep_reaches {call : Call} (done : proxy.callStep id call = some next) :
    ∃ moved, next.calls = proxy.calls.set id moved ∧ ∀ other ∈ moved.reaches,
      other ∈ call.reaches ∨ (call.strikes = true ∧ other ∈ proxy.shared.live) := by
  obtain ⟨request, place, wroteAt, endedAt⟩ := call
  cases callStep_takes done with
  | closeGate kind =>
      obtain ⟨moved, calls, reaches⟩ :=
        waitForDeliveries_reaches (proxy.closeGate kind) id kind proxy.shared.live (some proxy.restores)
      refine ⟨moved, calls, fun other member => .inr ?_⟩
      obtain ⟨rfl, live⟩ := reaches other member
      exact ⟨rfl, live⟩
  | wait kind live =>
      obtain ⟨moved, calls, reaches⟩ := waitForDeliveries_reaches proxy id kind live wroteAt
      refine ⟨moved, calls, fun other member => .inl ?_⟩
      obtain ⟨rfl, live⟩ := reaches other member
      exact live
  | shut kind socket rest =>
      refine ⟨_, rfl, fun other member => .inl ?_⟩
      cases kind <;> exact List.mem_cons_of_mem _ member
  | lockCutOff kind => exact ⟨_, rfl, fun _ member => by cases kind <;> cases member⟩
  | finish kind => exact ⟨_, rfl, fun _ member => by cases kind <;> cases member⟩
  | _ => exact ⟨_, rfl, fun _ member => by cases member⟩

/-- A step of a control call that strikes ends no connection. -/
theorem fatesOf_strikes {call : Call} (here : proxy.calls[id]? = some call) (strikes : call.strikes = true)
    (other : ℕ) : fate (fatesOf proxy (.proxy (.control id))) other = none := by
  by_contra ends
  obtain ⟨found, ends⟩ := Option.ne_none_iff_exists'.mp ends
  rw [(fatesOf_control here ends).2.1] at strikes
  cases strikes

/-- A connection, after a step of a control call. It has its place from before. -/
theorem FateInv.control_conn (inv : FateInv (proxy, marks)) {call : Call} (here : proxy.calls[id]? = some call)
    {other : ℕ} {old : Conn} (there : proxy.conns[other]? = some old)
    (clear : call.strikes = true → old.place.phase = .carried → fate marks other = none) :
    FateOk (struckIds marks ++ if call.strikes then carriedIds proxy.conns else [])
      ((fate marks other).or (fate (fatesOf proxy (.proxy (.control id))) other)) other old.place := by
  have ok := inv.conns other old there
  cases strikes : call.strikes with
  | false =>
      rw [if_neg Bool.false_ne_true, List.append_nil]
      refine ok.later (fun lost => ?_) fun cut => ?_
      · cases (fatesOf_control here lost).1
      · exact inv.calls call (List.mem_of_getElem? here) other (fatesOf_control here cut).2.2
  | true =>
      rw [if_pos rfl, fatesOf_strikes here strikes, Option.or_none]
      refine ⟨fun member => ?_, fun gate => List.mem_append_left _ (ok.gate gate), ok.seen⟩
      rcases List.mem_append.mp member with before | now
      · exact ok.counted before
      · obtain ⟨found, same, carried⟩ := mem_positions.mp now
        rw [there] at same
        cases same
        have carries := of_decide_eq_true carried
        exact .inr (.inr ⟨clear strikes carries, carries⟩)

/-- What a step of a control call ends was accepted. -/
theorem FateInv.control_known (inv : FateInv (proxy, marks)) {call : Call} (here : proxy.calls[id]? = some call)
    {other : ℕ} (found : (fate marks other).or (fate (fatesOf proxy (.proxy (.control id))) other) ≠ none) :
    other < proxy.conns.length := by
  cases before : fate marks other with
  | some fate => exact inv.known other (by rw [before]; exact Option.some_ne_none fate)
  | none =>
      rw [before, Option.none_or] at found
      obtain ⟨cut, now⟩ := Option.ne_none_iff_exists'.mp found
      exact inv.closed.known other
        (.inl (inv.calls call (List.mem_of_getElem? here) other (fatesOf_control here now).2.2))

/-- What the control calls reach after a step of one of them was counted. -/
theorem FateInv.control_calls (inv : FateInv (proxy, marks)) {call : Call} (here : proxy.calls[id]? = some call)
    (clear : call.strikes = true → ∀ (other : ℕ) (conn : Conn), proxy.conns[other]? = some conn →
      ∀ cause, conn.place.phase ≠ .leaving cause)
    (done : proxy.callStep id call = some next) {after : Call} (member : after ∈ next.calls) {other : ℕ}
    (reached : other ∈ after.reaches) :
    other ∈ struckIds marks ++ if call.strikes then carriedIds proxy.conns else [] := by
  obtain ⟨moved, calls, reaches⟩ := callStep_reaches done
  rw [calls] at member
  rcases List.mem_or_eq_of_mem_set member with old | rfl
  · exact List.mem_append_left _ (inv.calls after old other reached)
  · rcases reaches other reached with before | ⟨strikes, live⟩
    · exact List.mem_append_left _ (inv.calls call (List.mem_of_getElem? here) other before)
    · rw [if_pos strikes]
      refine List.mem_append_right _ ((inv.closed.mem_live (fun another conn there => ?_) other).mp live)
      exact clear strikes another conn there

/-- A control call takes a step. -/
theorem FateInv.control (inv : FateInv (proxy, marks)) {call : Call} (here : proxy.calls[id]? = some call)
    (clear : call.strikes = true → ∀ (other : ℕ) (conn : Conn), proxy.conns[other]? = some conn →
      conn.place.phase ≠ .entering ∧ (∀ cause, conn.place.phase ≠ .leaving cause) ∧
        (conn.place.phase = .carried → other ∉ struckIds marks ∧ fate marks other = none))
    (done : proxy.callStep id call = some next) :
    FateInv (next, marks ++ marksOf proxy (.proxy (.control id))) := by
  have struck : struckIds (marks ++ marksOf proxy (.proxy (.control id))) =
      struckIds marks ++ if call.strikes then carriedIds proxy.conns else [] := by
    rw [struckIds_append, struckIds_marksOf]
    simp only [strikesOf, struckBy, here]
  have ends : ∀ other, fate (marks ++ marksOf proxy (.proxy (.control id))) other =
      (fate marks other).or (fate (fatesOf proxy (.proxy (.control id))) other) := by
    intro other
    rw [fate_append, fate_marksOf]
  refine ⟨?_, fun other conn there => ?_, fun other found => ?_, fun after member other reached => ?_⟩
  · dsimp only
    rw [struck]
    refine inv.closed.control here (fun strikes other conn there => ?_) done
    obtain ⟨entering, leaving, carried⟩ := clear strikes other conn there
    exact ⟨entering, leaving, fun carries => (carried carries).1⟩
  · obtain ⟨old, oldHere, samePlace⟩ : ∃ old, proxy.conns[other]? = some old ∧ old.place = conn.place := by
      have same := callStep_places done other
      rw [there] at same
      exact Option.map_eq_some_iff.mp same.symm
    dsimp only
    rw [ends, struck, ← samePlace]
    exact inv.control_conn here oldHere fun strikes carries =>
      ((clear strikes other old oldHere).2.2 carries).2
  · have sameLength : next.conns.length = proxy.conns.length := by
      have lengths := congrArg List.length (callStep_map_place done)
      rwa [List.length_map, List.length_map] at lengths
    show other < next.conns.length
    rw [sameLength]
    rw [ends] at found
    exact inv.control_known here found
  · rw [struck]
    exact inv.control_calls here (fun strikes another conn there => (clear strikes another conn there).2.1) done
      member reached

/-- A step by which no connection is counted. -/
theorem FateInv.uncounted (inv : FateInv (proxy, marks)) (action : Action)
    (once : StrikesOnce (proxy, struckIds marks) action) (keeps : action ≠ .call .resetCounters)
    (none_ : struckBy proxy action = []) (moved : proxy.step action = some next) :
    ClosedInv (next, struckIds marks) := by
  have steps : noted Proxy.step struckBy (proxy, struckIds marks) action = some (next, struckIds marks) :=
    noted_eq_some.mpr ⟨moved, by rw [none_, List.append_nil]⟩
  exact step_closed ⟨once, keeps⟩ steps inv.closed

end

/-- **One step.** -/
theorem step_fate {state next : Proxy × List Mark} {watched : Watched}
    (meets : CountsOnce state watched ∧ watched ≠ .proxy (.call .resetCounters))
    (done : noted watchedStep marksOf state watched = some next) (inv : FateInv state) : FateInv next := by
  obtain ⟨proxy, marks⟩ := state
  obtain ⟨after, later⟩ := next
  obtain ⟨moved, seen⟩ := noted_eq_some.mp done
  dsimp only at moved seen
  subst seen
  obtain ⟨⟨counted, clear⟩, keeps⟩ := meets
  cases watched with
  | hangUp id =>
      simp only [watchedStep] at moved
      split at moved
      · next bound =>
          cases moved
          exact inv.hangUp bound (counted id (List.mem_singleton_self _))
      · cases moved
  | proxy action =>
      cases action with
      | accept =>
          cases moved
          rw [show marksOf proxy (.proxy .accept) = [] from rfl, List.append_nil]
          exact inv.accept
      | conn id event =>
          obtain ⟨conn, here, moved⟩ := Option.bind_eq_some_iff.mp moved
          obtain ⟨⟨shared', conn'⟩, result, rfl⟩ := Option.map_eq_some_iff.mp moved
          refine inv.conn here result fun ends => counted id ?_
          rw [fatesOf_conn here, ends]
          exact List.mem_singleton_self _
      | call asked =>
          rw [show marksOf proxy (.proxy (.call asked)) = [] from rfl, List.append_nil]
          have closed := inv.uncounted (.call asked) trivial (fun same => keeps (congrArg _ same)) rfl moved
          simp only [watchedStep, Proxy.step] at moved
          split at moved
          · cases moved
            refine ⟨closed, inv.conns, inv.known, fun call member other reached => ?_⟩
            rcases List.mem_append.mp member with old | new
            · exact inv.calls call old other reached
            · rw [List.mem_singleton.mp new, reaches_called] at reached
              cases reached
          · cases moved
            exact inv
      | control id =>
          obtain ⟨call, here, moved⟩ := Option.bind_eq_some_iff.mp moved
          exact inv.control here (clear call here) moved
      | tick seconds =>
          rw [show marksOf proxy (.proxy (.tick seconds)) = [] from rfl, List.append_nil]
          have closed := inv.uncounted (.tick seconds) trivial Action.noConfusion rfl moved
          simp only [watchedStep, Proxy.step] at moved
          split at moved
          · cases moved
            exact ⟨closed, inv.conns, inv.known, inv.calls⟩
          · cases moved

/-! ### Every run -/

theorem new_fate (idleSeconds : ℚ) : FateInv (Proxy.new idleSeconds, []) := by
  refine ⟨new_closed idleSeconds, fun id conn here => ?_, fun id found => absurd rfl found, fun call member => ?_⟩
  · cases here
  · cases member

/-- When no connection is part way, the counted connections are those that ended because of the gate. -/
theorem FateInv.closedConns {proxy : Proxy} {marks : List Mark} (inv : FateInv (proxy, marks))
    (settled : Settled proxy marks) : (closedConns proxy marks).length = (struckIds marks).length := by
  have once : (RespProxy.closedConns proxy marks).Nodup := List.nodup_range.filter _
  refine ((List.perm_ext_iff_of_nodup once inv.closed.once).mpr fun id => ?_).length_eq
  unfold RespProxy.closedConns endedByError
  rw [List.mem_filter, List.mem_range]
  constructor
  · rintro ⟨bound, ended⟩
    obtain ⟨conn, here⟩ : ∃ conn, proxy.conns[id]? = some conn := ⟨_, List.getElem?_eq_getElem bound⟩
    rw [here] at ended
    cases phase : conn.place.phase with
    | ended cause =>
        simp only [Option.map_some, phase, Bool.or_eq_true, decide_eq_true_eq] at ended
        rcases ended with turned | cut
        · exact (inv.closed.conns id conn here).ending cause (.inr phase) (.inr turned)
        · exact (inv.conns id conn here).gate cut
    | _ => simp [phase] at ended
  · intro member
    have bound := inv.closed.known id (.inl member)
    obtain ⟨conn, here⟩ : ∃ conn, proxy.conns[id]? = some conn := ⟨_, List.getElem?_eq_getElem bound⟩
    refine ⟨bound, ?_⟩
    rcases settled id conn here with ⟨cause, ended⟩ | ⟨-, uncounted⟩
    · rw [here]
      simp only [Option.map_some, ended, Bool.or_eq_true, decide_eq_true_eq]
      rcases (inv.conns id conn here).counted member with cut | turned | ⟨-, carried⟩
      · exact .inr cut
      · rcases turned with going | gone
        · cases going.symm.trans ended
        · cases gone.symm.trans ended
          exact .inl rfl
      · cases carried.symm.trans ended
    · exact absurd member uncounted

/-- **What `closed_by_cut_off` counts.** In every run without `reset_counters` in which each connection that an error
cut-off counts is counted once and is then ended by the gate, the counter never exceeds the accepted connections; and
when no connection is part way through its accept or its end, it is the number of connections that ended because the
gate was in the error state. -/
theorem closed_by_cut_off_exact (idleSeconds : ℚ) (actions : List Watched) (proxy : Proxy) (marks : List Mark)
    (noReset : ∀ action ∈ actions, action ≠ .proxy (.call .resetCounters))
    (once : MeetsAlong (noted watchedStep marksOf) CountsOnce (Proxy.new idleSeconds, []) actions)
    (done : run (noted watchedStep marksOf) (Proxy.new idleSeconds, []) actions = some (proxy, marks)) :
    proxy.shared.counters.closedByCutOff ≤ proxy.shared.counters.accepted ∧
      (Settled proxy marks →
        proxy.shared.counters.closedByCutOff = (closedConns proxy marks).length) := by
  have inv : FateInv (proxy, marks) :=
    run_invariant_of_meets FateInv _ (fun _ _ _ => step_fate) (once.and (meetsAlong_of_mem noReset)) done
      (new_fate idleSeconds)
  refine ⟨inv.closed.le_accepted, fun settled => ?_⟩
  rw [inv.closedConns settled]
  exact inv.closed.counted

/-! ### Runs -/

/-- One connection that is carried and pumped. -/
def carriedRun : List Watched :=
  [.proxy .accept, .proxy (.conn 0 .go), .proxy (.conn 0 .go), .proxy (.conn 0 .go), .proxy (.conn 0 .go),
    .proxy (.conn 0 (.dial true)), .proxy (.conn 0 .go)]

/-- An error cut-off from its call to its return, as the call of a number. -/
def cutOffRun (id : ℕ) : List Watched :=
  .proxy (.call (.cutOff "error")) :: List.replicate 5 (.proxy (.control id))

/-- The read of a socket that is closed, and the end of the connection. -/
def endRun : List Watched := [.proxy (.conn 0 (.recv .closed)), .proxy (.conn 0 .go), .proxy (.conn 0 .go)]

/-- A pumped connection under an error cut-off, and one that arrives after it. -/
def onceRun : List Watched :=
  carriedRun ++ cutOffRun 0 ++ endRun ++ .proxy .accept :: List.replicate 3 (.proxy (.conn 1 .go))

/-- The proxy and the marks at the end of a run. -/
def closedAt (actions : List Watched) : Proxy × List Mark :=
  (run (noted watchedStep marksOf) (Proxy.new 120, []) actions).getD (Proxy.new 120, [])

theorem settled_of_phases {proxy : Proxy} {marks : List Mark} (causes : List Cause)
    (ended : proxy.conns.map (fun conn => conn.place.phase) = causes.map Phase.ended) : Settled proxy marks := by
  intro id conn here
  have member : conn.place.phase ∈ proxy.conns.map fun conn => conn.place.phase :=
    List.mem_map_of_mem (List.mem_of_getElem? here)
  rw [ended] at member
  obtain ⟨cause, -, same⟩ := List.mem_map.mp member
  exact .inl ⟨cause, same.symm⟩

/-- Check the condition on a step. -/
def countsOnceCheck (state : Proxy × List Mark) (watched : Watched) : Bool :=
  ((fatesOf state.1 watched).all fun
    | .ends id .other => decide (id ∉ struckIds state.2) || (fate state.2 id).isSome
    | _ => true) &&
  match watched with
  | .proxy (.control id) => (state.1.calls[id]?).all fun call => !call.strikes ||
      (List.range state.1.conns.length).all fun other => (state.1.conns[other]?).all fun conn =>
        match conn.place.phase with
        | .entering => false
        | .leaving _ => false
        | .carried => decide (other ∉ struckIds state.2) && (fate state.2 other).isNone
        | _ => true
  | _ => true

theorem countsOnce_of_check (state : Proxy × List Mark) (watched : Watched)
    (checked : countsOnceCheck state watched = true) : CountsOnce state watched := by
  obtain ⟨kept, clear⟩ := Bool.and_eq_true_iff.mp checked
  refine ⟨fun id ends counted => ?_, ?_⟩
  · have known := List.all_eq_true.mp kept _ ends
    dsimp only at known
    rw [Bool.or_eq_true, decide_eq_true_eq] at known
    rcases known with uncounted | found
    · exact absurd counted uncounted
    · exact Option.ne_none_iff_isSome.mpr found
  · cases watched with
    | hangUp id => trivial
    | proxy action =>
        cases action with
        | control id =>
            intro call here strikes other conn there
            dsimp only at clear
            rw [here, Option.all_some, strikes, Bool.not_true, Bool.false_or, List.all_eq_true] at clear
            have bound := List.mem_range.mpr (List.getElem?_eq_some_iff.mp there).1
            have free := clear other bound
            rw [there, Option.all_some] at free
            cases phase : conn.place.phase <;> simp_all
        | _ => trivial

/-- The connection that is pumped when the error cut-off comes, and one that arrives after it, are counted once. -/
theorem closed_by_cut_off_exact_once :
    Settled (closedAt onceRun).1 (closedAt onceRun).2 ∧
      (closedAt onceRun).1.shared.counters.closedByCutOff =
        (closedConns (closedAt onceRun).1 (closedAt onceRun).2).length ∧
      (closedAt onceRun).1.shared.counters.closedByCutOff = 2 := by
  have done : run (noted watchedStep marksOf) (Proxy.new 120, []) onceRun =
      some ((closedAt onceRun).1, (closedAt onceRun).2) := by decide +kernel
  have settled : Settled (closedAt onceRun).1 (closedAt onceRun).2 := by
    refine settled_of_phases [.wire, .errorAtAccept] ?_
    decide +kernel
  have once : MeetsAlong (noted watchedStep marksOf) CountsOnce (Proxy.new 120, []) onceRun := by
    refine meetsAlong_of_check countsOnce_of_check ?_
    decide +kernel
  refine ⟨settled, (closed_by_cut_off_exact 120 onceRun _ _ ?_ once done).2 settled, ?_⟩
  · simp [onceRun, carriedRun, cutOffRun, endRun]
  · decide +kernel

/-- **One connection that is counted twice, and one that is counted though its router had hung up.** -/
theorem closed_by_cut_off_twice :
    (∃ proxy marks, run (noted watchedStep marksOf) (Proxy.new 120, [])
        (carriedRun ++ cutOffRun 0 ++ cutOffRun 1 ++ endRun) = some (proxy, marks) ∧
      Settled proxy marks ∧ proxy.shared.counters.closedByCutOff = 2 ∧
      (closedConns proxy marks).length = 1 ∧ proxy.shared.counters.accepted = 1) ∧
    ∃ proxy marks, run (noted watchedStep marksOf) (Proxy.new 120, [])
        (carriedRun ++ [.hangUp 0] ++ cutOffRun 0 ++ endRun) = some (proxy, marks) ∧
      Settled proxy marks ∧ proxy.shared.counters.closedByCutOff = 1 ∧
      (closedConns proxy marks).length = 0 ∧ proxy.shared.counters.accepted = 1 := by
  have twice : run (noted watchedStep marksOf) (Proxy.new 120, [])
      (carriedRun ++ cutOffRun 0 ++ cutOffRun 1 ++ endRun) =
        some ((closedAt (carriedRun ++ cutOffRun 0 ++ cutOffRun 1 ++ endRun)).1,
          (closedAt (carriedRun ++ cutOffRun 0 ++ cutOffRun 1 ++ endRun)).2) := by decide +kernel
  have gone : run (noted watchedStep marksOf) (Proxy.new 120, [])
      (carriedRun ++ [.hangUp 0] ++ cutOffRun 0 ++ endRun) =
        some ((closedAt (carriedRun ++ [.hangUp 0] ++ cutOffRun 0 ++ endRun)).1,
          (closedAt (carriedRun ++ [.hangUp 0] ++ cutOffRun 0 ++ endRun)).2) := by decide +kernel
  refine ⟨⟨_, _, twice, settled_of_phases [.wire] ?_, ?_, ?_, ?_⟩, _, _, gone, settled_of_phases [.wire] ?_, ?_, ?_, ?_⟩
  · decide +kernel
  · decide +kernel
  · decide +kernel
  · decide +kernel
  · decide +kernel
  · decide +kernel
  · decide +kernel
  · decide +kernel

end ProviderSimulator.RespProxy
