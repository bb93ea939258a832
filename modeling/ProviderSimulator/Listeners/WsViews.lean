/-
**The connections and the calls, as one registry.**

`WsSubscriptions` has the reader threads of the connections, whose frames register and unregister an id. `WsEmit` has the
calls alone, with the rows that an `emit` writes. Both are views of the one registry of the source.

* `Stands` — the hub has the subscriptions, the marks and the queues of the connections, each `emit` is at the same
  place, and each `unregister` that a connection is in is a call of the hub (`Threads`);
* `step_followed` — **each step of the connections is a run of the hub**, and where no id is removed while an `emit` of it
  is past its test (`Apart`), so it is in the hub;
* `connections_followed` and `connections_quiet` — so a run of the connections has a hub, and one whose steps are all
  apart has a hub that stays quiet.
-/

import Mathlib.Tactic.Common
import ProviderSimulator.Lib.Simulation
import ProviderSimulator.Lib.Threads
import ProviderSimulator.Listeners.WsEmit
import ProviderSimulator.Listeners.WsSubscriptions

set_option linter.unusedSectionVars false

namespace ProviderSimulator.Listeners.WsViews

open ProviderSimulator.Lib
open WsSubscriptions (Connection Emit Frame Place Shared System frameStep putNowait)
open WsEmit (EmitCall Hub Subscription UnregisterCall)

variable {I E : Type} [DecidableEq I]

/-! ### One place in both views -/

/-- The `unregister` that a reader thread is in, past its removal. -/
def unregistering : Place I → Option (UnregisterCall I)
  | .popped id => some ⟨id, .popped⟩
  | .removed id => some ⟨id, .marked⟩
  | .releasePopped id _ => some ⟨id, .popped⟩
  | _ => none

def outcomeOf : WsEmit.EmitAnswer → WsSubscriptions.EmitOutcome
  | .emitted => .emitted
  | .unknown => .unknown
  | .full => .full

/-- A call of `emit` as the connections have it: with its event on the queue it is emitted, whatever its row does. -/
def shown (call : EmitCall I E) : Emit I E :=
  match call.place with
  | .called => .called call.id call.event
  | .found sub => .found call.id call.event sub.outQueue
  | .putting sub => .putting call.id call.event sub.outQueue
  | .queued _ => .answered call.id call.event .emitted
  | .logged => .answered call.id call.event .emitted
  | .answered answer => .answered call.id call.event (outcomeOf answer)

/-- The events on the queue of a connection. -/
def queueOf (connections : List (Connection I E)) (number : ℕ) : List E :=
  (connections[number]?.map fun connection => connection.outQueue.map Prod.snd).getD []

/-- The event is the frame. -/
def bare (_ : Subscription) (event : E) : E := event

/-- The hub without a registry of providers. -/
abbrev hubStep : Hub I E E → WsEmit.Action I E → Option (Hub I E E) := Hub.step none bare

/-! ### The relation -/

/-- The shared stores. -/
structure Stores (shared : Shared I) (hub : Hub I E E) : Prop where
  subs : ∀ id, (hub.subs.get id).map Subscription.outQueue = shared.registry.get id
  closed : ∀ id, id ∈ hub.closed ↔ id ∈ shared.closed
  used : ∀ id ∈ hub.used, id ∈ shared.generated.map Prod.fst
  answered : ∀ number id, (number, some id, true) ∈ shared.answers → .returnedTrue id ∈ hub.seen

/-- The `unregister` of connection `number` is the call `calls number`, and no other call is past a removal and before its
mark. -/
structure Threads (calls : ℕ → ℕ) (connections : List (Connection I E)) (unregisters : List (UnregisterCall I)) :
    Prop where
  working : ∀ (number : ℕ) (connection : Connection I E), connections[number]? = some connection →
    ∀ one, unregistering connection.place = some one → unregisters[calls number]? = some one
  popped : ∀ (call : ℕ) (one : UnregisterCall I), unregisters[call]? = some one → one.place = .popped →
    ∃ (number : ℕ) (connection : Connection I E), connections[number]? = some connection ∧
      unregistering connection.place = some one ∧ calls number = call

/-- **The hub stands for the connections.** -/
structure Stands (system : System I E) (hub : Hub I E E) : Prop where
  inv : WsSubscriptions.Inv system
  stores : Stores system.shared hub
  queues : ∀ number, hub.queues number = queueOf system.connections number
  emits : system.emits = hub.emits.map shown
  threads : ∃ calls, Threads calls system.connections hub.unregisters

theorem start_stands : Stands (System.start : System I E) Hub.start where
  inv := WsSubscriptions.start_inv
  stores := ⟨fun _ => rfl, fun _ => Iff.rfl, nofun, nofun⟩
  queues := fun _ => rfl
  emits := rfl
  threads := ⟨id, by simp [System.start], by simp [Hub.start]⟩

/-- The step does not let a test of `closed` and the removal of the same id overtake each other. -/
def Apart (system : System I E) : WsSubscriptions.Action I E → Prop
  | .emitStep call _ => ∀ id event queue, system.emits[call]? = some (.found id event queue) →
      ∀ connection ∈ system.connections, unregistering connection.place ≠ some ⟨id, .popped⟩
  | .frame number .go => ∀ connection, system.connections[number]? = some connection →
      ∀ id, (connection.place = .owned id ∨ ∃ rest, connection.place = .releasing (id :: rest)) →
        ∀ event queue, .putting id event queue ∉ system.emits
  | _ => True

/-! ### Runs of the hub -/

/-- A run of the hub comes to a state of this kind, and its steps are apart where `apart` holds. -/
def Reaches (hub : Hub I E E) (apart : Prop) (Good : Hub I E E → Prop) : Prop :=
  ∃ actions later, run hubStep hub actions = some later ∧ (apart → MeetsAlong hubStep WsEmit.Apart hub actions) ∧
    Good later

section

variable {hub next : Hub I E E} {apart : Prop} {Good : Hub I E E → Prop}

theorem Reaches.stay (good : Good hub) : Reaches hub apart Good := ⟨[], hub, rfl, fun _ => trivial, good⟩

theorem Reaches.step (action : WsEmit.Action I E) (stepped : hubStep hub action = some next)
    (here : apart → WsEmit.Apart hub action) (later : Reaches next apart Good) : Reaches hub apart Good := by
  obtain ⟨actions, final, ran, kept, good⟩ := later
  refine ⟨action :: actions, final, run_cons_eq_some.mpr ⟨next, stepped, ran⟩, fun holds => ⟨here holds, ?_⟩, good⟩
  intro other found
  cases stepped.symm.trans found
  exact kept holds

end

/-! ### The calls of the connections -/

namespace Threads

variable {calls : ℕ → ℕ} {connections : List (Connection I E)} {unregisters : List (UnregisterCall I)} {number : ℕ}
  {connection moved : Connection I E}

/-- A step in no `unregister`. -/
theorem stay (threads : Threads calls connections unregisters) (here : connections[number]? = some connection)
    (same : unregistering moved.place = unregistering connection.place) :
    Threads calls (connections.set number moved) unregisters where
  working := by
    refine forall_set (fun other thread found _ => threads.working other thread found) fun one is => ?_
    exact threads.working number connection here one (same ▸ is)
  popped call one found place := by
    obtain ⟨other, thread, there, is, call_⟩ := threads.popped call one found place
    by_cases elsewhere : number = other
    · subst elsewhere
      cases here.symm.trans there
      refine ⟨number, moved, List.getElem?_set_self (List.getElem?_eq_some_iff.mp here).1, ?_, call_⟩
      rw [same, is]
    · exact ⟨other, thread, (List.getElem?_set_ne elsewhere).trans there, is, call_⟩

/-- **An `unregister` begins** with its removal. -/
theorem begins (threads : Threads calls connections unregisters) (here : connections[number]? = some connection)
    (before : unregistering connection.place = none) {id : I}
    (now : unregistering moved.place = some ⟨id, .popped⟩) :
    Threads (Function.update calls number unregisters.length) (connections.set number moved)
      (unregisters ++ [⟨id, .popped⟩]) where
  working := by
    refine forall_set (fun other thread found elsewhere one is => ?_) fun one is => ?_
    · have old := threads.working other thread found one is
      rw [Function.update_of_ne elsewhere, List.getElem?_append_left (List.getElem?_eq_some_iff.mp old).1]
      exact old
    · cases now.symm.trans is
      rw [Function.update_self]
      exact List.getElem?_concat_length ..
  popped := by
    have inside := (List.getElem?_eq_some_iff.mp here).1
    refine forall_append (fun call one found place => ?_) fun _ => ?_
    · obtain ⟨other, thread, there, is, call_⟩ := threads.popped call one found place
      have elsewhere : number ≠ other := by
        rintro rfl
        cases here.symm.trans there
        cases before.symm.trans is
      refine ⟨other, thread, (List.getElem?_set_ne elsewhere).trans there, is, ?_⟩
      rw [Function.update_of_ne elsewhere.symm, call_]
    · exact ⟨number, moved, List.getElem?_set_self inside, now, Function.update_self ..⟩

/-- **An `unregister` goes on** after its mark. No other connection is in one of the same id. -/
theorem goesOn (threads : Threads calls connections unregisters) (here : connections[number]? = some connection)
    {old new : UnregisterCall I} (before : unregistering connection.place = some old) (past : new.place ≠ .popped)
    (now : ∀ one, unregistering moved.place = some one → one = new)
    (alone : ∀ (other : ℕ) (thread : Connection I E), connections[other]? = some thread → other ≠ number →
      unregistering thread.place ≠ some old) :
    Threads calls (connections.set number moved) (unregisters.set (calls number) new) where
  working := by
    have call := threads.working number connection here old before
    refine forall_set (fun other thread found elsewhere one is => ?_) fun one is => ?_
    · have working := threads.working other thread found one is
      have apart : calls number ≠ calls other := by
        intro same
        rw [same] at call
        cases call.symm.trans working
        exact alone other thread found elsewhere is
      rw [List.getElem?_set_ne apart]
      exact working
    · rw [now one is]
      exact List.getElem?_set_self (List.getElem?_eq_some_iff.mp call).1
  popped := by
    refine forall_set (fun call one found elsewhere place => ?_) fun place => absurd place past
    obtain ⟨other, thread, there, is, call_⟩ := threads.popped call one found place
    have apart : number ≠ other := by
      rintro rfl
      exact elsewhere call_.symm
    exact ⟨other, thread, (List.getElem?_set_ne apart).trans there, is, call_⟩

theorem connects (threads : Threads calls connections unregisters) :
    Threads calls (connections ++ [⟨[], [], .idle⟩]) unregisters where
  working := forall_append threads.working nofun
  popped call one found place := by
    obtain ⟨number, connection, here, is, call_⟩ := threads.popped call one found place
    exact ⟨number, connection, (List.getElem?_append_left (List.getElem?_eq_some_iff.mp here).1).trans here, is, call_⟩

end Threads

/-- The id of an `unregister` is one of the place. -/
theorem unregistering_mem_ids {place : Place I} {one : UnregisterCall I} (is : unregistering place = some one) :
    one.id ∈ place.ids := by
  cases place with
  | popped id =>
      cases is
      exact List.mem_cons_self
  | removed id =>
      cases is
      exact List.mem_cons_self
  | releasePopped id rest =>
      cases is
      exact List.mem_cons_self
  | _ => cases is

/-! ### The frames -/

section

variable {system : System I E} {hub : Hub I E E} {number : ℕ} {connection moved : Connection I E} {after : Shared I}
  {frame : Frame I} {calls : ℕ → ℕ}

/-- Where a frame step leaves the hub: its queues and its calls of `emit` are as before. -/
structure FrameDone (hub : Hub I E E) (connections : List (Connection I E)) (after : Shared I) (later : Hub I E E) :
    Prop where
  stores : Stores after later
  queues : later.queues = hub.queues
  emits : later.emits = hub.emits
  threads : ∃ calls, Threads calls connections later.unregisters

/-- A step that writes no store and is in no `unregister`. -/
theorem FrameDone.still (stands : Stands system hub) (here : system.connections[number]? = some connection)
    (stores : Stores after hub) (same : unregistering moved.place = unregistering connection.place) :
    FrameDone hub (system.connections.set number moved) after hub := by
  obtain ⟨calls, threads⟩ := stands.threads
  exact ⟨stores, rfl, rfl, calls, threads.stay here same⟩

/-- An answer of false. -/
theorem Stores.refuses {shared : Shared I} (stores : Stores shared hub) (target : Option I) :
    Stores { shared with answers := shared.answers ++ [(number, target, false)] } hub :=
  ⟨stores.subs, stores.closed, stores.used, fun other id member => stores.answered other id (by simpa using member)⟩

theorem Stores.has {shared : Shared I} (stores : Stores shared hub) (id : I) :
    hub.subs.has id = shared.registry.has id := by
  unfold Dict.has
  rw [← stores.subs id, Option.isSome_map]

/-- **A subscribe frame** registers its subscription. -/
theorem subscribe_reaches {apart : Prop} (stands : Stands system hub)
    (here : system.connections[number]? = some connection) {id : I}
    (stepped : frameStep number system.shared connection (.subscribe id) = some (after, moved)) :
    Reaches hub apart (FrameDone hub (system.connections.set number moved) after) := by
  simp only [frameStep] at stepped
  split at stepped
  · next idle =>
      obtain ⟨fresh, stepped⟩ := Option.ite_none_left_eq_some.mp stepped
      cases stepped
      have unused : id ∉ hub.used := fun member => fresh (stands.stores.used id member)
      refine .step (.register id ⟨"", "", "", number⟩) (if_neg unused) (fun _ => trivial) (.stay ?_)
      obtain ⟨calls, threads⟩ := stands.threads
      refine ⟨⟨fun other => ?_, stands.stores.closed, fun other member => ?_, stands.stores.answered⟩, rfl, rfl, calls,
        threads.stay here (by rw [idle]; rfl)⟩
      · change ((hub.subs.set id _).get other).map Subscription.outQueue = (system.registry.set id number).get other
        rw [Dict.get_set, Dict.get_set]
        split
        · rfl
        · exact stands.stores.subs other
      · change other ∈ (system.generated ++ [(id, number)]).map Prod.fst
        rw [List.map_append]
        rcases List.mem_cons.mp member with rfl | old
        · exact List.mem_append_right _ List.mem_cons_self
        · exact List.mem_append_left _ (stands.stores.used other old)
  · cases stepped

/-- **An `unregister` that finds its id**: the call, and its removal. -/
theorem remove_reaches {apart : Prop} {place : Place I} {id : I} (stands : Stands system hub)
    (here : system.connections[number]? = some connection) (known : system.registry.has id = true)
    (before : unregistering connection.place = none) (now : unregistering place = some ⟨id, .popped⟩)
    (apart_ : apart → ∀ event queue, .putting id event queue ∉ system.emits) :
    Reaches hub apart (FrameDone hub (system.connections.set number { connection with place := place })
      { system.shared with registry := system.registry.pop id }) := by
  obtain ⟨calls, threads⟩ := stands.threads
  have found : hub.subs.has id = true := (stands.stores.has id).trans known
  have there : (hub.unregisters ++ [⟨id, .called⟩])[hub.unregisters.length]? = some ⟨id, .called⟩ :=
    List.getElem?_concat_length ..
  have removed : hubStep { hub with unregisters := hub.unregisters ++ [⟨id, .called⟩] }
      (.unregisterStep hub.unregisters.length) =
        some { hub with
          subs := hub.subs.pop id
          unregisters := hub.unregisters ++ [⟨id, .popped⟩]
          seen := hub.seen ++ [.removed id] } := by
    unfold hubStep Hub.step
    dsimp only
    rw [there, Option.bind_some]
    unfold Hub.unregisterStep Hub.moveUnregister
    dsimp only
    rw [if_pos found, List.set_append_right _ _ le_rfl, Nat.sub_self, List.set_cons_zero]
  refine .step (.unregister id) rfl (fun _ => trivial) (.step _ removed (fun holds => ?_) (.stay ?_))
  · intro unregister called _ _ emit among same sub putting
    cases there.symm.trans called
    refine apart_ holds emit.event sub.outQueue ?_
    rw [stands.emits]
    refine List.mem_map.mpr ⟨emit, among, ?_⟩
    unfold shown
    rw [putting]
    exact congrArg (Emit.putting · emit.event sub.outQueue) same
  · refine ⟨⟨fun other => ?_, stands.stores.closed, stands.stores.used, fun other one member => ?_⟩, rfl, rfl, _,
      threads.begins here before now⟩
    · change ((hub.subs.pop id).get other).map Subscription.outQueue = (system.registry.pop id).get other
      rw [Dict.get_pop, Dict.get_pop]
      split
      · rfl
      · exact stands.stores.subs other
    · exact List.mem_append_left _ (stands.stores.answered other one member)

/-- A call past its removal is apart from every test. -/
theorem apart_of_past {hub : Hub I E E} {call : ℕ} {one : UnregisterCall I} (there : hub.unregisters[call]? = some one)
    (past : one.place ≠ .called) : WsEmit.Apart hub (.unregisterStep call : WsEmit.Action I E) := by
  intro unregister here called
  cases there.symm.trans here
  exact absurd called past

theorem marks_eq {call : ℕ} {id : I} (there : hub.unregisters[call]? = some ⟨id, .popped⟩) :
    hubStep hub (.unregisterStep call) =
      some { hub with
        closed := hub.closed ++ [id]
        unregisters := hub.unregisters.set call ⟨id, .marked⟩
        seen := hub.seen ++ [] } := by
  unfold hubStep Hub.step
  dsimp only
  rw [there]
  rfl

theorem returns_eq {call : ℕ} {id : I} (there : hub.unregisters[call]? = some ⟨id, .marked⟩) :
    hubStep hub (.unregisterStep call) =
      some { hub with
        unregisters := hub.unregisters.set call ⟨id, .returned true⟩
        seen := hub.seen ++ [.returnedTrue id] } := by
  unfold hubStep Hub.step
  dsimp only
  rw [there]
  rfl

/-- The ids of two connections differ. -/
theorem Stands.alone (stands : Stands system hub) (here : system.connections[number]? = some connection)
    {one : UnregisterCall I} (is : unregistering connection.place = some one) :
    ∀ (other : ℕ) (thread : Connection I E), system.connections[other]? = some thread → other ≠ number →
      unregistering thread.place ≠ some one := by
  intro other thread there elsewhere same
  have first := (stands.inv.connections other thread there).frame one.id (unregistering_mem_ids same)
  have second := (stands.inv.connections number connection here).frame one.id (unregistering_mem_ids is)
  exact elsewhere (stands.inv.shared.owner_unique first second)

/-- **The mark.** -/
theorem mark_reaches {apart : Prop} {id : I} (stands : Stands system hub)
    (here : system.connections[number]? = some connection) (popped : connection.place = .popped id) :
    Reaches hub apart (FrameDone hub (system.connections.set number { connection with place := .removed id })
      { system.shared with closed := system.closed ++ [id] }) := by
  obtain ⟨calls, threads⟩ := stands.threads
  have is : unregistering connection.place = some ⟨id, .popped⟩ := by rw [popped]; rfl
  have there := threads.working number connection here _ is
  refine .step _ (marks_eq there) (fun _ => apart_of_past there nofun) (.stay ?_)
  refine ⟨⟨stands.stores.subs, fun other => ?_, stands.stores.used, fun other one member => ?_⟩, rfl, rfl, calls,
    threads.goesOn here is nofun (fun one now => (Option.some.inj now).symm) (stands.alone here is)⟩
  · change other ∈ hub.closed ++ [id] ↔ other ∈ system.closed ++ [id]
    rw [List.mem_append, List.mem_append]
    exact or_congr_left (stands.stores.closed other)
  · exact List.mem_append_left _ (stands.stores.answered other one member)

/-- **The answer of true.** -/
theorem return_reaches {apart : Prop} {id : I} {ids : List I} (stands : Stands system hub)
    (here : system.connections[number]? = some connection) (removed : connection.place = .removed id) :
    Reaches hub apart (FrameDone hub
      (system.connections.set number { connection with subscriptionIds := ids, place := .idle })
      { system.shared with answers := system.answers ++ [(number, some id, true)] }) := by
  obtain ⟨calls, threads⟩ := stands.threads
  have is : unregistering connection.place = some ⟨id, .marked⟩ := by rw [removed]; rfl
  have there := threads.working number connection here _ is
  refine .step _ (returns_eq there) (fun _ => apart_of_past there nofun) (.stay ?_)
  refine ⟨⟨stands.stores.subs, stands.stores.closed, stands.stores.used, fun other one member => ?_⟩, rfl, rfl, calls,
    threads.goesOn here is nofun nofun (stands.alone here is)⟩
  rcases List.mem_append.mp member with old | new
  · exact List.mem_append_left _ (stands.stores.answered other one old)
  · cases List.mem_singleton.mp new
    exact List.mem_append_right _ List.mem_cons_self

/-- **The mark in a release**, whose `unregister` returns true to nobody. -/
theorem releaseMark_reaches {apart : Prop} {id : I} {rest : List I} (stands : Stands system hub)
    (here : system.connections[number]? = some connection) (popped : connection.place = .releasePopped id rest) :
    Reaches hub apart (FrameDone hub (system.connections.set number { connection with place := .releasing rest })
      { system.shared with closed := system.closed ++ [id] }) := by
  obtain ⟨calls, threads⟩ := stands.threads
  have is : unregistering connection.place = some ⟨id, .popped⟩ := by rw [popped]; rfl
  have there := threads.working number connection here _ is
  have marked : (hub.unregisters.set (calls number) ⟨id, .marked⟩)[calls number]? = some ⟨id, .marked⟩ :=
    List.getElem?_set_self (List.getElem?_eq_some_iff.mp there).1
  refine .step _ (marks_eq there) (fun _ => apart_of_past there nofun)
    (.step _ (returns_eq marked) (fun _ => apart_of_past marked nofun) (.stay ?_))
  refine ⟨⟨stands.stores.subs, fun other => ?_, stands.stores.used, fun other one member => ?_⟩, rfl, rfl, calls, ?_⟩
  · change other ∈ hub.closed ++ [id] ↔ other ∈ system.closed ++ [id]
    rw [List.mem_append, List.mem_append]
    exact or_congr_left (stands.stores.closed other)
  · exact List.mem_append_left _ (List.mem_append_left _ (stands.stores.answered other one member))
  · dsimp only
    rw [List.set_set]
    exact threads.goesOn here is nofun nofun (stands.alone here is)

/-- **A step inside a frame, or of the release.** -/
theorem go_reaches (stands : Stands system hub) (here : system.connections[number]? = some connection)
    (stepped : frameStep number system.shared connection .go = some (after, moved)) :
    Reaches hub (Apart system (.frame number .go)) (FrameDone hub (system.connections.set number moved) after) := by
  have stores := stands.stores
  simp only [frameStep] at stepped
  split at stepped
  · next id place =>
      cases stepped
      exact .stay (.still stands here stores (by rw [place]; rfl))
  · next id place =>
      split at stepped
      · next known =>
          cases stepped
          exact remove_reaches stands here known (by rw [place]; rfl) rfl fun apart =>
            apart connection here id (.inl place)
      · cases stepped
        exact .stay (.still stands here (stores.refuses (some id)) (by rw [place]; rfl))
  · next id place =>
      cases stepped
      exact mark_reaches stands here place
  · next id place =>
      cases stepped
      exact return_reaches stands here place
  · next place =>
      cases stepped
      exact .stay (.still stands here stores (by rw [place]; rfl))
  · next id rest place =>
      split at stepped
      · next known =>
          cases stepped
          exact remove_reaches stands here known (by rw [place]; rfl) rfl fun apart =>
            apart connection here id (.inr ⟨rest, place⟩)
      · cases stepped
        exact .stay (.still stands here stores (by rw [place]; rfl))
  · next id rest place =>
      cases stepped
      exact releaseMark_reaches stands here place
  · cases stepped

/-- **A step of a reader thread.** -/
theorem frame_reaches (stands : Stands system hub) (here : system.connections[number]? = some connection)
    (stepped : frameStep number system.shared connection frame = some (after, moved)) :
    Reaches hub (Apart system (.frame number frame)) (FrameDone hub (system.connections.set number moved) after) := by
  cases frame with
  | subscribe id => exact subscribe_reaches stands here stepped
  | go => exact go_reaches stands here stepped
  | unsubscribe target =>
      simp only [frameStep] at stepped
      split at stepped
      · next id place =>
          split at stepped
          · cases stepped
            exact .stay (.still stands here stands.stores (by rw [place]; rfl))
          · cases stepped
            exact .stay (.still stands here (stands.stores.refuses (some id)) rfl)
      · cases stepped
        exact .stay (.still stands here (stands.stores.refuses none) rfl)
      · cases stepped
  | release =>
      simp only [frameStep] at stepped
      split at stepped
      · next place =>
          cases stepped
          exact .stay (.still stands here stands.stores (by rw [place]; rfl))
      · cases stepped

end

/-! ### The queues -/

section

variable {connections : List (Connection I E)} {number : ℕ} {connection moved : Connection I E}

theorem queueOf_set (here : connections[number]? = some connection) (new : Connection I E) :
    queueOf (connections.set number new) =
      Function.update (queueOf connections) number (new.outQueue.map Prod.snd) := by
  funext other
  unfold queueOf
  by_cases same : other = number
  · subst same
    rw [List.getElem?_set_self (List.getElem?_eq_some_iff.mp here).1, Function.update_self]
    rfl
  · rw [List.getElem?_set_ne (Ne.symm same), Function.update_of_ne same]

/-- A step that puts no event. -/
theorem queueOf_kept (here : connections[number]? = some connection) (same : moved.outQueue = connection.outQueue) :
    queueOf (connections.set number moved) = queueOf connections := by
  have old : queueOf connections number = moved.outQueue.map Prod.snd := by
    unfold queueOf
    rw [here, same]
    rfl
  rw [queueOf_set here, ← old, Function.update_eq_self]

theorem queueOf_put (here : connections[number]? = some connection) (id : I) (event : E) :
    queueOf (putNowait connections number (id, event)) =
      Function.update (queueOf connections) number (queueOf connections number ++ [event]) := by
  have old : queueOf connections number = connection.outQueue.map Prod.snd := by
    unfold queueOf
    rw [here]
    rfl
  unfold putNowait
  rw [here]
  dsimp only
  rw [queueOf_set here, old, List.map_append]
  rfl

theorem queueOf_connect : queueOf (connections ++ [⟨[], [], .idle⟩]) = queueOf connections := by
  funext other
  unfold queueOf
  rcases Nat.lt_trichotomy other connections.length with before | rfl | beyond
  · rw [List.getElem?_append_left before]
  · rw [List.getElem?_concat_length, List.getElem?_eq_none le_rfl]
    rfl
  · rw [List.getElem?_eq_none (by simp; omega), List.getElem?_eq_none (Nat.le_of_lt beyond)]

end

/-! ### Every step -/

section

variable {system next : System I E} {hub : Hub I E E}

/-- A call of `emit` that moves and puts nothing. -/
theorem Stands.emitMoves (stands : Stands system hub) {call : ℕ} {emit : EmitCall I E} {place : WsEmit.EmitPlace}
    {moved : Emit I E} (inv : WsSubscriptions.Inv { system with emits := system.emits.set call moved })
    (shows : shown { emit with place := place } = moved) :
    Stands { system with emits := system.emits.set call moved } (hub.moveEmit call emit place []) := by
  refine ⟨inv, ⟨stands.stores.subs, stands.stores.closed, stands.stores.used, fun number id member => ?_⟩,
    stands.queues, ?_, stands.threads⟩
  · exact List.mem_append_left _ (stands.stores.answered number id member)
  · change system.emits.set call moved = (hub.emits.set call { emit with place := place }).map shown
    rw [List.map_set, stands.emits, shows]

/-- A call of `emit` that puts its event. Its subscription was generated for a connection that is there. -/
theorem Stands.emitPuts (stands : Stands system hub) {call : ℕ} {id : I} {event : E} {sub : Subscription}
    (here : hub.emits[call]? = some ⟨id, event, .putting sub⟩)
    (inv : WsSubscriptions.Inv { system with
      connections := putNowait system.connections sub.outQueue (id, event)
      emits := system.emits.set call (.answered id event .emitted) }) :
    Stands { system with
        connections := putNowait system.connections sub.outQueue (id, event)
        emits := system.emits.set call (.answered id event .emitted) }
      { hub.moveEmit call ⟨id, event, .putting sub⟩ (.queued sub) [.put call id] with
        queues := Function.update hub.queues sub.outQueue (hub.queues sub.outQueue ++ [bare sub event]) } := by
  have shows : system.emits[call]? = some (.putting id event sub.outQueue) := by
    rw [stands.emits, List.getElem?_map, here]
    rfl
  have owned := stands.inv.found call _ shows _ rfl
  have connection := List.getElem?_eq_getElem (stands.inv.known id sub.outQueue owned)
  refine ⟨inv, ⟨stands.stores.subs, stands.stores.closed, stands.stores.used, fun number other member => ?_⟩,
    fun number => ?_, ?_, ?_⟩
  · exact List.mem_append_left _ (stands.stores.answered number other member)
  · have queues : hub.queues = queueOf system.connections := funext stands.queues
    rw [queueOf_put connection, queues]
    rfl
  · change system.emits.set call _ = (hub.emits.set call _).map shown
    rw [List.map_set, stands.emits]
    rfl
  · obtain ⟨calls, threads⟩ := stands.threads
    refine ⟨calls, ?_⟩
    unfold putNowait
    dsimp only
    rw [connection]
    exact threads.stay connection rfl

/-- A call that is apart among the connections is apart in the hub, which reads `closed` at one place only. -/
theorem Stands.emitApart (stands : Stands system hub) {call : ℕ} {full : Bool}
    (apart : Apart system (.emitStep call full)) : WsEmit.Apart hub (.emitStep call full : WsEmit.Action I E) := by
  intro emit sub here place unregister among same popped
  obtain ⟨calls, threads⟩ := stands.threads
  obtain ⟨other, at_⟩ := List.mem_iff_getElem?.mp among
  obtain ⟨number, connection, thread, is, -⟩ := threads.popped other unregister at_ popped
  have shows : system.emits[call]? = some (.found emit.id emit.event sub.outQueue) := by
    rw [stands.emits, List.getElem?_map, here, Option.map_some]
    unfold shown
    rw [place]
  refine apart _ _ _ shows connection (List.mem_of_getElem? thread) ?_
  rw [is, ← same, ← popped]

/-- **A step of an `emit`.** -/
theorem emit_reaches {call : ℕ} {full : Bool} (stands : Stands system hub)
    (stepped : system.step (.emitStep call full) = some next) :
    Reaches hub (Apart system (.emitStep call full)) (Stands next) := by
  have inv := WsSubscriptions.step_inv stepped stands.inv
  obtain ⟨one, found, moves⟩ := Option.bind_eq_some_iff.mp stepped
  rw [stands.emits, List.getElem?_map] at found
  obtain ⟨emit, here, rfl⟩ := Option.map_eq_some_iff.mp found
  -- The call takes its next step in the hub.
  have goes : ∀ {later : Hub I E E}, hub.emitStep none bare call full emit = some later → Stands next later →
      Reaches hub (Apart system (.emitStep call full)) (Stands next) := by
    intro later done after
    refine .step (.emitStep call full) ?_ stands.emitApart (.stay after)
    unfold hubStep Hub.step
    dsimp only
    rw [here]
    exact done
  obtain ⟨id, event, place⟩ := emit
  cases place with
  | called =>
      have known := stands.stores.subs id
      cases sub : hub.subs.get id with
      | none =>
          rw [sub] at known
          have absent : system.registry.get id = none := known.symm
          simp only [shown, System.emitStep, absent, Option.some.injEq] at moves
          subst moves
          have ends : hub.emitStep none bare call full ⟨id, event, .called⟩ =
              some (hub.moveEmit call ⟨id, event, .called⟩ (.answered .unknown) []) := by
            unfold Hub.emitStep
            dsimp only
            rw [sub]
          exact goes ends (stands.emitMoves inv rfl)
      | some found =>
          rw [sub] at known
          have queue : system.registry.get id = some found.outQueue := known.symm
          simp only [shown, System.emitStep, queue, Option.some.injEq] at moves
          subst moves
          have finds : hub.emitStep none bare call full ⟨id, event, .called⟩ =
              some (hub.moveEmit call ⟨id, event, .called⟩ (.found found) []) := by
            unfold Hub.emitStep
            dsimp only
            rw [sub]
          exact goes finds (stands.emitMoves inv rfl)
  | found sub =>
      have marked := stands.stores.closed id
      simp only [shown, System.emitStep] at moves
      split at moves
      · next closed =>
          cases moves
          exact goes (if_pos (marked.mpr closed)) (stands.emitMoves inv rfl)
      · next open_ =>
          cases moves
          exact goes (if_neg fun closed => open_ (marked.mp closed)) (stands.emitMoves inv rfl)
  | putting sub =>
      simp only [shown, System.emitStep] at moves
      split at moves
      · next room =>
          cases moves
          exact goes (if_pos room) (stands.emitMoves inv rfl)
      · next room =>
          cases moves
          exact goes (if_neg room) (stands.emitPuts here inv)
  | queued sub => cases moves
  | logged => cases moves
  | answered answer => cases moves

/-- **Each step of the connections is a run of the hub.** -/
theorem step_followed {action : WsSubscriptions.Action I E} (stands : Stands system hub)
    (stepped : system.step action = some next) : Reaches hub (Apart system action) (Stands next) := by
  have inv := WsSubscriptions.step_inv stepped stands.inv
  cases action with
  | connect =>
      cases stepped
      obtain ⟨calls, threads⟩ := stands.threads
      refine .stay ⟨inv, stands.stores, fun number => ?_, stands.emits, calls, threads.connects⟩
      rw [queueOf_connect]
      exact stands.queues number
  | frame number frame =>
      simp only [System.step] at stepped
      split at stepped
      · next connection here =>
          obtain ⟨⟨after, moved⟩, goes, rfl⟩ := Option.map_eq_some_iff.mp stepped
          have kept := WsSubscriptions.frame_kept stands.inv.shared (stands.inv.connections number connection here) goes
          obtain ⟨actions, later, ran, apart, done⟩ := frame_reaches stands here goes
          refine ⟨actions, later, ran, apart, inv, done.stores, fun other => ?_, stands.emits.trans ?_, done.threads⟩
          · rw [done.queues, queueOf_kept here kept.events]
            exact stands.queues other
          · rw [done.emits]
      · cases stepped
  | emit id event =>
      cases stepped
      refine .step (.emit id event) rfl (fun _ => trivial) (.stay ⟨inv, ⟨stands.stores.subs, stands.stores.closed,
        stands.stores.used, stands.stores.answered⟩, stands.queues, ?_, stands.threads⟩)
      change system.emits ++ [_] = (hub.emits ++ [_]).map shown
      rw [List.map_append, stands.emits]
      rfl
  | emitStep call full => exact emit_reaches stands stepped
  | clear =>
      cases stepped
      refine .step .clear rfl (fun _ => trivial) (.stay ⟨inv, ⟨fun _ => rfl, fun id => ?_, stands.stores.used,
        stands.stores.answered⟩, stands.queues, stands.emits, stands.threads⟩)
      change id ∈ hub.closed ++ hub.subs.keys ↔ id ∈ system.closed ++ system.registry.keys
      have keys : id ∈ hub.subs.keys ↔ id ∈ system.registry.keys := by
        have known : (hub.subs.get id).map Subscription.outQueue = system.registry.get id := stands.stores.subs id
        rw [← not_iff_not, ← Dict.get_eq_none_iff, ← Dict.get_eq_none_iff, ← known, Option.map_eq_none_iff]
      rw [List.mem_append, List.mem_append]
      exact or_congr (stands.stores.closed id) keys

end

/-! ### Every run -/

/-- **A run of the connections has a hub that stands for them.** -/
theorem connections_followed {actions : List (WsSubscriptions.Action I E)} {system : System I E}
    (done : run System.step System.start actions = some system) :
    ∃ calls hub, run hubStep Hub.start calls = some hub ∧ Stands system hub := by
  have followed : Followed System.step hubStep (Stands : System I E → Hub I E E → Prop) := by
    intro state action next hub stepped stands
    obtain ⟨calls, later, ran, -, stands'⟩ := step_followed stands stepped
    exact ⟨calls, later, ran, stands'⟩
  exact followed.run done start_stands

/-- **A run of the connections whose steps are apart has a hub that stays quiet.** -/
theorem connections_quiet {actions : List (WsSubscriptions.Action I E)} {system : System I E}
    (done : run System.step System.start actions = some system)
    (apart : MeetsAlong System.step Apart System.start actions) :
    ∃ calls hub, run hubStep Hub.start calls = some hub ∧ WsEmit.Quiet hub ∧ Stands system hub := by
  have followed : FollowedWhere Apart WsEmit.Apart System.step hubStep (Stands : System I E → Hub I E E → Prop) := by
    intro state action next hub apart stepped stands
    obtain ⟨calls, later, ran, kept, stands'⟩ := step_followed stands stepped
    exact ⟨calls, later, ran, kept apart, stands'⟩
  obtain ⟨calls, hub, ran, kept, stands⟩ := followed.run apart done start_stands
  have inv := run_invariant_of_meets WsEmit.Inv WsEmit.Apart
    (fun _ _ _ apart stepped inv => WsEmit.step_inv apart stepped inv) kept ran WsEmit.start_inv
  exact ⟨calls, hub, ran, inv.quiet, stands⟩

end ProviderSimulator.Listeners.WsViews
