/-
**An event for a subscription that was removed.**

`emit` takes the lock for its look-up only: it tests `closed`, puts its event on the queue and writes its row
outside. `unregister` takes the id out of the registry under the lock and sets `closed` after it. Each of these
is a step of its own here, of any number of calls at once (`Hub.step`).

An observer notes what happens (`Seen`): a put, a row, an answer `emitted`, a removal, and an `unregister` that
returns true. The code keeps no such list.

* `Quiet` — after `unregister` returned true, nothing is seen of the id but what belongs to a put from before
  its removal;
* `Apart` — the condition on a step: no id is removed while an `emit` of it is between its test and its put, and
  no `emit` tests `closed` between the removal of its id and the mark;
* `no_event_after_unsubscribe` — along a run whose steps all meet it, the hub stays quiet.

In `WsViews` the frames of the connections run this hub.
-/

import Mathlib.Tactic.Common
import ProviderSimulator.Lib.Machine
import ProviderSimulator.Lib.Threads
import ProviderSimulator.Domain.CallLog
import ProviderSimulator.Domain.Provider

set_option linter.unusedSectionVars false

namespace ProviderSimulator.Listeners.WsEmit

open ProviderSimulator.Lib ProviderSimulator.Domain

variable {I E F : Type} [DecidableEq I]

/-! ### Subscriptions and rows -/

/-- `Subscription`, without its id and its mark. Its queue is the one of a connection. -/
structure Subscription where
  pool : String
  pid : String
  method : String
  outQueue : ℕ

/-- `_envelope`. -/
def envelope (method : String) : String :=
  if method = "subscribe" then "tendermint_event"
  else if method = "accountSubscribe" then "solana_account"
  else if method = "logsSubscribe" then "solana_logs"
  else "eth_subscription"

/-- The row of a pushed event, with status `success` and latency 0. -/
structure PushRow (I : Type) where
  provider : ProviderKey
  method : String
  site : Site
  requestId : I

/-- The row that `emit` writes, if there is a registry of providers and it knows the provider. -/
def pushRow (providers : Option Registry) (id : I) (sub : Subscription) : Option (PushRow I) :=
  match providers with
  | none => none
  | some registry =>
      match registry.provider sub.pool sub.pid with
      | .error _ => none
      | .ok provider =>
          let endpoint := provider.endpoints.find? fun endpoint => endpoint.transport = .ws
          some ⟨provider.key, envelope sub.method ++ " push",
            ⟨(endpoint.map fun endpoint => endpoint.interface.name).getD "jsonrpc", "ws",
              (endpoint.map Endpoint.port).getD 0⟩, id⟩

/-! ### The machine -/

/-- How an `emit` ended. -/
inductive EmitAnswer
  | emitted
  | unknown
  | full
  deriving DecidableEq

/-- Where a call of `emit` is. -/
inductive EmitPlace
  | called
  /-- `get` found a subscription: before its mark is read. -/
  | found (sub : Subscription)
  /-- It was not closed: before `put_nowait`. -/
  | putting (sub : Subscription)
  /-- The event is on the queue: before the row. -/
  | queued (sub : Subscription)
  /-- The row is written: before the answer. -/
  | logged
  | answered (answer : EmitAnswer)

/-- A call of `emit`. -/
structure EmitCall (I E : Type) where
  id : I
  event : E
  place : EmitPlace

/-- Where a call of `unregister` is. -/
inductive UnregisterPlace
  | called
  /-- The id is out of the registry: before the mark. -/
  | popped
  /-- The subscription is marked: before the return. -/
  | marked
  | returned (found : Bool)

/-- A call of `unregister`. -/
structure UnregisterCall (I : Type) where
  id : I
  place : UnregisterPlace

/-- What an observer notes, for an id, and for a call of `emit`. -/
inductive Seen (I : Type)
  | put (call : ℕ) (id : I)
  | row (call : ℕ) (id : I)
  | emitted (call : ℕ) (id : I)
  | removed (id : I)
  | returnedTrue (id : I)

/-- `WsSubscriptions`, the queues, the rows and the calls. -/
structure Hub (I E F : Type) where
  subs : Dict I Subscription
  /-- The ids whose subscription is marked as closed. -/
  closed : List I
  /-- The ids that were ever registered. -/
  used : List I
  queues : ℕ → List F
  rows : List (PushRow I)
  emits : List (EmitCall I E)
  unregisters : List (UnregisterCall I)
  seen : List (Seen I)

/-- No subscription and no call. -/
def Hub.start : Hub I E F := ⟨[], [], [], fun _ => [], [], [], [], []⟩

/-- One step of one thread. -/
inductive Action (I E : Type)
  /-- `register`, with an id that was not generated before. -/
  | register (id : I) (sub : Subscription)
  | emit (id : I) (event : E)
  /-- The next step of an `emit`; its queue may be full. -/
  | emitStep (call : ℕ) (full : Bool)
  | unregister (id : I)
  | unregisterStep (call : ℕ)
  | clear

namespace Hub

/-- The call goes on to a place, and the observer notes something. -/
def moveEmit (hub : Hub I E F) (call : ℕ) (emit : EmitCall I E) (place : EmitPlace) (noted : List (Seen I)) :
    Hub I E F :=
  { hub with emits := hub.emits.set call { emit with place := place }, seen := hub.seen ++ noted }

/-- One step of `emit`. -/
def emitStep (providers : Option Registry) (frameOf : Subscription → E → F) (hub : Hub I E F) (call : ℕ)
    (full : Bool) (emit : EmitCall I E) : Option (Hub I E F) :=
  match emit.place with
  | .called =>
      match hub.subs.get emit.id with
      | none => some (hub.moveEmit call emit (.answered .unknown) [])
      | some sub => some (hub.moveEmit call emit (.found sub) [])
  | .found sub =>
      if emit.id ∈ hub.closed then some (hub.moveEmit call emit (.answered .unknown) [])
      else some (hub.moveEmit call emit (.putting sub) [])
  | .putting sub =>
      if full then some (hub.moveEmit call emit (.answered .full) [])
      else some { hub.moveEmit call emit (.queued sub) [.put call emit.id] with
        queues := Function.update hub.queues sub.outQueue (hub.queues sub.outQueue ++ [frameOf sub emit.event]) }
  | .queued sub =>
      match pushRow providers emit.id sub with
      | none => some (hub.moveEmit call emit (.answered .emitted) [.emitted call emit.id])
      | some row => some { hub.moveEmit call emit .logged [.row call emit.id] with rows := hub.rows ++ [row] }
  | .logged => some (hub.moveEmit call emit (.answered .emitted) [.emitted call emit.id])
  | .answered _ => none

/-- The call goes on to a place, and the observer notes something. -/
def moveUnregister (hub : Hub I E F) (call : ℕ) (id : I) (place : UnregisterPlace) (noted : List (Seen I)) :
    Hub I E F :=
  { hub with unregisters := hub.unregisters.set call ⟨id, place⟩, seen := hub.seen ++ noted }

/-- One step of `unregister`. -/
def unregisterStep (hub : Hub I E F) (call : ℕ) (unregister : UnregisterCall I) : Option (Hub I E F) :=
  match unregister.place with
  | .called =>
      if hub.subs.has unregister.id then
        some { hub.moveUnregister call unregister.id .popped [.removed unregister.id] with
          subs := hub.subs.pop unregister.id }
      else some (hub.moveUnregister call unregister.id (.returned false) [])
  | .popped =>
      some { hub.moveUnregister call unregister.id .marked [] with closed := hub.closed ++ [unregister.id] }
  | .marked => some (hub.moveUnregister call unregister.id (.returned true) [.returnedTrue unregister.id])
  | .returned _ => none

/-- One action. -/
def step (providers : Option Registry) (frameOf : Subscription → E → F) (hub : Hub I E F) :
    Action I E → Option (Hub I E F)
  | .register id sub =>
      if id ∈ hub.used then none else some { hub with subs := hub.subs.set id sub, used := id :: hub.used }
  | .emit id event => some { hub with emits := hub.emits ++ [⟨id, event, .called⟩] }
  | .emitStep call full => hub.emits[call]?.bind fun emit => hub.emitStep providers frameOf call full emit
  | .unregister id => some { hub with unregisters := hub.unregisters ++ [⟨id, .called⟩] }
  | .unregisterStep call => hub.unregisters[call]?.bind fun unregister => hub.unregisterStep call unregister
  | .clear => some { hub with subs := [], closed := hub.closed ++ hub.subs.keys }

end Hub

/-! ### What is promised, and when -/

/-- The call put its event on the queue before the id was removed. -/
def PutInTime (call : ℕ) (id : I) (seen : List (Seen I)) : Prop :=
  ∃ place, seen[place]? = some (.put call id) ∧ .removed id ∉ seen.take place

/-- After what was seen before, this may be seen: nothing of an id whose `unregister` returned true, but what belongs
to a put from before its removal. -/
def Allowed (before : List (Seen I)) : Seen I → Prop
  | .put _ id => .returnedTrue id ∉ before
  | .row call id => .returnedTrue id ∈ before → PutInTime call id before
  | .emitted call id => .returnedTrue id ∈ before → PutInTime call id before
  | .removed _ => True
  | .returnedTrue _ => True

/-- **No event after an unsubscribe.** -/
def Quiet (hub : Hub I E F) : Prop :=
  ∀ place seen, hub.seen[place]? = some seen → Allowed (hub.seen.take place) seen

/-- The step does not let a test of `closed` and the removal of the same id overtake each other. -/
def Apart (hub : Hub I E F) : Action I E → Prop
  | .emitStep call _ => ∀ emit sub, hub.emits[call]? = some emit → emit.place = .found sub →
      ∀ unregister ∈ hub.unregisters, unregister.id = emit.id → unregister.place ≠ .popped
  | .unregisterStep call => ∀ unregister, hub.unregisters[call]? = some unregister → unregister.place = .called →
      hub.subs.has unregister.id = true →
        ∀ emit ∈ hub.emits, emit.id = unregister.id → ∀ sub, emit.place ≠ .putting sub
  | _ => True

/-! ### What was seen, with something more -/

theorem PutInTime.append {call : ℕ} {id : I} {seen : List (Seen I)} (inTime : PutInTime call id seen)
    (more : List (Seen I)) : PutInTime call id (seen ++ more) := by
  obtain ⟨place, here, before⟩ := inTime
  have inside := (List.getElem?_eq_some_iff.mp here).1
  refine ⟨place, ?_, ?_⟩
  · rw [List.getElem?_append_left inside, here]
  · rwa [List.take_append_of_le_length (Nat.le_of_lt inside)]

/-- The put that is noted last. -/
theorem putInTime_last {call : ℕ} {id : I} {seen : List (Seen I)} (there : .removed id ∉ seen) :
    PutInTime call id (seen ++ [.put call id]) := by
  refine ⟨seen.length, List.getElem?_concat_length .., ?_⟩
  rwa [List.take_left]

/-- Something more that is allowed. -/
theorem allowed_append {seen : List (Seen I)} {last : Seen I}
    (quiet : ∀ place one, seen[place]? = some one → Allowed (seen.take place) one) (allowed : Allowed seen last) :
    ∀ place one, (seen ++ [last])[place]? = some one → Allowed ((seen ++ [last]).take place) one := by
  refine forall_append (fun place one here => ?_) ?_
  · have inside := (List.getElem?_eq_some_iff.mp here).1
    rw [List.take_append_of_le_length (Nat.le_of_lt inside)]
    exact quiet place one here
  · rwa [List.take_left]

/-! ### The invariant -/

/-- The event of the call is on the queue, and its answer is still to come. -/
def EmitCall.HasPut (emit : EmitCall I E) : Prop := (∃ sub, emit.place = .queued sub) ∨ emit.place = .logged

/-- The call is past its test and before its put. -/
def EmitCall.Putting (emit : EmitCall I E) : Prop := ∃ sub, emit.place = .putting sub

/-- **What holds in every state of a run whose steps are apart.** -/
structure Inv (hub : Hub I E F) : Prop where
  /-- A removed id is marked, or its `unregister` is about to mark it. -/
  closing : ∀ id, .removed id ∈ hub.seen → id ∈ hub.closed ∨ ⟨id, .popped⟩ ∈ hub.unregisters
  /-- No call is about to put an event for a removed id. -/
  putting : ∀ (call : ℕ) (emit : EmitCall I E), hub.emits[call]? = some emit → emit.Putting →
    .removed emit.id ∉ hub.seen
  /-- What was put is put in time. -/
  inTime : ∀ (call : ℕ) (emit : EmitCall I E), hub.emits[call]? = some emit → emit.HasPut →
    PutInTime call emit.id hub.seen
  /-- An `unregister` past its removal. -/
  past : ∀ (call : ℕ) (unregister : UnregisterCall I), hub.unregisters[call]? = some unregister →
    unregister.place = .popped ∨ unregister.place = .marked → .removed unregister.id ∈ hub.seen
  returned : ∀ id, .returnedTrue id ∈ hub.seen → .removed id ∈ hub.seen
  quiet : Quiet hub

theorem start_inv : Inv (Hub.start : Hub I E F) := by
  constructor <;> simp [Hub.start, Quiet]

section

variable {hub after : Hub I E F} {call : ℕ} {emit : EmitCall I E} {place : EmitPlace} {noted : List (Seen I)}

/-- The observer notes a step of an `emit`. -/
def OfEmit : Seen I → Prop
  | .removed _ => False
  | .returnedTrue _ => False
  | _ => True

/-- **A step of an `emit`.** -/
theorem Inv.emitMoves (inv : Inv hub) (noted_ : ∀ one ∈ noted, OfEmit one)
    (putting : (∃ sub, place = .putting sub) → .removed emit.id ∉ hub.seen)
    (inTime : (∃ sub, place = .queued sub) ∨ place = .logged → PutInTime call emit.id (hub.seen ++ noted))
    (quiet : ∀ at_ one, (hub.seen ++ noted)[at_]? = some one → Allowed ((hub.seen ++ noted).take at_) one) :
    Inv (hub.moveEmit call emit place noted) := by
  have old : ∀ {id : I}, .removed id ∈ hub.seen ++ noted → .removed id ∈ hub.seen := by
    intro id member
    rcases List.mem_append.mp member with before | new
    · exact before
    · exact (noted_ _ new).elim
  refine ⟨fun id member => inv.closing id (old member), ?_, ?_, ?_, ?_, quiet⟩
  · refine forall_set (fun other one here _ => ?_) fun put member => putting put (old member)
    exact fun put member => inv.putting other one here put (old member)
  · refine forall_set (fun other one here _ put => ?_) inTime
    exact (inv.inTime other one here put).append noted
  · exact fun other one here past => List.mem_append_left _ (inv.past other one here past)
  · intro id member
    rcases List.mem_append.mp member with before | new
    · exact List.mem_append_left _ (inv.returned id before)
    · exact (noted_ _ new).elim

/-- A step of an `emit` that nothing is seen of. -/
theorem Inv.emitMoves_unseen (inv : Inv hub) (putting : (∃ sub, place = .putting sub) → .removed emit.id ∉ hub.seen)
    (before : ¬ ((∃ sub, place = .queued sub) ∨ place = .logged)) : Inv (hub.moveEmit call emit place []) := by
  refine inv.emitMoves nofun putting (fun put => absurd put before) ?_
  rw [List.append_nil]
  exact inv.quiet

/-- The invariant does not read the queues, the rows, the registry and the ids that were used. -/
theorem Inv.congr (inv : Inv hub) (closed : after.closed = hub.closed) (emits : after.emits = hub.emits)
    (unregisters : after.unregisters = hub.unregisters) (seen : after.seen = hub.seen) : Inv after := by
  obtain ⟨_, _, _, _, _, _, _, _⟩ := after
  cases closed
  cases emits
  cases unregisters
  cases seen
  exact ⟨inv.closing, inv.putting, inv.inTime, inv.past, inv.returned, inv.quiet⟩

theorem emitStep_inv {providers : Option Registry} {frameOf : Subscription → E → F} {full : Bool} (inv : Inv hub)
    (here : hub.emits[call]? = some emit) (apart : Apart hub (.emitStep call full : Action I E))
    (stepped : hub.emitStep providers frameOf call full emit = some after) : Inv after := by
  unfold Hub.emitStep at stepped
  split at stepped
  · split at stepped
    · cases stepped
      exact inv.emitMoves_unseen (by simp) (by simp)
    · cases stepped
      exact inv.emitMoves_unseen (by simp) (by simp)
  · next sub found =>
      split at stepped
      · cases stepped
        exact inv.emitMoves_unseen (by simp) (by simp)
      · next open_ =>
          cases stepped
          refine inv.emitMoves_unseen (fun _ removed => ?_) (by simp)
          -- A removed id is marked by now: no `unregister` is between the two steps.
          rcases inv.closing emit.id removed with closed | popping
          · exact open_ closed
          · exact apart emit sub here found _ popping rfl rfl
  · next sub putting =>
      split at stepped
      · cases stepped
        exact inv.emitMoves_unseen (by simp) (by simp)
      · cases stepped
        have there := inv.putting call emit here ⟨sub, putting⟩
        have moved : Inv (hub.moveEmit call emit (.queued sub) [.put call emit.id]) := by
          refine inv.emitMoves ?_ (by simp) (fun _ => putInTime_last there) ?_
          · exact List.forall_mem_singleton.mpr trivial
          · exact allowed_append inv.quiet fun returned => there (inv.returned _ returned)
        exact moved.congr rfl rfl rfl rfl
  · next sub queued =>
      have inTime := inv.inTime call emit here (.inl ⟨sub, queued⟩)
      split at stepped
      · cases stepped
        refine inv.emitMoves (List.forall_mem_singleton.mpr trivial) (by simp) (by simp) ?_
        exact allowed_append inv.quiet fun _ => inTime
      · cases stepped
        have moved : Inv (hub.moveEmit call emit .logged [.row call emit.id]) := by
          refine inv.emitMoves (List.forall_mem_singleton.mpr trivial) (by simp) (fun _ => inTime.append _) ?_
          exact allowed_append inv.quiet fun _ => inTime
        exact moved.congr rfl rfl rfl rfl
  · next logged =>
      cases stepped
      refine inv.emitMoves (List.forall_mem_singleton.mpr trivial) (by simp) (by simp) ?_
      exact allowed_append inv.quiet fun _ => inv.inTime call emit here (.inr logged)
  · cases stepped

/-- **A step of an `unregister`.** -/
theorem Inv.unregisterMoves {id : I} {place : UnregisterPlace} {closed : List I} (inv : Inv hub)
    (closing : ∀ other, .removed other ∈ hub.seen ++ noted →
      other ∈ closed ∨ ⟨other, .popped⟩ ∈ hub.unregisters.set call ⟨id, place⟩)
    (putting : ∀ emit ∈ hub.emits, emit.Putting → .removed emit.id ∉ noted)
    (past : place = .popped ∨ place = .marked → .removed id ∈ hub.seen ++ noted)
    (returned : ∀ other, .returnedTrue other ∈ noted → .removed other ∈ hub.seen ++ noted)
    (quiet : ∀ at_ one, (hub.seen ++ noted)[at_]? = some one → Allowed ((hub.seen ++ noted).take at_) one) :
    Inv { hub.moveUnregister call id place noted with closed := closed } := by
  refine ⟨closing, fun other emit here put member => ?_, fun other emit here put => ?_, ?_, fun other member => ?_,
    quiet⟩
  · rcases List.mem_append.mp member with before | new
    · exact inv.putting other emit here put before
    · exact putting emit (List.mem_of_getElem? here) put new
  · exact (inv.inTime other emit here put).append noted
  · refine forall_set (fun other one here _ done => ?_) past
    exact List.mem_append_left _ (inv.past other one here done)
  · rcases List.mem_append.mp member with before | new
    · exact List.mem_append_left _ (inv.returned other before)
    · exact returned other new

/-- A call that is at another place stays where it is. -/
theorem mem_set_of_ne {unregister new one : UnregisterCall I} {unregisters : List (UnregisterCall I)}
    (here : unregisters[call]? = some unregister) (member : one ∈ unregisters) (other : one ≠ unregister) :
    one ∈ unregisters.set call new := by
  obtain ⟨place, found⟩ := List.mem_iff_getElem?.mp member
  have elsewhere : call ≠ place := by
    rintro rfl
    exact other (Option.some.inj (found.symm.trans here))
  refine List.mem_of_getElem? (i := place) ?_
  rw [List.getElem?_set_ne elsewhere, found]

theorem unregisterStep_inv {unregister : UnregisterCall I} (inv : Inv hub)
    (here : hub.unregisters[call]? = some unregister) (apart : Apart hub (.unregisterStep call : Action I E))
    (stepped : hub.unregisterStep call unregister = some after) : Inv after := by
  have inside := (List.getElem?_eq_some_iff.mp here).1
  have moved : ∀ place, (⟨unregister.id, place⟩ : UnregisterCall I) ∈
      hub.unregisters.set call ⟨unregister.id, place⟩ := fun place =>
    List.mem_of_getElem? (List.getElem?_set_self inside)
  -- The other removed ids are marked, or about to be.
  have others : ∀ place other, unregister.place ≠ .popped → .removed other ∈ hub.seen →
      other ∈ hub.closed ∨ ⟨other, .popped⟩ ∈ hub.unregisters.set call ⟨unregister.id, place⟩ := by
    intro place other elsewhere member
    refine (inv.closing other member).imp_right fun popping => mem_set_of_ne here popping ?_
    rintro rfl
    exact elsewhere rfl
  unfold Hub.unregisterStep at stepped
  split at stepped
  · next called =>
      split at stepped
      · next known =>
          cases stepped
          have removing : Inv { hub.moveUnregister call unregister.id .popped [.removed unregister.id] with
              closed := hub.closed } := by
            refine inv.unregisterMoves (fun other member => ?_) (fun emit among put member => ?_)
              (fun _ => List.mem_append_right _ List.mem_cons_self) (fun other member => ?_)
              (allowed_append inv.quiet trivial)
            · rcases List.mem_append.mp member with before | new
              · exact others .popped other (by rw [called]; nofun) before
              · cases List.mem_singleton.mp new
                exact .inr (moved .popped)
            · obtain ⟨sub, putting⟩ := put
              have same : emit.id = unregister.id := Seen.removed.inj (List.mem_singleton.mp member)
              exact apart unregister here called known emit among same sub putting
            · cases List.mem_singleton.mp member
          exact removing.congr rfl rfl rfl rfl
      · cases stepped
        refine inv.unregisterMoves (fun other member => ?_) nofun nofun nofun ?_
        · rw [List.append_nil] at member
          exact others _ other (by rw [called]; nofun) member
        · rw [List.append_nil]
          exact inv.quiet
  · next popped =>
      cases stepped
      have removed := inv.past call unregister here (.inl popped)
      refine inv.unregisterMoves (fun other member => ?_) nofun (fun _ => List.mem_append_left _ removed) nofun ?_
      · rw [List.append_nil] at member
        by_cases same : other = unregister.id
        · exact .inl (List.mem_append_right _ (List.mem_singleton.mpr same))
        · refine (inv.closing other member).imp (List.mem_append_left _) fun popping => ?_
          refine mem_set_of_ne here popping ?_
          rintro rfl
          exact same rfl
      · rw [List.append_nil]
        exact inv.quiet
  · next marked =>
      cases stepped
      have removed := inv.past call unregister here (.inr marked)
      refine inv.unregisterMoves (fun other member => ?_) (fun emit among put member => ?_) nofun
        (fun other member => ?_) (allowed_append inv.quiet trivial)
      · rcases List.mem_append.mp member with before | new
        · exact others _ other (by rw [marked]; nofun) before
        · cases List.mem_singleton.mp new
      · cases List.mem_singleton.mp member
      · cases List.mem_singleton.mp member
        exact List.mem_append_left _ removed
  · cases stepped

/-- **Every step that keeps the two calls apart keeps the invariant.** -/
theorem step_inv {providers : Option Registry} {frameOf : Subscription → E → F} {action : Action I E}
    (apart : Apart hub action) (stepped : hub.step providers frameOf action = some after) (inv : Inv hub) :
    Inv after := by
  cases action with
  | register id sub =>
      obtain ⟨-, stepped⟩ := Option.ite_none_left_eq_some.mp stepped
      cases stepped
      exact inv.congr rfl rfl rfl rfl
  | emit id event =>
      cases stepped
      refine ⟨inv.closing, ?_, ?_, inv.past, inv.returned, inv.quiet⟩
      · exact forall_append inv.putting nofun
      · exact forall_append inv.inTime nofun
  | emitStep call full =>
      obtain ⟨emit, here, stepped⟩ := Option.bind_eq_some_iff.mp stepped
      exact emitStep_inv inv here apart stepped
  | unregister id =>
      cases stepped
      refine ⟨fun other member => ?_, inv.putting, inv.inTime, ?_, inv.returned, inv.quiet⟩
      · exact (inv.closing other member).imp_right (List.mem_append_left _)
      · exact forall_append inv.past nofun
  | unregisterStep call =>
      obtain ⟨unregister, here, stepped⟩ := Option.bind_eq_some_iff.mp stepped
      exact unregisterStep_inv inv here apart stepped
  | clear =>
      cases stepped
      refine ⟨fun other member => ?_, inv.putting, inv.inTime, inv.past, inv.returned, inv.quiet⟩
      exact (inv.closing other member).imp_left (List.mem_append_left _)

end

/-- **No event after an unsubscribe, in every state of a run that keeps the two calls apart.** -/
theorem no_event_after_unsubscribe (providers : Option Registry) (frameOf : Subscription → E → F)
    (actions : List (Action I E))
    (apart : MeetsAlong (Hub.step providers frameOf) Apart (Hub.start : Hub I E F) actions) :
    Always (Hub.step providers frameOf) Quiet (Hub.start : Hub I E F) actions :=
  always_of_meetsAlong (fun _ _ _ apart stepped inv => step_inv apart stepped inv) (fun _ inv => inv.quiet) start_inv
    apart

/-- A subscription of the id 7, and an `emit` of it up to its test. -/
def tested : List (Action ℕ Unit) :=
  [.register 7 ⟨"eth-sim", "1", "eth_subscribe", 0⟩, .emit 7 (), .emitStep 0 false, .emitStep 0 false, .unregister 7]

/-- An `unregister`, from its removal to its return. -/
def unregistered : List (Action ℕ Unit) := [.unregisterStep 0, .unregisterStep 0, .unregisterStep 0]

/-- An event that is put before its subscription is removed is answered after it. -/
theorem no_event_after_unsubscribe_in_time :
    Always (Hub.step none fun _ _ => ()) Quiet (Hub.start : Hub ℕ Unit Unit)
      (tested ++ [.emitStep 0 false] ++ unregistered ++ [.emitStep 0 false]) := by
  apply no_event_after_unsubscribe
  refine ⟨trivial, fun hub stepped => ⟨trivial, fun hub' stepped' => ?_⟩⟩
  cases stepped
  cases stepped'
  -- The look-up, the test and the put, with no `unregister` at work.
  refine ⟨fun _ _ _ _ => nofun, fun hub stepped => ?_⟩
  cases stepped
  refine ⟨fun _ _ _ _ => nofun, fun hub stepped => ?_⟩
  cases stepped
  refine ⟨trivial, fun hub stepped => ?_⟩
  cases stepped
  refine ⟨?_, fun hub stepped => ?_⟩
  · rintro emit sub ⟨⟩ ⟨⟩
  cases stepped
  -- The removal finds the event on its queue.
  refine ⟨?_, fun hub stepped => ⟨?_, fun hub' stepped' => ⟨?_, fun hub'' stepped'' => ⟨?_, fun _ _ => trivial⟩⟩⟩⟩
  · rintro unregister ⟨⟩ - - emit among - sub
    cases List.mem_singleton.mp among
    nofun
  all_goals
    cases stepped
  · rintro unregister ⟨⟩ ⟨⟩
  all_goals
    cases stepped'
  · rintro unregister ⟨⟩ ⟨⟩
  · cases stepped''
    rintro emit sub ⟨⟩ ⟨⟩

/-- An `emit` that has passed its test puts its event after `unregister` returned true. -/
theorem event_after_unsubscribe :
    ∃ final : Hub ℕ Unit Unit,
      run (Hub.step none fun _ _ => ()) Hub.start (tested ++ unregistered ++ [.emitStep 0 false, .emitStep 0 false]) =
        some final ∧
      final.seen = [.removed 7, .returnedTrue 7, .put 0 7, .emitted 0 7] ∧ final.queues 0 = [()] ∧ ¬ Quiet final := by
  refine ⟨_, rfl, rfl, rfl, fun quiet => ?_⟩
  have allowed := quiet 2 (.put 0 7) rfl
  exact allowed (List.mem_cons_of_mem _ List.mem_cons_self)

end ProviderSimulator.Listeners.WsEmit
