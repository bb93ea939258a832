/-
**Who owns a WebSocket subscription.**

The registry `WsSubscriptions` and the `subscription_ids` of each connection are two stores. A subscribe
frame writes the registry first and its own set then; an unsubscribe frame looks into its own set first,
takes the id out of the registry, marks the subscription closed and drops the id from its set; the
release of a connection unregisters each id of its set. Each of these is a step of its own, and between
any two of them another connection or the control API may run. An `emit` looks an id up, reads the mark
and then puts its event on the queue that it found.

The ids are generated, and no id is generated twice; the model has them from a type with any number of
them. `generated` says for which connection each one was, and `answers` what each unsubscribe frame
answered. The code has no such lists.

* `Connection.Ok` — what holds of one connection, of the registry and of the answers to it;
* `step_inv` — every step of every thread keeps it;
* `subscriptions_owned` — what follows in every state that a run reaches.
-/

import Mathlib.Tactic.Common
import Mathlib.Data.List.Nodup
import ProviderSimulator.Lib.Dict
import ProviderSimulator.Lib.Machine
import ProviderSimulator.Lib.Threads

set_option linter.unusedSectionVars false

namespace ProviderSimulator.Listeners.WsSubscriptions

open ProviderSimulator.Lib

variable {I E : Type} [DecidableEq I]

/-! ### The machine -/

/-- Where the reader thread of a connection is. -/
inductive Place (I : Type)
  /-- Between two frames. -/
  | idle
  /-- A subscribe frame, after `register`: before the id is added to the set. -/
  | registered (id : I)
  /-- An unsubscribe frame of an id of the set: before `unregister`. -/
  | owned (id : I)
  /-- In `unregister`, after the id is out of the registry: before the mark. -/
  | popped (id : I)
  /-- `unregister` returned true: before the id is dropped from the set. -/
  | removed (id : I)
  /-- In `release`, with the ids that are left. -/
  | releasing (rest : List I)
  /-- In `release`, in `unregister` of an id that was in the registry: before the mark. -/
  | releasePopped (id : I) (rest : List I)
  | released
  deriving DecidableEq

/-- `WsConnection`, with the events that were ever put on its queue. -/
structure Connection (I E : Type) where
  subscriptionIds : List I
  outQueue : List (I × E)
  place : Place I

/-- How an `emit` ended. -/
inductive EmitOutcome
  | emitted
  | unknown
  | full
  deriving DecidableEq

/-- Where a call of `emit` is. A subscription that it found has the queue of a connection. -/
inductive Emit (I E : Type)
  | called (id : I) (event : E)
  /-- `get` found a subscription: before its mark is read. -/
  | found (id : I) (event : E) (queue : ℕ)
  /-- It was not closed: before `put_nowait`. -/
  | putting (id : I) (event : E) (queue : ℕ)
  | answered (id : I) (event : E) (outcome : EmitOutcome)

/-- The answer to an unsubscribe frame: of a connection, for a target, true or false. -/
abbrev Reply (I : Type) := ℕ × Option I × Bool

/-- The registry with the queue of each subscription, the ids whose subscription is marked as closed, the
connections and the calls of `emit`. -/
structure System (I E : Type) where
  registry : Dict I ℕ
  closed : List I
  connections : List (Connection I E)
  emits : List (Emit I E)
  generated : List (I × ℕ)
  answers : List (Reply I)

/-- No connection and no subscription. -/
def System.start : System I E := ⟨[], [], [], [], [], []⟩

/-- What the reader thread of a connection does next. -/
inductive Frame (I : Type)
  /-- A subscribe frame, with the id that is generated for it. -/
  | subscribe (id : I)
  /-- An unsubscribe frame. Its target is none when `params` names none. -/
  | unsubscribe (target : Option I)
  /-- The next step of a frame, or of the release. -/
  | go
  /-- The reader loop ends. -/
  | release

/-- One step of one thread. -/
inductive Action (I E : Type)
  | connect
  | frame (connection : ℕ) (frame : Frame I)
  | emit (id : I) (event : E)
  /-- The next step of an `emit`; its queue may be full. -/
  | emitStep (call : ℕ) (full : Bool)
  | clear

/-- What a step of a reader thread writes, besides its own connection. -/
structure Shared (I : Type) where
  registry : Dict I ℕ
  closed : List I
  generated : List (I × ℕ)
  answers : List (Reply I)

/-- The stores that the threads share. -/
def System.shared (system : System I E) : Shared I :=
  ⟨system.registry, system.closed, system.generated, system.answers⟩

/-- One step of the reader thread of connection `id`. -/
def frameStep (number : ℕ) (shared : Shared I) (connection : Connection I E) :
    Frame I → Option (Shared I × Connection I E)
  | .subscribe id =>
      match connection.place with
      | .idle =>
          -- No id is generated twice.
          if id ∈ shared.generated.map Prod.fst then none
          else some ({ shared with
            registry := shared.registry.set id number
            generated := shared.generated ++ [(id, number)] }, { connection with place := .registered id })
      | _ => none
  | .unsubscribe target =>
      match connection.place, target with
      | .idle, some id =>
          if id ∈ connection.subscriptionIds then some (shared, { connection with place := .owned id })
          else some ({ shared with answers := shared.answers ++ [(number, some id, false)] }, connection)
      | .idle, none =>
          some ({ shared with answers := shared.answers ++ [(number, none, false)] }, connection)
      | _, _ => none
  | .release =>
      match connection.place with
      | .idle => some (shared, { connection with place := .releasing connection.subscriptionIds })
      | _ => none
  | .go =>
      match connection.place with
      | .registered id =>
          some (shared, { connection with
            subscriptionIds := connection.subscriptionIds.insert id
            place := .idle })
      | .owned id =>
          if shared.registry.has id then
            some ({ shared with registry := shared.registry.pop id },
              { connection with place := .popped id })
          else
            some ({ shared with answers := shared.answers ++ [(number, some id, false)] },
              { connection with place := .idle })
      | .popped id =>
          some ({ shared with closed := shared.closed ++ [id] }, { connection with place := .removed id })
      | .removed id =>
          some ({ shared with answers := shared.answers ++ [(number, some id, true)] },
            { connection with
              subscriptionIds := connection.subscriptionIds.filter (· ≠ id)
              place := .idle })
      | .releasing [] => some (shared, { connection with place := .released })
      | .releasing (id :: rest) =>
          if shared.registry.has id then
            some ({ shared with registry := shared.registry.pop id },
              { connection with place := .releasePopped id rest })
          else some (shared, { connection with place := .releasing rest })
      | .releasePopped id rest =>
          some ({ shared with closed := shared.closed ++ [id] },
            { connection with place := .releasing rest })
      | _ => none

/-- Put an event on the queue of a connection. -/
def putNowait (connections : List (Connection I E)) (queue : ℕ) (item : I × E) :
    List (Connection I E) :=
  match connections[queue]? with
  | some connection =>
      connections.set queue { connection with outQueue := connection.outQueue ++ [item] }
  | none => connections

/-- One step of an `emit`. -/
def System.emitStep (system : System I E) (call : ℕ) (full : Bool) : Emit I E → Option (System I E)
  | .called id event =>
      match system.registry.get id with
      | some queue => some { system with emits := system.emits.set call (.found id event queue) }
      | none => some { system with emits := system.emits.set call (.answered id event .unknown) }
  | .found id event queue =>
      if id ∈ system.closed then
        some { system with emits := system.emits.set call (.answered id event .unknown) }
      else some { system with emits := system.emits.set call (.putting id event queue) }
  | .putting id event queue =>
      if full then some { system with emits := system.emits.set call (.answered id event .full) }
      else some { system with
        connections := putNowait system.connections queue (id, event)
        emits := system.emits.set call (.answered id event .emitted) }
  | .answered _ _ _ => none

/-- One action. -/
def System.step (system : System I E) : Action I E → Option (System I E)
  | .connect =>
      some { system with connections := system.connections ++ [⟨[], [], .idle⟩] }
  | .frame number frame =>
      match system.connections[number]? with
      | some connection =>
          (frameStep number system.shared connection frame).map fun (shared, moved) =>
            { system with
              registry := shared.registry
              closed := shared.closed
              generated := shared.generated
              answers := shared.answers
              connections := system.connections.set number moved }
      | none => none
  | .emit id event => some { system with emits := system.emits ++ [.called id event] }
  | .emitStep call full => (system.emits[call]?).bind fun emit => system.emitStep call full emit
  | .clear =>
      some { system with
        registry := []
        closed := system.closed ++ system.registry.keys }

/-! ### The invariant -/

/-- The ids that the frame in progress, or the release, is about. -/
def Place.ids : Place I → List I
  | .idle => []
  | .registered id => [id]
  | .owned id => [id]
  | .popped id => [id]
  | .removed id => [id]
  | .releasing rest => rest
  | .releasePopped id rest => id :: rest
  | .released => []

/-- What a connection knows of an id that is in the registry with its queue. -/
def Connection.Holds (connection : Connection I E) (id : I) : Prop :=
  match connection.place with
  | .idle => id ∈ connection.subscriptionIds
  | .registered new => id = new ∨ id ∈ connection.subscriptionIds
  | .owned _ => id ∈ connection.subscriptionIds
  | .popped gone => id ≠ gone ∧ id ∈ connection.subscriptionIds
  | .removed gone => id ≠ gone ∧ id ∈ connection.subscriptionIds
  | .releasing rest => id ∈ rest
  | .releasePopped _ rest => id ∈ rest
  | .released => False

/-- What holds of connection `number`: its ids, and those of its frame, were generated for it; what the
registry has for its queue it knows of; an id that it answered true for is gone from it; and what was put
on its queue is for its ids. -/
structure Connection.Ok (number : ℕ) (shared : Shared I) (connection : Connection I E) : Prop where
  own : ∀ id ∈ connection.subscriptionIds, (id, number) ∈ shared.generated
  frame : ∀ id ∈ connection.place.ids, (id, number) ∈ shared.generated
  holds : ∀ id, shared.registry.get id = some number → connection.Holds id
  answered : ∀ id, (number, some id, true) ∈ shared.answers →
    id ∉ connection.subscriptionIds ∧ id ∉ connection.place.ids
  queue : ∀ id event, (id, event) ∈ connection.outQueue → (id, number) ∈ shared.generated

/-- What holds of the stores that the threads share. -/
structure Shared.Ok (shared : Shared I) : Prop where
  distinct : (shared.generated.map Prod.fst).Nodup
  registry : ∀ id queue, shared.registry.get id = some queue → (id, queue) ∈ shared.generated
  owner : ∀ number id, (number, some id, true) ∈ shared.answers → (id, number) ∈ shared.generated
  once : ∀ number id, shared.answers.count (number, some id, true) ≤ 1

/-- The queue that a call of `emit` has found. -/
def Emit.queue : Emit I E → Option (I × ℕ)
  | .found id _ queue => some (id, queue)
  | .putting id _ queue => some (id, queue)
  | _ => none

/-- An event that was emitted is on the queue of the connection that its id was generated for. -/
def System.Pushed (system : System I E) (id : I) (event : E) : Prop :=
  ∃ number connection, system.connections[number]? = some connection ∧
    (id, number) ∈ system.generated ∧ (id, event) ∈ connection.outQueue

/-- The invariant. -/
structure Inv (system : System I E) : Prop where
  shared : system.shared.Ok
  connections : ∀ (number : ℕ) (connection : Connection I E),
    system.connections[number]? = some connection → connection.Ok number system.shared
  known : ∀ id number, (id, number) ∈ system.generated → number < system.connections.length
  found : ∀ (call : ℕ) (emit : Emit I E), system.emits[call]? = some emit → ∀ item,
    emit.queue = some item → item ∈ system.generated
  emitted : ∀ (call : ℕ) (emit : Emit I E), system.emits[call]? = some emit → ∀ id event,
    emit = .answered id event .emitted → system.Pushed id event

theorem start_inv : Inv (System.start : System I E) where
  shared := ⟨List.nodup_nil, nofun, nofun, fun _ _ => Nat.zero_le _⟩
  connections := by simp [System.start]
  known := by simp [System.start]
  found := by simp [System.start]
  emitted := by simp [System.start]

section

variable {number : ℕ} {shared after : Shared I} {connection moved : Connection I E}

/-- An id was generated for one connection. -/
theorem Shared.Ok.owner_unique (ok : shared.Ok) {id : I} {first second : ℕ}
    (one : (id, first) ∈ shared.generated) (two : (id, second) ∈ shared.generated) : first = second := by
  have same := List.inj_on_of_nodup_map ok.distinct one two rfl
  exact congrArg Prod.snd same

/-- What a step of a connection leaves of the shared stores, for the others. -/
structure Leaves (number : ℕ) (shared after : Shared I) : Prop where
  generated : ∀ item ∈ shared.generated, item ∈ after.generated
  registry : ∀ id queue, after.registry.get id = some queue → queue ≠ number →
    shared.registry.get id = some queue
  answers : ∀ other id, (other, some id, true) ∈ after.answers → other ≠ number →
    (other, some id, true) ∈ shared.answers

/-- A step of one connection keeps what holds of another. -/
theorem Connection.Ok.of_leaves {other : ℕ} (ok : connection.Ok other shared)
    (leaves : Leaves number shared after) (elsewhere : other ≠ number) : connection.Ok other after where
  own id member := leaves.generated _ (ok.own id member)
  frame id member := leaves.generated _ (ok.frame id member)
  holds id found := ok.holds id (leaves.registry id other found elsewhere)
  answered id member := ok.answered id (leaves.answers other id member elsewhere)
  queue id event member := leaves.generated _ (ok.queue id event member)

/-! ### What the shared stores are after a step -/

theorem Leaves.refl (number : ℕ) (shared : Shared I) : Leaves number shared shared :=
  ⟨fun _ member => member, fun _ _ found _ => found, fun _ _ member _ => member⟩

/-- A mark changes nothing that is held. -/
theorem mark_ok (ok : shared.Ok) (number : ℕ) (id : I) :
    Shared.Ok { shared with closed := shared.closed ++ [id] } ∧
      Leaves number shared { shared with closed := shared.closed ++ [id] } :=
  ⟨⟨ok.distinct, ok.registry, ok.owner, ok.once⟩,
    ⟨fun _ member => member, fun _ _ found _ => found, fun _ _ member _ => member⟩⟩

theorem get_of_pop {registry : Dict I ℕ} {id other : I} {queue : ℕ}
    (found : (registry.pop id).get other = some queue) : other ≠ id ∧ registry.get other = some queue := by
  rw [Dict.get_pop] at found
  split at found
  · cases found
  · next elsewhere => exact ⟨Ne.symm elsewhere, found⟩

/-- An id leaves the registry. -/
theorem pop_ok (ok : shared.Ok) (number : ℕ) (id : I) :
    Shared.Ok { shared with registry := shared.registry.pop id } ∧
      Leaves number shared { shared with registry := shared.registry.pop id } := by
  refine ⟨⟨ok.distinct, fun other queue found => ?_, ok.owner, ok.once⟩, fun _ member => member,
    fun other queue found _ => ?_, fun _ _ member _ => member⟩
  · exact ok.registry other queue (get_of_pop found).2
  · exact (get_of_pop found).2

/-- A frame that answers false. -/
theorem refuse_ok (ok : shared.Ok) (number : ℕ) (target : Option I) :
    Shared.Ok { shared with answers := shared.answers ++ [(number, target, false)] } ∧
      Leaves number shared { shared with answers := shared.answers ++ [(number, target, false)] } := by
  refine ⟨⟨ok.distinct, ok.registry, fun other id member => ok.owner other id ?_, fun other id => ?_⟩,
    fun _ member => member, fun _ _ found _ => found, fun other id member _ => ?_⟩
  · simpa using member
  · rw [List.count_append, List.count_singleton]
    simpa using ok.once other id
  · simpa using member

/-- A frame that answers true, for an id that it has not answered true for. -/
theorem accept_ok (ok : shared.Ok) {id : I} (owned : (id, number) ∈ shared.generated)
    (first : (number, some id, true) ∉ shared.answers) :
    Shared.Ok { shared with answers := shared.answers ++ [(number, some id, true)] } ∧
      Leaves number shared { shared with answers := shared.answers ++ [(number, some id, true)] } := by
  refine ⟨⟨ok.distinct, ok.registry, fun other known member => ?_, fun other known => ?_⟩,
    fun _ member => member, fun _ _ found _ => found, fun other known member elsewhere => ?_⟩
  · rcases List.mem_append.mp member with before | now
    · exact ok.owner other known before
    · cases List.mem_singleton.mp now
      exact owned
  · rw [List.count_append]
    by_cases same : ((number, some id, true) : Reply I) = (other, some known, true)
    · rw [← same, List.count_eq_zero_of_not_mem first, List.count_singleton_self]
    · rw [List.count_singleton, if_neg (by simpa using same)]
      exact ok.once other known
  · rcases List.mem_append.mp member with before | now
    · exact before
    · cases List.mem_singleton.mp now
      exact absurd rfl elsewhere

/-- A subscription with a new id. -/
theorem subscribe_ok (ok : shared.Ok) (number : ℕ) {id : I} (fresh : id ∉ shared.generated.map Prod.fst) :
    Shared.Ok { shared with
        registry := shared.registry.set id number
        generated := shared.generated ++ [(id, number)] } ∧
      Leaves number shared { shared with
        registry := shared.registry.set id number
        generated := shared.generated ++ [(id, number)] } := by
  refine ⟨⟨?_, fun other queue found => ?_, fun other known member => ?_, ok.once⟩,
    fun _ member => List.mem_append_left _ member, fun other queue found elsewhere => ?_,
    fun _ _ member _ => member⟩
  · rw [List.map_append, List.map_singleton]
    refine List.nodup_append.mpr ⟨ok.distinct, List.nodup_singleton _, fun one member two new => ?_⟩
    rw [List.mem_singleton.mp new]
    rintro rfl
    exact fresh member
  · change (shared.registry.set id number).get other = some queue at found
    rw [Dict.get_set] at found
    split at found
    · next same =>
        cases found
        subst same
        exact List.mem_append_right _ (List.mem_singleton.mpr rfl)
    · exact List.mem_append_left _ (ok.registry other queue found)
  · exact List.mem_append_left _ (ok.owner other known member)
  · change (shared.registry.set id number).get other = some queue at found
    rw [Dict.get_set] at found
    split at found
    · cases found
      exact absurd rfl elsewhere
    · exact found

/-! ### One step of a connection -/

/-- What a step of a reader thread keeps. -/
structure Kept (number : ℕ) (shared after : Shared I) (connection moved : Connection I E) : Prop where
  stored : after.Ok
  leaves : Leaves number shared after
  ok : moved.Ok number after
  events : moved.outQueue = connection.outQueue

/-- A step that answers nothing, leaves the set of the connection, and takes no new id. -/
theorem Kept.of_place {place : Place I} (ok : connection.Ok number shared)
    (step : after.Ok ∧ Leaves number shared after) (generated : after.generated = shared.generated)
    (answers : after.answers = shared.answers)
    (ids : ∀ id ∈ place.ids, id ∈ connection.subscriptionIds ∨ id ∈ connection.place.ids)
    (holds : ∀ id, after.registry.get id = some number →
      Connection.Holds { connection with place := place } id) :
    Kept number shared after connection { connection with place := place } := by
  refine ⟨step.1, step.2, ⟨?_, fun id member => ?_, holds, fun id member => ?_, ?_⟩, rfl⟩
  · rw [generated]
    exact ok.own
  · rw [generated]
    rcases ids id member with inSet | inFrame
    · exact ok.own id inSet
    · exact ok.frame id inFrame
  · rw [answers] at member
    obtain ⟨gone, elsewhere⟩ := ok.answered id member
    exact ⟨gone, fun here => (ids id here).elim gone elsewhere⟩
  · rw [generated]
    exact ok.queue

/-- An answer of false says nothing of an id. -/
theorem Connection.Ok.of_refused {target : Option I} (ok : connection.Ok number shared) :
    connection.Ok number { shared with answers := shared.answers ++ [(number, target, false)] } where
  own := ok.own
  frame := ok.frame
  holds := ok.holds
  answered id member := ok.answered id (by simpa using member)
  queue := ok.queue

/-- **A subscribe frame.** -/
theorem subscribe_kept {id : I} (sharedOk : shared.Ok) (ok : connection.Ok number shared)
    (done : frameStep number shared connection (.subscribe id) = some (after, moved)) :
    Kept number shared after connection moved := by
  simp only [frameStep] at done
  split at done
  · next idle =>
      split at done
      · cases done
      · next fresh =>
          cases done
          obtain ⟨stored, leaves⟩ := subscribe_ok sharedOk number fresh
          refine ⟨stored, leaves, ⟨fun known member => ?_, fun known same => ?_, fun known found => ?_,
            fun known member => ?_, fun known event member => ?_⟩, rfl⟩
          · exact List.mem_append_left _ (ok.own known member)
          · rw [List.mem_singleton.mp same]
            exact List.mem_append_right _ (List.mem_singleton.mpr rfl)
          · change (shared.registry.set id number).get known = some number at found
            rw [Dict.get_set] at found
            split at found
            · next same => exact .inl same.symm
            · have held := ok.holds known found
              unfold Connection.Holds at held
              rw [idle] at held
              exact .inr held
          · -- An id that was answered for was generated before.
            refine ⟨(ok.answered known member).1, fun same => fresh ?_⟩
            rw [← List.mem_singleton.mp same]
            exact List.mem_map.mpr ⟨_, sharedOk.owner number known member, rfl⟩
          · exact List.mem_append_left _ (ok.queue known event member)
  · cases done

/-- What an idle connection has in the registry is in its set. -/
theorem Connection.Ok.idle_mem (ok : connection.Ok number shared) (idle : connection.place = .idle) {id : I}
    (found : shared.registry.get id = some number) : id ∈ connection.subscriptionIds := by
  have held := ok.holds id found
  unfold Connection.Holds at held
  rw [idle] at held
  exact held

/-- **An unsubscribe frame, up to its look into the set.** -/
theorem unsubscribe_kept {target : Option I} (sharedOk : shared.Ok) (ok : connection.Ok number shared)
    (done : frameStep number shared connection (.unsubscribe target) = some (after, moved)) :
    Kept number shared after connection moved := by
  simp only [frameStep] at done
  split at done
  · next id idle =>
      split at done
      · next member =>
          cases done
          refine Kept.of_place ok ⟨sharedOk, Leaves.refl number shared⟩ rfl rfl (fun known same => .inl ?_)
            fun known found => ok.idle_mem idle found
          rw [List.mem_singleton.mp same]
          exact member
      · cases done
        obtain ⟨stored, leaves⟩ := refuse_ok sharedOk number (some id)
        exact ⟨stored, leaves, ok.of_refused, rfl⟩
  · cases done
    obtain ⟨stored, leaves⟩ := refuse_ok sharedOk number none
    exact ⟨stored, leaves, ok.of_refused, rfl⟩
  · cases done

/-- **The end of the reader loop.** -/
theorem release_kept (sharedOk : shared.Ok) (ok : connection.Ok number shared)
    (done : frameStep number shared connection .release = some (after, moved)) :
    Kept number shared after connection moved := by
  simp only [frameStep] at done
  split at done
  · next idle =>
      cases done
      exact Kept.of_place ok ⟨sharedOk, Leaves.refl number shared⟩ rfl rfl (fun _ member => .inl member)
        fun known found => ok.idle_mem idle found
  · cases done

/-- What holds of a connection, at its place. -/
theorem Connection.Ok.holds_at {place : Place I} (ok : connection.Ok number shared)
    (here : connection.place = place) {id : I} (found : shared.registry.get id = some number) :
    Connection.Holds { connection with place := place } id := by
  rw [← here]
  exact ok.holds id found

/-- **The end of a subscribe frame**: the new id joins the set. -/
theorem joined_ok {id : I} (ok : connection.Ok number shared) (here : connection.place = .registered id) :
    Connection.Ok number shared
      { connection with subscriptionIds := connection.subscriptionIds.insert id, place := .idle } where
  own known member := by
    rcases List.mem_insert_iff.mp member with rfl | before
    · exact ok.frame known (by rw [here]; exact List.mem_singleton.mpr rfl)
    · exact ok.own known before
  frame := nofun
  holds known found := List.mem_insert_iff.mpr (ok.holds_at here found)
  answered known member := by
    obtain ⟨gone, elsewhere⟩ := ok.answered known member
    refine ⟨fun joined => ?_, nofun⟩
    rcases List.mem_insert_iff.mp joined with rfl | before
    · exact elsewhere (by rw [here]; exact List.mem_singleton.mpr rfl)
    · exact gone before
  queue := ok.queue

/-- **The end of an unsubscribe frame**: the id leaves the set, and the answer is true. -/
theorem left_ok {id : I} (ok : connection.Ok number shared) (here : connection.place = .removed id) :
    Connection.Ok number { shared with answers := shared.answers ++ [(number, some id, true)] }
      { connection with
        subscriptionIds := connection.subscriptionIds.filter (· ≠ id)
        place := .idle } where
  own known member := ok.own known (List.mem_filter.mp member).1
  frame := nofun
  holds known found := by
    obtain ⟨other, member⟩ := ok.holds_at here found
    exact List.mem_filter.mpr ⟨member, decide_eq_true other⟩
  answered known member := by
    rcases List.mem_append.mp member with before | now
    · exact ⟨fun joined => (ok.answered known before).1 (List.mem_filter.mp joined).1, nofun⟩
    · cases List.mem_singleton.mp now
      refine ⟨fun joined => ?_, nofun⟩
      exact of_decide_eq_true (List.mem_filter.mp joined).2 rfl
  queue := ok.queue

/-- **The next step of a frame, or of the release.** -/
theorem go_kept (sharedOk : shared.Ok) (ok : connection.Ok number shared)
    (done : frameStep number shared connection .go = some (after, moved)) :
    Kept number shared after connection moved := by
  have inFrame : ∀ {place : Place I}, connection.place = place → ∀ id ∈ place.ids,
      id ∈ connection.subscriptionIds ∨ id ∈ connection.place.ids := fun here _ member => .inr (here ▸ member)
  simp only [frameStep] at done
  split at done
  · next id here =>
      cases done
      exact ⟨sharedOk, Leaves.refl number shared, joined_ok ok here, rfl⟩
  · next id here =>
      split at done
      · cases done
        refine Kept.of_place ok (pop_ok sharedOk number id) rfl rfl
          (fun known member => inFrame here known member) fun known found => ?_
        obtain ⟨other, before⟩ := get_of_pop found
        exact ⟨other, ok.holds_at here before⟩
      · cases done
        obtain ⟨stored, leaves⟩ := refuse_ok sharedOk number (some id)
        have idle : Connection.Ok number shared { connection with place := .idle } :=
          ⟨ok.own, nofun, fun known found => ok.holds_at here found,
            fun known member => ⟨(ok.answered known member).1, nofun⟩, ok.queue⟩
        exact ⟨stored, leaves, idle.of_refused, rfl⟩
  · next id here =>
      cases done
      exact Kept.of_place ok (mark_ok sharedOk number id) rfl rfl
        (fun known member => inFrame here known member) fun known found => ok.holds_at here found
  · next id here =>
      cases done
      have inIds : id ∈ connection.place.ids := by
        rw [here]
        exact List.mem_singleton.mpr rfl
      obtain ⟨stored, leaves⟩ := accept_ok sharedOk (ok.frame id inIds)
        fun answered => (ok.answered id answered).2 inIds
      exact ⟨stored, leaves, left_ok ok here, rfl⟩
  · next here =>
      cases done
      refine Kept.of_place ok ⟨sharedOk, Leaves.refl number shared⟩ rfl rfl nofun fun known found => ?_
      exact absurd (ok.holds_at here found) List.not_mem_nil
  · next id rest here =>
      split at done
      · cases done
        refine Kept.of_place ok (pop_ok sharedOk number id) rfl rfl
          (fun known member => inFrame here known member) fun known found => ?_
        obtain ⟨other, before⟩ := get_of_pop found
        exact List.mem_of_ne_of_mem other (ok.holds_at here before)
      · next absent =>
          cases done
          refine Kept.of_place ok ⟨sharedOk, Leaves.refl number shared⟩ rfl rfl
            (fun known member => inFrame here known (List.mem_cons_of_mem _ member)) fun known found => ?_
          have other : known ≠ id := by
            rintro rfl
            rw [Dict.has, found] at absent
            exact absent rfl
          exact List.mem_of_ne_of_mem other (ok.holds_at here found)
  · next id rest here =>
      cases done
      exact Kept.of_place ok (mark_ok sharedOk number id) rfl rfl
        (fun known member => inFrame here known (List.mem_cons_of_mem _ member))
        fun known found => ok.holds_at here found
  · cases done

/-- **One step of a reader thread.** -/
theorem frame_kept {frame : Frame I} (sharedOk : shared.Ok) (ok : connection.Ok number shared)
    (done : frameStep number shared connection frame = some (after, moved)) :
    Kept number shared after connection moved := by
  cases frame with
  | subscribe id => exact subscribe_kept sharedOk ok done
  | unsubscribe target => exact unsubscribe_kept sharedOk ok done
  | go => exact go_kept sharedOk ok done
  | release => exact release_kept sharedOk ok done

end

/-! ### One step of the system -/

section

variable {system next : System I E}

/-- An event stays on its queue, while the connections and their queues stay. -/
theorem System.Pushed.mono {id : I} {event : E} (pushed : system.Pushed id event)
    (generated : ∀ item ∈ system.generated, item ∈ next.generated)
    (kept : ∀ (number : ℕ) (connection : Connection I E), system.connections[number]? = some connection →
      ∃ moved, next.connections[number]? = some moved ∧
        ∀ item ∈ connection.outQueue, item ∈ moved.outQueue) : next.Pushed id event := by
  obtain ⟨number, connection, here, owned, queued⟩ := pushed
  obtain ⟨moved, there, grown⟩ := kept number connection here
  exact ⟨number, moved, there, generated _ owned, grown _ queued⟩

/-- A write over one connection keeps every queue, when it keeps its own. -/
theorem set_keeps_queues {connections : List (Connection I E)} {number : ℕ} {connection moved : Connection I E}
    (here : connections[number]? = some connection)
    (grown : ∀ item ∈ connection.outQueue, item ∈ moved.outQueue) :
    ∀ (other : ℕ) (old : Connection I E), connections[other]? = some old →
      ∃ new, (connections.set number moved)[other]? = some new ∧
        ∀ item ∈ old.outQueue, item ∈ new.outQueue := by
  intro other old found
  by_cases same : number = other
  · subst same
    cases here.symm.trans found
    refine ⟨moved, ?_, grown⟩
    rw [List.getElem?_set_self (List.getElem?_eq_some_iff.mp here).1]
  · refine ⟨old, ?_, fun _ member => member⟩
    rw [List.getElem?_set_ne same]
    exact found

/-- **A new connection.** -/
theorem connect_inv (inv : Inv system) :
    Inv { system with connections := system.connections ++ [⟨[], [], .idle⟩] } where
  shared := inv.shared
  connections := by
    refine forall_append inv.connections ⟨nofun, nofun, fun id found => ?_, fun id member => ?_, nofun⟩
    · exact absurd (inv.known id _ (inv.shared.registry id _ found)) (Nat.lt_irrefl _)
    · exact absurd (inv.known id _ (inv.shared.owner _ id member)) (Nat.lt_irrefl _)
  known id number member := by
    rw [List.length_append]
    exact Nat.lt_add_right _ (inv.known id number member)
  found := inv.found
  emitted call emit found id event same := by
    refine (inv.emitted call emit found id event same).mono (fun _ member => member) ?_
    intro number connection here
    refine ⟨connection, ?_, fun _ member => member⟩
    change (system.connections ++ [⟨[], [], .idle⟩])[number]? = some connection
    rw [List.getElem?_append_left (List.getElem?_eq_some_iff.mp here).1]
    exact here

/-- What a step of a reader thread does to the registry: nothing, or it registers a new id, or it takes out
an id that its frame is about. -/
theorem frameStep_writes {number : ℕ} {shared after : Shared I} {connection moved : Connection I E}
    {frame : Frame I} (done : frameStep number shared connection frame = some (after, moved)) :
    (after.registry = shared.registry ∧ after.generated = shared.generated) ∨
      (∃ id, id ∉ shared.generated.map Prod.fst ∧ after.registry = shared.registry.set id number ∧
        after.generated = shared.generated ++ [(id, number)]) ∨
      ∃ id ∈ connection.place.ids, after.registry = shared.registry.pop id ∧
        after.generated = shared.generated := by
  cases frame with
  | subscribe id =>
      simp only [frameStep] at done
      split at done
      · split at done
        · cases done
        · next fresh =>
            cases done
            exact .inr (.inl ⟨id, fresh, rfl, rfl⟩)
      · cases done
  | unsubscribe target =>
      simp only [frameStep] at done
      repeat' split at done
      all_goals cases done
      all_goals exact .inl ⟨rfl, rfl⟩
  | release =>
      simp only [frameStep] at done
      split at done
      all_goals cases done
      exact .inl ⟨rfl, rfl⟩
  | go =>
      simp only [frameStep] at done
      split at done
      · cases done
        exact .inl ⟨rfl, rfl⟩
      · next id here =>
          split at done
          · cases done
            exact .inr (.inr ⟨id, here ▸ List.mem_singleton.mpr rfl, rfl, rfl⟩)
          · cases done
            exact .inl ⟨rfl, rfl⟩
      · cases done
        exact .inl ⟨rfl, rfl⟩
      · cases done
        exact .inl ⟨rfl, rfl⟩
      · cases done
        exact .inl ⟨rfl, rfl⟩
      · next id rest here =>
          split at done
          · cases done
            exact .inr (.inr ⟨id, here ▸ List.mem_cons_self, rfl, rfl⟩)
          · cases done
            exact .inl ⟨rfl, rfl⟩
      · cases done
        exact .inl ⟨rfl, rfl⟩
      · cases done

/-- **A step of a reader thread.** -/
theorem frame_inv {number : ℕ} {after : Shared I} {connection moved : Connection I E} {frame : Frame I}
    (inv : Inv system) (here : system.connections[number]? = some connection)
    (done : frameStep number system.shared connection frame = some (after, moved)) :
    Inv { system with
      registry := after.registry
      closed := after.closed
      generated := after.generated
      answers := after.answers
      connections := system.connections.set number moved } := by
  have kept := frame_kept inv.shared (inv.connections number connection here) done
  refine ⟨kept.stored, ?_, fun id owner member => ?_, fun call emit found item same => ?_,
    fun call emit found id event same => ?_⟩
  · exact forall_set (fun other thread found elsewhere =>
      (inv.connections other thread found).of_leaves kept.leaves elsewhere) kept.ok
  · change owner < (system.connections.set number moved).length
    rw [List.length_set]
    change (id, owner) ∈ after.generated at member
    rcases frameStep_writes done with ⟨-, same⟩ | ⟨new, -, -, grown⟩ | ⟨gone, -, -, same⟩
    · rw [same] at member
      exact inv.known id owner member
    · rw [grown] at member
      rcases List.mem_append.mp member with before | now
      · exact inv.known id owner before
      · cases List.mem_singleton.mp now
        exact (List.getElem?_eq_some_iff.mp here).1
    · rw [same] at member
      exact inv.known id owner member
  · exact kept.leaves.generated item (inv.found call emit found item same)
  · refine (inv.emitted call emit found id event same).mono kept.leaves.generated
      (set_keeps_queues here fun item member => ?_)
    rw [kept.events]
    exact member

/-- A step that writes over one call of `emit` only. -/
theorem setEmit_inv {call : ℕ} {emit : Emit I E} (inv : Inv system)
    (found : ∀ item, emit.queue = some item → item ∈ system.generated)
    (emitted : ∀ id event, emit = .answered id event .emitted → system.Pushed id event) :
    Inv { system with emits := system.emits.set call emit } where
  shared := inv.shared
  connections := inv.connections
  known := inv.known
  found := forall_set (fun other thread here _ => inv.found other thread here) found
  emitted := forall_set (fun other thread here _ => inv.emitted other thread here) emitted

/-- **A put.** -/
theorem putNowait_inv {queue : ℕ} {id : I} (inv : Inv system) (event : E)
    (owned : (id, queue) ∈ system.generated) :
    Inv { system with connections := putNowait system.connections queue (id, event) } ∧
      System.Pushed { system with connections := putNowait system.connections queue (id, event) } id event := by
  obtain ⟨connection, here⟩ : ∃ connection, system.connections[queue]? = some connection :=
    ⟨_, List.getElem?_eq_getElem (inv.known id queue owned)⟩
  have put : putNowait system.connections queue (id, event) =
      system.connections.set queue { connection with outQueue := connection.outQueue ++ [(id, event)] } := by
    unfold putNowait
    rw [here]
  have ok := inv.connections queue connection here
  rw [put]
  refine ⟨⟨inv.shared, ?_, fun known number member => ?_, inv.found, fun call emit found known item same => ?_⟩,
    queue, _, List.getElem?_set_self (inv.known id queue owned), owned, ?_⟩
  · refine forall_set (fun other thread found _ => inv.connections other thread found)
      ⟨ok.own, ok.frame, ok.holds, ok.answered, fun known item member => ?_⟩
    rcases List.mem_append.mp member with before | now
    · exact ok.queue known item before
    · cases List.mem_singleton.mp now
      exact owned
  · change number < (system.connections.set _ _).length
    rw [List.length_set]
    exact inv.known known number member
  · exact (inv.emitted call emit found known item same).mono (fun _ member => member)
      (set_keeps_queues here fun _ member => List.mem_append_left _ member)
  · exact List.mem_append_right _ (List.mem_singleton.mpr rfl)

/-- **A step of an `emit`.** -/
theorem emitStep_inv {call : ℕ} {full : Bool} {emit : Emit I E} (inv : Inv system)
    (here : system.emits[call]? = some emit) (done : system.emitStep call full emit = some next) :
    Inv next := by
  cases emit with
  | called id event =>
      simp only [System.emitStep] at done
      split at done
      · next queue found =>
          cases done
          refine setEmit_inv inv (fun item same => ?_) (by simp)
          cases same
          exact inv.shared.registry id queue found
      · cases done
        exact setEmit_inv inv (by simp [Emit.queue]) (by simp)
  | found id event queue =>
      simp only [System.emitStep] at done
      split at done
      · cases done
        exact setEmit_inv inv (by simp [Emit.queue]) (by simp)
      · cases done
        exact setEmit_inv inv (fun item same => inv.found call _ here item same) (by simp)
  | putting id event queue =>
      simp only [System.emitStep] at done
      split at done
      · cases done
        exact setEmit_inv inv (by simp [Emit.queue]) (by simp)
      · cases done
        obtain ⟨put, pushed⟩ := putNowait_inv inv event (inv.found call _ here _ rfl)
        refine setEmit_inv put (by simp [Emit.queue]) fun known item same => ?_
        cases same
        exact pushed
  | answered id event outcome => cases done

/-- **Every step of every thread keeps the invariant.** -/
theorem step_inv {action : Action I E} (done : system.step action = some next) (inv : Inv system) :
    Inv next := by
  cases action with
  | connect =>
      cases done
      exact connect_inv inv
  | frame number frame =>
      simp only [System.step] at done
      split at done
      · next connection here =>
          obtain ⟨⟨after, moved⟩, stepped, rfl⟩ := Option.map_eq_some_iff.mp done
          exact frame_inv inv here stepped
      · cases done
  | emit id event =>
      cases done
      exact ⟨inv.shared, inv.connections, inv.known, forall_append inv.found nofun,
        forall_append inv.emitted nofun⟩
  | emitStep call full =>
      obtain ⟨emit, here, stepped⟩ := Option.bind_eq_some_iff.mp done
      exact emitStep_inv inv here stepped
  | clear =>
      cases done
      refine ⟨⟨inv.shared.distinct, nofun, inv.shared.owner, inv.shared.once⟩, fun number connection here => ?_,
        inv.known, inv.found, inv.emitted⟩
      have ok := inv.connections number connection here
      exact ⟨ok.own, ok.frame, nofun, ok.answered, ok.queue⟩

/-- **A connection takes only its own ids out of the registry.** -/
theorem Inv.frame_keeps_others {number queue : ℕ} {frame : Frame I} {id : I} (inv : Inv system)
    (done : system.step (.frame number frame) = some next) (found : system.registry.get id = some queue)
    (elsewhere : queue ≠ number) : next.registry.get id = some queue := by
  simp only [System.step] at done
  split at done
  · next connection here =>
      obtain ⟨⟨after, moved⟩, stepped, rfl⟩ := Option.map_eq_some_iff.mp done
      have owned : (id, queue) ∈ system.generated := inv.shared.registry id queue found
      change after.registry.get id = some queue
      rcases frameStep_writes stepped with ⟨same, -⟩ | ⟨new, fresh, set, -⟩ | ⟨gone, member, popped, -⟩
      · rw [same]
        exact found
      · have other : new ≠ id := by
          rintro rfl
          exact fresh (List.mem_map.mpr ⟨_, owned, rfl⟩)
        rw [set, Dict.get_set, if_neg other]
        exact found
      · have other : gone ≠ id := by
          rintro rfl
          exact elsewhere (inv.shared.owner_unique owned
            ((inv.connections number connection here).frame gone member))
        rw [popped, Dict.get_pop, if_neg other]
        exact found
  · cases done

/-- An id that was answered true for was answered true for once, by one connection. -/
theorem Shared.Ok.once_per_id {shared : Shared I} (ok : shared.Ok) (id : I) :
    shared.answers.countP (fun reply => reply.2 = (some id, true)) ≤ 1 := by
  by_cases none : ∃ reply ∈ shared.answers, reply.2 = (some id, true)
  · obtain ⟨⟨number, rest⟩, member, same⟩ := none
    change rest = (some id, true) at same
    subst same
    refine le_trans (List.countP_mono_left fun reply other named => ?_) (ok.once number id)
    obtain ⟨another, rest⟩ := reply
    have again : rest = (some id, true) := of_decide_eq_true named
    subst again
    have owner : another = number := ok.owner_unique (ok.owner another id other) (ok.owner number id member)
    rw [owner]
    exact beq_self_eq_true _
  · refine le_of_eq_of_le (List.countP_eq_zero.mpr fun reply member named => none ?_) (Nat.zero_le 1)
    exact ⟨reply, member, of_decide_eq_true named⟩

end

/-! ### Every run -/

/-- What holds between the frames: each subscription has one owner, the connection that it was generated
for, and only the owner hears of it and ends it. -/
structure Owned (system : System I E) : Prop where
  /-- A registered id has the queue of a connection that was not released, and between the frames of that
  connection it is in its set and in no other. -/
  registered : ∀ id queue, system.registry.get id = some queue →
    ∃ owner, system.connections[queue]? = some owner ∧ owner.place ≠ .released ∧
      (owner.place = .idle → id ∈ owner.subscriptionIds ∧
        ∀ (other : ℕ) (connection : Connection I E), system.connections[other]? = some connection →
          id ∈ connection.subscriptionIds → other = queue)
  /-- An unsubscribe frame for an id that is not in the set answers false and does nothing else. -/
  refused : ∀ (number : ℕ) (connection : Connection I E) (target : Option I),
    system.connections[number]? = some connection → connection.place = .idle →
    (∀ id, target = some id → id ∉ connection.subscriptionIds) →
    system.step (.frame number (.unsubscribe target)) =
      some { system with answers := system.answers ++ [(number, target, false)] }
  /-- No step of a connection takes an id of another out of the registry. -/
  others : ∀ (number : ℕ) (frame : Frame I) (next : System I E),
    system.step (.frame number frame) = some next → ∀ id queue,
      system.registry.get id = some queue → queue ≠ number → next.registry.get id = some queue
  /-- Only the owner was answered true for an id, and at most once. -/
  answered : ∀ number id, (number, some id, true) ∈ system.answers → (id, number) ∈ system.generated
  once : ∀ id, system.answers.countP (fun reply => reply.2 = (some id, true)) ≤ 1
  /-- No id of a connection that was released is registered. -/
  released : ∀ (number : ℕ) (connection : Connection I E), system.connections[number]? = some connection →
    connection.place = .released → ∀ id, (id, number) ∈ system.generated → system.registry.get id = none
  /-- What is on a queue is for an id of that connection, and so on no other queue. -/
  queued : ∀ (number : ℕ) (connection : Connection I E), system.connections[number]? = some connection →
    ∀ id event, (id, event) ∈ connection.outQueue → (id, number) ∈ system.generated ∧
      ∀ (other : ℕ) (stranger : Connection I E), system.connections[other]? = some stranger →
        ∀ event, (id, event) ∈ stranger.outQueue → other = number
  /-- What was emitted is on the queue of the owner. -/
  emitted : ∀ (call : ℕ) id event, system.emits[call]? = some (.answered id event .emitted) →
    system.Pushed id event

theorem Inv.owned {system : System I E} (inv : Inv system) : Owned system where
  registered id queue found := by
    have owned : (id, queue) ∈ system.generated := inv.shared.registry id queue found
    obtain ⟨owner, here⟩ : ∃ owner, system.connections[queue]? = some owner :=
      ⟨_, List.getElem?_eq_getElem (inv.known id queue owned)⟩
    have ok := inv.connections queue owner here
    refine ⟨owner, here, fun gone => ok.holds_at gone found, fun idle => ⟨ok.idle_mem idle found, ?_⟩⟩
    intro other connection there member
    exact inv.shared.owner_unique ((inv.connections other connection there).own id member) owned
  refused number connection target here idle foreign := by
    have stays : system.connections.set number connection = system.connections := by
      obtain ⟨bound, value⟩ := List.getElem?_eq_some_iff.mp here
      rw [← value, List.set_getElem_self]
    cases target with
    | none =>
        simp only [System.step, here, frameStep, idle, Option.map_some, System.shared, stays]
    | some id =>
        simp only [System.step, here, frameStep, idle, if_neg (foreign id rfl), Option.map_some,
          System.shared, stays]
  others number frame next done id queue found elsewhere := inv.frame_keeps_others done found elsewhere
  answered := inv.shared.owner
  once := inv.shared.once_per_id
  released number connection here gone id owned := by
    rcases Option.eq_none_or_eq_some (system.registry.get id) with absent | ⟨queue, found⟩
    · exact absent
    · have same : queue = number := inv.shared.owner_unique (inv.shared.registry id queue found) owned
      subst same
      exact ((inv.connections queue connection here).holds_at gone found).elim
  queued number connection here id event member := by
    have owned := (inv.connections number connection here).queue id event member
    refine ⟨owned, fun other stranger there event queued => ?_⟩
    exact inv.shared.owner_unique ((inv.connections other stranger there).queue id event queued) owned
  emitted call id event here := inv.emitted call _ here id event rfl

/-- **Every subscription has one owner, in every state that any interleaving reaches.** -/
theorem subscriptions_owned {actions : List (Action I E)} {system : System I E}
    (done : run System.step System.start actions = some system) : Owned system :=
  (run_invariant Inv (fun _ _ _ => step_inv) done start_inv).owned

/-- Two connections, with a subscription each. The first sends an unsubscribe frame for the id of the
second, an event is emitted for that id, the second ends its own and is released. -/
def twoConnections : List (Action ℕ ℕ) :=
  [.connect, .connect, .frame 0 (.subscribe 7), .frame 1 (.subscribe 8), .frame 0 .go, .frame 1 .go,
    .frame 0 (.unsubscribe (some 8)), .emit 8 1, .emitStep 0 false, .emitStep 0 false, .emitStep 0 false,
    .frame 1 (.unsubscribe (some 8)), .frame 1 .go, .frame 1 .go, .frame 1 .go, .frame 1 .release,
    .frame 1 .go]

/-- The state after `twoConnections`. -/
def twoConnectionsEnd : System ℕ ℕ where
  registry := [(7, 0)]
  closed := [8]
  connections := [⟨[7], [], .idle⟩, ⟨[], [(8, 1)], .released⟩]
  emits := [.answered 8 1 .emitted]
  generated := [(7, 0), (8, 1)]
  answers := [(0, some 8, false), (1, some 8, true)]

theorem subscriptions_owned_two_connections :
    run System.step System.start twoConnections = some twoConnectionsEnd ∧ Owned twoConnectionsEnd :=
  have done : run System.step System.start twoConnections = some twoConnectionsEnd := rfl
  ⟨done, subscriptions_owned done⟩

end ProviderSimulator.Listeners.WsSubscriptions
