/-
**Which connections a close reaches.**

One `_ProviderHTTPServer`, its serve loop, which accepts connections, the worker threads of the
connections, and any number of `close_port` calls. A connection is accepted outside of the lock, so it
may be accepted before a close copies the clients and come to its own locked block after the close has
ended; `get_request` then closes it. So there are four cases and not three once a close has ended
(`connection_after_close`): shut down by a close, closed inside `get_request`, handed to
`shutdown_request`, or still on the way to the block that closes it.

The invariant says who is responsible for a registered connection: a close that has copied the clients
has it on its list, or has shut it down (`Inv.reached`).
-/

import Mathlib.Tactic.Common
import ProviderSimulator.Lib.Machine
import ProviderSimulator.Lib.Threads
import ProviderSimulator.Ports.HttpServer

set_option linter.unusedSectionVars false

namespace ProviderSimulator.Ports.ClosePort

open ProviderSimulator.Lib

/-! ### The machine -/

/-- Where a connection is. -/
inductive Place
  /-- `super().get_request()` returned it: before the locked block of `get_request`. -/
  | accepted
  /-- The locked block closed it. -/
  | closedInGetRequest
  /-- It is in `_clients`, and a worker serves it. -/
  | registered
  /-- Its worker called `shutdown_request`, and the client is out of `_clients`. -/
  | handed
  deriving DecidableEq

/-- A connection, and whether a `close_port` called `shutdown` on its socket. -/
structure Connection where
  place : Place
  shutDown : Bool
  deriving DecidableEq

/-- Where a `close_port` call is. -/
inductive Close
  | called
  /-- After its locked block: before the listening socket is closed. -/
  | copied (clients : List ℕ)
  /-- In its loop over the copied clients. -/
  | shutting (clients : List ℕ)
  /-- It started the thread of `shutdown`, or there was none to start. -/
  | ended
  /-- The start of that thread raised. -/
  | raised
  deriving DecidableEq

/-- The server, the connections that it accepted and the calls of `close_port`. -/
structure System where
  server : HttpServer
  connections : List Connection
  closes : List Close
  deriving DecidableEq

/-- A new server. -/
def System.start : System := ⟨{}, [], []⟩

/-- One step of one thread. -/
inductive Action
  /-- The serve thread starts. -/
  | serve
  /-- The serve loop accepts a connection. -/
  | accept
  /-- The locked block of `get_request`. -/
  | getRequest (connection : ℕ)
  /-- The worker of a connection calls `shutdown_request`. -/
  | shutdownRequest (connection : ℕ)
  /-- A new call of `close_port`. -/
  | closePort
  /-- The next step of a `close_port` call; its last one may raise. -/
  | close (call : ℕ) (raises : Bool)

/-- `client.shutdown` on one socket. An `OSError` means that the client is gone. -/
def System.shutClient (system : System) (client : ℕ) : System :=
  match system.connections[client]? with
  | some connection =>
      { system with
        connections := system.connections.set client { connection with shutDown := true } }
  | none => system

/-- One step of a `close_port` call. -/
def System.closeStep (system : System) (call : ℕ) (raises : Bool) : Close → Option System
  | .called =>
      let (server, clients) := system.server.beginClose
      some { system with server := server, closes := system.closes.set call (.copied clients) }
  | .copied clients =>
      some { system with
        server := system.server.closeSocket
        closes := system.closes.set call (.shutting clients) }
  | .shutting (client :: rest) =>
      some { system.shutClient client with closes := system.closes.set call (.shutting rest) }
  | .shutting [] =>
      -- Only the start of the shutdown thread can raise, and only a server that served has one.
      if raises && system.server.serveStarted then
        some { system with closes := system.closes.set call .raised }
      else some { system with closes := system.closes.set call .ended }
  | .ended => none
  | .raised => none

/-- One action. -/
def System.step (system : System) : Action → Option System
  | .serve =>
      if system.server.serveStarted then none
      else some { system with server := system.server.markServing }
  | .accept =>
      if system.server.listening && system.server.serveStarted then
        some { system with connections := system.connections ++ [⟨.accepted, false⟩] }
      else none
  | .getRequest id =>
      match system.connections[id]? with
      | some ⟨.accepted, shutDown⟩ =>
          let (server, recorded) := system.server.registerOrClose id
          let place := if recorded then Place.registered else .closedInGetRequest
          some { system with
            server := server
            connections := system.connections.set id ⟨place, shutDown⟩ }
      | _ => none
  | .shutdownRequest id =>
      match system.connections[id]? with
      | some ⟨.registered, shutDown⟩ =>
          some { system with
            server := system.server.forget id
            connections := system.connections.set id ⟨.handed, shutDown⟩ }
      | _ => none
  | .closePort => some { system with closes := system.closes ++ [.called] }
  | .close call raises => (system.closes[call]?).bind fun close => system.closeStep call raises close

/-! ### The invariant -/

/-- The clients that a call has still to shut down. -/
def Close.remaining : Close → Option (List ℕ)
  | .called => none
  | .copied clients => some clients
  | .shutting clients => some clients
  | .ended => some []
  | .raised => some []

/-- The set of clients is that of the registered connections; a call that copied it has set the flag,
and each connection that is still registered is on its list or was shut down. -/
structure Inv (system : System) : Prop where
  member : ∀ (id : ℕ) (connection : Connection), system.connections[id]? = some connection →
    connection.place = .registered → id ∈ system.server.clients
  flagged : ∀ (call : ℕ) (close : Close), system.closes[call]? = some close → ∀ rest,
    close.remaining = some rest → system.server.closedByScenario = true
  reached : ∀ (call : ℕ) (close : Close), system.closes[call]? = some close → ∀ rest,
    close.remaining = some rest → ∀ (id : ℕ) (connection : Connection),
      system.connections[id]? = some connection → connection.place = .registered →
      connection.shutDown = true ∨ id ∈ rest

theorem start_inv : Inv System.start where
  member := by simp [System.start]
  flagged := by simp [System.start]
  reached := by simp [System.start]

section

variable {system next : System}

/-- What a `shutdown` on one client socket leaves of the connections. -/
theorem shutClient_connections {client id : ℕ} {connection : Connection}
    (found : (system.shutClient client).connections[id]? = some connection) :
    ∃ before, system.connections[id]? = some before ∧ connection.place = before.place ∧
      (connection.shutDown = true ∨ id ≠ client ∧ connection = before) := by
  unfold System.shutClient at found
  split at found
  · next before here =>
      by_cases same : client = id
      · subst same
        obtain ⟨bound, value⟩ := List.getElem?_eq_some_iff.mp found
        rw [List.getElem_set_self] at value
        exact ⟨before, here, value ▸ rfl, .inl (value ▸ rfl)⟩
      · rw [List.getElem?_set_ne same] at found
        exact ⟨connection, found, rfl, .inr ⟨Ne.symm same, rfl⟩⟩
  · next absent =>
      have elsewhere : id ≠ client := by
        rintro rfl
        rw [absent] at found
        cases found
      exact ⟨connection, found, rfl, .inr ⟨elsewhere, rfl⟩⟩

theorem shutClient_server (system : System) (client : ℕ) : (system.shutClient client).server = system.server := by
  unfold System.shutClient
  split <;> rfl

/-- The next connection of the copy is shut down: those of the copy that are still up are the ones after it. -/
theorem Inv.shutNext {call client : ℕ} {rest : List ℕ} (inv : Inv system)
    (here : system.closes[call]? = some (.shutting (client :: rest))) :
    Inv { system.shutClient client with closes := system.closes.set call (.shutting rest) } := by
  have flag := inv.flagged call _ here (client :: rest) rfl
  have server := shutClient_server system client
  have reached : ∀ (other : ℕ) (found : Close), system.closes[other]? = some found →
      ∀ left, found.remaining = some left → ∀ (id : ℕ) (connection : Connection),
      (system.shutClient client).connections[id]? = some connection →
      connection.place = .registered →
      connection.shutDown = true ∨ id ∈ left ∧ id ≠ client := by
    intro other found there left same id connection moved registered
    obtain ⟨before, was, place, shut | ⟨elsewhere, rfl⟩⟩ := shutClient_connections moved
    · exact .inl shut
    · rcases inv.reached other found there left same id connection was registered with
        shut | listed
      · exact .inl shut
      · exact .inr ⟨listed, elsewhere⟩
  refine ⟨fun id connection moved registered => ?_, ?_, ?_⟩
  · obtain ⟨before, was, place, -⟩ := shutClient_connections moved
    show id ∈ (system.shutClient client).server.clients
    rw [server]
    exact inv.member id before was (place ▸ registered)
  · show ∀ (other : ℕ) (found : Close), (system.closes.set call _)[other]? = some found →
      ∀ left, found.remaining = some left →
      (system.shutClient client).server.closedByScenario = true
    rw [server]
    exact forall_set (fun _ _ _ _ _ _ => flag) (fun _ _ => flag)
  · refine forall_set (fun other found there _ left same id connection moved registered => ?_) ?_
    · rcases reached other found there left same id connection moved registered with
        shut | ⟨listed, -⟩
      · exact .inl shut
      · exact .inr listed
    · intro left same id connection moved registered
      cases same
      rcases reached call _ here (client :: rest) rfl id connection moved registered with
        shut | ⟨listed, elsewhere⟩
      · exact .inl shut
      · exact .inr ((List.mem_cons.mp listed).resolve_left elsewhere)

/-- **A step of a close keeps the invariant.** -/
theorem closeStep_inv {call : ℕ} {raises : Bool} {close : Close} (inv : Inv system)
    (here : system.closes[call]? = some close) (done : system.closeStep call raises close = some next) :
    Inv next := by
  cases close with
  | called =>
      cases done
      refine ⟨inv.member, forall_set (fun _ _ _ _ _ _ => rfl) (fun _ _ => rfl), ?_⟩
      refine forall_set (fun other found there _ => inv.reached other found there) ?_
      intro rest same id connection found registered
      cases same
      exact .inr (inv.member id connection found registered)
  | copied clients =>
      cases done
      have flag := inv.flagged call _ here clients rfl
      refine ⟨inv.member, forall_set (fun _ _ _ _ _ _ => flag) (fun _ _ => flag), ?_⟩
      refine forall_set (fun other found there _ => inv.reached other found there) ?_
      intro rest same
      exact inv.reached call _ here rest same
  | shutting clients =>
      cases clients with
      | nil =>
          have flag := inv.flagged call _ here [] rfl
          have finish : ∀ last : Close, last.remaining = some [] →
              Inv { system with closes := system.closes.set call last } := by
            intro last none_left
            refine ⟨inv.member, forall_set (fun _ _ _ _ _ _ => flag) (fun _ _ => flag), ?_⟩
            refine forall_set (fun other found there _ => inv.reached other found there) ?_
            intro rest same
            rw [none_left] at same
            cases same
            exact inv.reached call _ here [] rfl
          simp only [System.closeStep] at done
          split at done
          · cases done
            exact finish .raised rfl
          · cases done
            exact finish .ended rfl
      | cons client rest =>
          cases done
          exact inv.shutNext here
  | ended => cases done
  | raised => cases done

/-- **The locked block of `get_request` keeps the invariant.** A connection is recorded only before
the flag, and then no call has copied the clients. -/
theorem getRequest_inv {id : ℕ} {shutDown : Bool} (inv : Inv system) :
    Inv { system with
      server := (system.server.registerOrClose id).1
      connections := system.connections.set id
        ⟨if (system.server.registerOrClose id).2 then .registered else .closedInGetRequest,
          shutDown⟩ } := by
  by_cases flag : system.server.closedByScenario = true
  · have refused : system.server.registerOrClose id = (system.server, false) := if_pos flag
    rw [refused]
    refine ⟨forall_set (fun other found there _ => inv.member other found there) nofun,
      fun _ _ _ _ _ => flag, fun call close there rest same => ?_⟩
    exact forall_set (fun other found elsewhere _ =>
      inv.reached call close there rest same other found elsewhere) nofun
  · have recorded : system.server.registerOrClose id =
        ({ system.server with clients := system.server.clients ++ [id] }, true) := if_neg flag
    rw [recorded]
    have uncopied : ∀ (call : ℕ) (close : Close), system.closes[call]? = some close →
        ∀ rest, close.remaining ≠ some rest :=
      fun call close there rest same => flag (inv.flagged call close there rest same)
    refine ⟨forall_set (fun other found there _ registered => ?_) fun _ => ?_,
      fun call close there rest same => absurd same (uncopied call close there rest),
      fun call close there rest same => absurd same (uncopied call close there rest)⟩
    · exact List.mem_append_left _ (inv.member other found there registered)
    · exact List.mem_append_right _ (List.mem_singleton.mpr rfl)

/-- The locked block of `shutdown_request` keeps the invariant. -/
theorem shutdownRequest_inv {id : ℕ} {shutDown : Bool} (inv : Inv system) :
    Inv { system with
      server := system.server.forget id
      connections := system.connections.set id ⟨.handed, shutDown⟩ } := by
  refine ⟨forall_set (fun other found there elsewhere registered => ?_) nofun, inv.flagged,
    fun call close there rest same => ?_⟩
  · refine List.mem_filter.mpr ⟨inv.member other found there registered, ?_⟩
    simpa using elsewhere
  · exact forall_set (fun other found elsewhere _ =>
      inv.reached call close there rest same other found elsewhere) nofun

/-- **One step keeps the invariant.** -/
theorem step_inv {action : Action} (inv : Inv system) (done : system.step action = some next) :
    Inv next := by
  cases action with
  | serve =>
      simp only [System.step] at done
      split at done
      · cases done
      · cases done
        exact ⟨inv.member, inv.flagged, inv.reached⟩
  | accept =>
      simp only [System.step] at done
      split at done
      · cases done
        refine ⟨forall_append inv.member nofun, inv.flagged, fun call close there rest same => ?_⟩
        exact forall_append (inv.reached call close there rest same) nofun
      · cases done
  | getRequest id =>
      simp only [System.step] at done
      split at done
      · cases done
        exact getRequest_inv inv
      · cases done
  | shutdownRequest id =>
      simp only [System.step] at done
      split at done
      · cases done
        exact shutdownRequest_inv inv
      · cases done
  | closePort =>
      cases done
      exact ⟨inv.member, forall_append inv.flagged nofun, forall_append inv.reached nofun⟩
  | close call raises =>
      obtain ⟨close, here, moved⟩ := Option.bind_eq_some_iff.mp done
      exact closeStep_inv inv here moved

/-! ### After the flag -/

/-- A connection that is on the way to its locked block, or that the block closed. -/
def Unserved (id : ℕ) (system : System) : Prop :=
  ∃ connection, system.connections[id]? = some connection ∧
    (connection.place = .accepted ∨ connection.place = .closedInGetRequest)

/-- Once the flag is set it stays set, the set of clients only shrinks, and a connection that is not
served is not served later. -/
structure AfterFlag (before after : System) : Prop where
  flag : after.server.closedByScenario = true
  shrinks : after.server.clients ⊆ before.server.clients
  unserved : ∀ id, Unserved id before → Unserved id after

theorem AfterFlag.refl (flag : system.server.closedByScenario = true) : AfterFlag system system :=
  ⟨flag, fun _ member => member, fun _ holds => holds⟩

/-- A connection that is not served, after a write over one connection. -/
theorem unserved_set {id other : ℕ} {connection : Connection} {server : HttpServer}
    {closes : List Close} (moved : other = id →
      connection.place = .accepted ∨ connection.place = .closedInGetRequest)
    (holds : Unserved id system) :
    Unserved id ⟨server, system.connections.set other connection, closes⟩ := by
  obtain ⟨before, here, place⟩ := holds
  by_cases same : other = id
  · subst same
    obtain ⟨bound, -⟩ := List.getElem?_eq_some_iff.mp here
    exact ⟨connection, List.getElem?_set_self bound, moved rfl⟩
  · exact ⟨before, (List.getElem?_set_ne same).trans here, place⟩

/-- **One step after the flag.** -/
theorem step_afterFlag {action : Action} (flag : system.server.closedByScenario = true)
    (done : system.step action = some next) : AfterFlag system next := by
  cases action with
  | serve =>
      simp only [System.step] at done
      split at done
      · cases done
      · cases done
        exact ⟨flag, fun _ member => member, fun _ holds => holds⟩
  | accept =>
      simp only [System.step] at done
      split at done
      · cases done
        refine ⟨flag, fun _ member => member, fun id holds => ?_⟩
        obtain ⟨before, here, place⟩ := holds
        obtain ⟨bound, -⟩ := List.getElem?_eq_some_iff.mp here
        exact ⟨before, (List.getElem?_append_left bound).trans here, place⟩
      · cases done
  | getRequest other =>
      simp only [System.step] at done
      split at done
      · have refused : system.server.registerOrClose other = (system.server, false) := if_pos flag
        rw [refused] at done
        cases done
        exact ⟨flag, fun _ member => member, fun id => unserved_set fun _ => .inr rfl⟩
      · cases done
  | shutdownRequest other =>
      simp only [System.step] at done
      split at done
      · next shutDown here =>
          cases done
          refine ⟨flag, fun _ member => (List.mem_filter.mp member).1,
            fun id holds => unserved_set (fun same => ?_) holds⟩
          obtain ⟨before, there, place⟩ := holds
          subst same
          rw [here] at there
          cases there
          rcases place with isAccepted | isClosed
          · cases isAccepted
          · cases isClosed
      · cases done
  | closePort =>
      cases done
      exact ⟨flag, fun _ member => member, fun _ holds => holds⟩
  | close call raises =>
      obtain ⟨close, here, moved⟩ := Option.bind_eq_some_iff.mp done
      cases close with
      | called =>
          cases moved
          exact ⟨rfl, fun _ member => member, fun _ holds => holds⟩
      | copied clients =>
          cases moved
          exact ⟨flag, fun _ member => member, fun _ holds => holds⟩
      | shutting clients =>
          cases clients with
          | nil =>
              simp only [System.closeStep] at moved
              split at moved <;>
              · cases moved
                exact ⟨flag, fun _ member => member, fun _ holds => holds⟩
          | cons client rest =>
              cases moved
              have server := shutClient_server system client
              refine ⟨server ▸ flag, fun id member => ?_, fun id holds => ?_⟩
              · have kept : id ∈ (system.shutClient client).server.clients := member
                exact server ▸ kept
              · unfold System.shutClient
                split
                · next before there =>
                    refine unserved_set (fun same => ?_) holds
                    obtain ⟨connection, found, place⟩ := holds
                    subst same
                    rw [there] at found
                    cases found
                    exact place
                · exact holds
      | ended => cases moved
      | raised => cases moved

/-- **Every run after the flag.** -/
theorem run_afterFlag {actions : List Action} {final : System}
    (flag : system.server.closedByScenario = true)
    (done : run System.step system actions = some final) : AfterFlag system final := by
  refine run_invariant (AfterFlag system) (fun _ _ _ first before => ?_) done (.refl flag)
  have after := step_afterFlag before.flag first
  exact ⟨after.flag, fun _ member => before.shrinks (after.shrinks member),
    fun id holds => after.unserved id (before.unserved id holds)⟩

end

/-! ### Connections after a close -/

/-- A close shut the connection down, `get_request` closed it, or its worker handed it to
`shutdown_request`. -/
def Accounted (connection : Connection) : Prop :=
  connection.shutDown = true ∨ connection.place = .closedInGetRequest ∨ connection.place = .handed

/-- **Which connections a close reaches.** After every run in which a `close_port` call has run to its
end, each connection that the server accepted was shut down by a close, closed inside `get_request` or
handed to `shutdown_request`, or it is still between the accept and the locked block of `get_request`,
and then no later run serves it: the block can only close it. And in every run, once the flag is set,
no connection is added to the set of clients. -/
theorem connection_after_close (actions : List Action) (system : System)
    (done : run System.step System.start actions = some system) :
    ((.ended : Close) ∈ system.closes →
      ∀ (id : ℕ) (connection : Connection), system.connections[id]? = some connection →
        Accounted connection ∨
        connection.place = .accepted ∧ ∀ (later : List Action) final,
          run System.step system later = some final → Unserved id final) ∧
    (system.server.closedByScenario = true → ∀ (later : List Action) final,
      run System.step system later = some final →
        final.server.clients ⊆ system.server.clients) := by
  have inv : Inv system :=
    run_invariant Inv (fun _ _ _ first holds => step_inv holds first) done start_inv
  refine ⟨fun ended id connection here => ?_,
    fun flag later final run => (run_afterFlag flag run).shrinks⟩
  obtain ⟨call, there⟩ := List.mem_iff_getElem?.mp ended
  have flag := inv.flagged call _ there [] rfl
  cases place : connection.place with
  | accepted =>
      refine .inr ⟨rfl, fun later final run => ?_⟩
      exact (run_afterFlag flag run).unserved id ⟨connection, here, .inl place⟩
  | closedInGetRequest => exact .inl (.inr (.inl place))
  | registered =>
      rcases inv.reached call _ there [] rfl id connection here place with shut | none_left
      · exact .inl (.inl shut)
      · cases none_left
  | handed => exact .inl (.inr (.inr place))

/-- A connection that is registered when the close begins is shut down when it has ended. -/
theorem connection_after_close_registered :
    let actions : List Action :=
      [.serve, .accept, .getRequest 0, .closePort, .close 0 false, .close 0 false, .close 0 false,
        .close 0 false]
    ∃ system, run System.step System.start actions = some system ∧
      system.connections[0]? = some ⟨.registered, true⟩ ∧ Accounted ⟨.registered, true⟩ := by
  intro actions
  refine ⟨_, rfl, rfl, ?_⟩
  rcases (connection_after_close actions _ rfl).1 (List.mem_singleton.mpr rfl) 0 _ rfl with
    accounted | ⟨isAccepted, -⟩
  · exact accounted
  · cases isAccepted

/-- A connection that was accepted before the close, and that has not come to its locked block when
the close has ended, is in none of the three cases. -/
theorem accepted_connection_after_close :
    ¬ ∀ (actions : List Action) (system : System),
      run System.step System.start actions = some system → (.ended : Close) ∈ system.closes →
      ∀ connection ∈ system.connections, Accounted connection := by
  intro claimed
  have accounted := claimed
    [.serve, .accept, .closePort, .close 0 false, .close 0 false, .close 0 false] _ rfl
    (List.mem_singleton.mpr rfl) ⟨.accepted, false⟩ (List.mem_singleton.mpr rfl)
  rcases accounted with shut | isClosed | isHanded
  · cases shut
  · cases isClosed
  · cases isHanded

end ProviderSimulator.Ports.ClosePort
