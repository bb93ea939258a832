/-
**The loop of a port reports what is true.**

`port_loop_honest`: the report of each pass is true exactly of a bound server that serves and on which
no close began; a false report means that no socket of the loop is bound; at most one socket is bound at
any time; and after `stop` nothing is bound or reported any more.

The invariant (`Inv`) says who owns a bound socket: the loop's own server, the server that a pass drops
because it could not serve, or the one that `stop` took. At most one of these exists at a time. What a
pass knows of its own server at each of its places is `Place.Known`, and it is there that the failures
meet: a close that raised leaves a server that is flagged and unbound, which the next pass closes again
or reports as closed.
-/

import Mathlib.Tactic.Common
import ProviderSimulator.Lib.Machine
import ProviderSimulator.Lib.Threads
import ProviderSimulator.Ports.HttpPortLoop

set_option linter.unusedSectionVars false

namespace ProviderSimulator.Ports.HttpPortLoop

open ProviderSimulator.Lib

/-! ### The invariant -/

/-- The server whose socket the running pass gives up after `serve` raised. -/
def Place.discards : Place → Option ℕ
  | .discarding _ id => some id
  | _ => none

/-- The server whose flag is set and whose socket is not closed yet. -/
def Place.halfClosed : Place → Option ℕ
  | .flagged _ id _ => some id
  | _ => none

/-- What the server of the loop is known to be, if the loop has one. -/
def Loop.Knows (loop : Loop) (Known : HttpServer → Prop) : Prop :=
  ∀ id, loop.current = some id → ∀ server, loop.servers[id]? = some server → Known server

/-- The server is closed and unbound, or it is bound and serves. -/
def Settled (server : HttpServer) : Prop :=
  (server.closedByScenario = true ∧ server.listening = false) ∨
    (server.closedByScenario = false ∧ server.listening = true ∧ server.serveStarted = true)

/-- The server that a place of the loop thread works on. -/
def Place.subject : Place → Option ℕ
  | .closing _ id _ => some id
  | .flagged _ id _ => some id
  | .stopping _ id _ => some id
  | .serving _ id => some id
  | _ => none

/-- What a place of the loop thread says about the server of the loop. -/
def Place.Known : Place → HttpServer → Prop
  | .flagged .., server => server.closedByScenario = true
  | .stopping .., server => server.closedByScenario = true ∧ server.listening = false
  | .binding _, _ => False
  | .serving .., server => server.closedByScenario = false
  | .discarding .., _ => False
  | .reporting _, server => Settled server
  | .ending _ isOpen, server =>
      Settled server ∧ isOpen = (server.serveStarted && !server.closedByScenario)
  | _, _ => True

/-- Who owns a bound socket. -/
def Loop.Owns (loop : Loop) (id : ℕ) : Prop :=
  loop.current = some id ∨ loop.place.discards = some id ∨ loop.stop = .closing id

/-- The invariant of the loop. -/
structure Inv (loop : Loop) : Prop where
  owned : ∀ (id : ℕ) (server : HttpServer), loop.servers[id]? = some server →
    server.listening = true → loop.Owns id
  half : ∀ (id : ℕ) (server : HttpServer), loop.servers[id]? = some server →
    server.closedByScenario = true → server.listening = true → loop.place.halfClosed = some id
  live : loop.Knows fun server => server.closedByScenario = false → server.listening = true
  valid : ∀ id, loop.current = some id → ∃ server, loop.servers[id]? = some server
  subject : ∀ id, loop.place.subject = some id → loop.current = some id
  known : loop.Knows loop.place.Known
  ending : loop.current = none → ∀ seen isOpen, loop.place = .ending seen isOpen → isOpen = false
  locked : loop.place.between = false → loop.stopped = false
  unstopped : loop.stopped = false → loop.stop = .notCalled
  taken : loop.stopped = true → loop.current = none

theorem start_inv : Inv Loop.start where
  owned id server here _ := by
    have inside := (List.getElem?_eq_some_iff.mp here).1
    have first : id = 0 := by simpa [Loop.start] using inside
    exact .inl (first ▸ rfl)
  half id server here flag _ := by
    have only := List.mem_of_getElem? here
    rw [List.mem_singleton.mp only] at flag
    cases flag
  live id _ server here _ := by
    have only := List.mem_of_getElem? here
    rw [List.mem_singleton.mp only]
  valid id same := by
    cases same
    exact ⟨_, rfl⟩
  subject := nofun
  known _ _ _ _ := trivial
  ending := nofun
  locked := nofun
  unstopped _ := rfl
  taken := nofun

section

variable {loop next : Loop} {id : ℕ} {server : HttpServer}

theorem write_eq (here : loop.servers[id]? = some server) (change : HttpServer → HttpServer) :
    loop.write id change = { loop with servers := loop.servers.set id (change server) } := by
  unfold Loop.write
  rw [here]

/-- A flag of the server that the loop has. -/
theorem flag_eq (isCurrent : loop.current = some id) (here : loop.servers[id]? = some server)
    (field : HttpServer → Bool) : loop.flag field = field server := by
  unfold Loop.flag
  rw [isCurrent, Option.bind_some, here]

/-- No socket is bound while the loop has no server, under the lock and outside of a discard. -/
theorem Inv.unbound (inv : Inv loop) (under : loop.place.between = false)
    (no_discard : loop.place.discards = none) (no_server : loop.current = none)
    (here : loop.servers[id]? = some server) : server.listening = false := by
  by_contra bound
  rcases inv.owned id server here (Bool.not_eq_false _ ▸ bound) with isCurrent | discards | stopping
  · rw [no_server] at isCurrent
    cases isCurrent
  · rw [no_discard] at discards
    cases discards
  · rw [inv.unstopped (inv.locked under)] at stopping
    cases stopping

/-- A place that fits no server is one of a loop without a server. -/
theorem Inv.noServer_of_known (inv : Inv loop) (fits_none : ∀ server, ¬ loop.place.Known server) :
    loop.current = none := by
  cases same : loop.current with
  | none => rfl
  | some id =>
      obtain ⟨server, here⟩ := inv.valid id same
      exact absurd (inv.known id same server here) (fits_none server)

/-- **A step of the loop thread that writes no server.** -/
theorem Inv.move {place : Place} {gate : PortGate} {reports : List Bool} (inv : Inv loop)
    (discards : loop.place.discards = none) (half : loop.place.halfClosed = none)
    (subject : ∀ id, place.subject = some id → loop.current = some id)
    (known : loop.Knows place.Known)
    (ending : loop.current = none → ∀ seen isOpen, place = .ending seen isOpen → isOpen = false)
    (locked : place.between = false → loop.stopped = false) :
    Inv { loop with place := place, gate := gate, reports := reports } where
  owned other found there bound := by
    rcases inv.owned other found there bound with isCurrent | discarded | stopping
    · exact .inl isCurrent
    · rw [discards] at discarded
      cases discarded
    · exact .inr (.inr stopping)
  half other found there flag bound := by
    have halfway := inv.half other found there flag bound
    rw [half] at halfway
    cases halfway
  live := inv.live
  valid := inv.valid
  subject := subject
  known := known
  ending := ending
  locked := locked
  unstopped := inv.unstopped
  taken := inv.taken

/-- **A step that writes one server**, with what is known of the server after it. -/
theorem Inv.writeServer {place : Place} {stop : Stop} {new : HttpServer} (inv : Inv loop)
    (here : loop.servers[id]? = some server)
    (owners : ∀ other, other ≠ id → loop.Owns other →
      Loop.Owns { loop with place := place, stop := stop } other)
    (owned : new.listening = true → Loop.Owns { loop with place := place, stop := stop } id)
    (halves : ∀ other, other ≠ id → loop.place.halfClosed = some other →
      place.halfClosed = some other)
    (half : new.closedByScenario = true → new.listening = true → place.halfClosed = some id)
    (live : loop.current = some id → new.closedByScenario = false → new.listening = true)
    (subject : ∀ id, place.subject = some id → loop.current = some id)
    (known : loop.current = some id → place.Known new)
    (others : ∀ other, other ≠ id → loop.current = some other →
      ∀ found, loop.servers[other]? = some found → place.Known found)
    (ending : loop.current = none → ∀ seen isOpen, place = .ending seen isOpen → isOpen = false)
    (locked : place.between = false → loop.stopped = false)
    (unstopped : loop.stopped = false → stop = .notCalled) :
    Inv { loop with servers := loop.servers.set id new, place := place, stop := stop } where
  owned := by
    refine forall_set (fun other found there elsewhere bound => ?_) owned
    exact owners other elsewhere (inv.owned other found there bound)
  half := by
    refine forall_set (fun other found there elsewhere flag bound => ?_) half
    exact halves other elsewhere (inv.half other found there flag bound)
  live other same found there := by
    have all : ∀ (other : ℕ) (found : HttpServer), (loop.servers.set id new)[other]? = some found →
        loop.current = some other → found.closedByScenario = false → found.listening = true :=
      forall_set (fun other found there _ same => inv.live other same found there) live
    exact all other found there same
  valid other same := by
    by_cases here_too : id = other
    · subst here_too
      exact ⟨new, List.getElem?_set_self (List.getElem?_eq_some_iff.mp here).1⟩
    · obtain ⟨found, there⟩ := inv.valid other same
      exact ⟨found, (List.getElem?_set_ne here_too).trans there⟩
  subject := subject
  known other same found there := by
    have all : ∀ (other : ℕ) (found : HttpServer), (loop.servers.set id new)[other]? = some found →
        loop.current = some other → place.Known found :=
      forall_set (fun other found there elsewhere same => others other elsewhere same found there)
        known
    exact all other found there same
  ending := ending
  locked := locked
  unstopped := unstopped
  taken := inv.taken

/-- A step of the loop thread that writes the server of the loop. -/
theorem Inv.writeCurrent {place : Place} {new : HttpServer} (inv : Inv loop)
    (isCurrent : loop.current = some id) (here : loop.servers[id]? = some server)
    (under : loop.place.between = false) (discards : loop.place.discards = none)
    (halves : ∀ other, loop.place.halfClosed = some other → other = id)
    (half : new.closedByScenario = true → new.listening = true → place.halfClosed = some id)
    (live : new.closedByScenario = false → new.listening = true)
    (subject : ∀ id, place.subject = some id → loop.current = some id) (known : place.Known new) :
    Inv { loop with servers := loop.servers.set id new, place := place } := by
  have only : ∀ other, loop.current = some other → other = id := fun other same =>
    Option.some.inj (same.symm.trans isCurrent)
  refine inv.writeServer here (fun other elsewhere owns => ?_) (fun _ => .inl isCurrent)
    (fun other elsewhere halfway => absurd (halves other halfway) elsewhere) half (fun _ => live)
    subject (fun _ => known) (fun other elsewhere same => absurd (only other same) elsewhere)
    (fun no_server => ?_) (fun _ => inv.locked under) inv.unstopped
  · rcases owns with same | discarded | stopping
    · exact .inl same
    · rw [discards] at discarded
      cases discarded
    · exact .inr (.inr stopping)
  · rw [isCurrent] at no_server
    cases no_server

/-- The loop gives up its server: its socket is closed, or the pass closes it next. -/
theorem Inv.dropServer {place : Place} (inv : Inv loop) (isCurrent : loop.current = some id)
    (under : loop.place.between = false) (discards : loop.place.discards = none)
    (half : loop.place.halfClosed = none)
    (responsible : ∀ server, loop.servers[id]? = some server → server.listening = true →
      place.discards = some id)
    (subject : place.subject = none)
    (ending : ∀ seen isOpen, place ≠ .ending seen isOpen) :
    Inv { loop with current := none, place := place } where
  owned other found there bound := by
    rcases inv.owned other found there bound with same | discarded | stopping
    · have other_eq : other = id := Option.some.inj (same.symm.trans isCurrent)
      subst other_eq
      exact .inr (.inl (responsible found there bound))
    · rw [discards] at discarded
      cases discarded
    · rw [inv.unstopped (inv.locked under)] at stopping
      cases stopping
  half other found there flag bound := by
    have halfway := inv.half other found there flag bound
    rw [half] at halfway
    cases halfway
  live := nofun
  valid := nofun
  subject other same := by
    rw [subject] at same
    cases same
  known := nofun
  ending _ seen isOpen same := absurd same (ending seen isOpen)
  locked _ := inv.locked under
  unstopped := inv.unstopped
  taken _ := rfl

/-- The socket of a server that the loop does not have any more is closed. -/
theorem Inv.closeSocket {place : Place} {stop : Stop} (inv : Inv loop)
    (no_server : loop.current = none) (half : loop.place.halfClosed = none)
    (owners : ∀ other, other ≠ id → loop.Owns other →
      Loop.Owns { loop with place := place, stop := stop } other)
    (subject : place.subject = none) (ending : ∀ seen isOpen, place ≠ .ending seen isOpen)
    (locked : place.between = false → loop.stopped = false)
    (unstopped : loop.stopped = false → stop = .notCalled) :
    Inv { loop.write id HttpServer.closeSocket with place := place, stop := stop } := by
  have noCurrent : ∀ {other}, loop.current ≠ some other := by
    intro other same
    rw [no_server] at same
    cases same
  have noSubject : ∀ other, place.subject = some other → loop.current = some other := by
    intro other same
    rw [subject] at same
    cases same
  have unhalved : ∀ other, loop.place.halfClosed ≠ some other := by
    intro other halfway
    rw [half] at halfway
    cases halfway
  cases here : loop.servers[id]? with
  | some server =>
      rw [write_eq here]
      exact inv.writeServer here owners nofun (fun other _ halfway => absurd halfway (unhalved other))
        (fun _ => nofun) (fun same => absurd same noCurrent) noSubject
        (fun same => absurd same noCurrent) (fun _ _ same => absurd same noCurrent)
        (fun _ seen isOpen same => absurd same (ending seen isOpen)) locked unstopped
  | none =>
      have unwritten : loop.write id HttpServer.closeSocket = loop := by
        unfold Loop.write
        rw [here]
      rw [unwritten]
      refine ⟨fun other found there bound => ?_, fun other found there flag bound => ?_, inv.live,
        inv.valid, noSubject, fun other same => absurd same noCurrent,
        fun _ seen isOpen same => absurd same (ending seen isOpen), locked, unstopped, inv.taken⟩
      · refine owners other ?_ (inv.owned other found there bound)
        rintro rfl
        rw [here] at there
        cases there
      · exact absurd (inv.half other found there flag bound) (unhalved other)

/-- A new server, on a port without a bound socket. -/
theorem Inv.bind {seen : ℕ} (inv : Inv loop) (under : loop.place.between = false)
    (discards : loop.place.discards = none) (no_server : loop.current = none) :
    Inv { loop with
      servers := loop.servers ++ [{}]
      current := some loop.servers.length
      place := .serving seen loop.servers.length } := by
  have unbound : ∀ (other : ℕ) (found : HttpServer), loop.servers[other]? = some found →
      found.listening = false :=
    fun other found there => inv.unbound under discards no_server there
  have last : (loop.servers ++ [({} : HttpServer)])[loop.servers.length]? = some {} :=
    List.getElem?_concat_length
  have isNew : ∀ other found, some loop.servers.length = some other →
      (loop.servers ++ [({} : HttpServer)])[other]? = some found → found = {} := by
    intro other found same there
    cases same
    exact Option.some.inj (there.symm.trans last)
  refine ⟨?_, ?_, fun other same found there => ?_, fun other same => ?_, fun other same => same,
    fun other same found there => ?_, nofun, fun _ => inv.locked under, inv.unstopped,
    fun stopped => ?_⟩
  · refine forall_append (fun other found there bound => ?_) fun _ => .inl rfl
    rw [unbound other found there] at bound
    cases bound
  · refine forall_append (fun other found there flag bound => ?_) nofun
    rw [unbound other found there] at bound
    cases bound
  · rw [isNew other found same there]
    exact fun _ => rfl
  · cases same
    exact ⟨_, last⟩
  · rw [isNew other found same there]
    exact rfl
  · rw [show loop.stopped = false from inv.locked under] at stopped
    cases stopped

/-- The place after `wants_closed` fits the server of the loop. -/
theorem Inv.decide {seen : ℕ} (inv : Inv loop) (place : loop.place = .deciding seen)
    (closed : Bool) : Inv { loop with place := loop.decide seen closed } := by
  have unlocked : loop.stopped = false := inv.locked (by rw [place]; rfl)
  have moved : ∀ target : Place, (∀ id, target.subject = some id → loop.current = some id) →
      loop.Knows target.Known → (∀ seen isOpen, target ≠ .ending seen isOpen) →
      Inv { loop with place := target } := by
    intro target subject known ending
    refine inv.move (by rw [place]; rfl) (by rw [place]; rfl) subject known
      (fun _ seen isOpen same => absurd same (ending seen isOpen)) fun _ => unlocked
  cases same : loop.current with
  | none =>
      have unknown : ∀ Known, loop.Knows Known := by
        intro Known id isCurrent
        rw [same] at isCurrent
        cases isCurrent
      have target : loop.decide seen closed = if closed then .reporting seen else .binding seen := by
        unfold Loop.decide Loop.openPort
        rw [same]
      rw [target, ← same]
      cases closed with
      | false => exact moved (.binding seen) nofun (unknown _) nofun
      | true => exact moved (.reporting seen) nofun (unknown _) nofun
  | some id =>
      obtain ⟨server, here⟩ := inv.valid id same
      have only : ∀ Known : HttpServer → Prop, Known server → loop.Knows Known := by
        intro Known holds other isCurrent found there
        cases Option.some.inj (same.symm.trans isCurrent)
        rw [here] at there
        cases there
        exact holds
      have isSubject : ∀ other, some id = some other → loop.current = some other :=
        fun other other_eq => same.trans other_eq
      have target : loop.decide seen closed =
          if closed then .closing seen id false
          else if server.closedByScenario then .closing seen id true
          else if server.serveStarted then .reporting seen
          else .serving seen id := by
        unfold Loop.decide Loop.openPort
        simp only [flag_eq same here, same]
      rw [target, ← same]
      cases closed with
      | true => exact moved (.closing seen id false) isSubject (only _ trivial) nofun
      | false =>
          simp only [Bool.false_eq_true, if_false]
          by_cases flag : server.closedByScenario = true
          · rw [if_pos flag]
            exact moved (.closing seen id true) isSubject (only _ trivial) nofun
          · rw [if_neg flag]
            have unflagged : server.closedByScenario = false := Bool.not_eq_true _ ▸ flag
            by_cases started : server.serveStarted = true
            · rw [if_pos started]
              refine moved (.reporting seen) nofun (only _ (.inr ⟨unflagged, ?_, started⟩)) nofun
              exact inv.live id same server here unflagged
            · rw [if_neg started]
              exact moved (.serving seen id) isSubject (only _ unflagged) nofun

/-- The server that a place works on is that of the loop. -/
theorem Inv.serverAt (inv : Inv loop) (subject : loop.place.subject = some id) :
    ∃ server, loop.current = some id ∧ loop.servers[id]? = some server ∧ loop.place.Known server := by
  have isCurrent := inv.subject id subject
  obtain ⟨server, here⟩ := inv.valid id isCurrent
  exact ⟨server, isCurrent, here, inv.known id isCurrent server here⟩

/-- The loop gives up a server whose socket is closed. -/
theorem Inv.dropClosed {seen : ℕ} {reopen : Bool} {target : Place} (inv : Inv loop)
    (place : loop.place = .stopping seen id reopen) (subject : target.subject = none)
    (ending : ∀ seen isOpen, target ≠ .ending seen isOpen) :
    Inv { loop with current := none, place := target } := by
  obtain ⟨server, isCurrent, here, known⟩ := inv.serverAt (show _ = some id by rw [place]; rfl)
  rw [place] at known
  refine inv.dropServer isCurrent (by rw [place]; rfl) (by rw [place]; rfl) (by rw [place]; rfl)
    (fun found there bound => ?_) subject ending
  rw [here] at there
  cases there
  rw [known.2] at bound
  cases bound

/-- **A step of the loop thread keeps the invariant.** -/
theorem pass_inv {event : Event} (inv : Inv loop) (done : loop.pass event = some next) :
    Inv next := by
  cases pass_takes done with
  | begin place =>
      exact inv.move (by rw [place]; rfl) (by rw [place]; rfl) nofun (fun _ _ _ _ => trivial) nofun
        nofun
  | leave place stopped =>
      exact inv.move (by rw [place]; rfl) (by rw [place]; rfl) nofun (fun _ _ _ _ => trivial) nofun
        nofun
  | lock place running =>
      exact inv.move (by rw [place]; rfl) (by rw [place]; rfl) nofun (fun _ _ _ _ => trivial) nofun
        fun _ => running
  | decide place closed => exact inv.decide place closed
  | @beginClose seen id reopen place =>
      obtain ⟨server, isCurrent, here, -⟩ := inv.serverAt (show _ = some id by rw [place]; rfl)
      rw [write_eq here]
      refine inv.writeCurrent isCurrent here (by rw [place]; rfl) (by rw [place]; rfl)
        (fun other halfway => ?_) (fun _ _ => rfl) nofun (fun other same => ?_) rfl
      · rw [place] at halfway
        cases halfway
      · cases same
        exact isCurrent
  | @closeSocket seen id reopen place =>
      obtain ⟨server, isCurrent, here, known⟩ := inv.serverAt (show _ = some id by rw [place]; rfl)
      rw [place] at known
      have flag : server.closedByScenario = true := known
      rw [write_eq here]
      refine inv.writeCurrent isCurrent here (by rw [place]; rfl) (by rw [place]; rfl)
        (fun other halfway => ?_) (fun _ => nofun) (fun unflagged => ?_) (fun other same => ?_)
        ⟨flag, rfl⟩
      · rw [place] at halfway
        cases halfway
        rfl
      · rw [show server.closeSocket.closedByScenario = true from flag] at unflagged
        cases unflagged
      · cases same
        exact isCurrent
  | endClose place => exact inv.dropClosed place rfl nofun
  | makeRoom place => exact inv.dropClosed place rfl nofun
  | @closeRaises seen id reopen place serves =>
      obtain ⟨server, isCurrent, here, known⟩ := inv.serverAt (show _ = some id by rw [place]; rfl)
      rw [place] at known
      refine inv.move (by rw [place]; rfl) (by rw [place]; rfl) nofun
        (fun other same found there => ?_) nofun fun _ => inv.locked (by rw [place]; rfl)
      cases Option.some.inj (isCurrent.symm.trans same)
      rw [here] at there
      cases there
      exact .inl known
  | bind place =>
      have no_server : loop.current = none := inv.noServer_of_known (by rw [place]; exact nofun)
      exact inv.bind (by rw [place]; rfl) (by rw [place]; rfl) no_server
  | bindRaises place =>
      have no_server : loop.current = none := inv.noServer_of_known (by rw [place]; exact nofun)
      refine inv.move (by rw [place]; rfl) (by rw [place]; rfl) nofun (fun id same => ?_) nofun
        fun _ => inv.locked (by rw [place]; rfl)
      rw [no_server] at same
      cases same
  | @serve seen id place =>
      obtain ⟨server, isCurrent, here, known⟩ := inv.serverAt (show _ = some id by rw [place]; rfl)
      rw [place] at known
      have unflagged : server.closedByScenario = false := known
      have bound := inv.live id isCurrent server here unflagged
      rw [write_eq here]
      refine inv.writeCurrent isCurrent here (by rw [place]; rfl) (by rw [place]; rfl)
        (fun other halfway => ?_) (fun flag => ?_) (fun _ => bound) nofun
        (.inr ⟨unflagged, bound, rfl⟩)
      · rw [place] at halfway
        cases halfway
      · rw [show server.markServing.closedByScenario = false from unflagged] at flag
        cases flag
  | @serveRaises seen id place =>
      have isCurrent := inv.subject id (by rw [place]; rfl)
      exact inv.dropServer isCurrent (by rw [place]; rfl) (by rw [place]; rfl)
        (by rw [place]; rfl) (fun _ _ _ => rfl) rfl nofun
  | discard place =>
      have no_server : loop.current = none := inv.noServer_of_known (by rw [place]; exact nofun)
      have unlocked := inv.locked (by rw [place]; rfl)
      refine inv.closeSocket no_server (by rw [place]; rfl) (fun other elsewhere owns => ?_) rfl
        nofun (fun _ => unlocked) inv.unstopped
      rcases owns with same | discards | stopping
      · exact .inl same
      · rw [place] at discards
        exact absurd (Option.some.inj discards).symm elsewhere
      · exact .inr (.inr stopping)
  | readOpen place =>
      refine inv.move (by rw [place]; rfl) (by rw [place]; rfl) nofun (fun id same server here => ?_)
        (fun no_server seen isOpen same => ?_) fun _ => inv.locked (by rw [place]; rfl)
      · have known := inv.known id same server here
        rw [place] at known
        exact ⟨known, flag_eq same here _⟩
      · cases same
        unfold Loop.isOpen Loop.flag
        rw [no_server, Option.bind_none]
  | report place =>
      exact inv.move (by rw [place]; rfl) (by rw [place]; rfl) nofun (fun _ _ _ _ => trivial) nofun
        nofun

/-- Between two passes the loop thread works on no server. -/
theorem of_between {place : Place} (between : place.between = true) :
    place.discards = none ∧ place.halfClosed = none ∧ place.subject = none ∧
      ∀ seen isOpen, place ≠ .ending seen isOpen := by
  cases place with
  | ready => exact ⟨rfl, rfl, rfl, nofun⟩
  | begun => exact ⟨rfl, rfl, rfl, nofun⟩
  | returned => exact ⟨rfl, rfl, rfl, nofun⟩
  | _ => cases between

/-- The locked block of `stop`, between two passes. -/
theorem stop_inv (inv : Inv loop) (between : loop.place.between = true) : Inv loop.takeServer := by
  obtain ⟨noDiscard, unhalved, noSubject, notEnding⟩ := of_between between
  refine ⟨fun id server here bound => ?_, fun id server here flag bound => ?_, nofun, nofun,
    fun id same => ?_, nofun, fun _ seen isOpen same => ?_, fun under => ?_, nofun, fun _ => rfl⟩
  · rcases inv.owned id server here bound with isCurrent | discards | stopping
    · refine .inr (.inr ?_)
      unfold Loop.takeServer
      rw [isCurrent]
    · rw [noDiscard] at discards
      cases discards
    · cases same : loop.current with
      | none =>
          refine .inr (.inr ?_)
          unfold Loop.takeServer
          rw [same]
          exact stopping
      | some other =>
          -- A loop that still has a server was not stopped.
          have running : loop.stopped = false := by
            by_contra stopped
            have none_left := inv.taken (Bool.not_eq_false _ ▸ stopped)
            rw [same] at none_left
            cases none_left
          rw [inv.unstopped running] at stopping
          cases stopping
  · have halfway := inv.half id server here flag bound
    rw [unhalved] at halfway
    cases halfway
  · rw [show loop.takeServer.place = loop.place from rfl, noSubject] at same
    cases same
  · exact absurd same (notEnding seen isOpen)
  · rw [show loop.takeServer.place = loop.place from rfl, between] at under
    cases under

/-- **One step keeps the invariant.** -/
theorem step_inv {action : Action} (inv : Inv loop) (done : loop.step action = some next) :
    Inv next := by
  cases action with
  | pass event => exact pass_inv inv done
  | stop =>
      simp only [Loop.step] at done
      split at done
      · next between =>
          cases done
          exact stop_inv inv between
      · cases done
  | stopClose =>
      simp only [Loop.step] at done
      split at done
      · next id stopping =>
          cases done
          have stopped : loop.stopped = true := by
            by_contra running
            rw [inv.unstopped (Bool.not_eq_true _ ▸ running)] at stopping
            cases stopping
          have no_server := inv.taken stopped
          have between : loop.place.between = true := by
            by_contra under
            rw [inv.locked (Bool.not_eq_true _ ▸ under)] at stopped
            cases stopped
          obtain ⟨noDiscard, unhalved, noSubject, notEnding⟩ := of_between between
          refine inv.closeSocket no_server unhalved (fun other elsewhere owns => ?_) noSubject
            notEnding (fun under => ?_) fun running => ?_
          · rcases owns with same | discards | other_stop
            · exact .inl same
            · exact .inr (.inl discards)
            · rw [stopping] at other_stop
              cases other_stop
              exact absurd rfl elsewhere
          · rw [show loop.place.between = false from under] at between
            cases between
          · rw [stopped] at running
            cases running
      · cases done
  | clients id clients =>
      cases done
      cases here : loop.servers[id]? with
      | none =>
          have unwritten : (loop.write id fun server => { server with clients := clients }) = loop := by
            unfold Loop.write
            rw [here]
          rw [unwritten]
          exact inv
      | some server =>
          rw [write_eq here]
          refine inv.writeServer here (fun _ _ owns => owns)
            (fun bound => inv.owned id server here bound) (fun _ _ halfway => halfway)
            (fun flag bound => inv.half id server here flag bound)
            (fun same => inv.live id same server here) inv.subject (fun same => ?_)
            (fun other _ same found there => inv.known other same found there) inv.ending inv.locked
            inv.unstopped
          have known := inv.known id same server here
          cases place : loop.place <;> rw [place] at known <;> exact known

/-! ### The report, the bound sockets and the end -/

/-- The loop holds a bound server whose serve thread was started and on which no close began. -/
def Loop.Serves (loop : Loop) : Prop :=
  ∃ id server, loop.current = some id ∧ loop.servers[id]? = some server ∧
    server.listening = true ∧ server.serveStarted = true ∧ server.closedByScenario = false

/-- **The report of a pass is true.** -/
theorem report_true {seen : ℕ} {isOpen : Bool} (inv : Inv loop)
    (place : loop.place = .ending seen isOpen) :
    (isOpen = true ↔ loop.Serves) ∧
      (isOpen = false → ∀ server ∈ loop.servers, server.listening = false) := by
  have under : loop.place.between = false := by rw [place]; rfl
  have noDiscard : loop.place.discards = none := by rw [place]; rfl
  cases same : loop.current with
  | none =>
      have closed := inv.ending same seen isOpen place
      refine ⟨⟨fun opened => ?_, ?_⟩, fun _ server member => ?_⟩
      · rw [closed] at opened
        cases opened
      · rintro ⟨id, server, isCurrent, -⟩
        rw [same] at isCurrent
        cases isCurrent
      · obtain ⟨id, here⟩ := List.mem_iff_getElem?.mp member
        exact inv.unbound under noDiscard same here
  | some id =>
      obtain ⟨server, here⟩ := inv.valid id same
      have known := inv.known id same server here
      rw [place] at known
      obtain ⟨settled, report⟩ := known
      have only : ∀ other found, loop.current = some other → loop.servers[other]? = some found →
          found = server := by
        intro other found isCurrent there
        cases Option.some.inj (same.symm.trans isCurrent)
        exact Option.some.inj (there.symm.trans here)
      rcases settled with ⟨flag, unbound⟩ | ⟨unflagged, bound, started⟩
      · have closed : isOpen = false := by rw [report, flag, Bool.not_true, Bool.and_false]
        refine ⟨⟨fun opened => ?_, ?_⟩, fun _ found member => ?_⟩
        · rw [closed] at opened
          cases opened
        · rintro ⟨other, found, isCurrent, there, -, -, unflagged⟩
          rw [only other found isCurrent there, flag] at unflagged
          cases unflagged
        · obtain ⟨other, there⟩ := List.mem_iff_getElem?.mp member
          by_contra listens
          rcases inv.owned other found there (Bool.not_eq_false _ ▸ listens) with
            isCurrent | discards | stopping
          · rw [only other found isCurrent there] at listens
            exact listens unbound
          · rw [noDiscard] at discards
            cases discards
          · rw [inv.unstopped (inv.locked under)] at stopping
            cases stopping
      · have opened : isOpen = true := by rw [report, unflagged, started]; rfl
        refine ⟨⟨fun _ => ⟨id, server, same, here, bound, started, unflagged⟩, fun _ => opened⟩,
          fun closed => ?_⟩
        rw [opened] at closed
        cases closed

/-- **At most one socket is bound.** -/
theorem bound_unique {first second : ℕ} {one two : HttpServer} (inv : Inv loop)
    (atFirst : loop.servers[first]? = some one) (firstBound : one.listening = true)
    (atSecond : loop.servers[second]? = some two) (secondBound : two.listening = true) :
    first = second := by
  have discards_alone : ∀ id, loop.place.discards = some id →
      loop.current = none ∧ loop.stop = .notCalled := by
    intro id discards
    have under : loop.place.between = false := by
      cases place : loop.place <;> rw [place] at discards <;> first | rfl | cases discards
    refine ⟨inv.noServer_of_known fun server known => ?_, inv.unstopped (inv.locked under)⟩
    cases place : loop.place <;> rw [place] at discards known <;> first | exact known | cases discards
  have current_alone : ∀ id other, loop.current = some id → loop.stop ≠ .closing other := by
    intro id other isCurrent stopping
    cases stopped : loop.stopped with
    | true =>
        rw [inv.taken stopped] at isCurrent
        cases isCurrent
    | false =>
        rw [inv.unstopped stopped] at stopping
        cases stopping
  rcases inv.owned first one atFirst firstBound with isCurrent | discards | stopping
  · rcases inv.owned second two atSecond secondBound with same | discards | stopping
    · exact Option.some.inj (isCurrent.symm.trans same)
    · rw [(discards_alone second discards).1] at isCurrent
      cases isCurrent
    · exact absurd stopping (current_alone first second isCurrent)
  · obtain ⟨no_server, notCalled⟩ := discards_alone first discards
    rcases inv.owned second two atSecond secondBound with same | other | stopping
    · rw [no_server] at same
      cases same
    · exact Option.some.inj (discards.symm.trans other)
    · rw [notCalled] at stopping
      cases stopping
  · rcases inv.owned second two atSecond secondBound with same | discards | other
    · exact absurd stopping (current_alone second first same)
    · rw [(discards_alone second discards).2] at stopping
      cases stopping
    · rw [stopping] at other
      cases other
      rfl

/-- What a run after `stop` leaves as it is. -/
structure AfterStop (before after : Loop) : Prop where
  inv : Inv after
  stopped : after.stopped = true
  servers : after.servers.length = before.servers.length
  reports : after.reports = before.reports

theorem length_write (change : HttpServer → HttpServer) :
    (loop.write id change).servers.length = loop.servers.length := by
  unfold Loop.write
  split
  · exact List.length_set
  · rfl

/-- **One step after `stop`** binds no server and reports nothing. -/
theorem step_afterStop {action : Action} (inv : Inv loop) (stopped : loop.stopped = true)
    (done : loop.step action = some next) : AfterStop loop next := by
  have kept := step_inv inv done
  cases action with
  | pass event =>
      have between : loop.place.between = true := by
        by_contra under
        rw [inv.locked (Bool.not_eq_true _ ▸ under)] at stopped
        cases stopped
      cases pass_takes done with
      | begin place => exact ⟨kept, stopped, rfl, rfl⟩
      | leave place _ => exact ⟨kept, stopped, rfl, rfl⟩
      | lock place _ => exact ⟨kept, stopped, rfl, rfl⟩
      | _ place =>
          rw [place] at between
          cases between
  | stop =>
      simp only [Loop.step] at done
      split at done
      · cases done
        exact ⟨kept, rfl, rfl, rfl⟩
      · cases done
  | stopClose =>
      simp only [Loop.step] at done
      split at done
      · cases done
        exact ⟨kept, stopped, length_write _, rfl⟩
      · cases done
  | clients id clients =>
      cases done
      exact ⟨kept, stopped, length_write _, rfl⟩

end

/-- **The port loop.** In every run of passes, with any wishes and any of the three failures, and of
`stop` between passes:

1. when a pass ends, the `is_open` that it reports is true exactly when the loop holds a bound server
   whose serve thread was started and on which no close began, and when it is false no listening
   socket of this loop is open;
2. at most one server is bound;
3. once `stop` has run, no later step makes a server or reports. -/
theorem port_loop_honest (actions : List Action) (loop : Loop)
    (done : run Loop.step Loop.start actions = some loop) :
    (∀ next isOpen, loop.step (.pass .go) = some next → next.reports = loop.reports ++ [isOpen] →
      (isOpen = true ↔ next.Serves) ∧
        (isOpen = false → ∀ server ∈ next.servers, server.listening = false)) ∧
    (∀ (first second : ℕ) (one two : HttpServer), loop.servers[first]? = some one →
      loop.servers[second]? = some two → one.listening = true → two.listening = true →
      first = second) ∧
    (loop.stopped = true → ∀ (later : List Action) final, run Loop.step loop later = some final →
      final.servers.length = loop.servers.length ∧ final.reports = loop.reports) := by
  have inv : Inv loop :=
    run_invariant Inv (fun _ _ _ first holds => step_inv holds first) done start_inv
  refine ⟨fun next isOpen step reports => ?_,
    fun first second one two atFirst atSecond firstBound secondBound =>
      bound_unique inv atFirst firstBound atSecond secondBound,
    fun stopped later final run => ?_⟩
  · cases place : loop.place with
    | ending seen report =>
        simp only [Loop.step, Loop.pass, place] at step
        cases step
        cases List.append_cancel_left reports
        have honest := report_true inv place
        exact honest
    | _ =>
        simp only [Loop.step, Loop.pass, place] at step
        cases step <;>
          exact absurd (show loop.reports = loop.reports ++ [isOpen] from reports) (by simp)
  · have after := run_invariant (AfterStop loop) (fun _ _ _ first before => ?_) run
      ⟨inv, stopped, rfl, rfl⟩
    · exact ⟨after.servers, after.reports⟩
    · have next := step_afterStop before.inv before.stopped first
      exact ⟨next.inv, next.stopped, next.servers.trans before.servers,
        next.reports.trans before.reports⟩

/-- The first pass serves, the second one begins a close whose thread does not start, and the third
one, which wants the port open, finishes that close and binds a new server. -/
theorem port_loop_honest_half_closed :
    let pass (event : Event) : Action := .pass event
    let actions : List Action :=
      [pass .go, pass .go, pass (.wish false), pass .go, pass .go, pass .go,
        pass .go, pass .go, pass (.wish true), pass .go, pass .go, pass .raises, pass .go, pass .go,
        pass .go, pass .go, pass (.wish false), pass .go, pass .go, pass .go, pass .go, pass .go,
        pass .go]
    ∃ loop next, run Loop.step Loop.start actions = some loop ∧
      loop.step (.pass .go) = some next ∧ next.reports = [true, false, true] ∧ next.Serves := by
  intro pass actions
  refine ⟨_, _, rfl, rfl, rfl, ?_⟩
  exact ((port_loop_honest actions _ rfl).1 _ true rfl rfl).1.mp rfl

end ProviderSimulator.Ports.HttpPortLoop
