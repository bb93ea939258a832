/-
**Waiting for the ports: the serve loops, the control writers and their gates.**

The system has any number of gates, each with one serve loop, and control writers that `port_lock`
serialises, so at most one of them is inside its call at any time.

* A serve loop runs passes, one after another: `beginPass`, read the wish, act, `endPass`. It reports
  the real state of its port. A pass whose wish is the state of the port does not move it; any other
  pass may move it or fail.
* A writer runs a `Plan`: writes of scenario blocks and reads of `_port_wishes`, where no block is
  written after the wishes of its provider were read. Then it runs `_settle_ports`: it looks at the
  last report of each gate of its wishes, asks the ones that differ, and then waits for each ticket
  and tries a connection.

What is said once about one gate is `Stable`: the port is in the wished state, the stored block still
wishes it, and so does the wish that a running pass has read. Every step but a write of the block of
the gate's provider keeps it (`step_stable`).

`writes` counts the writes of each provider's block, and `readAt` and `reportAt` are the count at the
time when the running pass, and the last finished pass, read its wish. The code has no such counters.
-/

import Mathlib.Tactic.Common
import Mathlib.Logic.Function.Basic
import ProviderSimulator.Lib.Machine
import ProviderSimulator.Ports.PortGate

set_option linter.unusedSectionVars false

namespace ProviderSimulator.Ports

open ProviderSimulator.Lib

variable {G P S : Type} [DecidableEq G] [DecidableEq P]

/-- The fixed data: the provider of each gate, whether a scenario block closes the port of a gate
(`fault_policy.port_closed`), and the words for a gate in an answer. -/
structure Layout (G P S : Type) where
  owner : G → P
  wantsClosed : G → S → Bool
  describe : G → String

/-! ### The serve loop of one gate -/

/-- Where a serve loop is in its pass. -/
inductive Pass
  | idle
  /-- After `begin_pass`. -/
  | begun (seen : ℕ)
  /-- After the read of the wish. -/
  | read (seen : ℕ) (wantOpen : Bool) (readAt : ℕ)
  /-- After the move of the port. -/
  | acted (seen : ℕ) (readAt : ℕ)
  deriving DecidableEq

/-- A gate, its serve loop and its port. -/
structure Station where
  gate : PortGate
  pass : Pass
  portOpen : Bool
  reportAt : ℕ
  deriving DecidableEq

/-- What a step of a serve loop is told. -/
inductive LoopEvent
  | go
  /-- How the move ended: the state of the port after it. -/
  | acts (portOpen : Bool)

/-- One step of a serve loop. `wish` is what the stored block wishes, `writes` how often it was
written. -/
def Station.step (wish : Bool) (writes : ℕ) (station : Station) : LoopEvent → Option Station
  | .go =>
      match station.pass with
      | .idle =>
          some { station with
            gate := station.gate.beginPass.1
            pass := .begun station.gate.beginPass.2 }
      | .begun seen => some { station with pass := .read seen wish writes }
      | .read .. => none
      | .acted seen readAt =>
          some { station with
            gate := station.gate.endPass seen station.portOpen
            pass := .idle
            reportAt := readAt }
  | .acts portOpen =>
      match station.pass with
      | .read seen wantOpen readAt =>
          some { station with
            pass := .acted seen readAt
            portOpen := if wantOpen = station.portOpen then station.portOpen else portOpen }
      | _ => none

/-! ### The writers -/

/-- One thing that a writer does before it settles the ports. -/
inductive Task (G P S : Type)
  | write (provider : P) (block : S)
  /-- `_port_wishes`, for one gate. -/
  | wish (gate : G)

/-- No task writes the block of a provider after a wish of one of its gates was read. -/
def Orderly (owner : G → P) : List (Task G P S) → Prop
  | [] => True
  | .write _ _ :: rest => Orderly owner rest
  | .wish gate :: rest => (∀ block, .write (owner gate) block ∉ rest) ∧ Orderly owner rest

/-- What a writer does with the scenarios: `POST /scenario` writes a block and reads its wishes, block
by block; a reset and the sweep write all blocks first. -/
structure Plan (layout : Layout G P S) where
  tasks : List (Task G P S)
  orderly : Orderly layout.owner tasks

/-- Where the writer that holds `port_lock` is. -/
inductive Writer (G P S : Type)
  | idle
  | working (tasks : List (Task G P S)) (wishes : List (G × Bool))
  /-- `_settle_ports`, before `last_report` of the next gate. -/
  | looking (wishes rest : List (G × Bool)) (tickets : List (G × Bool × ℕ))
  /-- The report differs: before `ask`. -/
  | asking (wishes : List (G × Bool)) (gate : G) (wantOpen : Bool) (rest : List (G × Bool))
      (tickets : List (G × Bool × ℕ))
  /-- Before, or in, the wait for the next ticket. -/
  | waiting (wishes : List (G × Bool)) (tickets : List (G × Bool × ℕ)) (stuck : List (G × Bool))
  /-- The wait was satisfied: before the connection is tried. -/
  | probing (wishes : List (G × Bool)) (gate : G) (wantOpen : Bool)
      (tickets : List (G × Bool × ℕ)) (stuck : List (G × Bool))
  | answered (wishes stuck : List (G × Bool))

/-- The words for one port that is not in the wished state. -/
def stuckText (describe : G → String) (item : G × Bool) : String :=
  describe item.1 ++ " is not " ++ if item.2 then "accepting connections" else "closed"

/-- The answer of `_settle_ports`. -/
def settleText (describe : G → String) (stuck : List (G × Bool)) : String :=
  if stuck.isEmpty then ""
  else
    "the scenario is stored, but after 5s " ++ "; ".intercalate (stuck.map (stuckText describe)) ++
      ". The listener did not reach the state the scenario asks for, so do not trust " ++
      "the port to be in it"

/-- The whole system. -/
structure System (G P S : Type) where
  stations : G → Station
  scenarios : P → S
  writes : P → ℕ
  writer : Writer G P S

/-- A start: any blocks and any ports, no pass and no ask so far. -/
def System.start (scenarios : P → S) (portOpen : G → Bool) : System G P S where
  stations gate := ⟨{}, .idle, portOpen gate, 0⟩
  scenarios := scenarios
  writes _ := 0
  writer := .idle

/-- What the stored block wishes for the port of a gate: true is open. -/
def System.wish (layout : Layout G P S) (system : System G P S) (gate : G) : Bool :=
  !layout.wantsClosed gate (system.scenarios (layout.owner gate))

/-- What a step of the writer is told. -/
inductive WriterEvent
  | go
  /-- The wait for the next ticket ran out of time. -/
  | timeOut
  /-- Did the connection succeed? -/
  | probe (accepts : Bool)

/-- One step of the writer. -/
def System.writerStep (layout : Layout G P S) (system : System G P S) (event : WriterEvent) :
    Option (System G P S) :=
  match system.writer, event with
  | .working (.write provider block :: rest) wishes, .go =>
      some { system with
        scenarios := Function.update system.scenarios provider block
        writes := Function.update system.writes provider (system.writes provider + 1)
        writer := .working rest wishes }
  | .working (.wish gate :: rest) wishes, .go =>
      some { system with writer := .working rest (wishes ++ [(gate, system.wish layout gate)]) }
  | .working [] wishes, .go => some { system with writer := .looking wishes wishes [] }
  | .looking wishes ((gate, wantOpen) :: rest) tickets, .go =>
      if (system.stations gate).gate.lastReport ≠ some wantOpen then
        some { system with writer := .asking wishes gate wantOpen rest tickets }
      else some { system with writer := .looking wishes rest tickets }
  | .looking wishes [] tickets, .go => some { system with writer := .waiting wishes tickets [] }
  | .asking wishes gate wantOpen rest tickets, .go =>
      let station := system.stations gate
      some { system with
        stations := Function.update system.stations gate { station with gate := station.gate.ask.1 }
        writer := .looking wishes rest (tickets ++ [(gate, wantOpen, station.gate.ask.2)]) }
  | .waiting wishes ((gate, wantOpen, ticket) :: rest) stuck, .go =>
      if (system.stations gate).gate.reached ticket wantOpen then
        some { system with writer := .probing wishes gate wantOpen rest stuck }
      else none
  | .waiting wishes ((gate, wantOpen, _) :: rest) stuck, .timeOut =>
      some { system with writer := .waiting wishes rest (stuck ++ [(gate, wantOpen)]) }
  | .waiting wishes [] stuck, .go => some { system with writer := .answered wishes stuck }
  | .probing wishes gate wantOpen tickets stuck, .probe accepts =>
      if accepts = wantOpen then some { system with writer := .waiting wishes tickets stuck }
      else some { system with writer := .waiting wishes tickets (stuck ++ [(gate, wantOpen)]) }
  | _, _ => none

/-- One step of a serve loop, one step of the writer, or a writer that gets `port_lock`. -/
inductive Action (layout : Layout G P S)
  | loop (gate : G) (event : LoopEvent)
  | take (plan : Plan layout)
  | writer (event : WriterEvent)

/-- One action. -/
def System.step {layout : Layout G P S} (system : System G P S) :
    Action layout → Option (System G P S)
  | .loop gate event =>
      ((system.stations gate).step (system.wish layout gate)
          (system.writes (layout.owner gate)) event).map fun station =>
        { system with stations := Function.update system.stations gate station }
  | .take plan =>
      match system.writer with
      | .idle => some { system with writer := .working plan.tasks [] }
      | .answered _ _ => some { system with writer := .working plan.tasks [] }
      | _ => none
  | .writer event => system.writerStep layout event

end ProviderSimulator.Ports
