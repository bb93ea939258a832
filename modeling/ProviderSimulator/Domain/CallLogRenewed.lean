/-
**A log that was cleared, and a new one.**

`clear` empties the ring and the counters, but the rows that callers hold stay where they are, and the
generation goes on. Neither shows: a reader sees the rows of the ring without their generation, and a
caller that holds no row from before the clear cannot find out how many there were. `Follows` is this
relation. The cleared log has the rows of the new one behind the old ones, each of a later generation.

* `Follows.new` — a log that was cleared follows a new one;
* `Follows.perform` — every operation keeps it, where a reference means the same row in both logs;
* `Follows.stats` and `Follows.getHistory` — readers see the same.
-/

import Mathlib.Tactic.Common
import ProviderSimulator.Domain.CallLog

namespace ProviderSimulator.Domain.CallLog

open ProviderSimulator.Lib ProviderSimulator.Python

/-! ### Readers -/

/-- What `stats` answers. -/
structure Stats where
  totalCalls : ℕ
  callsByStatus : Dict String ℕ
  historyEntries : ℕ

/-- `stats`. -/
def stats (log : CallLog) : Stats := ⟨log.totalCalls, log.callsByStatus, log.history.length⟩

/-- A row without its bookkeeping. -/
def sanitized (row : Row) : Row := { row with resetGen := 0 }

/-- `get_history`: the rows of the ring that pass the filter. -/
def getHistory (log : CallLog) (keep : Row → Bool) : List Row :=
  ((log.history.filterMap fun ref => log.rows[ref]?).map sanitized).filter keep

/-- An operation on the log. A reference that no caller can hold changes nothing. -/
def perform (codec : Codec) (log : CallLog) (op : Op) : CallLog := (log.step codec op).getD log

/-- The same operation, where the rows stand further behind. -/
def Op.shift (offset : ℕ) : Op → Op
  | .finalize stamp ref outcome => .finalize stamp (ref + offset) outcome
  | .setGrpcStatus ref grpcStatus => .setGrpcStatus (ref + offset) grpcStatus
  | .recordBody ref body => .recordBody (ref + offset) body
  | .recordPath ref path => .recordPath (ref + offset) path
  | other => other

/-! ### The relation -/

/-- The row, of a later generation. -/
def laterBy (generations : ℕ) (row : Row) : Row := { row with resetGen := row.resetGen + generations }

/-- **The log follows the other one**: it has older rows before its own, and its generation is later. -/
structure Follows (old : List Row) (generations : ℕ) (log fresh : CallLog) : Prop where
  pool : log.pool = fresh.pool
  pid : log.pid = fresh.pid
  name : log.name = fresh.name
  historyMax : log.historyMax = fresh.historyMax
  rows : log.rows = old ++ fresh.rows.map (laterBy generations)
  history : log.history = fresh.history.map (· + old.length)
  totalCalls : log.totalCalls = fresh.totalCalls
  callsByStatus : log.callsByStatus = fresh.callsByStatus
  generation : log.resetGeneration = fresh.resetGeneration + generations

/-- The log as it was built, for the same provider. -/
def rebuilt (log : CallLog) : CallLog := new log.pool log.pid log.name log.historyMax

namespace Follows

variable {codec : Codec} {old : List Row} {generations : ℕ} {log fresh : CallLog}

/-- A log follows itself. -/
theorem refl (log : CallLog) : Follows [] 0 log log := by
  have same : laterBy 0 = id := rfl
  refine ⟨rfl, rfl, rfl, rfl, ?_, ?_, rfl, rfl, rfl⟩
  · rw [same, List.map_id, List.nil_append]
  · exact (List.map_id _).symm

/-- **A log without rows in its ring follows a new one.** -/
theorem new {log : CallLog} (history : log.history = []) (totalCalls : log.totalCalls = 0)
    (callsByStatus : log.callsByStatus = []) : Follows log.rows log.resetGeneration log log.rebuilt :=
  ⟨rfl, rfl, rfl, rfl, (List.append_nil _).symm, history, totalCalls, callsByStatus, (Nat.zero_add _).symm⟩

/-! ### Rows -/

theorem rowAt (follows : Follows old generations log fresh) (ref : ℕ) :
    log.rows[ref + old.length]? = (fresh.rows[ref]?).map (laterBy generations) := by
  rw [follows.rows, List.getElem?_append_right (Nat.le_add_left _ _), Nat.add_sub_cancel, List.getElem?_map]

theorem setRow (follows : Follows old generations log fresh) (ref : ℕ) (row : Row) :
    log.rows.set (ref + old.length) (laterBy generations row) =
      old ++ (fresh.rows.set ref row).map (laterBy generations) := by
  rw [follows.rows, List.set_append_right _ _ (Nat.le_add_left _ _), Nat.add_sub_cancel, List.map_set]

theorem rowCount (follows : Follows old generations log fresh) :
    log.rows.length = fresh.rows.length + old.length := by
  rw [follows.rows, List.length_append, List.length_map, Nat.add_comm]

theorem ring (follows : Follows old generations log fresh) (ref : ℕ) :
    ringAppend log.historyMax log.history (ref + old.length) =
      (ringAppend fresh.historyMax fresh.history ref).map (· + old.length) := by
  unfold ringAppend
  rw [follows.historyMax, follows.history, List.length_map, List.map_drop, List.map_append, List.map_singleton]

/-! ### Operations -/

/-- A row that is in both logs is appended to the ring and counted. -/
theorem count (follows : Follows old generations log fresh) (ref : ℕ) (status : String) :
    Follows old generations (log.count (ref + old.length) status) (fresh.count ref status) :=
  ⟨follows.pool, follows.pid, follows.name, follows.historyMax, follows.rows, follows.ring ref,
    congrArg (· + 1) follows.totalCalls, congrArg (·.bump status) follows.callsByStatus, follows.generation⟩

/-- A row that is in both logs is written. -/
theorem write (follows : Follows old generations log fresh) (ref : ℕ) (row : Row) :
    Follows old generations { log with rows := log.rows.set (ref + old.length) (laterBy generations row) }
      { fresh with rows := fresh.rows.set ref row } :=
  ⟨follows.pool, follows.pid, follows.name, follows.historyMax, follows.setRow ref row, follows.history,
    follows.totalCalls, follows.callsByStatus, follows.generation⟩

/-- A row that is new in both logs. -/
theorem addRow (follows : Follows old generations log fresh) (row : Row) :
    Follows old generations (log.addRow (laterBy generations row)) (fresh.addRow row) := by
  have added : Follows old generations { log with rows := log.rows ++ [laterBy generations row] }
      { fresh with rows := fresh.rows ++ [row] } :=
    ⟨follows.pool, follows.pid, follows.name, follows.historyMax,
      by rw [follows.rows, List.map_append, List.append_assoc, List.map_singleton], follows.history,
      follows.totalCalls, follows.callsByStatus, follows.generation⟩
  unfold CallLog.addRow
  rw [follows.rowCount]
  exact added.count fresh.rows.length row.status

theorem newEntry (follows : Follows old generations log fresh) (stamp : Stamp) (call : Call) :
    log.newEntry codec stamp call = laterBy generations (fresh.newEntry codec stamp call) := by
  unfold CallLog.newEntry laterBy
  rw [follows.pool, follows.pid, follows.name, follows.generation]

theorem finalize (follows : Follows old generations log fresh) (stamp : Stamp) (ref : ℕ) (row : Row)
    (outcome : Outcome) :
    Follows old generations (log.finalize stamp (ref + old.length) (laterBy generations row) outcome)
      (fresh.finalize stamp ref row outcome) := by
  have current : (laterBy generations row).resetGen ≠ log.resetGeneration ↔
      row.resetGen ≠ fresh.resetGeneration := by
    rw [follows.generation]
    exact not_congr Nat.add_right_cancel_iff
  unfold CallLog.finalize
  dsimp only
  by_cases stale : row.resetGen ≠ fresh.resetGeneration
  · rw [if_pos stale, if_pos (current.mpr stale)]
    let again : Row := { fillIn row outcome with
      ts := stamp.now, time := stamp.text, status := outcome.status, resetGen := fresh.resetGeneration }
    have later : ({ fillIn (laterBy generations row) outcome with
        ts := stamp.now, time := stamp.text, status := outcome.status, resetGen := log.resetGeneration } : Row) =
          laterBy generations again := by
      rw [follows.generation]
      rfl
    rw [later]
    exact (follows.write ref again).count ref outcome.status
  · rw [if_neg stale, if_neg (fun other => stale (current.mp other))]
    by_cases moved : row.status ≠ outcome.status
    · rw [if_pos moved, if_pos (show (laterBy generations row).status ≠ outcome.status from moved)]
      have written := follows.write ref { fillIn row outcome with status := outcome.status }
      exact ⟨written.pool, written.pid, written.name, written.historyMax, written.rows, written.history,
        written.totalCalls,
        congrArg (fun counts => (counts.lower row.status).bump outcome.status) follows.callsByStatus,
        written.generation⟩
    · rw [if_neg moved, if_neg (show ¬ (laterBy generations row).status ≠ outcome.status from moved)]
      exact follows.write ref (fillIn row outcome)

theorem clear (follows : Follows old generations log fresh) : Follows old generations log.clear fresh.clear := by
  refine ⟨follows.pool, follows.pid, follows.name, follows.historyMax, follows.rows, rfl, rfl, rfl, ?_⟩
  show log.resetGeneration + 1 = fresh.resetGeneration + 1 + generations
  rw [follows.generation, Nat.add_right_comm]

/-- An operation on one row. -/
theorem onRow (follows : Follows old generations log fresh) (ref : ℕ) (change : CallLog → ℕ → Row → CallLog)
    (keeps : ∀ row, Follows old generations (change log (ref + old.length) (laterBy generations row))
      (change fresh ref row)) :
    Follows old generations ((log.rows[ref + old.length]?.map (change log (ref + old.length))).getD log)
      ((fresh.rows[ref]?.map (change fresh ref)).getD fresh) := by
  rw [follows.rowAt]
  cases fresh.rows[ref]? with
  | none => exact follows
  | some row => exact keeps row

/-- **Every operation keeps the relation.** -/
theorem perform (follows : Follows old generations log fresh) (op : Op) :
    Follows old generations (log.perform codec (op.shift old.length)) (fresh.perform codec op) := by
  cases op with
  | recordArrival stamp site lavaHeaders headers deadline =>
      show Follows old generations (log.addRow _) (fresh.addRow _)
      rw [follows.newEntry]
      exact follows.addRow _
  | push stamp method status latencyMs site requestId lavaHeaders headers =>
      show Follows old generations (log.addRow _) (fresh.addRow _)
      rw [follows.newEntry]
      exact follows.addRow _
  | finalize stamp ref outcome =>
      exact follows.onRow ref (fun log ref row => log.finalize stamp ref row outcome) fun row =>
        follows.finalize stamp ref row outcome
  | setGrpcStatus ref grpcStatus =>
      exact follows.onRow ref (fun log ref row => log.setGrpcStatus ref row grpcStatus) fun row =>
        follows.write ref { row with grpcStatus := some grpcStatus }
  | recordBody ref body =>
      exact follows.onRow ref (fun log ref row => log.recordBody codec ref row body) fun row =>
        follows.write ref { row with bodyLen := some body.length, bodySha256 := some (codec.sha256 body) }
  | recordPath ref path =>
      exact follows.onRow ref (fun log ref row => log.recordPath ref row path) fun row =>
        follows.write ref { row with path := some path }
  | clear => exact follows.clear

/-! ### Readers see the same -/

theorem stats (follows : Follows old generations log fresh) : log.stats = fresh.stats := by
  unfold CallLog.stats
  rw [follows.totalCalls, follows.callsByStatus, follows.history, List.length_map]

theorem getHistory (follows : Follows old generations log fresh) (keep : Row → Bool) :
    log.getHistory keep = fresh.getHistory keep := by
  have shown : ∀ row, sanitized (laterBy generations row) = sanitized row := fun _ => rfl
  have found : (log.history.filterMap fun ref => log.rows[ref]?) =
      (fresh.history.filterMap fun ref => fresh.rows[ref]?).map (laterBy generations) := by
    rw [follows.history, List.filterMap_map, List.map_filterMap]
    exact congrArg (List.filterMap · fresh.history) (funext follows.rowAt)
  unfold CallLog.getHistory
  rw [found, List.map_map]
  exact congrArg (List.filter keep) (List.map_congr_left fun row _ => shown row)

end Follows

end ProviderSimulator.Domain.CallLog
