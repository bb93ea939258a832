/-
**The times of the rows after a clear.**

`record_arrival` and `push` read the clock in `_new_entry`, before they take the lock, so a new row is stamped
in one step and appended in another. `finalize` reads the clock under the lock. The machine `Timed` has a clock
that never goes back, the new rows that wait for the lock, and the log with the time of its last `clear`.

* `since_addRow` — a row that is appended keeps the promise exactly when its stamp is no older than the clear;
* `step_clean_iff` — the append is the one step that can break it;
* `post_clear_times_iff` — so the history carries no time from before the clear exactly along the runs in
  which no clear takes effect between the stamp of a new row and its append, at a later time.
-/

import Mathlib.Tactic.Common
import Mathlib.Tactic.NormNum
import ProviderSimulator.Domain.CallLogRenewed

namespace ProviderSimulator.Domain.CallLog

open ProviderSimulator.Lib ProviderSimulator.Python

/-! ### The machine -/

/-- What `_new_entry` is called for. -/
inductive NewRow
  | recordArrival (site : Site) (lavaHeaders headers : Headers) (deadlineRemainingMs : Value)
  | push (method : Value) (status : String) (latencyMs : Value) (site : Site) (requestId : Value)
      (lavaHeaders headers : Headers)

/-- The locked append of a stamped row. -/
def NewRow.op (stamp : Stamp) : NewRow → Op
  | .recordArrival site lavaHeaders headers deadline => .recordArrival stamp site lavaHeaders headers deadline
  | .push method status latencyMs site requestId lavaHeaders headers =>
      .push stamp method status latencyMs site requestId lavaHeaders headers

/-- A log that several threads write to. -/
structure Timed where
  clock : ℚ
  /-- The rows that were stamped and wait for the lock. -/
  pending : List (Stamp × NewRow)
  log : CallLog
  /-- When the last `clear` took effect. -/
  clearedAt : Option ℚ

/-- One step of a thread, or of the clock. -/
inductive TimedStep
  | tick (now : ℚ)
  | stamp (text : String) (row : NewRow)
  | append (place : ℕ)
  | finalize (text : String) (ref : ℕ) (outcome : Outcome)
  | setGrpcStatus (ref : ℕ) (grpcStatus : String)
  | recordBody (ref : ℕ) (body : List UInt8)
  | recordPath (ref : ℕ) (path : String)
  | clear

namespace Timed

/-- A new log. -/
def start (log : CallLog) (clock : ℚ) : Timed := ⟨clock, [], log, none⟩

/-- An operation that takes the lock at once. -/
def locked (codec : Codec) (state : Timed) (op : Op) : Option Timed :=
  (state.log.step codec op).map fun log => { state with log := log }

/-- One step. -/
def step (codec : Codec) (state : Timed) : TimedStep → Option Timed
  | .tick now => if state.clock ≤ now then some { state with clock := now } else none
  | .stamp text row => some { state with pending := state.pending ++ [(⟨state.clock, text⟩, row)] }
  | .append place =>
      state.pending[place]?.bind fun (stamp, row) =>
        ({ state with pending := state.pending.eraseIdx place } : Timed).locked codec (row.op stamp)
  | .finalize text ref outcome => state.locked codec (.finalize ⟨state.clock, text⟩ ref outcome)
  | .setGrpcStatus ref grpcStatus => state.locked codec (.setGrpcStatus ref grpcStatus)
  | .recordBody ref body => state.locked codec (.recordBody ref body)
  | .recordPath ref path => state.locked codec (.recordPath ref path)
  | .clear => some { state with log := state.log.clear, clearedAt := some state.clock }

end Timed

/-! ### Rows since a time -/

/-- No row of the history is older. -/
def Since (time : ℚ) (log : CallLog) : Prop :=
  ∀ ref ∈ log.history, ∀ row, log.rows[ref]? = some row → time ≤ row.ts

theorem mem_ringAppend {historyMax ref new : ℕ} {history : List ℕ}
    (member : ref ∈ ringAppend historyMax history new) : ref ∈ history ∨ ref = new := by
  rcases List.mem_append.mp (List.mem_of_mem_drop member) with old | last
  · exact .inl old
  · exact .inr (List.mem_singleton.mp last)

/-- The newest row is in the ring, if the ring holds any. -/
theorem new_mem_ringAppend {historyMax : ℕ} (some : 0 < historyMax) (history : List ℕ) (new : ℕ) :
    new ∈ ringAppend historyMax history new := by
  unfold ringAppend
  rw [List.drop_append_of_le_length (by omega)]
  exact List.mem_append_right _ List.mem_cons_self

theorem ringAppend_zero (history : List ℕ) (new : ℕ) : ringAppend 0 history new = [] := by
  unfold ringAppend
  rw [List.drop_eq_nil_iff, List.length_append, List.length_singleton]
  exact le_rfl

variable {time : ℚ} {log : CallLog}

/-- **An appended row.** -/
theorem since_addRow (since : Since time log) (row : Row) :
    Since time (log.addRow row) ↔ log.historyMax = 0 ∨ time ≤ row.ts := by
  constructor
  · intro after
    by_cases none : log.historyMax = 0
    · exact .inl none
    · refine .inr (after log.rows.length ?_ row ?_)
      · exact new_mem_ringAppend (Nat.pos_of_ne_zero none) _ _
      · exact List.getElem?_concat_length ..
  · rintro (none | late) ref listed found here
    · have empty : (log.addRow row).history = [] := by
        show ringAppend log.historyMax log.history log.rows.length = []
        rw [none, ringAppend_zero]
      rw [empty] at listed
      cases listed
    · have rows : (log.rows ++ [row])[ref]? = some found := here
      by_cases last : ref < log.rows.length
      · rw [List.getElem?_append_left last] at rows
        rcases mem_ringAppend listed with old | new
        · exact since ref old found rows
        · exact absurd new (Nat.ne_of_lt last)
      · rw [List.getElem?_append_right (Nat.le_of_not_lt last)] at rows
        have same : found ∈ [row] := List.mem_of_getElem? rows
        rw [List.mem_singleton.mp same]
        exact late

/-- A row that is written over. -/
theorem since_set {after : CallLog} {ref : ℕ} {new : Row} (since : Since time log)
    (rows : after.rows = log.rows.set ref new) (history : ∀ other ∈ after.history, other ∈ log.history ∨ other = ref)
    (late : ref ∈ after.history → time ≤ new.ts) : Since time after := by
  intro other listed found here
  rw [rows] at here
  by_cases same : ref = other
  · subst same
    rw [List.getElem?_set_self'] at here
    obtain ⟨old, -, rfl⟩ := Option.map_eq_some_iff.mp here
    exact late listed
  · rw [List.getElem?_set_ne same] at here
    rcases history other listed with old | new
    · exact since other old found here
    · exact absurd new.symm same

/-- A row that keeps its time. -/
theorem since_set_of_ts {after : CallLog} {ref : ℕ} {old new : Row} (since : Since time log)
    (here : log.rows[ref]? = some old) (rows : after.rows = log.rows.set ref new)
    (history : after.history = log.history) (same : new.ts = old.ts) : Since time after := by
  refine since_set since rows (fun other listed => .inl (history ▸ listed)) fun listed => ?_
  rw [same]
  exact since ref (history ▸ listed) old here

/-- `finalize` with a stamp that is no older. -/
theorem since_finalize {ref : ℕ} {row : Row} (since : Since time log) (here : log.rows[ref]? = some row)
    {stamp : Stamp} (late : time ≤ stamp.now) (outcome : Outcome) :
    Since time (log.finalize stamp ref row outcome) := by
  unfold finalize
  dsimp only
  split
  · -- The row is appended again, with a new time.
    exact since_set since rfl (fun _ listed => mem_ringAppend listed) fun _ => late
  · split
    · exact since_set_of_ts since here rfl rfl rfl
    · exact since_set_of_ts since here rfl rfl rfl

theorem since_clear (time : ℚ) (log : CallLog) : Since time log.clear := nofun

/-! ### What a step can break -/

namespace Timed

/-- No row of the history is older than the last clear. -/
def Clean (state : Timed) : Prop := ∀ time, state.clearedAt = some time → Since time state.log

/-- The clear lies in the past. -/
def InOrder (state : Timed) : Prop := ∀ time, state.clearedAt = some time → time ≤ state.clock

/-- A new row is appended with no clear between its stamp and the append, unless the clock still showed the same
time, or the ring holds no rows at all. -/
def NoClearBetween (state : Timed) : TimedStep → Prop
  | .append place => ∀ stamp row, state.pending[place]? = some (stamp, row) →
      ∀ time, state.clearedAt = some time → state.log.historyMax = 0 ∨ time ≤ stamp.now
  | _ => True

variable {codec : Codec} {state next : Timed}

theorem locked_eq_some {op : Op} (done : state.locked codec op = some next) :
    ∃ log, state.log.step codec op = some log ∧ next = { state with log := log } := by
  obtain ⟨log, stepped, rfl⟩ := Option.map_eq_some_iff.mp done
  exact ⟨log, stepped, rfl⟩

theorem step_inOrder {event : TimedStep} (stepped : state.step codec event = some next) (order : state.InOrder) :
    next.InOrder := by
  have same : ∀ {before : Timed} {op : Op}, before.clearedAt = state.clearedAt → before.clock = state.clock →
      before.locked codec op = some next → next.InOrder := by
    intro before op cleared clock done
    obtain ⟨log, -, rfl⟩ := locked_eq_some done
    intro time here
    rw [clock]
    exact order time (cleared ▸ here)
  cases event with
  | tick now =>
      obtain ⟨later, ⟨⟩⟩ := Option.ite_none_right_eq_some.mp stepped
      exact fun time here => (order time here).trans later
  | stamp text row =>
      cases stepped
      exact order
  | append place =>
      obtain ⟨⟨stamp, row⟩, -, done⟩ := Option.bind_eq_some_iff.mp stepped
      have cleared : ({ state with pending := state.pending.eraseIdx place } : Timed).clearedAt = state.clearedAt := rfl
      exact same cleared rfl done
  | clear =>
      cases stepped
      rintro time ⟨⟩
      exact le_rfl
  | finalize text ref outcome => exact same rfl rfl stepped
  | setGrpcStatus ref grpcStatus => exact same rfl rfl stepped
  | recordBody ref body => exact same rfl rfl stepped
  | recordPath ref path => exact same rfl rfl stepped

/-- An operation that writes to one row. -/
theorem clean_locked {op : Op} (done : state.locked codec op = some next) (clean : state.Clean)
    (keeps : ∀ time log, state.clearedAt = some time → Since time state.log → state.log.step codec op = some log →
      Since time log) : next.Clean := by
  obtain ⟨log, stepped, rfl⟩ := locked_eq_some done
  exact fun time here => keeps time log here (clean time here) stepped

/-- **The append of a new row is the one step that can bring in an older time**, and it does so exactly when a clear
took effect after its stamp. -/
theorem step_clean_iff {event : TimedStep} (order : state.InOrder) (clean : state.Clean)
    (stepped : state.step codec event = some next) : next.Clean ↔ state.NoClearBetween event := by
  cases event with
  | tick now =>
      obtain ⟨-, ⟨⟩⟩ := Option.ite_none_right_eq_some.mp stepped
      exact iff_of_true clean trivial
  | stamp text row =>
      cases stepped
      exact iff_of_true clean trivial
  | append place =>
      obtain ⟨⟨stamp, row⟩, waiting, done⟩ := Option.bind_eq_some_iff.mp stepped
      obtain ⟨log, appended, rfl⟩ := locked_eq_some done
      have added : ∃ new : Row, new.ts = stamp.now ∧ log = state.log.addRow new := by
        cases row with
        | recordArrival site lavaHeaders headers deadline =>
            cases appended
            exact ⟨_, rfl, rfl⟩
        | push method status latencyMs site requestId lavaHeaders headers =>
            cases appended
            exact ⟨_, rfl, rfl⟩
      obtain ⟨new, stamped, rfl⟩ := added
      constructor
      · intro after stamp' row' here time cleared
        cases waiting.symm.trans here
        rw [← stamped]
        exact (since_addRow (clean time cleared) new).mp (after time cleared)
      · intro between time cleared
        refine (since_addRow (clean time cleared) new).mpr ?_
        rw [stamped]
        exact between stamp row waiting time cleared
  | clear =>
      cases stepped
      exact iff_of_true (fun time _ => since_clear time _) trivial
  | finalize text ref outcome =>
      refine iff_of_true (clean_locked stepped clean fun time log cleared since done => ?_) trivial
      obtain ⟨row, here, rfl⟩ := Option.map_eq_some_iff.mp done
      exact since_finalize since here (order time cleared) outcome
  | setGrpcStatus ref grpcStatus =>
      refine iff_of_true (clean_locked stepped clean fun time log cleared since done => ?_) trivial
      obtain ⟨row, here, rfl⟩ := Option.map_eq_some_iff.mp done
      exact since_set_of_ts since here rfl rfl rfl
  | recordBody ref body =>
      refine iff_of_true (clean_locked stepped clean fun time log cleared since done => ?_) trivial
      obtain ⟨row, here, rfl⟩ := Option.map_eq_some_iff.mp done
      exact since_set_of_ts since here rfl rfl rfl
  | recordPath ref path =>
      refine iff_of_true (clean_locked stepped clean fun time log cleared since done => ?_) trivial
      obtain ⟨row, here, rfl⟩ := Option.map_eq_some_iff.mp done
      exact since_set_of_ts since here rfl rfl rfl

/-- **The history carries no time from before the last clear, in every state of a run, exactly when no clear takes
effect between the stamp of a new row and its append.** -/
theorem post_clear_times_iff (codec : Codec) (pool pid name : String) (historyMax : ℕ) (clock : ℚ)
    (events : List TimedStep) :
    Always (step codec) Clean (start (.new pool pid name historyMax) clock) events ↔
      MeetsAlong (step codec) NoClearBetween (start (.new pool pid name historyMax) clock) events := by
  have keeps : ∀ state event next, step codec state event = some next → InOrder state → InOrder next :=
    fun _ _ _ stepped => step_inOrder stepped
  have exact_ : ∀ state event next, InOrder state → Clean state → step codec state event = some next →
      (Clean next ↔ NoClearBetween state event) := fun _ _ _ order clean => step_clean_iff order clean
  have stuck : ∀ state event, step codec state event = none → NoClearBetween state event := by
    intro state event none
    cases event with
    | append place =>
        intro stamp row waiting
        dsimp only [step] at none
        rw [waiting] at none
        cases row with
        | recordArrival site lavaHeaders headers deadline => cases none
        | push method status latencyMs site requestId lavaHeaders headers => cases none
    | _ => trivial
  have order : (start (.new pool pid name historyMax) clock).InOrder := by
    intro time cleared
    cases cleared
  have clean : (start (.new pool pid name historyMax) clock).Clean := by
    intro time cleared
    cases cleared
  exact always_iff_meetsAlong keeps exact_ stuck order clean events

/-- The row of an event on a WebSocket. -/
def latePush : NewRow := .push .none "success" (.int 0) ⟨"jsonrpc", "ws", 18557⟩ .none [] []

/-- A push that is stamped at time 1 and appended at time 2, after a clear. -/
def lateAppend : List TimedStep := [.tick 1, .stamp "" latePush, .tick 2, .clear, .append 0]

/-- The history after the clear at time 2 holds a row of time 1. -/
theorem lateAppend_carries_old_time :
    let codec : Codec := ⟨fun _ => "", fun _ => "", fun _ => ""⟩
    ∃ final, run (step codec) (start (.new "eth-sim" "1" "" 500) 0) lateAppend = some final ∧
      final.clearedAt = some 2 ∧ (final.log.getHistory fun _ => true).map Row.ts = [1] ∧ ¬ final.Clean := by
  refine ⟨_, rfl, rfl, rfl, fun clean => ?_⟩
  have late : (2 : ℚ) ≤ 1 := clean 2 rfl 0 List.mem_cons_self _ rfl
  norm_num at late

end Timed

end ProviderSimulator.Domain.CallLog
