/-
**The counters and the ring of a call log are exact.**

The abstract view of a log is the list `appended` of the references that were appended since the
last `clear`, oldest first (`journal`). A row is *current* when its generation is the one of the log.
The invariant `Exact log appended` says what the code's data is in these terms:

* `appended` holds the current rows, each once;
* the ring is the last `historyMax` references of `appended`;
* the counter of a status is the number of current rows of that status, whether the ring still holds
  them or not, and a status without rows has no counter;
* `totalCalls` and the sum of the counters are the length of `appended`.

A row matters to the counters by its `standing` only: the status that it is counted under, or none.
So each operation is one of four moves on the rows (`tally_append`, `tally_count_again`,
`tally_move`, `tally_keep`), and `step_exact` is the case analysis over the operations.
-/

import Mathlib.Tactic.Common
import ProviderSimulator.Domain.CallLog

set_option linter.unusedSectionVars false

namespace ProviderSimulator.Domain.CallLog

open ProviderSimulator.Lib ProviderSimulator.Python

/-! ### The standing of a row and the tally of the rows -/

/-- The status that a row counts under in a generation. -/
def standing (generation : ℕ) (row : Row) : Option String :=
  if row.resetGen = generation then some row.status else none

/-- Is the row of the log's generation? -/
def isCurrent (log : CallLog) (ref : ℕ) : Prop :=
  ∃ row, log.rows[ref]? = some row ∧ row.resetGen = log.resetGeneration

/-- The number of rows that count under a status. -/
def tally (generation : ℕ) (rows : List Row) (status : String) : ℕ :=
  rows.countP fun row => standing generation row = some status

/-- The number of current rows with a status, those that the ring dropped included. -/
def currentWith (log : CallLog) (status : String) : ℕ :=
  tally log.resetGeneration log.rows status

section

variable {generation ref : ℕ} {rows : List Row} {old new : Row} {before after : String}

theorem standing_eq_some {row : Row} (present : row.resetGen = generation) :
    standing generation row = some row.status := if_pos present

theorem standing_eq_none {row : Row} (past : row.resetGen ≠ generation) :
    standing generation row = none := if_neg past

/-- A new row adds one to its status. -/
theorem tally_append (counted : standing generation new = some after) :
    tally generation (rows ++ [new]) =
      Function.update (tally generation rows) after (tally generation rows after + 1) := by
  funext status
  have split : tally generation (rows ++ [new]) status =
      tally generation rows status + if after = status then 1 else 0 := by
    simp [tally, counted, List.countP_cons]
  rw [split]
  by_cases same : after = status
  · subst same
    rw [if_pos rfl, Function.update_self]
  · rw [if_neg same, Function.update_of_ne (Ne.symm same), Nat.add_zero]

/-- Writing over a row takes its old standing off and puts its new standing on. -/
theorem tally_set (here : rows[ref]? = some old) (status : String) :
    tally generation (rows.set ref new) status =
      tally generation rows status - (if standing generation old = some status then 1 else 0) +
        if standing generation new = some status then 1 else 0 := by
  obtain ⟨bound, value⟩ := List.getElem?_eq_some_iff.mp here
  rw [tally, List.countP_set bound, value]
  simp only [decide_eq_true_eq, tally]

/-- A row that keeps its standing keeps the tally. -/
theorem tally_keep (here : rows[ref]? = some old)
    (kept : standing generation new = standing generation old) :
    tally generation (rows.set ref new) = tally generation rows := by
  funext status
  rw [tally_set here, kept]
  by_cases counted : standing generation old = some status
  · have positive : 0 < tally generation rows status :=
      List.countP_pos_iff.mpr ⟨old, List.mem_of_getElem? here, by simpa using counted⟩
    rw [if_pos counted]
    omega
  · rw [if_neg counted]
    omega

/-- A row from before the clear adds one to its new status. -/
theorem tally_count_again (here : rows[ref]? = some old) (past : standing generation old = none)
    (counted : standing generation new = some after) :
    tally generation (rows.set ref new) =
      Function.update (tally generation rows) after (tally generation rows after + 1) := by
  funext status
  rw [tally_set here, past, counted, if_neg nofun, Nat.sub_zero]
  by_cases same : after = status
  · subst same
    rw [if_pos rfl, Function.update_self]
  · rw [if_neg (by simpa using same), Function.update_of_ne (Ne.symm same), Nat.add_zero]

/-- A current row that moves to another status takes its count with it. -/
theorem tally_move (here : rows[ref]? = some old)
    (from_before : standing generation old = some before)
    (to_after : standing generation new = some after) (moved : before ≠ after) :
    tally generation (rows.set ref new) =
      Function.update (Function.update (tally generation rows) before
        (tally generation rows before - 1)) after (tally generation rows after + 1) := by
  funext status
  rw [tally_set here, from_before, to_after]
  simp only [Option.some.injEq]
  by_cases isAfter : after = status
  · subst isAfter
    rw [if_neg moved, if_pos rfl, Function.update_self, Nat.sub_zero]
  · rw [if_neg isAfter, Function.update_of_ne (Ne.symm isAfter), Nat.add_zero]
    by_cases isBefore : before = status
    · subst isBefore
      rw [if_pos rfl, Function.update_self]
    · rw [if_neg isBefore, Function.update_of_ne (Ne.symm isBefore), Nat.sub_zero]

end

/-! ### The last references of a list -/

/-- The last `bound` items of a list. -/
def lastOf (bound : ℕ) (items : List ℕ) : List ℕ := items.drop (items.length - bound)

/-- **A bounded deque holds the last items that were appended to it.** -/
theorem ringAppend_lastOf (bound : ℕ) (appended : List ℕ) (ref : ℕ) :
    ringAppend bound (lastOf bound appended) ref = lastOf bound (appended ++ [ref]) := by
  have rejoined : lastOf bound appended ++ [ref] =
      (appended ++ [ref]).drop (appended.length - bound) := by
    rw [lastOf, List.drop_append_of_le_length (Nat.sub_le _ _)]
  have size : (lastOf bound appended).length = appended.length - (appended.length - bound) :=
    List.length_drop
  rw [ringAppend, rejoined, List.drop_drop, size, lastOf, List.length_append, List.length_singleton]
  congr 1
  omega

/-! ### The invariant -/

/-- The references appended since the last `clear`, after one more operation. -/
def journal (log : CallLog) (appended : List ℕ) : Op → List ℕ
  | .recordArrival .. => appended ++ [log.rows.length]
  | .push .. => appended ++ [log.rows.length]
  | .finalize _ ref _ =>
      match log.rows[ref]? with
      | some row => if row.resetGen ≠ log.resetGeneration then appended ++ [ref] else appended
      | none => appended
  | .clear => []
  | _ => appended

/-- The data of the log, in terms of the references appended since the last `clear`. -/
structure Exact (log : CallLog) (appended : List ℕ) : Prop where
  distinct : appended.Nodup
  member_iff : ∀ ref, ref ∈ appended ↔ log.isCurrent ref
  history_eq : log.history = lastOf log.historyMax appended
  totalCalls_eq : log.totalCalls = appended.length
  tallies : Dict.Tallies log.callsByStatus log.currentWith
  total_eq : log.callsByStatus.total = appended.length
  generation_le : ∀ row ∈ log.rows, row.resetGen ≤ log.resetGeneration

/-- A new log has appended nothing. -/
theorem new_exact (pool pid name : String) (historyMax : ℕ) :
    Exact (new pool pid name historyMax) [] where
  distinct := List.nodup_nil
  member_iff ref := by simp [isCurrent, new]
  history_eq := List.drop_nil.symm
  totalCalls_eq := rfl
  tallies := Dict.Tallies.nil
  total_eq := rfl
  generation_le := by simp [new]

section

variable {log : CallLog} {appended : List ℕ}

/-- The count of a status that a current row has is positive. -/
theorem currentWith_pos {ref : ℕ} {row : Row} (here : log.rows[ref]? = some row)
    (present : row.resetGen = log.resetGeneration) : 0 < log.currentWith row.status :=
  List.countP_pos_iff.mpr
    ⟨row, List.mem_of_getElem? here, by simpa using standing_eq_some present⟩

/-- **Appending and counting a reference** that was not appended since the last `clear`. -/
theorem Exact.count {rows : List Row} {ref : ℕ} {status : String} (exact : Exact log appended)
    (fresh : ref ∉ appended)
    (current : ∀ other, CallLog.isCurrent { log with rows := rows } other ↔
      other = ref ∨ log.isCurrent other)
    (counted : tally log.resetGeneration rows =
      Function.update log.currentWith status (log.currentWith status + 1))
    (generation : ∀ row ∈ rows, row.resetGen ≤ log.resetGeneration) :
    Exact (CallLog.count { log with rows := rows } ref status) (appended ++ [ref]) where
  distinct := by
    refine List.nodup_append.mpr ⟨exact.distinct, by simp, ?_⟩
    rintro other member single isSingle rfl
    exact fresh (List.mem_singleton.mp isSingle ▸ member)
  member_iff other := by
    rw [List.mem_append, List.mem_singleton, exact.member_iff]
    exact or_comm.trans (current other).symm
  history_eq := by
    show ringAppend log.historyMax log.history ref = _
    rw [exact.history_eq]
    exact ringAppend_lastOf _ _ _
  totalCalls_eq := by
    show log.totalCalls + 1 = _
    rw [exact.totalCalls_eq, List.length_append, List.length_singleton]
  tallies := by
    show Dict.Tallies (log.callsByStatus.bump status) (tally log.resetGeneration rows)
    rw [counted]
    exact exact.tallies.bump status
  total_eq := by
    show (log.callsByStatus.bump status).total = _
    rw [Dict.total_bump, exact.total_eq, List.length_append, List.length_singleton]
  generation_le := generation

/-- A new row of the present generation. -/
theorem Exact.addRow {row : Row} (exact : Exact log appended)
    (present : row.resetGen = log.resetGeneration) :
    Exact (log.addRow row) (appended ++ [log.rows.length]) := by
  have fresh : log.rows.length ∉ appended := by
    intro member
    obtain ⟨other, here, -⟩ := (exact.member_iff _).mp member
    simp at here
  refine exact.count fresh (fun other => ?_) (tally_append (standing_eq_some present)) ?_
  · show (∃ found, (log.rows ++ [row])[other]? = some found ∧ _) ↔ _
    rcases Nat.lt_trichotomy other log.rows.length with before | same | after
    · rw [List.getElem?_append_left before]
      exact ⟨Or.inr, fun cases => cases.resolve_left before.ne⟩
    · subst same
      rw [List.getElem?_concat_length]
      exact ⟨fun _ => Or.inl rfl, fun _ => ⟨row, rfl, present⟩⟩
    · have outside : (log.rows ++ [row])[other]? = none :=
        List.getElem?_eq_none (by rw [List.length_append, List.length_singleton]; omega)
      have outsideBefore : log.rows[other]? = none := List.getElem?_eq_none after.le
      simp [isCurrent, outside, outsideBefore, after.ne']
  · intro other member
    rcases List.mem_append.mp member with earlier | isNew
    · exact exact.generation_le other earlier
    · rw [List.mem_singleton.mp isNew, present]

/-- Which rows are current after one row is written over. -/
theorem isCurrent_set {ref : ℕ} {old : Row} (here : log.rows[ref]? = some old) (new : Row)
    (other : ℕ) :
    CallLog.isCurrent { log with rows := log.rows.set ref new } other ↔
      if other = ref then new.resetGen = log.resetGeneration else log.isCurrent other := by
  obtain ⟨bound, -⟩ := List.getElem?_eq_some_iff.mp here
  by_cases same : other = ref
  · subst same
    simp [isCurrent, List.getElem?_set_self bound]
  · simp [isCurrent, same, List.getElem?_set_ne (Ne.symm same)]

/-- The generations of the rows after one row is written over. -/
theorem generation_set {ref bound : ℕ} {new : Row} {rows : List Row}
    (before : ∀ row ∈ rows, row.resetGen ≤ bound) (within : new.resetGen ≤ bound) :
    ∀ row ∈ rows.set ref new, row.resetGen ≤ bound := by
  intro row member
  rcases List.mem_or_eq_of_mem_set member with earlier | rfl
  · exact before row earlier
  · exact within

/-- A current row that is written over and stays current. The counters follow its status. -/
theorem Exact.rewrite {ref : ℕ} {old new : Row} {counts : Dict String ℕ}
    (exact : Exact log appended) (here : log.rows[ref]? = some old)
    (kept : new.resetGen = old.resetGen)
    (tallies : Dict.Tallies counts (tally log.resetGeneration (log.rows.set ref new)))
    (total : counts.total = log.callsByStatus.total) :
    Exact { log with rows := log.rows.set ref new, callsByStatus := counts } appended where
  distinct := exact.distinct
  member_iff other := by
    rw [exact.member_iff]
    refine Iff.trans ?_ (isCurrent_set here new other).symm
    by_cases same : other = ref
    · subst same
      simp [isCurrent, here, kept]
    · rw [if_neg same]
  history_eq := exact.history_eq
  totalCalls_eq := exact.totalCalls_eq
  tallies := tallies
  total_eq := total.trans exact.total_eq
  generation_le := by
    have within := exact.generation_le old (List.mem_of_getElem? here)
    exact generation_set exact.generation_le (kept.trans_le within)

/-- A row that keeps its generation and its status. -/
theorem Exact.keep {ref : ℕ} {old new : Row} (exact : Exact log appended)
    (here : log.rows[ref]? = some old) (generation : new.resetGen = old.resetGen)
    (status : new.status = old.status) :
    Exact { log with rows := log.rows.set ref new } appended := by
  have kept : standing log.resetGeneration new = standing log.resetGeneration old := by
    rw [standing, standing, generation, status]
  refine exact.rewrite here generation ?_ rfl
  rw [tally_keep here kept]
  exact exact.tallies

/-- `finalize` on a row from before the last `clear`. -/
theorem Exact.finalize_past {ref : ℕ} {old new : Row} (exact : Exact log appended)
    (here : log.rows[ref]? = some old) (past : old.resetGen ≠ log.resetGeneration)
    (present : new.resetGen = log.resetGeneration) :
    Exact (CallLog.count { log with rows := log.rows.set ref new } ref new.status)
      (appended ++ [ref]) := by
  have notCurrent : ¬ log.isCurrent ref := by
    rintro ⟨row, found, generation⟩
    rw [here] at found
    cases found
    exact past generation
  refine exact.count (fun member => notCurrent ((exact.member_iff ref).mp member))
    (fun other => ?_)
    (tally_count_again here (standing_eq_none past) (standing_eq_some present))
    (generation_set exact.generation_le present.le)
  rw [isCurrent_set here]
  by_cases same : other = ref
  · simp [same, present]
  · simp [same]

/-- `finalize` on a current row that gets another status. -/
theorem Exact.finalize_move {ref : ℕ} {old new : Row} (exact : Exact log appended)
    (here : log.rows[ref]? = some old) (present : old.resetGen = log.resetGeneration)
    (generation : new.resetGen = old.resetGen) (moved : old.status ≠ new.status) :
    Exact { log with
        rows := log.rows.set ref new
        callsByStatus := (log.callsByStatus.lower old.status).bump new.status } appended := by
  have lowered := exact.tallies.lower old.status
  have positive : 0 < log.callsByStatus.count old.status := by
    rw [exact.tallies.count_eq]
    exact currentWith_pos here present
  have untouched : Function.update log.currentWith old.status (log.currentWith old.status - 1)
      new.status = log.currentWith new.status := Function.update_of_ne (Ne.symm moved) _ _
  refine exact.rewrite here generation ?_ ?_
  · rw [tally_move here (standing_eq_some present) (standing_eq_some (generation.trans present))
      moved]
    have bumped := lowered.bump new.status
    rw [untouched] at bumped
    exact bumped
  · rw [Dict.total_bump]
    exact Dict.total_lower exact.tallies.distinct positive

/-- `finalize`, in its three cases. -/
theorem Exact.finalize {ref : ℕ} {row : Row} (exact : Exact log appended)
    (here : log.rows[ref]? = some row) (stamp : Stamp) (outcome : Outcome) :
    Exact (log.finalize stamp ref row outcome)
      (log.journal appended (.finalize stamp ref outcome)) := by
  simp only [journal, here, CallLog.finalize]
  by_cases past : row.resetGen ≠ log.resetGeneration
  · rw [if_pos past, if_pos past]
    exact exact.finalize_past here past rfl
  · rw [if_neg past, if_neg past]
    by_cases moved : row.status ≠ outcome.status
    · rw [if_pos moved]
      exact exact.finalize_move here (not_ne_iff.mp past) rfl moved
    · rw [if_neg moved]
      exact exact.keep here rfl rfl

/-- After a `clear` no row is current. -/
theorem Exact.clear (exact : Exact log appended) : Exact log.clear [] where
  distinct := List.nodup_nil
  member_iff ref := by
    refine ⟨nofun, ?_⟩
    rintro ⟨row, here, present⟩
    have within := exact.generation_le row (List.mem_of_getElem? here)
    have next : row.resetGen = log.resetGeneration + 1 := present
    omega
  history_eq := List.drop_nil.symm
  totalCalls_eq := rfl
  tallies := by
    have none_left : log.clear.currentWith = fun _ => 0 := by
      funext status
      refine List.countP_eq_zero.mpr fun row member => ?_
      have within := exact.generation_le row member
      have past : standing (log.resetGeneration + 1) row = none := standing_eq_none (by omega)
      show ¬ decide (standing (log.resetGeneration + 1) row = some status) = true
      simp [past]
    rw [none_left]
    exact Dict.Tallies.nil
  total_eq := rfl
  generation_le row member := Nat.le_succ_of_le (exact.generation_le row member)

/-- **One operation keeps the log exact.** -/
theorem step_exact {codec : Codec} {op : Op} {next : CallLog} (exact : Exact log appended)
    (done : log.step codec op = some next) : Exact next (log.journal appended op) := by
  cases op with
  | recordArrival =>
      cases done
      exact exact.addRow rfl
  | push =>
      cases done
      exact exact.addRow rfl
  | finalize stamp ref outcome =>
      obtain ⟨row, here, rfl⟩ := Option.map_eq_some_iff.mp done
      exact exact.finalize here stamp outcome
  | setGrpcStatus =>
      obtain ⟨row, here, rfl⟩ := Option.map_eq_some_iff.mp done
      exact exact.keep here rfl rfl
  | recordBody =>
      obtain ⟨row, here, rfl⟩ := Option.map_eq_some_iff.mp done
      exact exact.keep here rfl rfl
  | recordPath =>
      obtain ⟨row, here, rfl⟩ := Option.map_eq_some_iff.mp done
      exact exact.keep here rfl rfl
  | clear =>
      cases done
      exact exact.clear

end

/-! ### Whole runs -/

/-- The references appended since the last `clear` in a run, oldest first. -/
def appendedBy (codec : Codec) : CallLog → List ℕ → List Op → List ℕ
  | _, appended, [] => appended
  | log, appended, op :: rest =>
      match log.step codec op with
      | some next => appendedBy codec next (log.journal appended op) rest
      | none => appended

/-- **Every run keeps the log exact.** -/
theorem run_exact {codec : Codec} :
    ∀ {ops : List Op} {log final : CallLog} {appended : List ℕ}, Exact log appended →
      run (step codec) log ops = some final → Exact final (appendedBy codec log appended ops) := by
  intro ops
  induction ops with
  | nil =>
      intro log final appended exact done
      cases done
      exact exact
  | cons op rest ih =>
      intro log final appended exact done
      obtain ⟨next, first, later⟩ := run_cons_eq_some.mp done
      simp only [appendedBy, first]
      exact ih (step_exact exact first) later

theorem step_historyMax {codec : Codec} {log next : CallLog} {op : Op}
    (done : log.step codec op = some next) : next.historyMax = log.historyMax := by
  cases op with
  | recordArrival => cases done; rfl
  | push => cases done; rfl
  | clear => cases done; rfl
  | finalize =>
      obtain ⟨row, here, rfl⟩ := Option.map_eq_some_iff.mp done
      rw [CallLog.finalize]
      split
      · rfl
      · split <;> rfl
  | setGrpcStatus =>
      obtain ⟨row, here, rfl⟩ := Option.map_eq_some_iff.mp done
      rfl
  | recordBody =>
      obtain ⟨row, here, rfl⟩ := Option.map_eq_some_iff.mp done
      rfl
  | recordPath =>
      obtain ⟨row, here, rfl⟩ := Option.map_eq_some_iff.mp done
      rfl

/-- **The counters and the history of every run.** After any operations in any order, with `appended`
the references appended since the last `clear`: the counter of each status is the number of current
rows with it and its key is there only for a positive number; `totalCalls` is the sum of the counters;
`appended` holds exactly the current rows, each once; and the history is its last
`min historyMax totalCalls` references, in order and without a repetition. -/
theorem counters_and_history_exact (codec : Codec) (pool pid name : String) (historyMax : ℕ)
    (ops : List Op) (log : CallLog)
    (done : run (step codec) (new pool pid name historyMax) ops = some log) :
    let appended := appendedBy codec (new pool pid name historyMax) [] ops
    (∀ status, log.callsByStatus.count status = log.currentWith status ∧
      (status ∈ log.callsByStatus.keys ↔ 0 < log.currentWith status)) ∧
    log.totalCalls = log.callsByStatus.total ∧
    (appended.Nodup ∧ ∀ ref, ref ∈ appended ↔ log.isCurrent ref) ∧
    log.history = lastOf (min historyMax log.totalCalls) appended ∧
    log.history.length = min historyMax log.totalCalls ∧ log.history.Nodup := by
  intro appended
  have exact : Exact log appended := run_exact (new_exact pool pid name historyMax) done
  have bound : log.historyMax = historyMax :=
    run_invariant (fun state : CallLog => state.historyMax = historyMax)
      (fun _ _ _ first same => (step_historyMax first).trans same) done rfl
  have shorter : lastOf historyMax appended = lastOf (min historyMax log.totalCalls) appended := by
    rw [exact.totalCalls_eq, lastOf, lastOf]
    congr 1
    omega
  refine ⟨fun status => ⟨exact.tallies.count_eq status, ?_⟩,
    exact.totalCalls_eq.trans exact.total_eq.symm, ⟨exact.distinct, exact.member_iff⟩, ?_, ?_, ?_⟩
  · have absent := Dict.get_eq_none_iff log.callsByStatus status
    rw [exact.tallies.get_eq] at absent
    have zero : log.currentWith status = 0 ↔ status ∉ log.callsByStatus.keys := by
      refine Iff.trans ?_ absent
      split <;> simp_all
    rw [Nat.pos_iff_ne_zero, Ne, zero, not_not]
  · rw [exact.history_eq, bound]
    exact shorter
  · rw [exact.history_eq, bound, lastOf, List.length_drop, exact.totalCalls_eq]
    omega
  · rw [exact.history_eq]
    exact exact.distinct.sublist (List.drop_sublist _ _)

/-- Two arrivals and a clear, then both rows are finalized, the first one twice, on a ring of one. -/
theorem counters_and_history_exact_late_finalize :
    let codec : Codec := ⟨fun _ => "", fun _ => "", fun _ => ""⟩
    let site : Site := ⟨"jsonrpc", "http", 8545⟩
    let outcome (status : String) : Outcome := ⟨.str "eth_call", status, .int 0, .int 7⟩
    let ops : List Op :=
      [.recordArrival ⟨0, ""⟩ site [] [] .none, .recordArrival ⟨1, ""⟩ site [] [] .none, .clear,
        .finalize ⟨2, ""⟩ 0 (outcome "success"), .finalize ⟨3, ""⟩ 1 (outcome "error"),
        .finalize ⟨4, ""⟩ 0 (outcome "error")]
    ∃ log, run (step codec) (new "eth-sim" "1" "" 1) ops = some log ∧
      log.history = [1] ∧ log.callsByStatus.count "error" = 2 ∧
      log.totalCalls = log.callsByStatus.total := by
  intro codec site outcome ops
  refine ⟨_, rfl, rfl, rfl, ?_⟩
  exact (counters_and_history_exact codec "eth-sim" "1" "" 1 ops _ rfl).2.1

end ProviderSimulator.Domain.CallLog
