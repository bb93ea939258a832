/-
**The plan of a request and its row agree.**

When `serve` returns, the plan that it gives to the transport and the row that it leaves in the log tell the
same story, whatever the exit that it took: the count of the window is taken once or not at all, one row is
finished, the row has the latency of the plan, and the plan has the headers that the scenario chose.

* `OnlyRow` — a log that differs from an earlier one at one row only, which every effect of `serve` keeps
  (`onlyRow_logWith`);
* `finalize_row` — the row after it is finished;
* `plan_and_row_agree` — every listener, every exit.
-/

import Mathlib.Tactic.Common
import ProviderSimulator.Listeners.Bookkeeping
import ProviderSimulator.Listeners.Totality
import ProviderSimulator.Simulator.Model

namespace ProviderSimulator.Simulator

open ProviderSimulator.Lib ProviderSimulator.Lib.Flow ProviderSimulator.Python ProviderSimulator.Domain
open ProviderSimulator.Listeners (RawRequest ServeResult Serving Env Effect serveAt Clean Closed Served recorded)
open ProviderSimulator.FaultPolicy (targets)

/-! ### The log of a call -/

/-- The times of a call: its arrival and its end. -/
structure Times where
  arrival : Stamp
  finish : Stamp

/-- What an effect of `serve` does to the log, the arrival included. -/
def logWith (codec : Codec) (endpoint : Endpoint) (times : Times) (ref : ℕ) (log : CallLog) : Effect → CallLog
  | .recordArrival headers =>
      log.perform codec (arrivalOp endpoint times.arrival
        (headers.map fun header => (header.1, .text header.2)) .none)
  | effect => logAfter codec times.finish ref log effect

/-- The row of a call: the one that its adapter holds, or the one that its arrival appends. -/
def rowOf (log : CallLog) (held : Option (Fin log.rows.length)) : ℕ :=
  match held with
  | some ref => ref
  | none => log.rows.length

/-- The log differs from the earlier one at one row only. -/
structure OnlyRow (ref : ℕ) (log after : CallLog) : Prop where
  there : ref < log.rows.length → ref < after.rows.length
  others : ∀ other, other ≠ ref → after.rows[other]? = log.rows[other]?

section

variable {codec : Codec} {endpoint : Endpoint} {times : Times} {ref : ℕ} {log : CallLog}

theorem OnlyRow.refl (ref : ℕ) (log : CallLog) : OnlyRow ref log log := ⟨id, fun _ _ => rfl⟩

theorem OnlyRow.trans {first second third : CallLog} (begins : OnlyRow ref first second)
    (goes : OnlyRow ref second third) : OnlyRow ref first third :=
  ⟨fun there => goes.there (begins.there there), fun other elsewhere =>
    (goes.others other elsewhere).trans (begins.others other elsewhere)⟩

theorem onlyRow_of_set {after : CallLog} {row : Row} (written : after.rows = log.rows.set ref row) :
    OnlyRow ref log after := by
  refine ⟨fun there => ?_, fun other elsewhere => ?_⟩
  · rw [written, List.length_set]
    exact there
  · rw [written, List.getElem?_set_ne (Ne.symm elsewhere)]

theorem finalize_rows (log : CallLog) (ref : ℕ) (stamp : Stamp) (row : Row) (outcome : CallLog.Outcome) :
    ∃ done : Row, (log.finalize stamp ref row outcome).rows = log.rows.set ref done ∧
      done.status = outcome.status ∧ done.latencyMs = outcome.latencyMs := by
  unfold CallLog.finalize
  dsimp only
  split
  · exact ⟨_, rfl, rfl, rfl⟩
  · split
    · exact ⟨_, rfl, rfl, rfl⟩
    · next same => exact ⟨_, rfl, not_not.mp same, rfl⟩

/-- Every effect but the arrival. -/
theorem onlyRow_logAfter (stamp : Stamp) (effect : Effect) : OnlyRow ref log (logAfter codec stamp ref log effect) := by
  have written : ∀ op : CallLog.Op, (∀ after, log.step codec op = some after →
      ∃ row, after.rows = log.rows.set ref row) → OnlyRow ref log (log.perform codec op) := by
    intro op stepped
    unfold CallLog.perform
    cases found : log.step codec op with
    | none => exact OnlyRow.refl ref log
    | some after =>
        obtain ⟨row, rows⟩ := stepped after found
        exact onlyRow_of_set rows
  cases effect with
  | recordBody body =>
      refine written _ fun after stepped => ?_
      obtain ⟨row, -, rfl⟩ := Option.map_eq_some_iff.mp stepped
      exact ⟨_, rfl⟩
  | recordPath path =>
      refine written _ fun after stepped => ?_
      obtain ⟨row, -, rfl⟩ := Option.map_eq_some_iff.mp stepped
      exact ⟨_, rfl⟩
  | finalize method label latency id =>
      refine written _ fun after stepped => ?_
      obtain ⟨row, -, rfl⟩ := Option.map_eq_some_iff.mp stepped
      obtain ⟨done, rows, -⟩ := finalize_rows log ref stamp row ⟨method, label.name, latency, id⟩
      exact ⟨done, rows⟩
  | _ => exact OnlyRow.refl ref log

theorem onlyRow_foldl (stamp : Stamp) (effects : List Effect) :
    OnlyRow ref log (effects.foldl (logAfter codec stamp ref) log) := by
  induction effects generalizing log with
  | nil => exact OnlyRow.refl ref log
  | cons effect rest ih => exact (onlyRow_logAfter stamp effect).trans ih

/-- **The row after it is finished.** -/
theorem finalize_row (stamp : Stamp) (there : ref < log.rows.length) (method : Value) (label : Listeners.Label)
    (latency id : Value) :
    ∃ row, (logAfter codec stamp ref log (.finalize method label latency id)).rows[ref]? = some row ∧
      row.status = label.name ∧ row.latencyMs = latency := by
  obtain ⟨done, rows, status, shown⟩ :=
    finalize_rows log ref stamp log.rows[ref] ⟨method, label.name, latency, id⟩
  refine ⟨done, ?_, status, shown⟩
  have stepped : log.step codec (.finalize stamp ref ⟨method, label.name, latency, id⟩) =
      some (log.finalize stamp ref log.rows[ref] ⟨method, label.name, latency, id⟩) := by
    dsimp only [CallLog.step]
    rw [List.getElem?_eq_getElem there]
    rfl
  unfold logAfter CallLog.perform
  dsimp only
  rw [stepped, Option.getD_some, rows, List.getElem?_set_self there]

/-- The arrival appends the row of the call, and the rest of the call keeps to it. -/
theorem rows_after (codec : Codec) (endpoint : Endpoint) (times : Times) (held : Option (Fin log.rows.length))
    (headers : Dict String String) {rest : List Effect}
    (noArrival : ∀ effect ∈ rest, ∀ headers, effect ≠ .recordArrival headers) :
    ∃ arrived : CallLog, rowOf log held < arrived.rows.length ∧
      (∀ other, other ≠ rowOf log held → arrived.rows[other]? = log.rows[other]?) ∧
      ((if held.isSome then [] else [Effect.recordArrival headers]) ++ rest).foldl
          (logWith codec endpoint times (rowOf log held)) log =
        rest.foldl (logAfter codec times.finish (rowOf log held)) arrived := by
  have later : ∀ start : CallLog, rest.foldl (logWith codec endpoint times (rowOf log held)) start =
      rest.foldl (logAfter codec times.finish (rowOf log held)) start := by
    intro start
    refine List.foldl_ext _ _ start fun state effect member => ?_
    cases effect with
    | recordArrival headers => exact absurd rfl (noArrival _ member headers)
    | _ => rfl
  cases held with
  | some ref => exact ⟨log, ref.isLt, fun _ _ => rfl, later log⟩
  | none =>
      refine ⟨logWith codec endpoint times log.rows.length log (.recordArrival headers), ?_, ?_, later _⟩
      · show log.rows.length < (log.rows ++ [_]).length
        simp
      · intro other elsewhere
        show (log.rows ++ [_])[other]? = log.rows[other]?
        by_cases known : other < log.rows.length
        · exact List.getElem?_append_left known
        · have beyond : log.rows.length < other := by
            have different : other ≠ log.rows.length := elsewhere
            omega
          rw [List.getElem?_append_right (Nat.le_of_lt beyond), List.getElem?_eq_none (Nat.le_of_lt beyond)]
          exact List.getElem?_eq_none (by rw [List.length_singleton]; omega)

/-- **The rows of a call** whose last effect finishes the row. -/
theorem call_rows (held : Option (Fin log.rows.length)) (headers : Dict String String) {front : List Effect}
    (noArrival : ∀ effect ∈ front, ∀ headers, effect ≠ .recordArrival headers) (method : Value)
    (label : Listeners.Label) (latency id : Value) {after : CallLog}
    (called : after = ((if held.isSome then [] else [Effect.recordArrival headers]) ++
      (front ++ [Effect.finalize method label latency id])).foldl (logWith codec endpoint times (rowOf log held)) log) :
    (∃ row, after.rows[rowOf log held]? = some row ∧ row.status = label.name ∧ row.latencyMs = latency) ∧
      ∀ other, other ≠ rowOf log held → after.rows[other]? = log.rows[other]? := by
  have whole : ∀ effect ∈ front ++ [Effect.finalize method label latency id], ∀ headers,
      effect ≠ .recordArrival headers := by
    intro effect member
    rcases List.mem_append.mp member with first | last
    · exact noArrival effect first
    · rw [List.mem_singleton.mp last]
      nofun
  obtain ⟨arrived, there, others, same⟩ :=
    rows_after codec endpoint times held headers whole
  have kept : OnlyRow (rowOf log held) arrived (front.foldl (logAfter codec times.finish (rowOf log held)) arrived) :=
    onlyRow_foldl times.finish front
  rw [same, List.foldl_append] at called
  rw [called]
  refine ⟨finalize_row times.finish (kept.there there) method label latency id, fun other elsewhere => ?_⟩
  exact ((kept.trans (onlyRow_foldl times.finish _)).others other elsewhere).trans (others other elsewhere)

end

/-! ### The agreement -/

/-- Does the effect take a count of the window? -/
def takesCount : Effect → Bool
  | .consumeFail => true
  | _ => false

/-- Does the effect finish a row? -/
def finishesRow : Effect → Bool
  | .finalize _ _ _ _ => true
  | _ => false

/-- **The plan and the row of a call agree.** -/
structure PlanAndRow (scenario : Scenario) (targeted positive : Bool) (effects : List Effect) (ref : ℕ)
    (before after : CallLog) (result : ServeResult) : Prop where
  /-- The window is counted once if the endpoint is targeted and there is a window, and else not. -/
  counts : effects.countP takesCount = if targeted && positive then 1 else 0
  /-- One row is finished. -/
  finishes : effects.countP finishesRow = 1
  /-- It is the row of the call, and it has the latency of the plan. -/
  row : ∃ row, after.rows[ref]? = some row ∧ row.status ≠ "in_flight" ∧ row.latencyMs = result.latencyMs
  /-- Every other row is as it was. -/
  others : ∀ other, other ≠ ref → after.rows[other]? = before.rows[other]?
  replyHeaders : result.replyHeaders = if targeted then (scenario .replyHeaders).orElse (.dict []) else .dict []
  replyTrailers : result.replyTrailers = if targeted then (scenario .replyTrailers).orElse (.dict []) else .dict []
  /-- A pause or a corruption is on a plan that is sent from a targeted endpoint. -/
  marked : result.pauseAt ≠ .none ∨ result.pauseMs ≠ .int 0 ∨ result.corruptionMode ≠ .none ∨
    result.missingField ≠ .none → result.action = .respond ∧ targeted = true

/-- The effect neither takes a count nor finishes a row. -/
def Quiet (effect : Effect) : Prop := takesCount effect = false ∧ finishesRow effect = false

theorem quiet_of_aside {effect : Effect} (aside : effect.Aside) : Quiet effect := by
  cases effect <;> first | exact ⟨rfl, rfl⟩ | exact aside.elim

theorem countP_quiet {effects : List Effect} (quiet : ∀ effect ∈ effects, Quiet effect) :
    effects.countP takesCount = 0 ∧ effects.countP finishesRow = 0 := by
  refine ⟨List.countP_eq_zero.mpr fun effect member => ?_, List.countP_eq_zero.mpr fun effect member => ?_⟩
  · rw [(quiet effect member).1]
    exact Bool.false_ne_true
  · rw [(quiet effect member).2]
    exact Bool.false_ne_true

/-- What is recorded before the answer: the arrival, and then details of the row. -/
theorem recorded_eq (hooks : Listeners.Hooks) (request : RawRequest) (arrived : Bool) :
    ∃ details, recorded hooks request arrived =
        (if arrived then [] else [.recordArrival request.headers]) ++ details ∧
      ∀ effect ∈ details, Quiet effect ∧ ∀ headers, effect ≠ .recordArrival headers := by
  refine ⟨_, rfl, fun effect member => ?_⟩
  rcases List.mem_append.mp member with first | second
  · obtain ⟨body, -, rfl⟩ := List.mem_map.mp first
    exact ⟨⟨rfl, rfl⟩, nofun⟩
  · obtain ⟨path, -, rfl⟩ := List.mem_map.mp second
    exact ⟨⟨rfl, rfl⟩, nofun⟩

/-- **Plan and row agree** whenever `serve` returns: for every listener, scenario, request, log and row. -/
theorem plan_and_row_agree (site : Listeners.Site) (env : Env) (request : RawRequest) (scenario : Scenario)
    (codec : Codec) (times : Times) (log : CallLog) (held : Option (Fin log.rows.length)) (result : ServeResult)
    (returned : ((serveAt site env request held.isSome).outcomeAt scenario).result = .ok result) :
    ∃ targeted positive, targets scenario site.endpoint = .ok targeted ∧
      (scenario .failFirstN).exceeds 0 = .ok positive ∧
      PlanAndRow scenario targeted positive ((serveAt site env request held.isSome).outcomeAt scenario).effects
        (rowOf log held) log
        (((serveAt site env request held.isSome).outcomeAt scenario).effects.foldl
          (logWith codec site.endpoint times (rowOf log held)) log) result := by
  obtain ⟨later, whole, targeted, positive, mode, last, target, count, rfl, closed⟩ :=
    Listeners.serveAt_ends held.isSome result returned
  obtain ⟨aside, method, label, id, allowed, rfl, sent⟩ := closed
  obtain ⟨details, recorded, kinds⟩ := recorded_eq (Listeners.hooks site env) request held.isSome
  rw [recorded, List.append_assoc] at whole
  refine ⟨targeted, positive, target, count, ?_⟩
  rw [whole]
  have arrival : ∀ effect ∈ (if held.isSome then [] else [Effect.recordArrival request.headers]), Quiet effect := by
    intro effect member
    split at member
    · cases member
    · rw [List.mem_singleton.mp member]
      exact ⟨rfl, rfl⟩
  have window : ∀ effect ∈ (if positive && targeted then [Effect.consumeFail] else []), effect = .consumeFail := by
    intro effect member
    split at member
    · exact List.mem_singleton.mp member
    · cases member
  have arrives := countP_quiet arrival
  have detailed := countP_quiet fun effect member => (kinds effect member).1
  have asides := countP_quiet fun effect member => quiet_of_aside (allowed effect member)
  have noArrival : ∀ effect ∈ details ++ ((if positive && targeted then [.consumeFail] else []) ++ aside),
      ∀ headers, effect ≠ Effect.recordArrival headers := by
    intro effect member
    rcases List.mem_append.mp member with first | second
    · exact (kinds effect first).2
    · rcases List.mem_append.mp second with counted | last
      · rw [window effect counted]
        nofun
      · rintro headers rfl
        exact allowed _ last
  generalize called : List.foldl (logWith codec site.endpoint times (rowOf log held)) log _ = after
  rw [← List.append_assoc _ aside, ← List.append_assoc details] at called
  obtain ⟨⟨row, found, status, latency⟩, others⟩ :=
    call_rows held request.headers noArrival method label result.latencyMs id called.symm
  constructor
  · -- counts
    simp only [List.countP_append, arrives.1, detailed.1, asides.1]
    rw [Bool.and_comm targeted]
    split <;> rfl
  · -- finishes
    simp only [List.countP_append, arrives.2, detailed.2, asides.2]
    split <;> rfl
  · exact ⟨row, found, status ▸ label.name_ne, latency⟩
  · exact others
  · rw [sent.replyHeaders]
    cases targeted <;> rfl
  · rw [sent.replyTrailers]
    cases targeted <;> rfl
  · intro marks
    have unclean : ¬ Clean result := fun clean => by
      rcases marks with pauseAt | pauseMs | corruption | missing
      · exact pauseAt clean.pauseAt
      · exact pauseMs clean.pauseMs
      · exact corruption clean.corruptionMode
      · exact missing clean.missingField
    obtain ⟨action, policy⟩ := sent.marked unclean
    refine ⟨action, ?_⟩
    cases targeted with
    | false => cases policy
    | true => rfl

/-- `{"mode": "error", "fail_first_n": 2, "latency_ms": 250, "reply_headers": {"x-trace": "7"}}`. -/
def tracedErrors : Scenario
  | .mode => .str "error"
  | .failFirstN => .int 2
  | .latencyMs => .int 250
  | .replyHeaders => .object [("x-trace", .str "7")]
  | field => field.default

/-- The plan of a call of `eth_blockNumber` under these errors. -/
def tracedPlan : ServeResult where
  action := .respond
  body := .value (Chains.errorEnvelope (.int 1) (.object [
    ("code", .int (-32000)), ("message", .str "Internal error")]))
  latencyMs := .int 250
  replyHeaders := .object [("x-trace", .str "7")]

/-- The errors are counted, and the row and the plan have the latency and the header of the block. -/
theorem plan_and_row_agree_traced :
    ((serveAt Listeners.numberSite Listeners.numberEnv { body := Listeners.numberBody } false).outcomeAt
        tracedErrors).result = .ok tracedPlan ∧
      ∃ after, PlanAndRow tracedErrors true true
        ((serveAt Listeners.numberSite Listeners.numberEnv { body := Listeners.numberBody } false).outcomeAt
          tracedErrors).effects 0 (CallLog.new "eth-sim" "1" "eth-1" 100) after tracedPlan := by
  have returned : ((serveAt Listeners.numberSite Listeners.numberEnv { body := Listeners.numberBody } false).outcomeAt
      tracedErrors).result = .ok tracedPlan := by rfl
  obtain ⟨targeted, positive, target, count, agree⟩ := plan_and_row_agree Listeners.numberSite Listeners.numberEnv
    { body := Listeners.numberBody } tracedErrors ⟨fun _ => "", fun _ => "", fun _ => ""⟩
    ⟨⟨0, ""⟩, ⟨1, ""⟩⟩ (CallLog.new "eth-sim" "1" "eth-1" 100) none tracedPlan returned
  have targetedHere : targets tracedErrors Listeners.numberSite.endpoint = .ok true := rfl
  have countedHere : (tracedErrors .failFirstN).exceeds 0 = .ok true := rfl
  cases targetedHere.symm.trans target
  cases countedHere.symm.trans count
  exact ⟨returned, _, agree⟩

end ProviderSimulator.Simulator
