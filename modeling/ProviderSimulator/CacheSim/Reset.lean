/-
**What a reset leaves of a cache-sim.**

`reset` names six of the fields that `stage` and the calls write. Three others survive it: the status and
the message of an injected error, and the malformed body. A survivor is seen only when a later `stage`
picks the mode that reads it and gives no value of its own.

* `reset_eq_new` — where the three survivors are those of a new cache-sim, so is the whole state;
* `reset_is_new` — a reset cache-sim cannot be told from a new one, by any operations after the reset,
  exactly when they are;
* `reset_keeps_the_status` — a status that is staged, reset and seen again.
-/

import Mathlib.Tactic.Common
import ProviderSimulator.CacheSim.Model

namespace ProviderSimulator.CacheSim

open ProviderSimulator.Lib ProviderSimulator.Python ProviderSimulator.Domain

/-- The fields that `reset` leaves as they are have the values of a new cache-sim. -/
structure Unstaged (sim : Sim) : Prop where
  errorStatus : sim.errorStatus = .str "UNAVAILABLE"
  errorMessage : sim.errorMessage = .str "cache-sim: injected error"
  malformedBody : sim.malformedBody = .bytes notJson

/-- What the environment does with an empty request and with no latency. -/
structure Environment.Plain (env : Environment) : Prop where
  /-- `json.loads` reads the empty object. -/
  loads : env.host.loads braces = .ok (.dict [])
  /-- `0 / 1000.0` is a float. -/
  seconds : ∃ sleep, env.seconds 0 = some sleep

section

variable {env : Environment} {sim : Sim}

/-! ### The name -/

theorem write_name {args : StageArgs} {entry : Option CacheEntry} {malformed : Raw} :
    (sim.write env args entry malformed).1.name = sim.name := by
  unfold Sim.write
  split
  · rfl
  · dsimp only
    split
    · rfl
    · split <;> rfl

theorem plan_name {body : Bytes} : (sim.plan env body).1.name = sim.name := by
  unfold Sim.plan
  split
  · rfl
  · split
    · rfl
    · dsimp only
      split <;> rfl

/-- No operation changes the name. -/
theorem react_name (op : Op) : (sim.react env op).1.name = sim.name := by
  cases op with
  | stage args =>
      show (sim.stage env args).1.name = sim.name
      unfold Sim.stage
      split
      · rfl
      · split
        · rfl
        · exact write_name
  | plan body => exact plan_name
  | recordOtherMethod method => rfl
  | clearCalls => rfl
  | reset => rfl

theorem after_name (env : Environment) (name : String) (ops : List Op) :
    (after (Sim.react env) (Sim.new name) ops).name = name :=
  after_invariant (fun sim : Sim => sim.name = name) (fun _ op same => (react_name op).trans same) rfl ops

/-! ### The state after a reset -/

/-- **Where the survivors are those of a new cache-sim, so is the whole state.** -/
theorem reset_eq_new (unstaged : Unstaged sim) : sim.reset = Sim.new sim.name := by
  unfold Sim.reset Sim.new
  rw [unstaged.errorStatus, unstaged.errorMessage, unstaged.malformedBody]

/-! ### The survivors are seen -/

/-- Staging a mode and nothing else. -/
theorem stage_mode {mode : String} (known : modes.contains mode = true) (noHit : mode ≠ "hit") :
    sim.stage env { mode := mode } = ({ sim with mode := mode, latencyMs := 0 }, .ok ()) := by
  have passed : checkStage env { mode := mode } = .ok none := by
    unfold checkStage
    dsimp only
    rw [known, decide_eq_false noHit]
    rfl
  unfold Sim.stage
  rw [passed]
  rfl

/-- The answer to an empty request. -/
theorem plan_empty (plain : env.Plain) : (sim.plan env []).2 = sim.answer env := by
  have decoded : decodeRequest env [] = .ok [] := by
    unfold decodeRequest
    rw [show (if ([] : Bytes).isEmpty then braces else []) = braces from rfl, plain.loads]
  unfold Sim.plan
  rw [decoded]
  rfl

theorem answer_error {sleep : PyFloat} (seconds : env.seconds 0 = some sleep) :
    Sim.answer env { sim with mode := "error", latencyMs := 0 } =
      .ok (.abort sim.errorStatus sim.errorMessage sleep) := by
  unfold Sim.answer
  rw [seconds]
  rfl

theorem answer_malformed {sleep : PyFloat} (seconds : env.seconds 0 = some sleep) :
    Sim.answer env { sim with mode := "malformed", latencyMs := 0 } =
      .ok (.raw sim.malformedBody sleep) := by
  unfold Sim.answer
  rw [seconds]
  rfl

/-- The operations that show what a mode was staged with before. -/
def probe (mode : String) : List Op := [.stage { mode := mode }, .plan []]

/-- What they show. -/
theorem outputs_probe {mode : String} (plain : env.Plain) (known : modes.contains mode = true)
    (noHit : mode ≠ "hit") {plan : CachePlan}
    (answers : Sim.answer env { sim with mode := mode, latencyMs := 0 } = .ok plan) :
    ((outputs (Sim.react env) sim (probe mode)).map Seen.outcome).getLast? = some (.planned plan) := by
  have staged : (sim.react env (.stage { mode := mode })).1 =
      { sim with mode := mode, latencyMs := 0 } :=
    congrArg Prod.fst (stage_mode known noHit)
  have planned : (Sim.react env { sim with mode := mode, latencyMs := 0 } (.plan [])).2.outcome =
      .planned plan :=
    congrArg Outcome.ofPlan ((plan_empty plain).trans answers)
  unfold probe outputs outputs outputs
  rw [staged, List.map_cons, List.map_cons, planned]
  rfl

/-- Two cache-sims that give the same outputs answer each mode alike. -/
theorem answer_eq_of_outputs {other : Sim} {mode : String} {one two : CachePlan} (plain : env.Plain)
    (known : modes.contains mode = true) (noHit : mode ≠ "hit")
    (same : outputs (Sim.react env) sim (probe mode) = outputs (Sim.react env) other (probe mode))
    (first : Sim.answer env { sim with mode := mode, latencyMs := 0 } = .ok one)
    (second : Sim.answer env { other with mode := mode, latencyMs := 0 } = .ok two) : one = two := by
  have seen := outputs_probe plain known noHit first
  rw [same, outputs_probe plain known noHit second] at seen
  cases seen
  rfl

/-- **A reset cache-sim is a new cache-sim**, for every continuation, exactly when the error status, the
error message and the malformed body are those of a new one. -/
theorem reset_is_new (env : Environment) (plain : env.Plain) (name : String) (before : List Op) :
    (∀ later, outputs (Sim.react env) (after (Sim.react env) (Sim.new name) before).reset later =
      outputs (Sim.react env) (Sim.new name) later) ↔
      Unstaged (after (Sim.react env) (Sim.new name) before) := by
  constructor
  · intro same
    obtain ⟨sleep, seconds⟩ := plain.seconds
    generalize after (Sim.react env) (Sim.new name) before = sim at same ⊢
    have errors := answer_eq_of_outputs plain (by decide) (by decide) (same (probe "error"))
      (answer_error seconds) (answer_error seconds)
    have bodies := answer_eq_of_outputs plain (by decide) (by decide) (same (probe "malformed"))
      (answer_malformed seconds) (answer_malformed seconds)
    rw [CachePlan.abort.injEq] at errors
    rw [CachePlan.raw.injEq] at bodies
    exact ⟨errors.1, errors.2.1, bodies.1⟩
  · intro unstaged later
    rw [reset_eq_new unstaged, after_name]

end

/-! ### A status that survives -/

/-- The language, as far as the operations below use it: the empty object is the one text that is read. -/
def emptyHost : Host where
  str _ := ""
  addFloat first _ := first
  toFloat number := some (.finite number)
  digit _ := none
  space _ := false
  loads body := if body = braces then .ok (.dict []) else .error (.badJson "" 1 1)
  loadsText _ := .error (.badJson "" 1 1)
  jsonErrorText _ := ""
  decode _ := .ok ""
  encode text := text.toUTF8.toList
  decodeBase64 _ := none
  blake2b _ := []
  frames := 900

/-- An environment with `grpcio`. -/
def emptyEnv : Environment where
  host := emptyHost
  dumps _ := ""
  encode text := some text.toUTF8.toList
  encodeBase64 _ := ""
  seconds latency := some (.finite (latency / 1000))
  statusNames := ["OK", "CANCELLED", "UNKNOWN", "INVALID_ARGUMENT", "DEADLINE_EXCEEDED", "NOT_FOUND",
    "ALREADY_EXISTS", "PERMISSION_DENIED", "UNAUTHENTICATED", "RESOURCE_EXHAUSTED",
    "FAILED_PRECONDITION", "ABORTED", "UNIMPLEMENTED", "INTERNAL", "UNAVAILABLE", "DATA_LOSS",
    "OUT_OF_RANGE"]
  historyMax := 2000

theorem emptyEnv_plain : emptyEnv.Plain := ⟨if_pos rfl, _, rfl⟩

/-- A lookup of a miss leaves nothing that a reset keeps. -/
theorem reset_is_new_after_a_miss :
    outputs (Sim.react emptyEnv)
      (after (Sim.react emptyEnv) (Sim.new "secondary") [.stage { mode := "miss", seenBlock := .int 5 },
        .plan []]).reset (probe "error") =
      outputs (Sim.react emptyEnv) (Sim.new "secondary") (probe "error") :=
  (reset_is_new emptyEnv emptyEnv_plain "secondary" [.stage { mode := "miss", seenBlock := .int 5 },
    .plan []]).mpr (by constructor <;> decide +kernel) (probe "error")

/-- The state after an error with its own status was staged. -/
def internalError : Sim :=
  after (Sim.react emptyEnv) (Sim.new "secondary")
    [.stage { mode := "error", errorStatus := .str "INTERNAL" }]

/-- **A reset keeps the status of a staged error**: an error that is staged with no status of its own then
aborts with the earlier one. -/
theorem reset_keeps_the_status :
    outputs (Sim.react emptyEnv) internalError.reset (probe "error") ≠
      outputs (Sim.react emptyEnv) (Sim.new "secondary") (probe "error") := by
  intro same
  have plans := answer_eq_of_outputs emptyEnv_plain (by decide) (by decide) same (answer_error rfl)
    (answer_error rfl)
  rw [CachePlan.abort.injEq] at plans
  exact absurd plans.1 (by decide +kernel)

end ProviderSimulator.CacheSim
